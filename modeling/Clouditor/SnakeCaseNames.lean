import Clouditor.NeighbourScans
import Clouditor.SeparatedTexts
import Mathlib

/-! The conversion of metric ids into the names of Rego packages. -/
namespace Clouditor
set_option autoImplicit false
open Neighbours

/-- What `unicode.IsUpper`, `IsLower` and `IsDigit` tell apart. -/
inductive RuneKind
  | upper
  | lower
  | digit
  | other
  deriving DecidableEq, Repr

/-- The character tables of the package `unicode`. There are upper-case letters without a
lower-case form, and characters that are not upper case and have one. -/
structure RuneTable where
  kind : Char → RuneKind
  toLower : Char → Char
  toLower_toLower : ∀ c, toLower (toLower c) = toLower c
  toLower_of_lower : ∀ c, kind c = .lower → toLower c = c
  toLower_of_digit : ∀ c, kind c = .digit → toLower c = c
  kind_of_changed : ∀ c, toLower c ≠ c →
    kind (toLower c) = .lower ∨ kind (toLower c) = .other
  kind_underscore : kind '_' = .other
  toLower_underscore : toLower '_' = '_'

section Conversion
variable (unicode : RuneTable)

def RuneTable.isUpper (c : Char) : Bool := unicode.kind c = .upper

def RuneTable.isLower (c : Char) : Bool := unicode.kind c = .lower

def RuneTable.isDigit (c : Char) : Bool := unicode.kind c = .digit

/-- The rune at an index passes a test. -/
def testAt (input : List Char) (i : ℕ) (test : Char → Bool) : Bool := input[i]?.any test

def marksNewWord (i : ℕ) (input : List Char) : Bool :=
  if i ≥ input.length then false
  else if i < input.length - 1 && testAt input i unicode.isUpper &&
      testAt input (i + 1) unicode.isLower then true
  else if i > 0 && testAt input (i - 1) unicode.isLower && testAt input i unicode.isUpper then true
  else if i < input.length - 1 && testAt input i unicode.isDigit &&
      testAt input (i + 1) unicode.isLower then true
  else if i > 0 && testAt input (i - 1) unicode.isUpper && testAt input i unicode.isDigit then true
  else false

def camelCaseToSnakeCase (input : String) : String :=
  if input = "" then ""
  else
    let runeArray := input.toList
    let snakeCase := runeArray.zipIdx.foldl (fun snakeCase r =>
      if r.2 > 0 && marksNewWord unicode r.2 runeArray then
        snakeCase ++ ['_', unicode.toLower r.1]
      else snakeCase ++ [unicode.toLower r.1]) []
    String.ofList snakeCase

/-- The four rules for a rune behind the first one. -/
def newWord (p c : Char) (next : Option Char) : Bool :=
  (unicode.isUpper c && next.any unicode.isLower) || (unicode.isLower p && unicode.isUpper c) ||
    (unicode.isDigit c && next.any unicode.isLower) || (unicode.isUpper p && unicode.isDigit c)

def snakeScan : Scan Char := ⟨newWord unicode, unicode.toLower, '_'⟩

theorem marksNewWord_eq (before after : List Char) (p c : Char) :
    marksNewWord unicode (before.length + 1) (before ++ p :: c :: after) =
      newWord unicode p c after.head? := by
  have hprev (test : Char → Bool) :
      testAt (before ++ p :: c :: after) (before.length + 1 - 1) test = test p := by
    simp [testAt]
  have hthis (test : Char → Bool) :
      testAt (before ++ p :: c :: after) (before.length + 1) test = test c := by
    simp [testAt]
  have hnext (test : Char → Bool) :
      testAt (before ++ p :: c :: after) (before.length + 1 + 1) test = after.head?.any test := by
    simp [testAt, List.getElem?_append_right, List.head?_eq_getElem?, Nat.add_assoc]
  have hlength : (before ++ p :: c :: after).length = before.length + 2 + after.length := by
    simp only [List.length_append, List.length_cons]
    omega
  -- without a rune behind it, the bound and the look at the next rune fail together
  have hbound (x : Bool) (test : Char → Bool) :
      (decide (before.length + 1 < (before ++ p :: c :: after).length - 1) && x &&
        after.head?.any test) = (x && after.head?.any test) := by
    cases after with
    | nil => simp
    | cons d after =>
      rw [List.length_cons] at hlength
      rw [decide_eq_true (by omega), Bool.true_and]
  have hinner : decide (before.length + 1 > 0) = true := decide_eq_true (Nat.succ_pos _)
  unfold marksNewWord newWord
  rw [if_neg (by omega)]
  simp only [hprev, hthis, hnext, hbound, hinner, Bool.true_and]
  generalize (unicode.isUpper c && after.head?.any unicode.isLower) = first
  generalize (unicode.isLower p && unicode.isUpper c) = second
  generalize (unicode.isDigit c && after.head?.any unicode.isLower) = third
  generalize (unicode.isUpper p && unicode.isDigit c) = fourth
  cases first <;> cases second <;> cases third <;> cases fourth <;> rfl

theorem camelCaseToSnakeCase_eq (input : String) :
    camelCaseToSnakeCase unicode input = String.ofList ((snakeScan unicode).run input.toList) := by
  by_cases hempty : input = ""
  · rw [hempty]
    rfl
  · have hloop := (snakeScan unicode).foldl_zipIdx_eq_run
      (fun i => marksNewWord unicode i input.toList) input.toList
    rw [camelCaseToSnakeCase, if_neg hempty]
    apply congrArg String.ofList
    apply hloop
    intro before p c after hl
    rw [hl]
    exact marksNewWord_eq unicode before after p c

end Conversion

section Kinds
variable {unicode : RuneTable} {c : Char}

theorem not_upper_of_digit (h : unicode.isDigit c = true) : unicode.isUpper c = false := by
  simp_all [RuneTable.isDigit, RuneTable.isUpper]

theorem not_lower_of_digit (h : unicode.isDigit c = true) : unicode.isLower c = false := by
  simp_all [RuneTable.isDigit, RuneTable.isLower]

theorem not_lower_of_upper (h : unicode.isUpper c = true) : unicode.isLower c = false := by
  simp_all [RuneTable.isUpper, RuneTable.isLower]

@[simp] theorem isDigit_toLower : unicode.isDigit (unicode.toLower c) = unicode.isDigit c := by
  by_cases hsame : unicode.toLower c = c
  · rw [hsame]
  · have hdigit : unicode.kind c ≠ .digit := fun h => hsame (unicode.toLower_of_digit c h)
    obtain h | h := unicode.kind_of_changed c hsame <;> simp [RuneTable.isDigit, h, hdigit]

/-- What is upper case afterwards has not been changed. -/
theorem isUpper_of_toLower (h : unicode.isUpper (unicode.toLower c) = true) :
    unicode.isUpper c = true := by
  by_cases hsame : unicode.toLower c = c
  · rwa [hsame] at h
  · obtain hkind | hkind := unicode.kind_of_changed c hsame <;>
      simp [RuneTable.isUpper, hkind] at h

theorem isLower_toLower (h : unicode.isLower c = true) :
    unicode.isLower (unicode.toLower c) = true := by
  have hkind : unicode.kind c = .lower := of_decide_eq_true h
  rwa [unicode.toLower_of_lower c hkind]

@[simp] theorem isUpper_underscore : unicode.isUpper '_' = false := by
  simp [RuneTable.isUpper, unicode.kind_underscore]

@[simp] theorem isLower_underscore : unicode.isLower '_' = false := by
  simp [RuneTable.isLower, unicode.kind_underscore]

@[simp] theorem isDigit_underscore : unicode.isDigit '_' = false := by
  simp [RuneTable.isDigit, unicode.kind_underscore]

end Kinds

section SecondPass
variable {unicode : RuneTable} {p c : Char} {after : List Char}

theorem newWord_eq_false_iff {next : Option Char} :
    newWord unicode p c next = false ↔
      ((unicode.isUpper c = true ∨ unicode.isDigit c = true) → next.any unicode.isLower = false) ∧
        (unicode.isUpper c = true → unicode.isLower p = false) ∧
        (unicode.isDigit c = true → unicode.isUpper p = false) := by
  unfold newWord
  cases unicode.isUpper c <;> cases unicode.isDigit c <;> cases next.any unicode.isLower <;>
    cases unicode.isLower p <;> cases unicode.isUpper p <;> decide

variable (unicode p c after) in
/-- When a rune behind the first one is left alone by the second pass. A digit, and an upper-case
letter without a lower-case form, must not stand before what turns into a lower-case letter
without a separator. And such an upper-case letter must not come after a rune that only turns
into a lower-case letter. -/
structure NoNewWord : Prop where
  next : unicode.isUpper (unicode.toLower c) = true ∨ unicode.isDigit c = true →
    ∀ d rest, after = d :: rest → unicode.isLower (unicode.toLower d) = true →
      unicode.isUpper d = true ∧ rest.head?.any unicode.isLower = true
  prev : unicode.isUpper (unicode.toLower c) = true →
    unicode.isLower (unicode.toLower p) = true → unicode.isLower p = true

/-- Behind a digit or an upper-case letter, a rune that turns into a lower-case letter is set
apart only as the beginning of a capitalised word. -/
theorem newWord_of_turned {d : Char} {next : Option Char}
    (hc : unicode.isUpper c = true ∨ unicode.isDigit c = true)
    (hd : unicode.isLower (unicode.toLower d) = true) :
    newWord unicode c d next = (unicode.isUpper d && next.any unicode.isLower) := by
  have hcLower : unicode.isLower c = false := hc.elim not_lower_of_upper not_lower_of_digit
  have hdDigit : unicode.isDigit d = false := by
    by_contra hdigit
    rw [Bool.not_eq_false, ← isDigit_toLower] at hdigit
    rw [not_lower_of_digit hdigit] at hd
    cases hd
  simp [newWord, hcLower, hdDigit]

theorem seenNext_not_lower_iff (hc : unicode.isUpper c = true ∨ unicode.isDigit c = true) :
    ((snakeScan unicode).seenNext c after).any unicode.isLower = false ↔
      ∀ d rest, after = d :: rest → unicode.isLower (unicode.toLower d) = true →
        unicode.isUpper d = true ∧ rest.head?.any unicode.isLower = true := by
  cases after with
  | nil => simp [Scan.seenNext]
  | cons d rest =>
    have hsplit : (∀ d' rest', d :: rest = d' :: rest' →
        unicode.isLower (unicode.toLower d') = true →
          unicode.isUpper d' = true ∧ rest'.head?.any unicode.isLower = true) ↔
        (unicode.isLower (unicode.toLower d) = true →
          unicode.isUpper d = true ∧ rest.head?.any unicode.isLower = true) := by
      constructor
      · exact fun h => h d rest rfl
      · intro h d' rest' heq
        cases heq
        exact h
    rw [hsplit, Scan.seenNext, Option.any_some]
    show unicode.isLower (if newWord unicode c d rest.head? then '_' else unicode.toLower d) =
      false ↔ _
    by_cases hd : unicode.isLower (unicode.toLower d) = true
    · rw [newWord_of_turned hc hd, ← Bool.and_eq_true]
      cases unicode.isUpper d && rest.head?.any unicode.isLower <;> simp [hd]
    · rw [Bool.not_eq_true] at hd
      split <;> simp [hd]

/-- What the second pass sees before a digit is not upper case: such a digit has been set apart. -/
theorem seen_not_upper {next : Option Char} (hc : unicode.isDigit c = true) :
    unicode.isUpper ((snakeScan unicode).seen (newWord unicode p c next) p) = false := by
  show unicode.isUpper (if newWord unicode p c next then '_' else unicode.toLower p) = false
  cases hmark : newWord unicode p c next with
  | true => simp
  | false =>
    have hp := (newWord_eq_false_iff.mp hmark).2.2 hc
    by_contra hupper
    rw [if_neg Bool.false_ne_true, Bool.not_eq_false] at hupper
    rw [isUpper_of_toLower hupper] at hp
    cases hp

/-- What it sees before an upper-case letter that no lower-case letter follows. -/
theorem seen_not_lower_iff {next : Option Char} (hc : unicode.isUpper c = true)
    (hnext : next.any unicode.isLower = false) :
    unicode.isLower ((snakeScan unicode).seen (newWord unicode p c next) p) = false ↔
      (unicode.isLower (unicode.toLower p) = true → unicode.isLower p = true) := by
  have hmark : newWord unicode p c next = unicode.isLower p := by
    have hdigit : unicode.isDigit c = false := by
      by_contra hdigit
      rw [not_upper_of_digit (Bool.of_not_eq_false hdigit)] at hc
      cases hc
    simp [newWord, hc, hnext, hdigit]
  show unicode.isLower (if newWord unicode p c next then '_' else unicode.toLower p) = false ↔ _
  rw [hmark]
  cases unicode.isLower p <;> simp

theorem head_not_lower
    (h : ∀ d rest, after = d :: rest → unicode.isLower (unicode.toLower d) = true →
      unicode.isUpper d = true ∧ rest.head?.any unicode.isLower = true) :
    after.head?.any unicode.isLower = false := by
  cases after with
  | nil => rfl
  | cons d rest =>
    by_contra hlower
    have hd : unicode.isLower d = true := Bool.of_not_eq_false hlower
    have hupper := (h d rest rfl (isLower_toLower hd)).1
    rw [not_lower_of_upper hupper] at hd
    cases hd

theorem settled_iff_noNewWord :
    (snakeScan unicode).Settled p c after ↔ NoNewWord unicode p c after := by
  have hforms : unicode.isUpper (unicode.toLower c) = true ∨ unicode.isDigit c = true →
      unicode.isUpper c = true ∨ unicode.isDigit c = true := Or.imp_left isUpper_of_toLower
  show newWord unicode _ (unicode.toLower c) _ = false ↔ _
  rw [newWord_eq_false_iff, isDigit_toLower]
  constructor
  · intro ⟨hnext, hprev, _⟩
    have hfollowing (hc : unicode.isUpper (unicode.toLower c) = true ∨ unicode.isDigit c = true) :=
      (seenNext_not_lower_iff (hforms hc)).mp (hnext hc)
    refine ⟨hfollowing, fun hc => ?_⟩
    have hhead := head_not_lower (hfollowing (.inl hc))
    exact (seen_not_lower_iff (isUpper_of_toLower hc) hhead).mp (hprev hc)
  · intro h
    refine ⟨fun hc => ?_, fun hc => ?_, seen_not_upper⟩
    · exact (seenNext_not_lower_iff (hforms hc)).mpr (h.next hc)
    · have hhead := head_not_lower (h.next (.inl hc))
      exact (seen_not_lower_iff (isUpper_of_toLower hc) hhead).mpr (h.prev hc)

end SecondPass

section Stability

/-- A name in snake case: words of lower-case letters and digits, with single underscores between
them. -/
structure SnakeCase (unicode : RuneTable) where
  words : List String
  words_nonempty : ∀ word ∈ words, word ≠ ""
  plain : ∀ word ∈ words, ∀ c ∈ word.toList, unicode.isLower c = true ∨ unicode.isDigit c = true

variable {unicode : RuneTable}

def SnakeCase.text (name : SnakeCase unicode) : String := "_".intercalate name.words

theorem SnakeCase.rune_cases (name : SnakeCase unicode) {c : Char} (hc : c ∈ name.text.toList) :
    c = '_' ∨ unicode.isLower c = true ∨ unicode.isDigit c = true := by
  rw [SnakeCase.text, String.toList_intercalate] at hc
  obtain hsep | ⟨word, hword, hmem⟩ := Separated.mem_intercalate hc
  · exact .inl hsep
  · obtain ⟨word, hwords, rfl⟩ := List.mem_map.mp hword
    exact .inr (name.plain word hwords c hmem)

theorem SnakeCase.toLower_eq (name : SnakeCase unicode) :
    ∀ c ∈ name.text.toList, unicode.toLower c = c := by
  intro c hc
  obtain rfl | hlower | hdigit := name.rune_cases hc
  · exact unicode.toLower_underscore
  · exact unicode.toLower_of_lower c (of_decide_eq_true hlower)
  · exact unicode.toLower_of_digit c (of_decide_eq_true hdigit)

theorem SnakeCase.not_upper (name : SnakeCase unicode) {c : Char} (hc : c ∈ name.text.toList) :
    unicode.isUpper c = false := by
  obtain rfl | hlower | hdigit := name.rune_cases hc
  · exact isUpper_underscore
  · by_contra hupper
    rw [not_lower_of_upper (Bool.of_not_eq_false hupper)] at hlower
    cases hlower
  · exact not_upper_of_digit hdigit

/-- In a name in snake case, the only rule left is that for digits before a letter. -/
theorem SnakeCase.newWord_eq (name : SnakeCase unicode) {before after : List Char} {p c : Char}
    (h : name.text.toList = before ++ p :: c :: after) :
    newWord unicode p c after.head? =
      (unicode.isDigit c && after.head?.any unicode.isLower) := by
  have hp := name.not_upper (show p ∈ name.text.toList by simp [h])
  have hc := name.not_upper (show c ∈ name.text.toList by simp [h])
  simp [newWord, hp, hc]

/-- A second pass changes nothing exactly if it finds no new word at any rune behind the first.
A name in snake case is returned as it is exactly if none of its digits behind the first rune
stands directly before a lower-case letter. -/
theorem camelCaseToSnakeCase_stable_iff (unicode : RuneTable) :
    (∀ input, camelCaseToSnakeCase unicode (camelCaseToSnakeCase unicode input) =
        camelCaseToSnakeCase unicode input ↔
      ∀ before p c after, input.toList = before ++ p :: c :: after →
        NoNewWord unicode p c after) ∧
    ∀ name : SnakeCase unicode, camelCaseToSnakeCase unicode name.text = name.text ↔
      ∀ before p c after, name.text.toList = before ++ p :: c :: after →
        unicode.isDigit c = true → after.head?.any unicode.isLower = false := by
  constructor
  · intro input
    have hsep (p : Char) (next : Option Char) : newWord unicode p '_' next = false := by
      simp [newWord]
    rw [← all_iff_forall_split, ← all_congr (fun p c after => settled_iff_noNewWord),
      ← Scan.run_run_eq_iff (snakeScan unicode) hsep unicode.toLower_toLower
        unicode.toLower_underscore]
    simp only [camelCaseToSnakeCase_eq, String.toList_ofList, String.ofList_inj]
  · intro name
    have hkept : ∀ c ∈ name.text.toList, (snakeScan unicode).image c = c := name.toLower_eq
    rw [camelCaseToSnakeCase_eq, ← String.toList_inj, String.toList_ofList, Scan.run_eq_self_iff,
      and_iff_right hkept, Scan.Unmarked, all_iff_forall_split]
    apply forall₄_congr
    intro before p c after
    apply forall_congr'
    intro h
    show newWord unicode p c after.head? = false ↔ _
    rw [name.newWord_eq h, Bool.and_eq_false_imp]

/-- The tables for ASCII. -/
def asciiKind (c : Char) : RuneKind :=
  if c.isUpper then .upper else if c.isLower then .lower else if c.isDigit then .digit else .other

theorem ascii_toLower_cases (c : Char) :
    (asciiKind c = .upper ∧ asciiKind c.toLower = .lower) ∨
      (asciiKind c ≠ .upper ∧ c.toLower = c) := by
  by_cases hupper : c.isUpper = true
  · have hlower : c.toLower.isLower = true := by simp [Char.isAlpha, hupper]
    exact .inl ⟨by simp [asciiKind, hupper], by simp [asciiKind, hlower]⟩
  · refine .inr ⟨?_, Char.toLower_eq_of_not_isUpper hupper⟩
    unfold asciiKind
    rw [if_neg hupper]
    split
    · simp
    · split <;> simp

def asciiRunes : RuneTable where
  kind := asciiKind
  toLower := Char.toLower
  toLower_toLower := Char.toLower_toLower_eq_toLower
  toLower_of_lower c hc := by
    obtain ⟨h, _⟩ | ⟨_, h⟩ := ascii_toLower_cases c
    · rw [h] at hc
      cases hc
    · exact h
  toLower_of_digit c hc := by
    obtain ⟨h, _⟩ | ⟨_, h⟩ := ascii_toLower_cases c
    · rw [h] at hc
      cases hc
    · exact h
  kind_of_changed c hc := by
    obtain ⟨_, h⟩ | ⟨_, h⟩ := ascii_toLower_cases c
    · exact .inl h
    · exact absurd h hc
  kind_underscore := by decide
  toLower_underscore := by decide

theorem digitName_plain : ∀ word ∈ ["t3est"], ∀ c ∈ word.toList,
    asciiRunes.isLower c = true ∨ asciiRunes.isDigit c = true := by
  have hall : ("t3est".toList.all
      (fun c => asciiRunes.isLower c || asciiRunes.isDigit c)) = true := by decide
  intro word hword c hc
  rw [List.mem_singleton.mp hword] at hc
  exact Bool.or_eq_true_iff.mp (List.all_eq_true.mp hall c hc)

/-- A name in snake case with a digit before a letter. -/
def digitName : SnakeCase asciiRunes := ⟨["t3est"], by simp, digitName_plain⟩

/-- Every pass sets the digit apart once more, although the name is in snake case. -/
theorem digit_set_apart_again :
    digitName.text = "t3est" ∧ camelCaseToSnakeCase asciiRunes "t3est" = "t_3est" ∧
      camelCaseToSnakeCase asciiRunes "t_3est" = "t__3est" := by
  decide

end Stability
end Clouditor
