import Clouditor.MetricPolicies

/-! The metric about the versions of runtimes: minimum versions that are written as numbers or as
texts, against the version of a function, which is a text. -/
namespace Clouditor
set_option autoImplicit false

open Rego

section Versions

/-- A component of a version, in decimal digits. -/
structure Component where
  first : Fin 10
  rest : List (Fin 10)

/-- A version in dotted decimal form. -/
structure Version where
  first : Component
  rest : List Component

def digitsValue (digits : List (Fin 10)) : ℕ :=
  digits.foldl (fun (n : ℕ) (d : Fin 10) => 10 * n + d.val) 0

def digitChars (digits : List (Fin 10)) : List Char :=
  digits.map (fun d : Fin 10 => Nat.digitChar d.val)

/-- The digits of a component. -/
def Component.word (c : Component) : List (Fin 10) := c.first :: c.rest

def Component.value (c : Component) : ℕ := digitsValue c.word

def Component.chars (c : Component) : List Char := digitChars c.word

def Version.components (v : Version) : List ℕ := (v.first :: v.rest).map Component.value

def Version.text (v : Version) : String :=
  String.ofList (v.first.chars ++ v.rest.flatMap (fun c => '.' :: c.chars))

/-- The first version is not newer. Components that are missing count as zero. -/
def notNewer : List ℕ → List ℕ → Bool
  | [], _ => true
  | a :: as, [] => a = 0 && notNewer as []
  | a :: as, b :: bs => a < b || (a = b && notNewer as bs)

def Version.words (v : Version) : List (List (Fin 10)) := (v.first :: v.rest).map Component.word

/-- Words of digits in the order of a dictionary. -/
def wordLt : List (Fin 10) → List (Fin 10) → Bool
  | _, [] => false
  | [], _ :: _ => true
  | d :: a, e :: b => d < e || (d = e && wordLt a b)

/-- The first version comes earlier if its components are words. -/
def wordsLt : List (List (Fin 10)) → List (List (Fin 10)) → Bool
  | _, [] => false
  | [], _ :: _ => true
  | a :: as, b :: bs => wordLt a b || (a = b && wordsLt as bs)

/-- A minimum version as it is written in a configuration. -/
inductive Minimum where
  | number (whole : ℕ) (fraction : List (Fin 10))
  | text (v : Version)

def Minimum.components : Minimum → List ℕ
  | .number whole [] => [whole]
  | .number whole fraction => [whole, digitsValue fraction]
  | .text v => v.components

def Minimum.json : Minimum → Json
  | .number whole fraction => .number (whole + digitsValue fraction / 10 ^ fraction.length)
  | .text v => .string v.text

/-- An entry of the target value. -/
structure RuntimeTarget where
  runtimeLanguage : String
  runtimeVersion : Minimum

def RuntimeTarget.json (t : RuntimeTarget) : Json :=
  .object [("runtimeLanguage", .string t.runtimeLanguage),
    ("runtimeVersion", t.runtimeVersion.json)]

end Versions

section Texts

/-- What follows a component: nothing, or a dot. -/
def AfterComponent (x : List Char) : Prop := x = [] ∨ ∃ x', x = '.' :: x'

theorem afterComponent (cs : List Component) :
    AfterComponent (cs.flatMap (fun c => '.' :: c.chars)) := by
  cases cs with
  | nil => exact .inl rfl
  | cons c cs => exact .inr ⟨_, rfl⟩

/-- A component is compared as a word, since a dot comes before every digit. -/
theorem digitChars_append_lt (a b : List (Fin 10)) (x y : List Char) (hx : AfterComponent x)
    (hy : AfterComponent y) :
    digitChars a ++ x < digitChars b ++ y ↔ wordLt a b = true ∨ (a = b ∧ x < y) := by
  have hlt : ∀ d e : Fin 10, Nat.digitChar d < Nat.digitChar e ↔ d < e := by decide
  have heq : ∀ d e : Fin 10, Nat.digitChar d = Nat.digitChar e ↔ d = e := by decide
  have hdot : ∀ d : Fin 10, '.' < Nat.digitChar d := by decide
  induction a generalizing b with
  | nil =>
    cases b with
    | nil => simp [digitChars, wordLt]
    | cons e b =>
      -- the shorter word ends, and what follows it comes before a digit
      have hbefore : x < digitChars (e :: b) ++ y := by
        rcases hx with rfl | ⟨x',rfl⟩
        · exact List.nil_lt_cons _ _
        · exact List.cons_lt_cons_iff.mpr (.inl (hdot e))
      exact iff_of_true hbefore (.inl rfl)
  | cons d a ih =>
    cases b with
    | nil =>
      have hafter : ¬ digitChars (d :: a) ++ x < y := by
        rcases hy with rfl | ⟨y',rfl⟩
        · exact List.not_lt_nil _
        · intro h
          rcases List.cons_lt_cons_iff.mp h with h | ⟨h,_⟩
          · exact lt_asymm h (hdot d)
          · exact (hdot d).ne' h
      exact iff_of_false hafter (by simp [wordLt])
    | cons e b =>
      change Nat.digitChar d :: (digitChars a ++ x) < Nat.digitChar e :: (digitChars b ++ y) ↔ _
      rw [List.cons_lt_cons_iff, hlt, heq]
      simp only [ih, wordLt, Bool.or_eq_true, Bool.and_eq_true, decide_eq_true_eq, List.cons.injEq]
      tauto

theorem dotted_lt (as bs : List Component) :
    as.flatMap (fun c => '.' :: c.chars) < bs.flatMap (fun c => '.' :: c.chars) ↔
      wordsLt (as.map Component.word) (bs.map Component.word) = true := by
  induction as generalizing bs with
  | nil =>
    cases bs with
    | nil => simp [wordsLt]
    | cons b bs => exact iff_of_true (List.nil_lt_cons _ _) rfl
  | cons a as ih =>
    cases bs with
    | nil => exact iff_of_false (List.not_lt_nil _) (by simp [wordsLt])
    | cons b bs =>
      rw [List.flatMap_cons, List.flatMap_cons, List.cons_append, List.cons_append,
        List.cons_lt_cons_iff, Component.chars, Component.chars,
        digitChars_append_lt _ _ _ _ (afterComponent as) (afterComponent bs), ih]
      simp [wordsLt]

/-- The texts of versions are ordered by their components as words. -/
theorem text_lt_iff (v w : Version) : v.text < w.text ↔ wordsLt v.words w.words = true := by
  rw [String.lt_iff_toList_lt, Version.text, Version.text, String.toList_ofList,
    String.toList_ofList, Component.chars, Component.chars,
    digitChars_append_lt _ _ _ _ (afterComponent v.rest) (afterComponent w.rest), dotted_lt]
  simp [Version.words, wordsLt]

end Texts

section Policy

structure FunctionResource where
  runtimeLanguage : String
  runtimeVersion : String
  others : List (String × Json)

def FunctionResource.input (f : FunctionResource) : Json :=
  resourceMap (("runtimeLanguage", .string f.runtimeLanguage) ::
    ("runtimeVersion", .string f.runtimeVersion) :: f.others)
    ["Function", "Compute", "CloudResource", "Resource"]

def runtimeVersion : Policy where
  applicable env := match env.input.field "type" with
    | none => false
    | some types => types.items.any (fun type => type.eqv (.string "Function"))
  -- both comparisons are about one and the same entry
  compliant env := env.targetValue.items.any (fun target =>
    compareDefined "==" (target.field "runtimeLanguage") (env.input.field "runtimeLanguage") &&
    compareDefined env.operator (target.field "runtimeVersion")
      (env.input.field "runtimeVersion"))

/-- The function passes exactly if there is an entry for its language that is not newer. -/
def ChecksRuntime (targets : List RuntimeTarget) (f : FunctionResource) (v : Version) (now : ℤ) :
    Prop :=
  runtimeVersion.judge ⟨">=", .array (targets.map RuntimeTarget.json),
      { f with runtimeVersion := v.text }.input, now⟩ = some true ↔
    ∃ t ∈ targets, t.runtimeLanguage = f.runtimeLanguage ∧
      notNewer t.runtimeVersion.components v.components = true

/-- A minimum version is not above the text of a version in the order of JSON values: no number
is, and of texts the components are compared as words. -/
def Minimum.ordered (v : Version) : Minimum → Bool
  | .number _ _ => true
  | .text u => !wordsLt v.words u.words

/-- For a minimum that is not newer, there is one that is ordered before the version, and if all
are newer, none is. -/
def OrderedAlike (minimums : List Minimum) (v : Version) : Prop :=
  ((∃ m ∈ minimums, notNewer m.components v.components = true) →
    ∃ m ∈ minimums, m.ordered v = true) ∧
  ((∀ m ∈ minimums, notNewer m.components v.components = false) →
    ∀ m ∈ minimums, m.ordered v = false)

/-- The minimum versions for a language. -/
def minimumsFor (targets : List RuntimeTarget) (language : String) : List Minimum :=
  (targets.filter (fun t => t.runtimeLanguage = language)).map RuntimeTarget.runtimeVersion

theorem exists_minimumsFor (targets : List RuntimeTarget) (language : String)
    (P : Minimum → Prop) : (∃ m ∈ minimumsFor targets language, P m) ↔
      ∃ t ∈ targets, t.runtimeLanguage = language ∧ P t.runtimeVersion := by
  simp [minimumsFor, and_assoc]

theorem compareRule_minimum (m : Minimum) (v : Version) :
    compareRule ">=" m.json (.string v.text) = true ↔ m.ordered v = true := by
  rw [compareRule_ge]
  cases m with
  | number whole fraction => simp [Minimum.json, Minimum.ordered]
  | text u =>
    have hle : u.text ≤ v.text ↔ ¬ v.text < u.text := not_lt.symm
    rw [text_lt_iff, Bool.not_eq_true] at hle
    simp only [Minimum.json, cmp_string, isGE_compare, decide_eq_true_eq, hle, Minimum.ordered,
      Bool.not_eq_true']

/-- The metric looks for an entry of the language that the version is not below. -/
theorem runtimeVersion_judge (targets : List RuntimeTarget) (f : FunctionResource) (now : ℤ) :
    runtimeVersion.judge ⟨">=", .array (targets.map RuntimeTarget.json), f.input, now⟩ =
        some true ↔
      ∃ t ∈ targets, t.runtimeLanguage = f.runtimeLanguage ∧
        compareRule ">=" t.runtimeVersion.json (.string f.runtimeVersion) = true := by
  have hlanguage : f.input.field "runtimeLanguage" = some (.string f.runtimeLanguage) :=
    field_resourceMap _ _ _ (by decide)
  have hversion : f.input.field "runtimeVersion" = some (.string f.runtimeVersion) :=
    field_resourceMap _ _ _ (by decide)
  have happ : runtimeVersion.applicable
      ⟨">=", .array (targets.map RuntimeTarget.json), f.input, now⟩ = true := by
    have hfield : f.input.field "type" =
        some (.array [.string "Function", .string "Compute", .string "CloudResource",
          .string "Resource"]) := rfl
    simp [runtimeVersion, hfield, Json.items, eqv_string]
  have hentry (t : RuntimeTarget) : t.json.field "runtimeLanguage" =
      some (.string t.runtimeLanguage) ∧
      t.json.field "runtimeVersion" = some t.runtimeVersion.json := ⟨rfl, rfl⟩
  rw [Policy.judge, if_pos happ, Option.some.injEq]
  simp only [runtimeVersion, Json.items, List.any_map, List.any_eq_true, Function.comp_apply,
    Bool.and_eq_true, hentry, hlanguage, hversion, compareDefined, compareRule_eq, eqv_string]

/-- Of a version in dotted form, the entries that are ordered before it count. -/
theorem runtimeVersion_ordered (targets : List RuntimeTarget) (f : FunctionResource) (v : Version)
    (now : ℤ) : runtimeVersion.judge ⟨">=", .array (targets.map RuntimeTarget.json),
        { f with runtimeVersion := v.text }.input, now⟩ = some true ↔
      ∃ m ∈ minimumsFor targets f.runtimeLanguage, m.ordered v = true := by
  rw [runtimeVersion_judge, exists_minimumsFor]
  simp only [compareRule_minimum]

/-- The metric compares versions exactly if the order of JSON values does not mislead it. -/
theorem runtime_metric_iff (targets : List RuntimeTarget) (f : FunctionResource) (v : Version)
    (now : ℤ) : ChecksRuntime targets f v now ↔
      OrderedAlike (minimumsFor targets f.runtimeLanguage) v := by
  rw [ChecksRuntime, runtimeVersion_ordered, ← exists_minimumsFor targets f.runtimeLanguage
    (fun m => notNewer m.components v.components = true), OrderedAlike]
  constructor
  · intro h
    refine ⟨h.mpr, fun hnewer m hm => ?_⟩
    by_contra hordered
    obtain ⟨m',hm',hnot⟩ := h.mp ⟨m, hm, Bool.eq_true_of_not_eq_false hordered⟩
    rw [hnewer m' hm'] at hnot
    cases hnot
  · intro ⟨hsome,hnone⟩
    refine ⟨fun ⟨m,hm,hordered⟩ => ?_, hsome⟩
    by_contra hnewer
    push Not at hnewer
    have hfalse := hnone (fun m' hm' => Bool.eq_false_iff.mpr (hnewer m' hm')) m hm
    rw [hordered] at hfalse
    cases hfalse

/-- The targets that come with the metric. -/
def defaultTargets : List RuntimeTarget :=
  [⟨"Java", .number 11 []⟩, ⟨"Python", .number 3 [8]⟩, ⟨"PHP", .number 7 [4]⟩]

/-- The default targets let Java 8 pass, although they ask for Java 11. -/
theorem java_8_passes :
    runtimeVersion.judge ⟨">=", .array (defaultTargets.map RuntimeTarget.json),
        FunctionResource.input ⟨"Java", Version.text ⟨⟨8, []⟩, []⟩, []⟩, 0⟩ = some true ∧
      ¬ ChecksRuntime defaultTargets ⟨"Java", "", []⟩ ⟨⟨8, []⟩, []⟩ 0 := by
  have hpasses := (runtimeVersion_ordered defaultTargets ⟨"Java", "", []⟩ ⟨⟨8, []⟩, []⟩ 0).mpr
    ⟨.number 11 [], List.mem_cons_self, rfl⟩
  refine ⟨hpasses, fun hchecks => ?_⟩
  have hnewer : ¬ ∃ t ∈ defaultTargets, t.runtimeLanguage = "Java" ∧
      notNewer t.runtimeVersion.components (Version.components ⟨⟨8, []⟩, []⟩) = true := by
    decide
  exact hnewer (hchecks.mp hpasses)

end Policy
end Clouditor
