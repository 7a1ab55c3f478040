import Mathlib.Data.List.Basic

/-! The text of a protobuf `Value` on one line. No text is the end of another one behind a dash,
so that a text can be told from whatever stands in front of it and a dash. -/
namespace ProtoText
set_option autoImplicit false

/-- What a minus sign may stand in front of: a digit or infinity. -/
def followsSign (c : Char) : Bool := "0123456789i".toList.contains c

/-- A double, given by its shortest decimal text. -/
structure Number where
  text : List Char
  chars : ∀ c ∈ text, c ∈ "0123456789+-.einfa".toList
  signs : ∀ pre post, text = pre ++ '-' :: post →
    ∃ c rest, followsSign c = true ∧ post = c :: rest

/-- The fields of a struct are in the order of their keys. -/
inductive Value where
  | unset
  | null
  | number (n : Number)
  | string (s : List Char)
  | bool (b : Bool)
  | struct (fields : List (List Char × Value))
  | list (values : List Value)

section Texts

def hex (n : ℕ) : List Char := [Nat.digitChar (n / 16), Nat.digitChar (n % 16)]

def escape (c : Char) : List Char :=
  if c = '"' ∨ c = '\\' then ['\\', c]
  else if c = '\n' then ['\\', 'n']
  else if c = '\r' then ['\\', 'r']
  else if c = '\t' then ['\\', 't']
  else if c.toNat < 32 ∨ c.toNat = 127 then '\\' :: 'x' :: hex c.toNat
  else if 128 ≤ c.toNat ∧ c.toNat ≤ 159 then '\\' :: 'u' :: '0' :: '0' :: hex c.toNat
  else [c]

def quoted (s : List Char) : List Char := '"' :: (s.flatMap escape ++ ['"'])

/-- The fixed parts of a text. -/
@[irreducible]
def label (s : String) : List Char := s.toList

variable (spaces : ℕ)

/-! Between two fields there is one space or two, which is up to the build of the library. The
first field of a message has none in front of it. -/
mutual
def Value.text : Value → List Char
  | .unset => []
  | .null => label "null_value:NULL_VALUE"
  | .number n => label "number_value:" ++ n.text
  | .string s => label "string_value:" ++ quoted s
  | .bool b => label (if b then "bool_value:true" else "bool_value:false")
  | .struct fields => label "struct_value:\x7b" ++ (fieldsText 0 fields ++ ['}'])
  | .list values => label "list_value:\x7b" ++ (valuesText 0 values ++ ['}'])
def fieldsText (lead : ℕ) : List (List Char × Value) → List Char
  | [] => []
  | (key, v) :: fields => List.replicate lead ' ' ++ (label "fields:\x7bkey:" ++ (quoted key ++
      (List.replicate spaces ' ' ++ (label "value:\x7b" ++ (v.text ++ (label "\x7d\x7d" ++
        fieldsText spaces fields))))))
def valuesText (lead : ℕ) : List Value → List Char
  | [] => []
  | v :: values => List.replicate lead ' ' ++ (label "values:\x7b" ++ (v.text ++
      ('}' :: valuesText spaces values)))
end

end Texts

section Scanning

/-- Where a reader is: between the quotes of a string, or not, and just behind a character that
has a say on the next one. -/
inductive Mode where
  | outside
  | dash
  | inside
  | escape
  deriving DecidableEq

/-- The mode after a character, `none` if no text has it there. -/
def scan : Mode → Char → Option Mode
  | .outside, c =>
    if c = '"' then some .inside
    else if c = '\\' then none
    else if c = '-' then some .dash
    else some .outside
  | .dash, c => if followsSign c then some .outside else none
  | .inside, c =>
    if c = '"' then some .outside
    else if c = '\\' then some .escape
    else some .inside
  | .escape, _ => some .inside

def scanAll : Mode → List Char → Option Mode
  | m, [] => some m
  | m, c :: cs => (scan m c).bind (fun m => scanAll m cs)

theorem scanAll_append (m : Mode) (cs cs' : List Char) :
    scanAll m (cs ++ cs') = (scanAll m cs).bind (fun m => scanAll m cs') := by
  induction cs generalizing m with
  | nil => rfl
  | cons c cs ih =>
    simp only [List.cons_append, scanAll, Option.bind_assoc]
    exact Option.bind_congr (fun m _ => ih m)

/-- Characters without a meaning for the reader. -/
def plain (c : Char) : Bool := c != '"' && c != '\\' && c != '-'

theorem scanAll_plain (m : Mode) (hm : m = .outside ∨ m = .inside) (cs : List Char)
    (h : cs.all plain = true) : scanAll m cs = some m := by
  induction cs with
  | nil => rfl
  | cons c cs ih =>
    rw [List.all_cons, Bool.and_eq_true] at h
    have hc : (c ≠ '"' ∧ c ≠ '\\') ∧ c ≠ '-' := by simpa [plain] using h.1
    have hscan : scan m c = some m := by
      rcases hm with rfl | rfl
      · simp [scan, hc]
      · simp [scan, hc]
    rw [scanAll, hscan]
    exact ih h.2

theorem scanAll_escape (c : Char) : scanAll .inside (escape c) = some .inside := by
  have hhex (n : ℕ) (hn : n < 256) : scanAll .inside (hex n) = some .inside := by
    have hdigit : ∀ k < 16, plain (Nat.digitChar k) = true := by decide
    apply scanAll_plain _ (.inr rfl)
    simp only [hex, List.all_cons, hdigit (n / 16) (by omega), hdigit (n % 16) (by omega),
      List.all_nil, Bool.and_self]
  unfold escape
  split_ifs with h1 h2 h3 h4 h5 h6
  · rfl
  · rfl
  · rfl
  · rfl
  · exact hhex c.toNat (by omega)
  · exact hhex c.toNat (by omega)
  · push Not at h1
    simp [scanAll, scan, h1]

theorem scanAll_quoted (s : List Char) : scanAll .outside (quoted s) = some .outside := by
  have hall (s : List Char) : scanAll .inside (s.flatMap escape) = some .inside := by
    induction s with
    | nil => rfl
    | cons c s ih =>
      rw [List.flatMap_cons, scanAll_append, scanAll_escape]
      exact ih
  show scanAll .inside (s.flatMap escape ++ ['"']) = some .outside
  rw [scanAll_append, hall]
  rfl

theorem scanAll_number (n : Number) : scanAll .outside n.text = some .outside := by
  have hplain : "0123456789+-.einfa".toList.all (fun c => c != '"' && c != '\\') = true := by
    decide
  -- a digit, or the i of infinity, reads the same behind a dash
  have hdash (c : Char) (hc : followsSign c = true) : scan .dash c = scan .outside c := by
    have hall : "0123456789i".toList.all (fun c => scan .outside c = some .outside) = true := by
      decide
    have hout := List.all_eq_true.mp hall c (List.contains_iff_mem.mp hc)
    rw [decide_eq_true_iff] at hout
    rw [hout, scan, if_pos hc]
  -- on the ends of the text, so that `signs` can speak about each dash in it
  have hrest (cs pre : List Char) (h : n.text = pre ++ cs) :
      scanAll .outside cs = some .outside := by
    induction cs generalizing pre with
    | nil => rfl
    | cons c cs ih =>
      have ih := ih (pre ++ [c]) (by rw [h, List.append_assoc]; rfl)
      have hc := List.all_eq_true.mp hplain c (n.chars c (by rw [h]; simp))
      obtain ⟨hquote,hslash⟩ : c ≠ '"' ∧ c ≠ '\\' := by simpa using hc
      by_cases hc : c = '-'
      · subst hc
        obtain ⟨d,rest,hd,rfl⟩ := n.signs pre cs h
        show (scan .dash d).bind (fun m => scanAll m rest) = some .outside
        rw [hdash d hd]
        exact ih
      · rw [scanAll, show scan .outside c = some .outside by simp [scan, hquote, hslash, hc]]
        exact ih
  exact hrest n.text [] rfl

theorem scanAll_spaces (k : ℕ) (cs : List Char) :
    scanAll .outside (List.replicate k ' ' ++ cs) = scanAll .outside cs := by
  rw [scanAll_append, scanAll_plain .outside (.inl rfl) _ (by simp [plain])]
  rfl

theorem scanAll_label (s : String) (h : s.toList.all plain = true) (cs : List Char) :
    scanAll .outside (label s ++ cs) = scanAll .outside cs := by
  rw [scanAll_append, label, scanAll_plain .outside (.inl rfl) _ h]
  rfl

variable (spaces : ℕ)

mutual
theorem scanAll_text : (v : Value) → scanAll .outside (v.text spaces) = some .outside
  | .unset => by
    rw [Value.text]
    rfl
  | .null => by
    rw [Value.text, ← List.append_nil (label _), scanAll_label _ (by decide)]
    rfl
  | .number n => by
    rw [Value.text, scanAll_label _ (by decide), scanAll_number]
  | .string s => by
    rw [Value.text, scanAll_label _ (by decide), scanAll_quoted]
  | .bool b => by
    rw [Value.text, ← List.append_nil (label _), scanAll_label _ (by cases b <;> decide)]
    rfl
  | .struct fields => by
    rw [Value.text, scanAll_label _ (by decide), scanAll_append, scanAll_fieldsText 0 fields]
    rfl
  | .list values => by
    rw [Value.text, scanAll_label _ (by decide), scanAll_append, scanAll_valuesText 0 values]
    rfl
theorem scanAll_fieldsText (lead : ℕ) : (fields : List (List Char × Value)) →
    scanAll .outside (fieldsText spaces lead fields) = some .outside
  | [] => by
    rw [fieldsText]
    rfl
  | (key, v) :: fields => by
    rw [fieldsText, scanAll_spaces, scanAll_label _ (by decide), scanAll_append, scanAll_quoted,
      Option.bind_some, scanAll_spaces, scanAll_label _ (by decide), scanAll_append,
      scanAll_text v, Option.bind_some, scanAll_label _ (by decide)]
    exact scanAll_fieldsText spaces fields
theorem scanAll_valuesText (lead : ℕ) : (values : List Value) →
    scanAll .outside (valuesText spaces lead values) = some .outside
  | [] => by
    rw [valuesText]
    rfl
  | v :: values => by
    rw [valuesText, scanAll_spaces, scanAll_label _ (by decide), scanAll_append, scanAll_text v,
      Option.bind_some]
    exact scanAll_valuesText spaces values
end

/-- Read from inside of a string, a text that ends outside would end inside. -/
theorem scanAll_not_both (cs : List Char) (m : Mode) (hm : m = .outside ∨ m = .dash)
    (h : scanAll m cs = some .outside) : scanAll .inside cs ≠ some .outside := by
  induction cs generalizing m with
  | nil => simp [scanAll]
  | cons c cs ih =>
    intro hin
    obtain ⟨m₁,h₁,h⟩ := Option.bind_eq_some_iff.mp h
    obtain ⟨m₂,h₂,hin⟩ := Option.bind_eq_some_iff.mp hin
    by_cases hquote : c = '"'
    · -- a quote swaps the two readers
      subst hquote
      rcases hm with rfl | rfl
      · cases h₁
        cases h₂
        exact ih .outside (.inl rfl) hin h
      · cases h₁
    · by_cases hslash : c = '\\'
      · subst hslash
        rcases hm with rfl | rfl <;> cases h₁
      · have hm₂ : m₂ = .inside := by simpa [scan, hquote, hslash] using h₂.symm
        have hm₁ : m₁ = .outside ∨ m₁ = .dash := by
          rcases hm with rfl | rfl
          · by_cases hdash : c = '-'
            · exact .inr (by simpa [scan, hdash] using h₁.symm)
            · exact .inl (by simpa [scan, hquote, hslash, hdash] using h₁.symm)
          · simp only [scan, Option.ite_none_right_eq_some, Option.some.injEq] at h₁
            exact .inl h₁.2.symm
        subst hm₂
        exact ih m₁ hm₁ h hin

/-- What stands in front of a dash and a text can be told from the text. -/
theorem dash_text_inj (a a' t t' : List Char) (ht : scanAll .outside t = some .outside)
    (ht' : scanAll .outside t' = some .outside)
    (hstart : ∀ c ∈ t.head?, followsSign c = false)
    (hstart' : ∀ c ∈ t'.head?, followsSign c = false)
    (h : a ++ '-' :: t = a' ++ '-' :: t') : a = a' ∧ t = t' := by
  -- otherwise one text is the end of the other one behind a dash
  have hshort (b t t' : List Char) (ht : scanAll .outside t = some .outside)
      (ht' : scanAll .outside t' = some .outside)
      (hstart' : ∀ c ∈ t'.head?, followsSign c = false)
      (h : '-' :: t = b ++ '-' :: t') : b = [] := by
    cases b with
    | nil => rfl
    | cons c b =>
      rw [List.cons_append] at h
      obtain ⟨rfl,rfl⟩ := List.cons.inj h
      rw [scanAll_append] at ht
      obtain ⟨m,_,hm⟩ := Option.bind_eq_some_iff.mp ht
      cases m with
      -- only a sign may stand outside of a string, and no text goes on like a number
      | outside =>
        cases t' with
        | nil => cases hm
        | cons c t' =>
          simp [scanAll, scan, hstart' c rfl] at hm
      | dash => cases hm
      -- a dash in a string would leave the end of the text in one, too
      | inside => exact absurd hm (scanAll_not_both t' .outside (.inl rfl) ht')
      | escape => exact absurd hm (scanAll_not_both t' .outside (.inl rfl) ht')
  rcases List.append_eq_append_iff.mp h with ⟨b,rfl,hb⟩ | ⟨b,rfl,hb⟩
  · obtain rfl := hshort b t t' ht ht' hstart' hb
    exact ⟨(List.append_nil a).symm, (List.cons.inj hb).2⟩
  · obtain rfl := hshort b t' t ht' ht hstart hb
    exact ⟨List.append_nil a', (List.cons.inj hb).2.symm⟩

end Scanning

section Decoding

def unhex (c : Char) : ℕ := if c.isDigit then c.toNat - 48 else c.toNat - 87

/-- The first character of a string and the rest of its text. -/
def unescape : List Char → Option (Char × List Char)
  | [] => none
  | c :: cs =>
    if c = '\\' then
      match cs with
      | 'n' :: cs => some ('\n', cs)
      | 'r' :: cs => some ('\r', cs)
      | 't' :: cs => some ('\t', cs)
      | 'x' :: a :: b :: cs => some (Char.ofNat (unhex a * 16 + unhex b), cs)
      | 'u' :: _ :: _ :: a :: b :: cs => some (Char.ofNat (unhex a * 16 + unhex b), cs)
      | c :: cs => some (c, cs)
      | [] => none
    else some (c, cs)

theorem unescape_escape (c : Char) (cs : List Char) :
    unescape (escape c ++ cs) = some (c, cs) := by
  have hhex : ∀ n < 16, unhex (Nat.digitChar n) = n := by decide
  have hchar (h : c.toNat < 256) : Char.ofNat (unhex (Nat.digitChar (c.toNat / 16)) * 16 +
      unhex (Nat.digitChar (c.toNat % 16))) = c := by
    rw [hhex _ (by omega), hhex _ (by omega), Nat.div_add_mod', Char.ofNat_toNat]
  unfold escape
  split_ifs with h1 h2 h3 h4 h5 h6
  · rcases h1 with rfl | rfl <;> rfl
  · rw [h2]
    rfl
  · rw [h3]
    rfl
  · rw [h4]
    rfl
  · exact congrArg (fun c => some (c, cs)) (hchar (by omega))
  · exact congrArg (fun c => some (c, cs)) (hchar (by omega))
  · push Not at h1
    simp [unescape, h1.2]

theorem quoted_inj (s s' r r' : List Char) (h : quoted s ++ r = quoted s' ++ r') :
    s = s' ∧ r = r' := by
  -- the closing quote is not the first of an escaped character
  have hend (c : Char) (cs x : List Char) : escape c ++ cs ≠ '"' :: x := by
    intro heq
    have hread := unescape_escape c cs
    rw [heq] at hread
    have hread : some ('"', x) = some (c, cs) := hread
    cases hread
    simp [escape] at heq
  have hopen (s r : List Char) : quoted s ++ r = '"' :: (s.flatMap escape ++ '"' :: r) := by
    simp [quoted]
  rw [hopen, hopen, List.cons.injEq] at h
  replace h := h.2
  induction s generalizing s' with
  | nil =>
    cases s' with
    | nil => exact ⟨rfl, (List.cons.inj h).2⟩
    | cons c' s' =>
      rw [List.flatMap_cons, List.append_assoc] at h
      exact absurd h.symm (hend c' _ r)
  | cons c s ih =>
    rw [List.flatMap_cons, List.append_assoc] at h
    cases s' with
    | nil => exact absurd h (hend c _ r')
    | cons c' s' =>
      rw [List.flatMap_cons, List.append_assoc] at h
      have hread := congrArg unescape h
      rw [unescape_escape, unescape_escape, Option.some.injEq, Prod.mk.injEq] at hread
      obtain ⟨rfl,hrest⟩ := hread
      obtain ⟨rfl,hr⟩ := ih s' hrest
      exact ⟨rfl, hr⟩

/-- The rest behind the text of a value: nothing, or the end of the message it is in. -/
def Ends (r : List Char) : Prop := r = [] ∨ ∃ r', r = '}' :: r'

theorem ends_inj (a a' r r' : List Char) (ha : '}' ∉ a) (ha' : '}' ∉ a') (hr : Ends r)
    (hr' : Ends r') (h : a ++ r = a' ++ r') : a = a' ∧ r = r' := by
  have hshort (a b r r' : List Char) (hb : '}' ∉ a ++ b) (hr : Ends r) (h : r = b ++ r') :
      b = [] := by
    cases b with
    | nil => rfl
    | cons c b =>
      rcases hr with rfl | ⟨r'',rfl⟩
      · cases h
      · obtain ⟨rfl,_⟩ := List.cons.inj h
        simp at hb
  rcases List.append_eq_append_iff.mp h with ⟨b,rfl,hb⟩ | ⟨b,rfl,hb⟩
  · obtain rfl := hshort a b r r' ha' hr hb
    exact ⟨(List.append_nil a).symm, hb⟩
  · obtain rfl := hshort a' b r' r ha hr' hb
    exact ⟨List.append_nil a', hb.symm⟩

theorem number_inj (n n' : Number) (r r' : List Char) (hr : Ends r) (hr' : Ends r')
    (h : n.text ++ r = n'.text ++ r') : n = n' ∧ r = r' := by
  have hclose (n : Number) : '}' ∉ n.text := by
    intro hmem
    exact absurd (n.chars _ hmem) (by decide)
  obtain ⟨htext,hr⟩ := ends_inj n.text n'.text r r' (hclose n) (hclose n') hr hr' h
  cases n
  cases n'
  cases htext
  exact ⟨rfl, hr⟩

/-- The start of a text, by which the kinds of values can be told. -/
def Value.kind : Value → List Char
  | .unset => []
  | .null => ['n', 'u', 'l', 'l']
  | .number _ => ['n', 'u', 'm', 'b']
  | .string _ => ['s', 't', 'r', 'i']
  | .bool _ => ['b', 'o', 'o', 'l']
  | .struct _ => ['s', 't', 'r', 'u']
  | .list _ => ['l', 'i', 's', 't']

def kindOf (cs : List Char) : List Char := if cs.head? = some '}' then [] else cs.take 4

variable (spaces : ℕ)

theorem kindOf_text (v : Value) (r : List Char) (hr : Ends r) :
    kindOf (v.text spaces ++ r) = v.kind := by
  cases v with
  | unset =>
    rw [Value.text]
    rcases hr with rfl | ⟨r',rfl⟩ <;> rfl
  | bool b => cases b <;> simp [Value.text, label, kindOf, Value.kind]
  | _ => simp [Value.text, label, kindOf, Value.kind]

/-- Two values of one kind. -/
inductive SameKind : Value → Value → Prop where
  | unset : SameKind .unset .unset
  | null : SameKind .null .null
  | number (n n' : Number) : SameKind (.number n) (.number n')
  | string (s s' : List Char) : SameKind (.string s) (.string s')
  | bool (b b' : Bool) : SameKind (.bool b) (.bool b')
  | struct (fields fields' : List (List Char × Value)) :
      SameKind (.struct fields) (.struct fields')
  | list (values values' : List Value) : SameKind (.list values) (.list values')

theorem sameKind_of_kind (v v' : Value) (h : v.kind = v'.kind) : SameKind v v' := by
  cases v <;> cases v' <;> first
    | constructor
    | simp [Value.kind] at h

theorem sameKind_of_text (v v' : Value) (r r' : List Char) (hr : Ends r) (hr' : Ends r')
    (h : v.text spaces ++ r = v'.text spaces ++ r') : SameKind v v' := by
  apply sameKind_of_kind
  rw [← kindOf_text spaces v r hr, ← kindOf_text spaces v' r' hr', h]

/-- No field starts with the end of a message. -/
theorem item_ne_close (lead : ℕ) (s : String) (c : Char) (hs : s.toList.head? = some c)
    (hc : c ≠ '}') (x r : List Char) : List.replicate lead ' ' ++ (label s ++ x) ≠ '}' :: r := by
  intro h
  have hhead := congrArg List.head? h
  cases lead with
  | zero =>
    rw [label, List.replicate_zero, List.nil_append, List.head?_append, hs] at hhead
    exact hc (Option.some.inj hhead)
  | succ lead => cases hhead

mutual
/-- A value can be read off its text, whatever message that is in. -/
theorem text_inj : (v v' : Value) → (r r' : List Char) → Ends r → Ends r' →
    v.text spaces ++ r = v'.text spaces ++ r' → v = v' ∧ r = r'
  | .unset, v', r, r', hr, hr', h => by
    cases sameKind_of_text spaces _ v' r r' hr hr' h
    exact ⟨rfl, by simpa only [Value.text, List.nil_append] using h⟩
  | .null, v', r, r', hr, hr', h => by
    cases sameKind_of_text spaces _ v' r r' hr hr' h
    exact ⟨rfl, List.append_cancel_left h⟩
  | .number n, v', r, r', hr, hr', h => by
    cases sameKind_of_text spaces _ v' r r' hr hr' h with
    | number _ n' =>
      rw [Value.text, Value.text, List.append_assoc, List.append_assoc] at h
      obtain ⟨rfl,hrest⟩ := number_inj n n' r r' hr hr' (List.append_cancel_left h)
      exact ⟨rfl, hrest⟩
  | .string s, v', r, r', hr, hr', h => by
    cases sameKind_of_text spaces _ v' r r' hr hr' h with
    | string _ s' =>
      rw [Value.text, Value.text, List.append_assoc, List.append_assoc] at h
      obtain ⟨rfl,hrest⟩ := quoted_inj s s' r r' (List.append_cancel_left h)
      exact ⟨rfl, hrest⟩
  | .bool b, v', r, r', hr, hr', h => by
    cases sameKind_of_text spaces _ v' r r' hr hr' h with
    | bool _ b' =>
      cases b <;> cases b'
      · exact ⟨rfl, List.append_cancel_left h⟩
      · simp [Value.text, label] at h
      · simp [Value.text, label] at h
      · exact ⟨rfl, List.append_cancel_left h⟩
  | .struct fields, v', r, r', hr, hr', h => by
    cases sameKind_of_text spaces _ v' r r' hr hr' h with
    | struct _ fields' =>
      simp only [Value.text, List.append_assoc, List.append_cancel_left_eq] at h
      obtain ⟨rfl,hrest⟩ := fieldsText_inj 0 fields fields' r r' h
      exact ⟨rfl, hrest⟩
  | .list values, v', r, r', hr, hr', h => by
    cases sameKind_of_text spaces _ v' r r' hr hr' h with
    | list _ values' =>
      simp only [Value.text, List.append_assoc, List.append_cancel_left_eq] at h
      obtain ⟨rfl,hrest⟩ := valuesText_inj 0 values values' r r' h
      exact ⟨rfl, hrest⟩
theorem fieldsText_inj (lead : ℕ) : (fields fields' : List (List Char × Value)) →
    (r r' : List Char) →
    fieldsText spaces lead fields ++ '}' :: r = fieldsText spaces lead fields' ++ '}' :: r' →
    fields = fields' ∧ r = r'
  | [], [], r, r', h => by
    simp only [fieldsText, List.nil_append, List.cons.injEq, true_and] at h
    exact ⟨rfl, h⟩
  | [], (key', v') :: fields', r, r', h => by
    rw [fieldsText, fieldsText, List.append_assoc, List.append_assoc] at h
    exact absurd h.symm (item_ne_close lead _ 'f' (by decide) (by decide) _ r)
  | (key, v) :: fields, [], r, r', h => by
    rw [fieldsText, fieldsText, List.append_assoc, List.append_assoc] at h
    exact absurd h (item_ne_close lead _ 'f' (by decide) (by decide) _ r')
  | (key, v) :: fields, (key', v') :: fields', r, r', h => by
    simp only [fieldsText, List.append_assoc, List.append_cancel_left_eq] at h
    obtain ⟨rfl,h⟩ := quoted_inj key key' _ _ h
    simp only [List.append_cancel_left_eq] at h
    -- the key ends at its quote, and the value where its message is closed
    have hclose (x : List Char) : Ends (label "\x7d\x7d" ++ x) := .inr ⟨'}' :: x, by simp [label]⟩
    obtain ⟨rfl,htail⟩ := text_inj v v' _ _ (hclose _) (hclose _) h
    obtain ⟨rfl,hrest⟩ :=
      fieldsText_inj spaces fields fields' r r' (List.append_cancel_left htail)
    exact ⟨rfl, hrest⟩
theorem valuesText_inj (lead : ℕ) : (values values' : List Value) → (r r' : List Char) →
    valuesText spaces lead values ++ '}' :: r = valuesText spaces lead values' ++ '}' :: r' →
    values = values' ∧ r = r'
  | [], [], r, r', h => by
    simp only [valuesText, List.nil_append, List.cons.injEq, true_and] at h
    exact ⟨rfl, h⟩
  | [], v' :: values', r, r', h => by
    rw [valuesText, valuesText, List.append_assoc, List.append_assoc] at h
    exact absurd h.symm (item_ne_close lead _ 'v' (by decide) (by decide) _ r)
  | v :: values, [], r, r', h => by
    rw [valuesText, valuesText, List.append_assoc, List.append_assoc] at h
    exact absurd h (item_ne_close lead _ 'v' (by decide) (by decide) _ r')
  | v :: values, v' :: values', r, r', h => by
    simp only [valuesText, List.append_assoc, List.append_cancel_left_eq, List.cons_append] at h
    obtain ⟨rfl,htail⟩ := text_inj v v' _ _ (.inr ⟨_, rfl⟩) (.inr ⟨_, rfl⟩) h
    obtain ⟨rfl,hrest⟩ := valuesText_inj spaces values values' r r' (List.cons.inj htail).2
    exact ⟨rfl, hrest⟩
end

end Decoding

section Messages
variable (spaces : ℕ)

/-- The text of a message that may be missing. -/
def messageText : Option Value → List Char
  | none => label "<nil>"
  | some v => v.text spaces

theorem messageText_inj (v v' : Option Value) (h : messageText spaces v = messageText spaces v') :
    v = v' := by
  have hnil (v : Value) : label "<nil>" ≠ v.text spaces := by
    intro heq
    have hkind := kindOf_text spaces v [] (.inl rfl)
    rw [List.append_nil, ← heq] at hkind
    cases v <;> simp [label, kindOf, Value.kind] at hkind
  cases v with
  | none =>
    cases v' with
    | none => rfl
    | some v' => exact absurd h (hnil v')
  | some v =>
    cases v' with
    | none => exact absurd h.symm (hnil v)
    | some v' =>
      have htext : v.text spaces ++ [] = v'.text spaces ++ [] := congrArg (· ++ []) h
      exact congrArg some (text_inj spaces v v' [] [] (.inl rfl) (.inl rfl) htext).1

theorem scanAll_messageText (v : Option Value) :
    scanAll .outside (messageText spaces v) = some .outside := by
  cases v with
  | none =>
    rw [messageText, ← List.append_nil (label _), scanAll_label _ (by decide)]
    rfl
  | some v => exact scanAll_text spaces v

theorem messageText_start (v : Option Value) :
    ∀ c ∈ (messageText spaces v).head?, followsSign c = false := by
  have hstart : (messageText spaces v).head? ∈
      [none, some '<', some 'n', some 's', some 'b', some 'l'] := by
    cases v with
    | none => simp [messageText, label]
    | some v =>
      cases v with
      | bool b => cases b <;> simp [messageText, Value.text, label]
      | _ => simp [messageText, Value.text, label]
  intro c hc
  rw [Option.mem_def.mp hc] at hstart
  simp only [List.mem_cons, reduceCtorEq, Option.some.injEq, List.not_mem_nil, or_false,
    false_or] at hstart
  rcases hstart with rfl | rfl | rfl | rfl | rfl <;> decide

/-- A message can be told from anything that stands in front of a dash and its text. -/
theorem dash_messageText_inj (a a' : List Char) (v v' : Option Value)
    (h : a ++ '-' :: messageText spaces v = a' ++ '-' :: messageText spaces v') :
    a = a' ∧ v = v' := by
  obtain ⟨ha,htext⟩ := dash_text_inj a a' _ _ (scanAll_messageText spaces v)
    (scanAll_messageText spaces v') (messageText_start spaces v) (messageText_start spaces v') h
  exact ⟨ha, messageText_inj spaces v v' htext⟩

end Messages
end ProtoText
