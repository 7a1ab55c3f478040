import Mathlib.Data.List.Basic
import Mathlib.Data.List.Forall2
import Mathlib.Data.List.Infix
import Mathlib.Data.Int.Notation
import Mathlib.Logic.Basic

/-! WHERE conditions as they are assembled by a program: fragments of text with
placeholders, joined by AND, bound to an argument list by position and read with
the precedence of SQL. -/
namespace SQL
set_option autoImplicit false

inductive Value where
  | null
  | text (s : String)
  | number (n : ℤ)
  | time (t : ℤ)
  deriving DecidableEq

/-- What a placeholder is bound to: one value, or the list behind an `IN ?`. -/
inductive Arg where
  | value (v : Value)
  | list (vs : List Value)
  deriving DecidableEq

/-- The comparisons a fragment is made of. All but the last two hold a placeholder. -/
inductive Predicate (C : Type) where
  | eq (c : C)
  | like (c : C)
  | isIn (c : C)
  | isNull (c : C)
  | geNow (c : C)
  deriving DecidableEq

def Predicate.takesArg {C : Type} : Predicate C → Bool
  | .eq _ | .like _ | .isIn _ => true
  | .isNull _ | .geNow _ => false

inductive Lexeme (P : Type) where
  | atom (p : P)
  | and
  | or
  deriving DecidableEq

abbrev Text (C : Type) := List (Lexeme (Predicate C))
abbrev Bound (C : Type) := Predicate C × Option Arg

/-- `strings.Join(fragments, " AND ")`. No parentheses are added. -/
def joinAnd {P : Type} : List (List (Lexeme P)) → List (Lexeme P)
  | [] => []
  | [t] => t
  | t :: ts => t ++ .and :: joinAnd ts

/-- Placeholders take the arguments from left to right; a statement with too few
or too many arguments is not executed. -/
def bind {C : Type} : Text C → List Arg → Option (List (Lexeme (Bound C)))
  | [], [] => some []
  | [], _ :: _ => none
  | .and :: t, as => (bind t as).map (.and :: ·)
  | .or :: t, as => (bind t as).map (.or :: ·)
  | .atom p :: t, as =>
    if p.takesArg then
      match as with
      | [] => none
      | a :: as => (bind t as).map (.atom (p, some a) :: ·)
    else (bind t as).map (.atom (p, none) :: ·)

/-- AND binds tighter than OR: the text is cut at each OR into conjunctions. -/
def disjuncts {B : Type} : List (Lexeme B) → List (List B)
  | [] => [[]]
  | .and :: t => disjuncts t
  | .or :: t => [] :: disjuncts t
  | .atom b :: t =>
    match disjuncts t with
    | [] => [[b]]
    | d :: ds => (b :: d) :: ds

/-- LIKE: `%` stands for any run of characters and `_` for exactly one. -/
def like : List Char → List Char → Bool
  | [] => fun s => s.isEmpty
  | w :: p => fun s =>
    -- the rest of the pattern may match at any later place
    if w = '%' then s.tails.any (like p)
    else match s with
      | [] => false
      | c :: s => (w = '_' || w = c) && like p s

/-- A comparison with NULL is unknown (`none`), not false. -/
def compare (v : Value) (p : Value → Bool) : Option Bool :=
  if v = .null then none else some (p v)

def truth {C : Type} (now : ℤ) (row : C → Value) : Bound C → Option Bool
  | (.eq c, some (.value a)) => compare (row c) (· = a)
  | (.like c, some (.value (.text a))) => compare (row c) fun
    | .text s => like a.toList s.toList
    | _ => false
  | (.isIn c, some (.list as)) => compare (row c) as.contains
  | (.isNull c, none) => some (row c = .null)
  | (.geNow c, none) => compare (row c) fun
    | .time t => now ≤ t
    | _ => false
  | _ => none

/-- A row is selected when one conjunction has only true members: unknown members
make a condition neither true nor, without NOT, ever part of a true one. -/
def selects {C : Type} (now : ℤ) (row : C → Value) (t : List (Lexeme (Bound C))) : Bool :=
  (disjuncts t).any (fun d => d.all (fun b => truth now row b = some true))

/-- The slices `query` and `args` grow together: each appended fragment comes with
the arguments appended for it. -/
abbrev Query (C : Type) := List (Text C × List Arg)

def Query.text {C : Type} (q : Query C) : Text C := joinAnd (q.map Prod.fst)
def Query.args {C : Type} (q : Query C) : List Arg := q.flatMap Prod.snd

/-- The rows of a table that the joined condition selects, `none` if it does not execute. -/
def Query.select {C α : Type} (q : Query C) (column : α → C → Value) (now : ℤ)
    (rows : List α) : Option (List α) :=
  (bind q.text q.args).map (fun t => rows.filter (fun r => selects now (column r) t))

section Binding
variable {C : Type}

theorem bind_append (s t : Text C) (as bs : List Arg) (s' : List (Lexeme (Bound C)))
    (hs : bind s as = some s') :
    bind (s ++ t) (as ++ bs) = (bind t bs).map (s' ++ ·) := by
  induction s generalizing as s' with
  | nil =>
    cases as with
    | nil =>
      simp only [bind, Option.some.injEq] at hs
      subst hs
      simp
    | cons a as => simp [bind] at hs
  | cons l s ih =>
    cases l with
    | and =>
      simp only [bind, Option.map_eq_some_iff] at hs
      obtain ⟨u,hu,rfl⟩ := hs
      simp only [List.cons_append, bind, ih as u hu, Option.map_map]
      rfl
    | or =>
      simp only [bind, Option.map_eq_some_iff] at hs
      obtain ⟨u,hu,rfl⟩ := hs
      simp only [List.cons_append, bind, ih as u hu, Option.map_map]
      rfl
    | atom p =>
      by_cases hp : p.takesArg = true
      · cases as with
        | nil => simp [bind, hp] at hs
        | cons a as =>
          simp only [bind, hp, if_true, Option.map_eq_some_iff] at hs
          obtain ⟨u,hu,rfl⟩ := hs
          simp only [List.cons_append, bind, hp, if_true, ih as u hu, Option.map_map]
          rfl
      · simp only [bind, hp, Bool.false_eq_true, if_false, Option.map_eq_some_iff] at hs
        obtain ⟨u,hu,rfl⟩ := hs
        simp only [List.cons_append, bind, hp, Bool.false_eq_true, if_false, ih as u hu,
          Option.map_map]
        rfl

/-- When every fragment fits the arguments pushed with it, the whole statement
binds fragment by fragment. -/
theorem bind_query (q : Query C) (b : List (List (Lexeme (Bound C))))
    (h : List.Forall₂ (fun p t => bind p.1 p.2 = some t) q b) :
    bind q.text q.args = some (joinAnd b) := by
  induction h with
  | nil => rfl
  | @cons p t q b hp hq ih =>
    cases hq with
    | nil =>
      have hb := bind_append p.1 [] p.2 [] t hp
      simpa [Query.text, Query.args, joinAnd, bind] using hb
    | @cons p' t' q b hp' hq =>
      have hand : bind (.and :: Query.text (p' :: q)) (Query.args (p' :: q)) =
          some (.and :: joinAnd (t' :: b)) := by
        simp only [bind, ih, Option.map_some]
      have hb := bind_append p.1 (.and :: Query.text (p' :: q)) p.2 (Query.args (p' :: q)) t hp
      rw [hand] at hb
      simpa [Query.text, Query.args, joinAnd] using hb

end Binding

section Fragments
variable {C : Type}

/-- A fragment that is one comparison, with what it pushes onto the arguments. -/
def fragment (b : Bound C) : Text C × List Arg := ([.atom b.1], b.2.toList)

def Fits (b : Bound C) : Prop := b.1.takesArg = b.2.isSome

/-- `a IS NULL OR a >= CURRENT_TIMESTAMP` and its like: two comparisons without
placeholders and no parentheses around them. -/
def alternative (p q : Predicate C) : Text C × List Arg := ([.atom p, .or, .atom q], [])

theorem bind_fragment (b : Bound C) (h : Fits b) :
    bind (fragment b).1 (fragment b).2 = some [.atom b] := by
  obtain ⟨p,a⟩ := b
  cases a with
  | none => simp [fragment, bind, show p.takesArg = false from h]
  | some a => simp [fragment, bind, show p.takesArg = true from h]

theorem bind_fragments (bs : List (Bound C)) (h : ∀ b ∈ bs, Fits b) :
    List.Forall₂ (fun p t => bind p.1 p.2 = some t) (bs.map fragment)
      (bs.map (fun b => [.atom b])) := by
  induction bs with
  | nil => exact List.Forall₂.nil
  | cons b bs ih =>
    exact List.Forall₂.cons (bind_fragment b (h b List.mem_cons_self))
      (ih (fun c hc => h c (List.mem_cons_of_mem b hc)))

theorem joinAnd_cons {P : Type} (t : List (Lexeme P)) (ts : List (List (Lexeme P)))
    (h : ts ≠ []) : joinAnd (t :: ts) = t ++ .and :: joinAnd ts := by
  cases ts with
  | nil => exact False.elim (h rfl)
  | cons u us => rfl

theorem disjuncts_atoms {B : Type} (bs : List B) :
    disjuncts (joinAnd (bs.map (fun b => [Lexeme.atom b]))) = [bs] := by
  induction bs with
  | nil => rfl
  | cons b bs ih =>
    cases bs with
    | nil => rfl
    | cons c cs =>
      rw [List.map_cons, joinAnd_cons _ _ (by simp)]
      simp only [List.singleton_append, disjuncts, ih]

/-- The OR inside one fragment cuts the whole text: the comparisons before it go
with its left side, those after it with its right side. -/
theorem disjuncts_alternative {B : Type} (bs cs : List B) (p q : B) :
    disjuncts (joinAnd (bs.map (fun b => [Lexeme.atom b]) ++
      [.atom p, .or, .atom q] :: cs.map (fun b => [Lexeme.atom b]))) = [bs ++ [p], q :: cs] := by
  induction bs with
  | nil =>
    cases cs with
    | nil => rfl
    | cons c cs =>
      rw [List.map_nil, List.nil_append, joinAnd_cons _ _ (by simp)]
      simp only [List.cons_append, List.nil_append, disjuncts, disjuncts_atoms]
  | cons b bs ih =>
    rw [List.map_cons, List.cons_append, joinAnd_cons _ _ (by simp)]
    simp only [List.cons_append, List.nil_append, disjuncts, ih]

variable {α : Type} (column : α → C → Value) (now : ℤ) (rows : List α)

def holds (r : α) (b : Bound C) : Bool := truth now (column r) b = some true

/-- Only a value that is not NULL makes a comparison true. -/
theorem compare_eq_true (v : Value) (p : Value → Bool) :
    compare v p = some true ↔ v ≠ .null ∧ p v = true := by
  unfold compare
  split <;> simp [*]

@[simp] theorem holds_eq (r : α) (c : C) (v : Value) :
    holds column now r (.eq c, some (.value v)) =
      decide (column r c ≠ .null ∧ column r c = v) := by
  have htruth : truth now (column r) (.eq c, some (.value v)) = compare (column r c) (· = v) := rfl
  rw [holds, htruth, decide_eq_decide, compare_eq_true, decide_eq_true_iff]

@[simp] theorem holds_like (r : α) (c : C) (pattern : String) :
    holds column now r (.like c, some (.value (.text pattern))) =
      match column r c with
      | .text s => like pattern.toList s.toList
      | _ => false := by
  have htruth : truth now (column r) (.like c, some (.value (.text pattern))) =
      compare (column r c) fun
        | .text s => like pattern.toList s.toList
        | _ => false := rfl
  rw [holds, htruth, Bool.eq_iff_iff, decide_eq_true_iff, compare_eq_true]
  cases column r c <;> simp

@[simp] theorem holds_isIn (r : α) (c : C) (vs : List Value) :
    holds column now r (.isIn c, some (.list vs)) =
      decide (column r c ≠ .null ∧ column r c ∈ vs) := by
  have htruth : truth now (column r) (.isIn c, some (.list vs)) =
      compare (column r c) vs.contains := rfl
  rw [holds, htruth, decide_eq_decide, compare_eq_true, List.contains_iff_mem]

@[simp] theorem holds_isNull (r : α) (c : C) :
    holds column now r (.isNull c, none) = decide (column r c = .null) := by
  have htruth : truth now (column r) (.isNull c, none) = some (decide (column r c = .null)) := rfl
  rw [holds, htruth, decide_eq_decide, Option.some.injEq, decide_eq_true_iff]

@[simp] theorem holds_geNow (r : α) (c : C) :
    holds column now r (.geNow c, none) =
      match column r c with
      | .time t => decide (now ≤ t)
      | _ => false := by
  have htruth : truth now (column r) (.geNow c, none) = compare (column r c) fun
      | .time t => now ≤ t
      | _ => false := rfl
  rw [holds, htruth, Bool.eq_iff_iff, decide_eq_true_iff, compare_eq_true]
  cases column r c <;> simp

/-- One comparison per fragment: the rows that satisfy all of them. -/
theorem select_fragments (bs : List (Bound C)) (h : ∀ b ∈ bs, Fits b) :
    Query.select (bs.map fragment) column now rows =
      some (rows.filter (fun r => bs.all (holds column now r))) := by
  have hb := bind_query (bs.map fragment) _ (bind_fragments bs h)
  rw [Query.select, hb, Option.map_some]
  simp only [selects, disjuncts_atoms, List.any_cons, List.any_nil, Bool.or_false]
  rfl

theorem select_alternative (bs cs : List (Bound C)) (p q : Predicate C) (hbs : ∀ b ∈ bs, Fits b)
    (hcs : ∀ b ∈ cs, Fits b) (hp : p.takesArg = false) (hq : q.takesArg = false) :
    Query.select (bs.map fragment ++ alternative p q :: cs.map fragment) column now rows =
      some (rows.filter (fun r => (bs.all (holds column now r) && holds column now r (p, none)) ||
        (holds column now r (q, none) && cs.all (holds column now r)))) := by
  have hmid : bind (alternative p q).1 (alternative p q).2 =
      some [.atom (p, none), .or, .atom (q, none)] := by
    simp [alternative, bind, hp, hq]
  have hb := bind_query (bs.map fragment ++ alternative p q :: cs.map fragment) _
    (List.rel_append (bind_fragments bs hbs) (List.Forall₂.cons hmid (bind_fragments cs hcs)))
  rw [Query.select, hb, Option.map_some]
  simp only [selects, disjuncts_alternative, List.any_cons, List.any_nil, Bool.or_false,
    List.all_append, List.all_cons, List.all_nil, Bool.and_true]
  rfl

end Fragments

section Like

def Wildcard (c : Char) : Prop := c = '%' ∨ c = '_'

theorem like_nil_iff (s : List Char) : like [] s = true ↔ s = [] := by
  simp [like]

theorem like_percent_cons_iff (p s : List Char) :
    like ('%' :: p) s = true ↔ ∃ u t, s = u ++ t ∧ like p t = true := by
  simp only [like, if_true, List.any_eq_true, List.mem_tails]
  constructor
  · intro h
    obtain ⟨t,⟨u,hu⟩,ht⟩ := h
    exact ⟨u, t, hu.symm, ht⟩
  · intro h
    obtain ⟨u,t,hs,ht⟩ := h
    exact ⟨t, ⟨u, hs.symm⟩, ht⟩

theorem like_cons_iff (w : Char) (hw : w ≠ '%') (p s : List Char) :
    like (w :: p) s = true ↔ ∃ c t, s = c :: t ∧ (w = '_' ∨ w = c) ∧ like p t = true := by
  cases s with
  | nil => simp [like, hw]
  | cons c s => simp [like, hw]

/-- Patterns in a row match texts in a row. -/
theorem like_append_iff (p q s : List Char) :
    like (p ++ q) s = true ↔ ∃ t u, s = t ++ u ∧ like p t = true ∧ like q u = true := by
  induction p generalizing s with
  | nil => simp [like_nil_iff]
  | cons w p ih =>
    rw [List.cons_append]
    by_cases hw : w = '%'
    · subst hw
      simp only [like_percent_cons_iff, ih]
      constructor
      · intro h
        obtain ⟨v,_,hs,t,u,rfl,ht,hu⟩ := h
        exact ⟨v ++ t, u, by rw [hs, List.append_assoc], ⟨v, t, rfl, ht⟩, hu⟩
      · intro h
        obtain ⟨_,u,hs,⟨v,t,rfl,ht⟩,hu⟩ := h
        exact ⟨v, t ++ u, by rw [hs, List.append_assoc], t, u, rfl, ht, hu⟩
    · simp only [like_cons_iff w hw, ih]
      constructor
      · intro h
        obtain ⟨c,_,hs,hc,t,u,rfl,ht,hu⟩ := h
        exact ⟨c :: t, u, hs, ⟨c, t, rfl, hc, ht⟩, hu⟩
      · intro h
        obtain ⟨_,u,hs,⟨c,t,rfl,hc,ht⟩,hu⟩ := h
        exact ⟨c, t ++ u, hs, hc, t, u, rfl, ht, hu⟩

theorem like_literal_cons_iff (w : Char) (hw : ¬ Wildcard w) (p s : List Char) :
    like (w :: p) s = true ↔ ∃ t, s = w :: t ∧ like p t = true := by
  have hne : w ≠ '%' ∧ w ≠ '_' := not_or.mp hw
  rw [like_cons_iff w hne.1]
  constructor
  · intro h
    obtain ⟨c,t,hs,hc,ht⟩ := h
    have hwc : w = c := hc.resolve_left hne.2
    exact ⟨t, by rw [hs, hwc], ht⟩
  · intro h
    obtain ⟨t,hs,ht⟩ := h
    exact ⟨w, t, hs, .inr rfl, ht⟩

/-- Every text matches itself as a pattern. -/
theorem like_self (p : List Char) : like p p = true := by
  induction p with
  | nil => rfl
  | cons w p ih =>
    by_cases hw : w = '%'
    · rw [hw, like_percent_cons_iff]
      exact ⟨['%'], p, rfl, ih⟩
    · rw [like_cons_iff w hw]
      exact ⟨w, p, rfl, .inr rfl, ih⟩

theorem like_percent (s : List Char) : like ['%'] s = true := by
  rw [like_percent_cons_iff]
  exact ⟨s, [], (List.append_nil s).symm, rfl⟩

/-- A prefix pattern matches what starts with it as a text, wildcards included. -/
theorem like_append_percent (p s : List Char) : like (p ++ ['%']) (p ++ s) = true := by
  rw [like_append_iff]
  exact ⟨p, s, rfl, like_self p, like_percent s⟩

theorem like_literal_prefix (p s : List Char) (hp : ∀ c ∈ p, ¬ Wildcard c) :
    like (p ++ ['%']) s = true ↔ p <+: s := by
  induction p generalizing s with
  | nil => simp [like_percent]
  | cons w p ih =>
    have hw : ¬ Wildcard w := hp w List.mem_cons_self
    have hrest (t : List Char) : like (p ++ ['%']) t = true ↔ p <+: t :=
      ih t (fun d hd => hp d (List.mem_cons_of_mem _ hd))
    rw [List.cons_append, like_literal_cons_iff w hw]
    simp only [hrest, List.cons_prefix_iff]

/-- A wildcard in a prefix pattern lets in a text that does not start with it. -/
theorem like_wildcard_escape (p : List Char) (hp : ∃ c ∈ p, Wildcard c) :
    ∃ s, like (p ++ ['%']) s = true ∧ ¬ p <+: s := by
  induction p with
  | nil => simp at hp
  | cons w p ih =>
    by_cases hw : Wildcard w
    -- put another character in place of the wildcard
    · have hself : like (p ++ ['%']) p = true := by
        simpa only [List.append_nil] using like_append_percent p []
      refine ⟨'x' :: p, ?_, ?_⟩
      · rw [List.cons_append]
        obtain rfl | rfl := hw
        · rw [like_percent_cons_iff]
          exact ⟨['x'], p, rfl, hself⟩
        · rw [like_cons_iff '_' (by decide)]
          exact ⟨'x', p, rfl, .inl rfl, hself⟩
      · obtain rfl | rfl := hw <;> simp
    · have hrest : ∃ c ∈ p, Wildcard c := by
        obtain ⟨c,hc,hcw⟩ := hp
        obtain rfl | hc := List.mem_cons.mp hc
        · exact False.elim (hw hcw)
        · exact ⟨c, hc, hcw⟩
      obtain ⟨s,hs,hn⟩ := ih hrest
      refine ⟨w :: s, ?_, ?_⟩
      · rw [List.cons_append, like_literal_cons_iff w hw]
        exact ⟨s, rfl, hs⟩
      · simpa using hn

end Like
end SQL
