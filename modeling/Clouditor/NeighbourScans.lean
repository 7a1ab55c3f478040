import Mathlib.Data.List.Basic

/-! Lists that are rewritten element by element, with a separator in front of the elements that
their neighbours mark, and when a second rewriting changes nothing any more. -/
namespace Neighbours
set_option autoImplicit false

section Pairs
variable {α : Type}

/-- The relation holds of every two neighbours, with what follows them. -/
def All (R : α → α → List α → Prop) : List α → Prop
  | [] => True
  | [_] => True
  | p :: a :: after => R p a after ∧ All R (a :: after)

theorem all_cons_cons (R : α → α → List α → Prop) (p a : α) (after : List α) :
    All R (p :: a :: after) ↔ R p a after ∧ All R (a :: after) := Iff.rfl

theorem all_iff_forall_split (R : α → α → List α → Prop) (l : List α) :
    All R l ↔ ∀ before p a after, l = before ++ p :: a :: after → R p a after := by
  induction l with
  | nil => simp [All]
  | cons b l ih =>
    cases l with
    | nil =>
      refine iff_of_true trivial ?_
      intro before p a after h
      have hlength := congrArg List.length h
      simp only [List.length_append, List.length_cons, List.length_nil] at hlength
      omega
    | cons c l =>
      rw [all_cons_cons, ih]
      constructor
      · intro ⟨hfirst, hlater⟩ before p a after h
        cases before with
        | nil =>
          cases h
          exact hfirst
        | cons b' before =>
          exact hlater before p a after (List.cons.inj h).2
      · intro h
        refine ⟨h [] b c l rfl, ?_⟩
        intro before p a after hl
        exact h (b :: before) p a after (by rw [hl, List.cons_append])

theorem all_congr {R S : α → α → List α → Prop} (h : ∀ p a after, R p a after ↔ S p a after)
    (l : List α) : All R l ↔ All S l := by
  have hsame : R = S := funext₃ (fun p a after => propext (h p a after))
  rw [hsame]

end Pairs

/-- How a list is rewritten. The mark of an element is told by the one before, the element, and
the one behind it if there is one. -/
structure Scan (α : Type) where
  mark : α → α → Option α → Bool
  image : α → α
  sep : α

namespace Scan
variable {α : Type} (scan : Scan α)

/-- The rest of a list behind an element. -/
def follow (p : α) : List α → List α
  | [] => []
  | a :: after =>
    if scan.mark p a after.head? then scan.sep :: scan.image a :: follow a after
    else scan.image a :: follow a after

/-- The first element is never marked. -/
def run : List α → List α
  | [] => []
  | a :: after => scan.image a :: scan.follow a after

/-- No element of the list is marked. -/
def Unmarked : List α → Prop := All (fun p a after => scan.mark p a after.head? = false)

theorem length_le_follow (p : α) (l : List α) : l.length ≤ (scan.follow p l).length := by
  induction l generalizing p with
  | nil => exact Nat.le_refl _
  | cons a after ih =>
    have hafter := ih a
    rw [follow]
    split <;> simp only [List.length_cons] <;> omega

theorem follow_eq_self_iff (p : α) (l : List α) :
    scan.follow p l = l ↔ (∀ a ∈ l, scan.image a = a) ∧ scan.Unmarked (p :: l) := by
  induction l generalizing p with
  | nil => simp [follow, Unmarked, All]
  | cons a after ih =>
    have hmarks : scan.Unmarked (p :: a :: after) ↔
        scan.mark p a after.head? = false ∧ scan.Unmarked (a :: after) := Iff.rfl
    rw [follow, hmarks]
    cases hmark : scan.mark p a after.head? with
    | true =>
      -- a separator makes the list longer
      have hlonger := scan.length_le_follow a after
      refine iff_of_false (fun h => ?_) (by simp)
      have hlength := congrArg List.length h
      simp only [if_true, List.length_cons] at hlength
      omega
    | false =>
      simp only [Bool.false_eq_true, if_false, List.cons.injEq, ih a, List.forall_mem_cons,
        true_and, and_assoc]

/-- A list is left as it is if all its elements are, and none is marked. -/
theorem run_eq_self_iff (l : List α) :
    scan.run l = l ↔ (∀ a ∈ l, scan.image a = a) ∧ scan.Unmarked l := by
  cases l with
  | nil => simp [run, Unmarked, All]
  | cons a after => rw [run, List.cons.injEq, follow_eq_self_iff, List.forall_mem_cons, and_assoc]

/-- What the second rewriting sees in the place of a neighbour: the separator if there is one in
between. -/
def seen (marked : Bool) (a : α) : α := if marked then scan.sep else scan.image a

/-- What the second rewriting sees behind an element. -/
def seenNext (a : α) : List α → Option α
  | [] => none
  | b :: after => some (scan.seen (scan.mark a b after.head?) b)

theorem head?_follow (a : α) (l : List α) : (scan.follow a l).head? = scan.seenNext a l := by
  cases l with
  | nil => rfl
  | cons b after =>
    rw [follow, seenNext, seen]
    split <;> rfl

/-- The second rewriting does not mark the element. -/
def Settled (p a : α) (after : List α) : Prop :=
  scan.mark (scan.seen (scan.mark p a after.head?) p) (scan.image a) (scan.seenNext a after) = false

/-- The second rewriting marks what the first one has left without a separator. -/
theorem unmarked_follow_iff (hsep : ∀ p next, scan.mark p scan.sep next = false) (p : α)
    (l : List α) :
    scan.Unmarked (scan.image p :: scan.follow p l) ↔ All scan.Settled (p :: l) := by
  induction l generalizing p with
  | nil => exact Iff.rfl
  | cons a after ih =>
    rw [all_cons_cons, ← ih a, follow, Settled, ← head?_follow]
    cases hmark : scan.mark p a after.head? with
    | true =>
      have hfirst := hsep (scan.image p) (some (scan.image a))
      simp [Unmarked, all_cons_cons, seen, hfirst]
    | false => simp [Unmarked, all_cons_cons, seen]

theorem mem_run {l : List α} {x : α} (h : x ∈ scan.run l) :
    x = scan.sep ∨ ∃ a, x = scan.image a := by
  have hfollow (l : List α) (p : α) (hx : x ∈ scan.follow p l) :
      x = scan.sep ∨ ∃ a, x = scan.image a := by
    induction l generalizing p with
    | nil => cases hx
    | cons a after ih =>
      rw [follow] at hx
      split at hx
      · obtain rfl | rfl | hx := by simpa using hx
        · exact .inl rfl
        · exact .inr ⟨a, rfl⟩
        · exact ih a hx
      · obtain rfl | hx := List.mem_cons.mp hx
        · exact .inr ⟨a, rfl⟩
        · exact ih a hx
  cases l with
  | nil => cases h
  | cons a after =>
    obtain rfl | h := List.mem_cons.mp h
    · exact .inr ⟨a, rfl⟩
    · exact hfollow after a h

/-- If the separator is never marked and the elements are rewritten for good, a second rewriting
changes nothing exactly if it marks nothing. -/
theorem run_run_eq_iff (hsep : ∀ p next, scan.mark p scan.sep next = false)
    (himage : ∀ a, scan.image (scan.image a) = scan.image a)
    (hfixed : scan.image scan.sep = scan.sep) (l : List α) :
    scan.run (scan.run l) = scan.run l ↔ All scan.Settled l := by
  have hkept : ∀ x ∈ scan.run l, scan.image x = x := by
    intro x hx
    obtain rfl | ⟨a, rfl⟩ := scan.mem_run hx
    · exact hfixed
    · exact himage a
  rw [run_eq_self_iff, and_iff_right hkept]
  cases l with
  | nil => exact Iff.rfl
  | cons a after => exact scan.unmarked_follow_iff hsep a after

/-- A loop over the indices of the list whose test sees the whole list computes the run. -/
theorem foldl_zipIdx_eq_run (test : ℕ → Bool) (l : List α)
    (htest : ∀ before p a after, l = before ++ p :: a :: after →
      test (before.length + 1) = scan.mark p a after.head?) :
    l.zipIdx.foldl (fun out r =>
      if r.2 > 0 && test r.2 then out ++ [scan.sep, scan.image r.1] else out ++ [scan.image r.1])
      [] = scan.run l := by
  have hfollow (after before : List α) (p : α) (out : List α) (hl : l = before ++ p :: after) :
      (after.zipIdx (before.length + 1)).foldl (fun out r =>
        if r.2 > 0 && test r.2 then out ++ [scan.sep, scan.image r.1]
        else out ++ [scan.image r.1]) out = out ++ scan.follow p after := by
    -- the invariant of the loop: what is before the index is in `out`
    induction after generalizing before p out with
    | nil => simp [follow]
    | cons a after ih =>
      have hnext : l = (before ++ [p]) ++ a :: after := by simp [hl]
      have hrest := ih (before ++ [p]) a
      rw [List.length_append, List.length_singleton] at hrest
      rw [List.zipIdx_cons, List.foldl_cons, hrest _ hnext, htest before p a after hl, follow]
      cases scan.mark p a after.head? <;> simp
  cases l with
  | nil => rfl
  | cons a after =>
    have hrest := hfollow after [] a [scan.image a] rfl
    rw [List.zipIdx_cons, List.foldl_cons]
    simpa [run] using hrest

end Scan
end Neighbours
