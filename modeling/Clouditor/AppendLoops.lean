import Mathlib.Data.List.Basic
import Mathlib.Data.List.Infix

/-! Loops that append to a slice of the state for one element after the other and return at the
first one that fails, with all that was appended before it. -/
namespace AppendLoop
set_option autoImplicit false

section
variable {ξ α ε : Type} (fails : ℕ → ξ → List α → Option ε) (out : ξ → List α)

/-- The slice when the loop ends, and the error if it ends early. An element is tried with its
position and the slice so far. -/
def run : ℕ → List ξ → List α → List α × Option ε
  | _, [], acc => (acc, none)
  | i, x :: xs, acc =>
    match fails i x acc with
    | some e => (acc, some e)
    | none => run (i + 1) xs (acc ++ out x)

theorem run_cons_fails {i : ℕ} {x : ξ} {acc : List α} {e : ε} (h : fails i x acc = some e)
    (xs : List ξ) : run fails out i (x :: xs) acc = (acc, some e) := by
  rw [run, h]

theorem run_cons_continues {i : ℕ} {x : ξ} {acc : List α} (h : fails i x acc = none)
    (xs : List ξ) : run fails out i (x :: xs) acc = run fails out (i + 1) xs (acc ++ out x) := by
  rw [run, h]

theorem acc_prefix_run (i : ℕ) (xs : List ξ) (acc : List α) :
    acc <+: (run fails out i xs acc).1 := by
  induction xs generalizing i acc with
  | nil => exact List.prefix_rfl
  | cons x xs ih =>
    cases h : fails i x acc with
    | some e =>
      rw [run_cons_fails fails out h]
    | none =>
      rw [run_cons_continues fails out h]
      exact (List.prefix_append acc _).trans (ih _ _)

/-- The loop reaches its end when no element fails on what those before it have appended. -/
theorem run_none_iff (i : ℕ) (xs : List ξ) (acc : List α) :
    (run fails out i xs acc).2 = none ↔
      ∀ k x, xs[k]? = some x → fails (i + k) x (acc ++ (xs.take k).flatMap out) = none := by
  induction xs generalizing i acc with
  | nil => simp [run]
  | cons x xs ih =>
    have hshift (k : ℕ) : fails (i + 1 + k) = fails (i + (k + 1)) := by
      rw [Nat.add_assoc, Nat.add_comm 1 k]
    have hacc (k : ℕ) : acc ++ out x ++ (xs.take k).flatMap out =
        acc ++ ((x :: xs).take (k + 1)).flatMap out := by simp
    cases h : fails i x acc with
    | some e =>
      rw [run_cons_fails fails out h]
      constructor
      · nofun
      · intro hall
        have hfirst := hall 0 x rfl
        simp [h] at hfirst
    | none =>
      rw [run_cons_continues fails out h, ih]
      constructor
      · intro hall k y hy
        cases k with
        | zero =>
          cases hy
          simpa using h
        | succ k =>
          have hk := hall k y (by simpa using hy)
          rwa [hshift, hacc] at hk
      · intro hall k y hy
        have hk := hall (k + 1) y (by simpa using hy)
        rwa [← hshift, ← hacc] at hk

theorem run_eq_append (i : ℕ) (xs : List ξ) (acc : List α)
    (h : (run fails out i xs acc).2 = none) :
    (run fails out i xs acc).1 = acc ++ xs.flatMap out := by
  induction xs generalizing i acc with
  | nil => simp [run]
  | cons x xs ih =>
    cases hx : fails i x acc with
    | some e =>
      rw [run_cons_fails fails out hx] at h
      cases h
    | none =>
      rw [run_cons_continues fails out hx] at h ⊢
      rw [ih (i + 1) _ h, List.flatMap_cons, List.append_assoc]

/-- What the first element appends is still there at the end. -/
theorem run_cons_ne (i : ℕ) (x : ξ) (xs : List ξ) (acc : List α) (h : fails i x acc = none)
    (hout : out x ≠ []) : (run fails out i (x :: xs) acc).1 ≠ acc := by
  intro heq
  rw [run_cons_continues fails out h] at heq
  have hlen := (acc_prefix_run fails out (i + 1) xs (acc ++ out x)).length_le
  rw [heq, List.length_append] at hlen
  have hpos := List.length_pos_of_ne_nil hout
  omega

end
end AppendLoop
