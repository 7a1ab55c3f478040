import Mathlib.Algebra.BigOperators.Group.List.Basic
import Mathlib.Algebra.Ring.Nat

/-! Runs of a partial step function and their invariants, and sums over the parts of a state
of which a step changes one. -/
namespace Transitions
set_option autoImplicit false

section Runs
variable {σ ο : Type} (step : σ → ο → Option σ)

/-- The state after some operations, `none` if one of them cannot be done. -/
def run : σ → List ο → Option σ
  | s, [] => some s
  | s, o :: os => (step s o).bind (fun s => run s os)

/-- Every operation of a run meets `P` in the state in which it is done. -/
def Allowed (P : σ → ο → Prop) : σ → List ο → Prop
  | _, [] => True
  | s, o :: os => P s o ∧ ∀ s', step s o = some s' → Allowed P s' os

theorem run_cons_eq_some (s s' : σ) (o : ο) (os : List ο) :
    run step s (o :: os) = some s' ↔ ∃ u, step s o = some u ∧ run step u os = some s' :=
  Option.bind_eq_some_iff

theorem run_append (s : σ) (os os' : List ο) :
    run step s (os ++ os') = (run step s os).bind (fun s => run step s os') := by
  induction os generalizing s with
  | nil => rfl
  | cons o os ih =>
    simp only [List.cons_append, run]
    cases step s o with
    | none => rfl
    | some u => exact ih u

variable {step}

theorem run_trans {s u s' : σ} {os os' : List ο} (h : run step s os = some u)
    (h' : run step u os' = some s') : run step s (os ++ os') = some s' := by
  rw [run_append, h]
  exact h'

/-- What every allowed step keeps, every allowed run keeps. -/
theorem invariant_run {P : σ → ο → Prop} {Inv : σ → Prop}
    (hstep : ∀ s o s', Inv s → P s o → step s o = some s' → Inv s') (os : List ο) (s s' : σ)
    (h : Inv s) (hP : Allowed step P s os) (hrun : run step s os = some s') : Inv s' := by
  induction os generalizing s with
  | nil =>
    cases hrun
    exact h
  | cons o os ih =>
    obtain ⟨u,hu,hrest⟩ := (run_cons_eq_some step s s' o os).mp hrun
    exact ih u (hstep s o u h hP.1 hu) (hP.2 u hu) hrest

theorem allowed_of_forall {P : σ → ο → Prop} (os : List ο) (s : σ) (h : ∀ o ∈ os, ∀ s, P s o) :
    Allowed step P s os := by
  induction os generalizing s with
  | nil => trivial
  | cons o os ih =>
    exact ⟨h o List.mem_cons_self s,
      fun s' _ => ih s' (fun o' ho' => h o' (List.mem_cons_of_mem o ho'))⟩

/-- In an invariant, operations that meet one condition may be known to meet another. -/
theorem allowed_imp {P Q : σ → ο → Prop} {Inv : σ → Prop}
    (hstep : ∀ s o s', Inv s → P s o → step s o = some s' → Inv s')
    (hQ : ∀ s o, Inv s → P s o → Q s o) (os : List ο) (s : σ) (h : Inv s)
    (hP : Allowed step P s os) : Allowed step Q s os := by
  induction os generalizing s with
  | nil => trivial
  | cons o os ih =>
    exact ⟨hQ s o h hP.1, fun s' hs' => ih s' (hstep s o s' h hP.1 hs') (hP.2 s' hs')⟩

theorem allowed_congr {P Q : σ → ο → Prop} (h : ∀ s o, P s o ↔ Q s o) (os : List ο) (s : σ) :
    Allowed step P s os ↔ Allowed step Q s os := by
  have hall : P = Q := funext₂ (fun s o => propext (h s o))
  rw [hall]

theorem allowed_and {P Q : σ → ο → Prop} (os : List ο) (s : σ) (hP : Allowed step P s os)
    (hQ : Allowed step Q s os) : Allowed step (fun s o => P s o ∧ Q s o) s os := by
  induction os generalizing s with
  | nil => trivial
  | cons o os ih => exact ⟨⟨hP.1, hQ.1⟩, fun s' hs' => ih s' (hP.2 s' hs') (hQ.2 s' hs')⟩

theorem allowed_append {P : σ → ο → Prop} (s s' : σ) (os os' : List ο)
    (h : Allowed step P s os) (hrun : run step s os = some s') (h' : Allowed step P s' os') :
    Allowed step P s (os ++ os') := by
  induction os generalizing s with
  | nil =>
    cases hrun
    exact h'
  | cons o os ih =>
    obtain ⟨u,hu,hrest⟩ := (run_cons_eq_some step s s' o os).mp hrun
    refine ⟨h.1, fun v hv => ?_⟩
    cases hu.symm.trans hv
    exact ih u (h.2 u hu) hrest

/-- An invariant that speaks of what was done before, the last operation first. -/
theorem history_run {Inv : List ο → σ → Prop}
    (hstep : ∀ past s o s', Inv past s → step s o = some s' → Inv (o :: past) s')
    (os past : List ο) (s s' : σ) (h : Inv past s) (hrun : run step s os = some s') :
    Inv (os.reverse ++ past) s' := by
  induction os generalizing past s with
  | nil =>
    cases hrun
    exact h
  | cons o os ih =>
    obtain ⟨u,hu,hrest⟩ := (run_cons_eq_some step s s' o os).mp hrun
    have hlater := ih (o :: past) u (hstep past s o u h hu) hrest
    simpa only [List.reverse_cons, List.append_assoc, List.singleton_append] using hlater

/-- In a run that can be done, an operation is allowed in the state that those before it lead
to. -/
theorem allowed_iff_forall_split {P : σ → ο → Prop} (os : List ο) (s s' : σ)
    (hrun : run step s os = some s') :
    Allowed step P s os ↔ ∀ before o after u u', os = before ++ o :: after →
      run step s before = some u → step u o = some u' → P u o := by
  induction os generalizing s with
  | nil =>
    refine ⟨fun _ before o after u u' hsplit => ?_, fun _ => trivial⟩
    exact absurd hsplit.symm (List.append_ne_nil_of_right_ne_nil before (List.cons_ne_nil o after))
  | cons o os ih =>
    obtain ⟨v,hv,hrest⟩ := (run_cons_eq_some step s s' o os).mp hrun
    constructor
    · rintro ⟨hP,hlater⟩ before o' after u u' hsplit hbefore hu'
      cases before with
      | nil =>
        cases hbefore
        rw [List.nil_append, List.cons.injEq] at hsplit
        rw [← hsplit.1]
        exact hP
      | cons b before =>
        rw [List.cons_append, List.cons.injEq] at hsplit
        obtain ⟨rfl,hos⟩ := hsplit
        obtain ⟨w,hw,hbefore⟩ := (run_cons_eq_some step s u o before).mp hbefore
        cases hv.symm.trans hw
        exact (ih v hrest).mp (hlater v hv) before o' after u u' hos hbefore hu'
    · intro h
      refine ⟨h [] o os s v rfl rfl hv, fun w hw => ?_⟩
      cases hv.symm.trans hw
      apply (ih v hrest).mpr
      intro before o' after u u' hos hbefore hu'
      have hfirst : run step s (o :: before) = some u :=
        (run_cons_eq_some step s u o before).mpr ⟨v, hv, hbefore⟩
      exact h (o :: before) o' after u u' (by rw [hos, List.cons_append]) hfirst hu'

end Runs

/-- Only the part that a step moves is somewhere else afterwards. -/
theorem update_cases {ι β : Type} [DecidableEq ι] {f : ι → β} {i j : ι} {b : β} {q : β → Prop}
    (h : q (Function.update f i b j)) : j = i ∧ q b ∨ j ≠ i ∧ q (f j) := by
  by_cases hij : j = i
  · rw [hij, Function.update_self] at h
    exact .inl ⟨hij, h⟩
  · rw [Function.update_of_ne hij] at h
    exact .inr ⟨hij, h⟩

theorem update_eq_cases {ι β : Type} [DecidableEq ι] {f : ι → β} {i j : ι} {b c : β}
    (h : Function.update f i b j = c) : j = i ∧ b = c ∨ j ≠ i ∧ f j = c :=
  update_cases (q := (· = c)) h

section Sums
variable {α : Type}

/-- A list around the element at an index, and what becomes of it there. -/
theorem exists_around {l : List α} {i : ℕ} {a : α} (h : l[i]? = some a) :
    ∃ front back, front.length = i ∧ l = front ++ a :: back ∧
      (∀ b, l.set i b = front ++ b :: back) ∧ l.eraseIdx i = front ++ back := by
  obtain ⟨hi,ha⟩ := List.getElem?_eq_some_iff.mp h
  refine ⟨l.take i, l.drop (i + 1), List.length_take_of_le (by omega), ?_, fun b => ?_, ?_⟩
  · rw [← ha, ← List.drop_eq_getElem_cons hi, List.take_append_drop]
  · rw [List.set_eq_take_append_cons_drop, if_pos hi]
  · rw [List.eraseIdx_eq_take_drop_succ]

variable (g : α → ℕ)

theorem sum_set (l : List α) (i : ℕ) (a b : α) (h : l[i]? = some a) :
    ((l.set i b).map g).sum + g a = (l.map g).sum + g b := by
  obtain ⟨front,back,_,hl,hset,_⟩ := exists_around h
  rw [hset b, hl]
  simp only [List.map_append, List.map_cons, List.sum_append, List.sum_cons]
  omega

theorem sum_eraseIdx (l : List α) (i : ℕ) (a : α) (h : l[i]? = some a) :
    ((l.eraseIdx i).map g).sum + g a = (l.map g).sum := by
  obtain ⟨front,back,_,hl,_,herase⟩ := exists_around h
  rw [herase, hl]
  simp only [List.map_append, List.map_cons, List.sum_append, List.sum_cons]
  omega

variable {β : Type} [BEq β] (f : α → List β) (x : β)

theorem count_flatMap_set (l : List α) (i : ℕ) (a b : α) (h : l[i]? = some a) :
    ((l.set i b).flatMap f).count x + (f a).count x = (l.flatMap f).count x + (f b).count x := by
  simp only [List.count_flatMap]
  exact sum_set (List.count x ∘ f) l i a b h

theorem count_flatMap_eraseIdx (l : List α) (i : ℕ) (a : α) (h : l[i]? = some a) :
    ((l.eraseIdx i).flatMap f).count x + (f a).count x = (l.flatMap f).count x := by
  simp only [List.count_flatMap]
  exact sum_eraseIdx (List.count x ∘ f) l i a h

end Sums
end Transitions
