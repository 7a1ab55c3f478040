import Clouditor.LockPrograms
import Mathlib.Algebra.Order.BigOperators.Group.List

/-! Threads that are followed by their stages. A stage says what is left of a program and what
the thread holds. Two threads never write under one lock at a time, and with that an invariant of
the stages and the shared state goes through every interleaving. -/
namespace Locking
set_option autoImplicit false

section Stages
variable {L S A G : Type} [DecidableEq L]

/-- What the next operation does to the shared state. -/
def Prog.effect : Prog L S A → S → S
  | .act f _, s => f s
  | _, s => s

/-- The stages that programs go through: what is left, what is held, and the stage that the next
operation leads to from a shared state. -/
structure Staging (L S A G : Type) [DecidableEq L] where
  prog : G → Prog L S A
  hold : G → L → Hold
  next : G → S → G
  lock : ∀ g op l p, prog g = .lock op l p → ∀ s, prog (next g s) = p ∧
    ∃ h, op.move (hold g l) = some h ∧ hold (next g s) = Function.update (hold g) l h
  act : ∀ g f k, prog g = .act f k → ∀ s, prog (next g s) = k s ∧ hold (next g s) = hold g

variable (stg : Staging L S A G)

/-- The threads are at these stages, and together they hold what the locks count. -/
structure Staging.Stands (w : World L S A) (gs : List G) : Prop where
  threads : w.threads = gs.map stg.prog
  readers : ∀ l, (w.locks l).readers = (gs.map (fun g => (stg.hold g l).reads)).sum
  writer : ∀ l, (w.locks l).writer.toNat = (gs.map (fun g => (stg.hold g l).writes)).sum

/-- No two of the threads write under the same lock. -/
def Staging.Exclusive (gs : List G) : Prop :=
  ∀ (i j : ℕ) (g g' : G) (l : L), i ≠ j → gs[i]? = some g → gs[j]? = some g' →
    stg.hold g l = .writing → stg.hold g' l ≠ .writing

variable {stg}

theorem sum_two_le {α : Type} (f : α → ℕ) (l : List α) {i j : ℕ} (hij : i < j) {a b : α}
    (hi : l[i]? = some a) (hj : l[j]? = some b) : f a + f b ≤ (l.map f).sum := by
  obtain ⟨front,back,hlength,hl,_⟩ := Transitions.exists_around hi
  have hmem : b ∈ back := by
    rw [hl, List.getElem?_append_right (by omega), List.getElem?_cons, if_neg (by omega)] at hj
    exact List.mem_of_getElem? hj
  have hb : f b ≤ (back.map f).sum :=
    List.single_le_sum (fun _ _ => Nat.zero_le _) _ (List.mem_map_of_mem hmem)
  rw [hl, List.map_append, List.sum_append, List.map_cons, List.sum_cons]
  omega

theorem Staging.Stands.exclusive {w : World L S A} {gs : List G} (h : stg.Stands w gs) :
    stg.Exclusive gs := by
  have hlt (i j : ℕ) (g g' : G) (l : L) (hij : i < j) (hi : gs[i]? = some g)
      (hj : gs[j]? = some g') (hg : stg.hold g l = .writing) : stg.hold g' l ≠ .writing := by
    intro hg'
    have htwo : (stg.hold g l).writes + (stg.hold g' l).writes ≤ (w.locks l).writer.toNat := by
      rw [h.writer l]
      exact sum_two_le (fun g => (stg.hold g l).writes) gs hij hi hj
    have hone := Bool.toNat_le (w.locks l).writer
    have hwrites : Hold.writing.writes = 1 := rfl
    rw [hg, hg'] at htwo
    omega
  intro i j g g' l hij hi hj hg hg'
  obtain hij | hij := Nat.lt_or_gt_of_ne hij
  · exact hlt i j g g' l hij hi hj hg hg'
  · exact hlt j i g' g l hij hj hi hg' hg

/-- One thread changes what it has of one lock, and the count of that lock follows. -/
theorem Staging.count_next (f : Hold → ℕ) {gs : List G} {i : ℕ} {g g' : G} (hg : gs[i]? = some g)
    {l : L} {h : Hold} (hheld : stg.hold g' = Function.update (stg.hold g) l h) (old new : L → ℕ)
    (hold : ∀ l, old l = (gs.map (fun g => f (stg.hold g l))).sum)
    (hnew : new l + f (stg.hold g l) = old l + f h) (hothers : ∀ l', l' ≠ l → new l' = old l')
    (l' : L) : new l' = ((gs.set i g').map (fun g => f (stg.hold g l'))).sum := by
  have hsum := Transitions.sum_set (fun g => f (stg.hold g l')) gs i g g' hg
  have hl := hold l'
  rw [hheld] at hsum
  by_cases hll : l' = l
  · subst hll
    rw [Function.update_self] at hsum
    omega
  · rw [Function.update_of_ne hll] at hsum
    have hother := hothers l' hll
    omega

/-- One thread goes on to its next stage, and the others stay where they are. -/
theorem Staging.stands_step {w w' : World L S A} {gs : List G} {i : ℕ} (h : stg.Stands w gs)
    (hstep : step w i = some w') :
    ∃ g, gs[i]? = some g ∧ w'.shared = (stg.prog g).effect w.shared ∧
      stg.Stands w' (gs.set i (stg.next g w.shared)) := by
  have hat (p : Prog L S A) (hp : w.threads[i]? = some p) :
      ∃ g, gs[i]? = some g ∧ stg.prog g = p := by
    rw [h.threads, List.getElem?_map] at hp
    exact Option.map_eq_some_iff.mp hp
  obtain ⟨op,l,next,rw,hi,hrw,rfl⟩ | ⟨f,next,hi,rfl⟩ := step_cases hstep
  · obtain ⟨g,hg,hprog⟩ := hat _ hi
    obtain ⟨hnext,hold,hmove,hheld⟩ := stg.lock g op l next hprog w.shared
    obtain ⟨hr,hw⟩ := LockOp.apply_move hrw hmove
    refine ⟨g, hg, by rw [hprog]; rfl, ?_, ?_, ?_⟩
    · rw [List.map_set, hnext, h.threads]
    · apply Staging.count_next Hold.reads hg hheld _ _ h.readers
      · simpa only [Function.update_self] using hr
      · intro l' hl
        simp only [Function.update_of_ne hl]
    · apply Staging.count_next Hold.writes hg hheld _ _ h.writer
      · simpa only [Function.update_self] using hw
      · intro l' hl
        simp only [Function.update_of_ne hl]
  -- an access to the state moves no lock
  · obtain ⟨g,hg,hprog⟩ := hat _ hi
    obtain ⟨hnext,hheld⟩ := stg.act g f next hprog w.shared
    have hsame (l : L) :
        stg.hold (stg.next g w.shared) = Function.update (stg.hold g) l (stg.hold g l) := by
      rw [Function.update_eq_self, hheld]
    refine ⟨g, hg, by rw [hprog]; rfl, ?_, fun l => ?_, fun l => ?_⟩
    · rw [List.map_set, hnext, h.threads]
    · exact Staging.count_next Hold.reads hg (hsame l) _ _ h.readers rfl (fun _ _ => rfl) l
    · exact Staging.count_next Hold.writes hg (hsame l) _ _ h.writer rfl (fun _ _ => rfl) l

/-- Threads that hold nothing yet, and free locks. -/
theorem Staging.stands_start (s : S) (gs : List G) (h : ∀ g ∈ gs, ∀ l, stg.hold g l = .out) :
    stg.Stands ⟨s, fun _ => .free, gs.map stg.prog⟩ gs := by
  have hzero (f : Hold → ℕ) (hf : f .out = 0) (l : L) :
      (gs.map (fun g => f (stg.hold g l))).sum = 0 := by
    apply List.sum_eq_zero
    intro n hn
    obtain ⟨g,hg,rfl⟩ := List.mem_map.mp hn
    rw [h g hg l, hf]
  exact ⟨rfl, fun l => (hzero Hold.reads rfl l).symm, fun l => (hzero Hold.writes rfl l).symm⟩

/-- What every step keeps under the exclusion of the locks holds in every interleaving. -/
theorem Staging.invariant_run {Inv : List G → S → Prop}
    (hinv : ∀ gs s i g, stg.Exclusive gs → Inv gs s → gs[i]? = some g →
      Inv (gs.set i (stg.next g s)) ((stg.prog g).effect s))
    {w w' : World L S A} {gs : List G} (h : stg.Stands w gs) (hw : Inv gs w.shared) (is : List ℕ)
    (hrun : Transitions.run step w is = some w') :
    ∃ gs', stg.Stands w' gs' ∧ Inv gs' w'.shared := by
  have hone (w : World L S A) (i : ℕ) (w' : World L S A)
      (hw : ∃ gs, stg.Stands w gs ∧ Inv gs w.shared) (_ : True) (hstep : step w i = some w') :
      ∃ gs, stg.Stands w' gs ∧ Inv gs w'.shared := by
    obtain ⟨gs,hstands,hInv⟩ := hw
    obtain ⟨g,hg,hshared,hnext⟩ := Staging.stands_step hstands hstep
    refine ⟨_, hnext, ?_⟩
    rw [hshared]
    exact hinv gs w.shared i g hstands.exclusive hInv hg
  exact Transitions.invariant_run (P := fun _ _ => True) hone is w w' ⟨gs, h, hw⟩
    (Transitions.allowed_of_forall is w (fun _ _ _ => trivial)) hrun

end Stages
end Locking
