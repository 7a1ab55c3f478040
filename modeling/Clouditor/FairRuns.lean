import Clouditor.Transitions

/-! Infinite runs of a partial step function, in which nothing may happen for a while, and what
weak fairness makes happen. -/
namespace FairRuns
set_option autoImplicit false

section Runs
variable {σ ο : Type} (step : σ → ο → Option σ)

/-- In every instant either nothing happens or an operation that can be done. -/
structure Execution (s₀ : σ) where
  state : ℕ → σ
  op : ℕ → Option ο
  start : state 0 = s₀
  idle : ∀ n, op n = none → state (n + 1) = state n
  next : ∀ n o, op n = some o → step (state n) o = some (state (n + 1))

variable {step} {s₀ : σ}

/-- Operations in `A` that can be done from some instant on forever are done. -/
def Execution.WeaklyFair (e : Execution step s₀) (A : ο → Prop) : Prop :=
  ∀ n, (∀ m, n ≤ m → ∃ o, A o ∧ (step (e.state m) o).isSome) →
    ∃ m o, n ≤ m ∧ e.op m = some o ∧ A o

/-- What the operations of an execution keep holds from then on. -/
theorem Execution.stays (e : Execution step s₀) {P : σ → Prop} {n : ℕ} (h : P (e.state n))
    (hstep : ∀ m o, n ≤ m → e.op m = some o → P (e.state m) → P (e.state (m + 1))) (m : ℕ)
    (hm : n ≤ m) : P (e.state m) := by
  induction m, hm using Nat.le_induction with
  | base => exact h
  | succ m hm ih =>
    cases ho : e.op m with
    | none => rwa [e.idle m ho]
    | some o => exact hstep m o hm ho ih

/-- If `P` stays until `Q`, an operation in `A` leads from `P` to `Q`, and one of them can be
done as long as `P` holds, then `Q` is reached. All that is used about the states from `n` on
can be given as `I`. -/
theorem Execution.leads_to (e : Execution step s₀) {A : ο → Prop} (hfair : e.WeaklyFair A)
    {I P Q : σ → Prop} {n : ℕ} (hI : ∀ m, n ≤ m → I (e.state m))
    (hstay : ∀ s o s', I s → I s' → P s → step s o = some s' → P s' ∨ Q s')
    (hdo : ∀ s o s', I s → I s' → P s → A o → step s o = some s' → Q s')
    (hcan : ∀ s, I s → P s → ∃ o, A o ∧ (step s o).isSome) (hP : P (e.state n)) :
    ∃ m, n ≤ m ∧ Q (e.state m) := by
  by_contra hnever
  have hnot (m : ℕ) (hm : n ≤ m) : ¬ Q (e.state m) := fun hQ => hnever ⟨m, hm, hQ⟩
  -- without `Q` the premise stays forever, and so fairness applies
  have hforever : ∀ m, n ≤ m → P (e.state m) := by
    refine e.stays hP (fun m o hm ho hPm => ?_)
    rcases hstay _ o _ (hI m hm) (hI (m + 1) (by omega)) hPm (e.next m o ho) with h | h
    · exact h
    · exact absurd h (hnot (m + 1) (by omega))
  obtain ⟨m,o,hm,ho,hA⟩ := hfair n (fun m hm => hcan _ (hI m hm) (hforever m hm))
  have hQ := hdo _ o _ (hI m hm) (hI (m + 1) (by omega)) (hforever m hm) hA (e.next m o ho)
  exact hnot (m + 1) (by omega) hQ

end Runs

section Finite
variable {σ ο : Type} {step : σ → ο → Option σ} {s₀ s : σ} {ops : List ο}

theorem exists_prefix (hrun : Transitions.run step s₀ ops = some s) (n : ℕ) :
    ∃ u, Transitions.run step s₀ (ops.take n) = some u ∧
      Transitions.run step u (ops.drop n) = some s := by
  rw [← List.take_append_drop n ops, Transitions.run_append] at hrun
  exact Option.bind_eq_some_iff.mp hrun

/-- The state of a finite run after `n` of its operations, or at its end. -/
def stateAt (step : σ → ο → Option σ) (s₀ s : σ) (ops : List ο) (n : ℕ) : σ :=
  (Transitions.run step s₀ (ops.take n)).getD s

theorem stateAt_idle (n : ℕ) (hn : ops[n]? = none) :
    stateAt step s₀ s ops (n + 1) = stateAt step s₀ s ops n := by
  have hlen : ops.length ≤ n := List.getElem?_eq_none_iff.mp hn
  rw [stateAt, stateAt, List.take_of_length_le hlen, List.take_of_length_le (by omega)]

theorem stateAt_next (hrun : Transitions.run step s₀ ops = some s) (n : ℕ) (o : ο)
    (ho : ops[n]? = some o) :
    step (stateAt step s₀ s ops n) o = some (stateAt step s₀ s ops (n + 1)) := by
  obtain ⟨u,hu,_⟩ := exists_prefix hrun n
  obtain ⟨v,hv,_⟩ := exists_prefix hrun (n + 1)
  rw [stateAt, stateAt, hu, hv, Option.getD_some, Option.getD_some]
  rw [List.take_add_one, ho, Transitions.run_append, hu] at hv
  simpa [Transitions.run] using hv

/-- A finite run, after which nothing happens any more. -/
def ofRun (hrun : Transitions.run step s₀ ops = some s) : Execution step s₀ where
  state := stateAt step s₀ s ops
  op n := ops[n]?
  start := rfl
  idle := stateAt_idle
  next := stateAt_next hrun

theorem ofRun_state_of_le (hrun : Transitions.run step s₀ ops = some s) {n : ℕ}
    (hn : ops.length ≤ n) : (ofRun hrun).state n = s := by
  simp [ofRun, stateAt, List.take_of_length_le hn, hrun]

/-- A run at whose end nothing of `A` can be done is fair to `A`. -/
theorem weaklyFair_ofRun (hrun : Transitions.run step s₀ ops = some s) {A : ο → Prop}
    (hend : ∀ o, A o → step s o = none) : (ofRun hrun).WeaklyFair A := by
  intro n hcan
  obtain ⟨o,ho,hsome⟩ := hcan (max n ops.length) (le_max_left _ _)
  rw [ofRun_state_of_le hrun (le_max_right _ _), hend o ho] at hsome
  cases hsome

end Finite
end FairRuns
