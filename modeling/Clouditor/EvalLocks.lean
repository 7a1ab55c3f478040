import Clouditor.LockPrograms
import Clouditor.RegoEval

/-! The locks of the policy evaluation: `Eval` holds the write lock of the metric cache while it
fills it, and within it every policy takes the lock of the query cache. -/
namespace Clouditor
set_option autoImplicit false

open Locking

inductive EvalLock where
  | mrtc
  | qc
  deriving DecidableEq

/-- The query cache is locked inside of the metric cache. -/
def EvalLock.rank : EvalLock → ℕ
  | .mrtc => 0
  | .qc => 1

def unlocked : EvalLock → RWLock := fun _ => .free

section Programs
variable {I σ : Type} (opa : OPA I) (source : Source σ)

abbrev EvalProg (A : Type) := Prog EvalLock (RegoState σ opa.Query) A

/-- `queryCache.Get`, which unlocks on return whatever the outcome. -/
def getQuery (serviceId metricId : String) (config : MetricConfiguration) :
    EvalProg (σ := σ) opa (Except Err opa.Query) :=
  .locked .qc (.access (fun st =>
    let got := Memo.getOr st.qc (queryKey metricId serviceId config)
      (prepareQuery opa metricId config (source.metricImplementation st.source metricId))
    (got.1, { st with qc := got.2 })))

def evalMapProg (serviceId metricId : String) (input : I) :
    EvalProg (σ := σ) opa (Except Err (Option PolicyResult)) :=
  .bind (.access (fun st =>
    let config := source.metricConfiguration st.source serviceId metricId
    (config.1, { st with source := config.2 }))) fun
  | .error e =>
    .ret (.error (e.wrap ("could not fetch metric configuration for metric " ++ metricId)))
  | .ok config => .bind (getQuery opa source serviceId metricId config) fun
    | .error e =>
      .ret (.error (e.wrap ("could not fetch cached query for metric " ++ metricId)))
    | .ok query =>
      match runQuery opa metricId query input with
      -- a failed type assertion
      | none => .fault
      | some v => .ret v

def metricLoopProg (skip : Err → Bool) (serviceId : String) (input : I) :
    List String → EvalProg (σ := σ) opa (Except Err (List PolicyResult))
  | [] => .ret (.ok [])
  | m :: ms => .bind (evalMapProg opa source serviceId m input) fun
    | .error e => if skip e then metricLoopProg skip serviceId input ms else .ret (.error e)
    | .ok none => metricLoopProg skip serviceId input ms
    | .ok (some r) => .bind (metricLoopProg skip serviceId input ms)
        (fun rest => .ret (rest.map (r :: ·)))

/-- The part of `Eval` under the write lock. The lock is not released by a `defer`, so a fault
inside keeps it. -/
def fillProg (serviceId key : String) (input : I) (metrics : List String) :
    EvalProg (σ := σ) opa (Except Err (List PolicyResult)) :=
  .locked .mrtc (.bind (metricLoopProg opa source ignorable serviceId input metrics) fun
    | .error err => .access (fun st => (.error err, { st with mrtc := st.mrtc.erase key }))
    | .ok data => .access (fun st => (.ok data,
        { st with mrtc := st.mrtc.insert key (data.map PolicyResult.metricId) })))

def evalProg (e : Evidence I) : EvalProg (σ := σ) opa (Except Err (List PolicyResult)) :=
  match e.input with
  | .error err => .ret (.error err)
  | .ok input =>
    .bind (.rlocked .mrtc (.access (fun st => (st.mrtc.lookup (createKey e), st)))) fun
    | some cached => metricLoopProg opa source (fun _ => false) e.cloudServiceId input cached
    | none => .bind (.access (fun st => (source.metrics st.source, st))) fun
      | .error err => .ret (.error (err.wrap "could not retrieve metric definitions"))
      | .ok metrics => fillProg opa source e.cloudServiceId (createKey e) input metrics

/-- `Evict`, called when a metric has changed. -/
def evictProg (metricId : String) : EvalProg (σ := σ) opa (Except Err (List PolicyResult)) :=
  .locked .qc (.access (fun st => (.ok [],
    { st with qc := Memo.evict (fun key => metricId.toList.isPrefixOf key.toList) st.qc })))

end Programs

section Alone
variable {I σ A : Type} (opa : OPA I) (source : Source σ)

/-- The program alone comes to what the function without locks computes. It leaves the locks as
in `locks`, and after a fault as in `kept`. -/
def RunsAs {S : Type} (expected : Option (A × S)) (locks kept : EvalLock → RWLock)
    (out : Outcome EvalLock S A) : Prop :=
  match expected with
  | none => ∃ s, out = .faulted s kept
  | some (a, s) => out = .returned a s locks

theorem exec_getQuery (serviceId metricId : String) (config : MetricConfiguration)
    (st : RegoState σ opa.Query) (locks : EvalLock → RWLock) (hqc : locks .qc = .free) :
    exec (getQuery opa source serviceId metricId config) st locks =
      let got := Memo.getOr st.qc (queryKey metricId serviceId config)
        (prepareQuery opa metricId config (source.metricImplementation st.source metricId))
      .returned got.1 { st with qc := got.2 } locks := by
  rw [getQuery, exec_locked _ _ _ _ hqc, exec_access]
  simp only [Outcome.andThen, exec, LockOp.apply, Function.update_self, if_true,
    Function.update_idem]
  rw [show (⟨false, 0⟩ : RWLock) = locks .qc from hqc.symm, Function.update_eq_self]

theorem runsAs_evalMap (serviceId metricId : String) (input : I) (st : RegoState σ opa.Query)
    (locks : EvalLock → RWLock) (hqc : locks .qc = .free) :
    RunsAs (evalMap opa source st serviceId metricId input) locks locks
      (exec (evalMapProg opa source serviceId metricId input) st locks) := by
  rw [evalMapProg, exec_bind, exec_access]
  unfold evalMap
  simp only [Outcome.andThen]
  rcases source.metricConfiguration st.source serviceId metricId with ⟨e | config,src⟩
  · rfl
  -- the query comes from under the lock of its cache, and is evaluated without it
  · simp only [exec_bind, exec_getQuery opa source serviceId metricId config _ locks hqc,
      Outcome.andThen]
    cases (Memo.getOr st.qc (queryKey metricId serviceId config)
      (prepareQuery opa metricId config (source.metricImplementation src metricId))).1 with
    | error e => rfl
    | ok query =>
      simp only
      cases runQuery opa metricId query input with
      | none => exact ⟨_, rfl⟩
      | some v => rfl

theorem runsAs_metricLoop (skip : Err → Bool) (serviceId : String) (input : I)
    (metrics : List String) (st : RegoState σ opa.Query) (locks : EvalLock → RWLock)
    (hqc : locks .qc = .free) :
    RunsAs (metricLoop opa source skip serviceId input metrics st) locks locks
      (exec (metricLoopProg opa source skip serviceId input metrics) st locks) := by
  induction metrics generalizing st with
  | nil => rfl
  | cons m ms ih =>
    have hm := runsAs_evalMap opa source serviceId m input st locks hqc
    rw [metricLoop, metricLoopProg, exec_bind]
    rcases hev : evalMap opa source st serviceId m input with _ | ⟨v,st'⟩
    · rw [hev] at hm
      obtain ⟨s,hs⟩ := hm
      exact ⟨s, by simp only [hs, Outcome.andThen]⟩
    · rw [hev] at hm
      rw [show exec _ st locks = _ from hm]
      -- the rest of the loop starts with the same locks
      have hrest := ih st'
      rcases v with e | (_ | r)
      · simp only [Outcome.andThen]
        by_cases hskip : skip e = true
        · simpa only [hskip, if_true] using hrest
        · simp only [hskip, Bool.false_eq_true, if_false]
          rfl
      · exact hrest
      · simp only [Outcome.andThen, exec_bind]
        rcases hloop : metricLoop opa source skip serviceId input ms st' with _ | ⟨data,st''⟩
        · rw [hloop] at hrest
          obtain ⟨s,hs⟩ := hrest
          exact ⟨s, by simp only [hs]⟩
        · rw [hloop] at hrest
          rw [show exec _ st' locks = _ from hrest]
          rfl

theorem unlocked_again (rw : RWLock) :
    Function.update (Function.update unlocked .mrtc rw) .mrtc ⟨false, 0⟩ = unlocked := by
  rw [Function.update_idem]
  exact Function.update_eq_self EvalLock.mrtc unlocked

/-- The locks as a fault leaves them: the metric cache stays locked if it is being filled. -/
def keptLocks (st : RegoState σ opa.Query) (e : Evidence I) : EvalLock → RWLock :=
  if (st.mrtc.lookup (createKey e)).isSome then unlocked
  else Function.update unlocked .mrtc ⟨true, 0⟩

theorem runsAs_fill (serviceId key : String) (input : I) (metrics : List String)
    (st : RegoState σ opa.Query) :
    RunsAs (match fillLoop opa source serviceId input metrics st with
      | none => none
      | some (.error err, st) => some (.error err, { st with mrtc := st.mrtc.erase key })
      | some (.ok data, st) => some (.ok data,
          { st with mrtc := st.mrtc.insert key (data.map PolicyResult.metricId) }))
      unlocked (Function.update unlocked .mrtc ⟨true, 0⟩)
      (exec (fillProg opa source serviceId key input metrics) st unlocked) := by
  have hloop := runsAs_metricLoop opa source ignorable serviceId input metrics st
    (Function.update unlocked .mrtc ⟨true, 0⟩) rfl
  rw [fillProg, exec_locked EvalLock.mrtc _ st unlocked rfl, exec_bind, fillLoop]
  rcases hl : metricLoop opa source ignorable serviceId input metrics st with _ | ⟨v,st'⟩
  · rw [hl] at hloop
    obtain ⟨s,hs⟩ := hloop
    exact ⟨s, by simp only [hs, Outcome.andThen]⟩
  · rw [hl] at hloop
    rw [show exec _ st _ = _ from hloop]
    cases v with
    | error err => exact congrArg _ (unlocked_again ⟨true, 0⟩)
    | ok data => exact congrArg _ (unlocked_again ⟨true, 0⟩)

/-- `Eval` with its locks computes what it computes without them. -/
theorem runsAs_eval (st : RegoState σ opa.Query) (e : Evidence I) :
    RunsAs (eval opa source st e) unlocked (keptLocks opa st e)
      (exec (evalProg opa source e) st unlocked) := by
  unfold eval evalProg keptLocks
  cases e.input with
  | error err => rfl
  | ok input =>
    -- the read lock is given back before anything else
    simp only [exec_bind, exec_rlocked _ _ _ _ (rfl : unlocked .mrtc = .free), exec_access,
      Outcome.andThen, exec, LockOp.apply, Function.update_self, one_ne_zero, if_false,
      Nat.sub_self, unlocked_again]
    cases st.mrtc.lookup (createKey e) with
    | some cached =>
      exact runsAs_metricLoop opa source _ e.cloudServiceId input cached st unlocked rfl
    | none =>
      simp only [exec_bind, exec_access, Outcome.andThen, Option.isSome_none, Bool.false_eq_true,
        if_false]
      cases source.metrics st.source with
      | error err => rfl
      | ok metrics => exact runsAs_fill opa source e.cloudServiceId (createKey e) input metrics st

/-- A call that meets no other one ends in the schedule of its thread with what `eval` has. -/
theorem eval_schedule (st st' : RegoState σ opa.Query) (e : Evidence I)
    (answer : Except Err (List PolicyResult)) (h : eval opa source st e = some (answer, st')) :
    ∃ n, Transitions.run step ⟨st, unlocked, [evalProg opa source e]⟩ (List.replicate n 0) =
      some ⟨st', unlocked, [.ret answer]⟩ := by
  have hexec := runsAs_eval opa source st e
  rw [h] at hexec
  refine exec_schedule (evalProg opa source e) (.ret answer) ⟨st, unlocked, [evalProg opa source e]⟩
    0 st' unlocked rfl ?_
  rw [show exec _ st unlocked = _ from hexec]
  rfl

/-- A call of `Eval` on free locks comes back with an answer and leaves the locks free, so that
whatever is evaluated next does not have to wait for them. -/
def EvalReturns (st : RegoState σ opa.Query) (e : Evidence I) : Prop :=
  ∃ answer st', exec (evalProg opa source e) st unlocked = .returned answer st' unlocked ∧
    ∀ e' s locks, exec (evalProg opa source e') st' unlocked ≠ .blocked s locks

theorem eval_not_blocked (st s : RegoState σ opa.Query) (e : Evidence I)
    (locks : EvalLock → RWLock) : exec (evalProg opa source e) st unlocked ≠ .blocked s locks := by
  have h := runsAs_eval opa source st e
  intro hblocked
  rw [hblocked] at h
  cases hev : eval opa source st e with
  | none =>
    rw [hev] at h
    obtain ⟨_,hs⟩ := h
    cases hs
  | some r =>
    rw [hev] at h
    cases h

theorem evalReturns_of_complete (st : RegoState σ opa.Query) (e : Evidence I)
    (h : PoliciesComplete opa source st e) : EvalReturns opa source st e := by
  have hexec := runsAs_eval opa source st e
  rcases hev : eval opa source st e with _ | ⟨answer,st'⟩
  · exact absurd h ((eval_panics_iff opa source st e).mp hev)
  · rw [hev] at hexec
    exact ⟨answer, st', hexec, fun e' s locks => eval_not_blocked opa source st' s e' locks⟩

/-- `Eval` returns, with its locks released, exactly if each policy it gets to binds
`applicable` and `compliant` to booleans and the operator to a string. -/
theorem eval_returns_iff (st : RegoState σ opa.Query) (e : Evidence I) :
    EvalReturns opa source st e ↔ PoliciesComplete opa source st e := by
  constructor
  · intro ⟨answer,st',hexec,_⟩
    by_contra hno
    have hfault := runsAs_eval opa source st e
    rw [(eval_panics_iff opa source st e).mpr hno] at hfault
    obtain ⟨s,hs⟩ := hfault
    cases hs.symm.trans hexec
  · exact evalReturns_of_complete opa source st e

/-- A policy that gives a number as its verdict. -/
def numberOPA : OPA Unit where
  Query := Unit
  prepare _ _ _ := .ok ()
  eval _ _ := .ok [⟨some true, none, some "==", "5", .ok ⟨"==", "5", true, none,
    "PasswordLength", "11111111-1111-1111-1111-111111111111"⟩⟩]

def numberSource : Source Unit where
  metrics _ := .ok ["PasswordLength"]
  metricConfiguration _ s m := (.ok ⟨"==", "5", true, none, m, s⟩, ())
  metricImplementation _ _ := .ok "package clouditor.metrics.password_length\ncompliant = 5"

theorem numberEvidence_uuid : isUuid "11111111-1111-1111-1111-111111111111" = true := by
  decide

def numberEvidence : Evidence Unit where
  cloudServiceId := "11111111-1111-1111-1111-111111111111"
  toolId := "tool"
  types := ["VirtualMachine"]
  input := .ok ()
  service_uuid := numberEvidence_uuid

/-- The first evaluation faults with the metric cache locked, and the next one waits for it. -/
theorem number_verdict_keeps_lock :
    ¬ EvalReturns numberOPA numberSource (RegoState.fresh ()) numberEvidence ∧
    ∃ st locks, exec (evalProg numberOPA numberSource numberEvidence) (RegoState.fresh ())
        unlocked = .faulted st locks ∧
      exec (evalProg numberOPA numberSource numberEvidence) st locks = .blocked st locks := by
  obtain ⟨st,locks,hfault,hblocked⟩ : ∃ st locks,
      exec (evalProg numberOPA numberSource numberEvidence) (RegoState.fresh ()) unlocked =
        .faulted st locks ∧
      exec (evalProg numberOPA numberSource numberEvidence) st locks = .blocked st locks :=
    ⟨_, _, rfl, rfl⟩
  refine ⟨?_, st, locks, hfault, hblocked⟩
  intro ⟨_,_,hreturned,_⟩
  rw [hfault] at hreturned
  cases hreturned

end Alone

section Together
variable {I σ : Type} (opa : OPA I) (source : Source σ)

/-- Every policy binds values of the types that are asserted. -/
def AlwaysComplete : Prop :=
  ∀ query input b rest, opa.eval query input = .ok (b :: rest) → b.Complete

theorem policiesComplete_of_always (h : AlwaysComplete opa) (st : RegoState σ opa.Query)
    (e : Evidence I) : PoliciesComplete opa source st e := by
  have hall (input : I) (metricId : String) (st : RegoState σ opa.Query) :
      PolicyComplete opa source e.cloudServiceId input st metricId :=
    fun _ _ query b rest _ _ hb => h query input b rest hb
  intro input _
  split
  · exact Transitions.allowed_of_forall _ _ (fun m _ st => hall input m st)
  · exact fun metrics _ => Transitions.allowed_of_forall _ _ (fun m _ st => hall input m st)

theorem disciplined_getQuery (serviceId metricId : String) (config : MetricConfiguration)
    (held : EvalLock → Hold) (hqc : held .qc = .out) : Disciplined EvalLock.rank held held
      (getQuery opa source serviceId metricId config) := by
  -- at most the metric cache is locked around it
  refine disciplined_locked hqc (fun l hl _ => ?_) (disciplined_access _)
  cases l with
  | mrtc => exact Nat.one_pos
  | qc => exact absurd rfl hl

theorem disciplined_evalMap (h : AlwaysComplete opa) (serviceId metricId : String) (input : I)
    (held : EvalLock → Hold) (hqc : held .qc = .out) : Disciplined EvalLock.rank held held
      (evalMapProg opa source serviceId metricId input) := by
  refine (disciplined_access _).bind fun config => ?_
  cases config with
  | error e => rfl
  | ok config =>
    refine (disciplined_getQuery opa source serviceId metricId config held hqc).bind fun query => ?_
    cases query with
    | error e => rfl
    | ok query =>
      simp only
      cases hrun : runQuery opa metricId query input with
      | none =>
        obtain ⟨b,rest,hb,hno⟩ := (runQuery_panics_iff opa metricId query input).mp hrun
        exact absurd (h query input b rest hb) hno
      | some v => rfl

theorem disciplined_metricLoop (h : AlwaysComplete opa) (skip : Err → Bool) (serviceId : String)
    (input : I) (metrics : List String) (held : EvalLock → Hold) (hqc : held .qc = .out) :
    Disciplined EvalLock.rank held held
      (metricLoopProg opa source skip serviceId input metrics) := by
  induction metrics with
  | nil => rfl
  | cons m ms ih =>
    refine (disciplined_evalMap opa source h serviceId m input held hqc).bind fun v => ?_
    rcases v with e | (_ | r)
    · simp only
      split
      · exact ih
      · rfl
    · exact ih
    · exact ih.bind fun _ => rfl

theorem disciplined_eval (h : AlwaysComplete opa) (e : Evidence I) :
    Disciplined EvalLock.rank noHold noHold (evalProg opa source e) := by
  have hfirst (l' : EvalLock) (_ : l' ≠ .mrtc) (hl : (noHold : EvalLock → Hold) l' ≠ .out) :
      l'.rank < EvalLock.mrtc.rank := absurd rfl hl
  unfold evalProg
  cases e.input with
  | error err => rfl
  | ok input =>
    refine (disciplined_rlocked rfl hfirst (disciplined_access _)).bind fun cached => ?_
    cases cached with
    | some cached => exact disciplined_metricLoop opa source h _ _ input cached noHold rfl
    | none =>
      refine (disciplined_access _).bind fun metrics => ?_
      cases metrics with
      | error err => rfl
      | ok metrics =>
        refine disciplined_locked rfl hfirst (Disciplined.bind
          (disciplined_metricLoop opa source h ignorable _ input metrics _ rfl) fun v => ?_)
        cases v with
        | error err => exact disciplined_access _
        | ok data => exact disciplined_access _

theorem disciplined_evict (metricId : String) : Disciplined EvalLock.rank noHold noHold
    (evictProg (σ := σ) opa metricId) :=
  disciplined_locked rfl (fun _ _ hl => absurd rfl hl) (disciplined_access _)

/-- Any number of evaluations and evictions at the same time. Whatever the schedule, nobody
faults and nobody waits forever: it can be continued to its end, and there all have returned
with the locks free. -/
theorem evals_return_together (h : AlwaysComplete opa) (st : RegoState σ opa.Query)
    (evidences : List (Evidence I)) (metrics : List String) (is : List ℕ)
    (w : World EvalLock (RegoState σ opa.Query) (Except Err (List PolicyResult)))
    (hrun : Transitions.run step ⟨st, unlocked,
      evidences.map (evalProg opa source) ++ metrics.map (evictProg opa)⟩ is = some w) :
    Prog.fault ∉ w.threads ∧
      (∃ is' w', Transitions.run step w is' = some w' ∧ ∀ i, step w' i = none) ∧
      ∀ is' w', Transitions.run step w is' = some w' → (∀ i, step w' i = none) →
        (∀ p ∈ w'.threads, ∃ answer, p = .ret answer) ∧ w'.locks = unlocked := by
  have hstart : Orderly EvalLock.rank (⟨st, unlocked, evidences.map (evalProg opa source) ++
      metrics.map (evictProg opa)⟩ : World _ (RegoState σ opa.Query) _) := by
    apply orderly_start
    intro p hp
    rcases List.mem_append.mp hp with hp | hp
    · obtain ⟨e,_,rfl⟩ := List.mem_map.mp hp
      exact disciplined_eval opa source h e
    · obtain ⟨m,_,rfl⟩ := List.mem_map.mp hp
      exact disciplined_evict opa m
  have hw := hstart.run is hrun
  refine ⟨hw.no_fault, exists_end w, fun is' w' hrun' hend => ?_⟩
  obtain ⟨hret,hfree⟩ := (hw.run is' hrun').all_returned hend
  exact ⟨hret, funext hfree⟩

/-- A policy that binds a verdict. -/
def verdictOPA : OPA Unit where
  Query := Unit
  prepare _ _ _ := .ok ()
  eval _ _ := .ok [⟨some true, some true, some "==", "5", .ok ⟨"==", "5", true, none,
    "PasswordLength", "11111111-1111-1111-1111-111111111111"⟩⟩]

/-- Both evaluations look into the cache before it is filled, and the eviction comes between. -/
theorem two_evals_return : ∃ w, Transitions.run step ⟨RegoState.fresh (), unlocked,
      [numberEvidence, numberEvidence].map (evalProg verdictOPA numberSource) ++
        ["PasswordLength"].map (evictProg verdictOPA)⟩ [0, 1, 2, 0, 1, 2] = some w ∧
    Prog.fault ∉ w.threads := by
  have hcomplete : AlwaysComplete verdictOPA := by
    intro query input b rest h
    cases h
    exact ⟨rfl, rfl, rfl⟩
  obtain ⟨w,hrun⟩ := Option.isSome_iff_exists.mp (show (Transitions.run step
    (⟨RegoState.fresh (), unlocked,
      [numberEvidence, numberEvidence].map (evalProg verdictOPA numberSource) ++
        ["PasswordLength"].map (evictProg verdictOPA)⟩ : World EvalLock _ _)
    [0, 1, 2, 0, 1, 2]).isSome = true from rfl)
  have hreturn := evals_return_together verdictOPA numberSource hcomplete (RegoState.fresh ())
    [numberEvidence, numberEvidence] ["PasswordLength"] [0, 1, 2, 0, 1, 2] w hrun
  exact ⟨w, hrun, hreturn.1⟩

end Together
end Clouditor
