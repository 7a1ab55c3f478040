import Clouditor.CloudServiceLists
import Clouditor.EvaluationRun
import Clouditor.Transitions

/-! The jobs of the evaluation service: `StartEvaluation` and `StopEvaluation`, called by any
number of clients, on the scheduler that finds its jobs by their tags. -/
namespace Clouditor
set_option autoImplicit false

inductive AuthorizationStrategy where
  | allowAll
  | jwt (strategy : AuthorizationStrategyJWT)

/-- `AllowedCloudServices`. -/
def AuthorizationStrategy.access : AuthorizationStrategy → CallContext → Access
  | .allowAll, _ => .allowAll
  | .jwt strategy, ctx => strategy.allowedCloudServices ctx

structure StartEvaluationRequest where
  cloudServiceId : String
  catalogId : String
  interval : Option ℤ

structure StopEvaluationRequest where
  cloudServiceId : String
  catalogId : String

/-- A call of `StartEvaluation` with what the orchestrator answers to it. A target of evaluation
is looked up by the two ids of the request. -/
structure StartCall where
  ctx : CallContext
  request : StartEvaluationRequest
  listing : Except Err (List Control)
  toe : Except Err TargetOfEvaluation
  catalog : Except Err Catalog
  toe_ids : ∀ t, toe = .ok t →
    t.cloudServiceId = request.cloudServiceId ∧ t.catalogId = request.catalogId

/-- What the scheduler keeps of a job: the arguments of `evaluateCatalog`. -/
structure EvaluationJob where
  ctx : CallContext
  toe : TargetOfEvaluation
  catalog : Catalog
  interval : ℤ

def EvaluationJob.pair (j : EvaluationJob) : String × String :=
  (j.toe.cloudServiceId, j.toe.catalogId)

/-- The job carries all of some tags. Its own are the two ids. -/
def EvaluationJob.hasTags (j : EvaluationJob) (tags : List String) : Bool :=
  tags.all (fun tag => [j.toe.cloudServiceId, j.toe.catalogId].contains tag)

section Calls

def StartEvaluationRequest.valid (req : StartEvaluationRequest) : Bool :=
  isUuid req.cloudServiceId && req.catalogId ≠ "" && req.interval.all (0 < ·)

def StopEvaluationRequest.valid (req : StopEvaluationRequest) : Bool :=
  isUuid req.cloudServiceId && req.catalogId ≠ ""

def defaultInterval : ℤ := 5

def errInternal (context : String) (e : Err) : Err :=
  ⟨some .internal, context ++ ": " ++ e.error⟩

variable (strategy : AuthorizationStrategy)

/-- `StartEvaluation` up to the lookup of existing jobs. The controls stay cached, whatever
becomes of the call. -/
def EvaluationService.prepareJob (svc : EvaluationService) (call : StartCall) :
    Except Err EvaluationJob × EvaluationService :=
  if !call.request.valid then (.error errInvalidRequest, svc)
  else if !(strategy.access call.ctx).checkAccess call.request.cloudServiceId then
    (.error errPermissionDenied, svc)
  else
    let interval := if call.request.interval.getD 0 = 0 then defaultInterval
      else call.request.interval.getD 0
    match svc.cacheControls call.request.catalogId call.listing with
    | .error e => (.error (errInternal "could not cache controls" e), svc)
    | .ok svc =>
      match call.toe with
      | .error e => (.error (errInternal "could not get target of evaluation" e), svc)
      | .ok toe =>
        match call.catalog with
        | .error e => (.error (errInternal "could not get catalog" e), svc)
        | .ok catalog => (.ok ⟨call.ctx, toe, catalog, interval⟩, svc)

/-- How far a call of `StartEvaluation` has got. -/
inductive StartPhase where
  | notCalled
  | scheduling (job : EvaluationJob)
  | returned (outcome : Except Err Unit)

structure JobBoard where
  svc : EvaluationService
  jobs : List EvaluationJob
  calls : ℕ → StartPhase

def JobBoard.findJobsByTag (b : JobBoard) (tags : List String) : List EvaluationJob :=
  b.jobs.filter (fun j => j.hasTags tags)

def errAlreadyStarted (toe : TargetOfEvaluation) : Err :=
  ⟨some .alreadyExists, "evaluation for Cloud Service '" ++ toe.cloudServiceId ++
    "' and Catalog ID '" ++ toe.catalogId ++ "' already started"⟩

/-- The lookup, which does not reserve anything. -/
def JobBoard.lookupPhase (b : JobBoard) (call : StartCall) : StartPhase :=
  match (b.svc.prepareJob strategy call).1 with
  | .error e => .returned (.error e)
  | .ok job =>
    if (b.findJobsByTag [call.request.cloudServiceId, call.request.catalogId]).length > 0 then
      .returned (.error (errAlreadyStarted job.toe))
    else .scheduling job

/-- `addJobToScheduler`; `failure` is how the scheduler ends. -/
def addJobToScheduler (job : EvaluationJob) (failure : Option Err) : Except Err Unit :=
  if job.interval = 0 then
    .error ⟨some .internal, "evaluation cannot be scheduled: interval is invalid"⟩
  else match failure with
    | some e => .error (errInternal ("evaluation for cloud service '" ++ job.toe.cloudServiceId ++
        "' and catalog ID '" ++ job.catalog.id ++ "' cannot be scheduled") e)
    | none => .ok ()

/-- The answer of `StopEvaluation` and the jobs that stay. -/
def JobBoard.stopEvaluation (b : JobBoard) (ctx : CallContext) (req : StopEvaluationRequest) :
    Except Err Unit × List EvaluationJob :=
  let tags := [req.cloudServiceId, req.catalogId]
  if !req.valid then (.error errInvalidRequest, b.jobs)
  else if !(strategy.access ctx).checkAccess req.cloudServiceId then
    (.error errPermissionDenied, b.jobs)
  else if (b.findJobsByTag tags).length = 0 then
    (.error ⟨some .failedPrecondition, "job for cloud service '" ++ req.cloudServiceId ++
      "' and catalog '" ++ req.catalogId ++ "' not running"⟩, b.jobs)
  else (.ok (), b.jobs.filter (fun j => !j.hasTags tags))

inductive JobOp where
  | lookup (i : ℕ) (call : StartCall)
  | schedule (i : ℕ) (failure : Option Err)
  | stop (ctx : CallContext) (req : StopEvaluationRequest)

def JobBoard.step (b : JobBoard) : JobOp → Option JobBoard
  -- nothing is held between this step and the scheduling
  | .lookup i call =>
    match b.calls i with
    | .notCalled => some { b with
        svc := (b.svc.prepareJob strategy call).2
        calls := Function.update b.calls i (b.lookupPhase strategy call) }
    | _ => none
  | .schedule i failure =>
    match b.calls i with
    | .scheduling job => some { b with
        jobs := if (addJobToScheduler job failure).isOk then b.jobs ++ [job] else b.jobs
        calls := Function.update b.calls i (.returned (addJobToScheduler job failure)) }
    | _ => none
  | .stop ctx req => some { b with jobs := (b.stopEvaluation strategy ctx req).2 }

def JobBoard.start (svc : EvaluationService) : JobBoard := ⟨svc, [], fun _ => .notCalled⟩

end Calls

section Jobs
variable (strategy : AuthorizationStrategy)

/-- No start looks for jobs while another one for the same pair has not got to its scheduling,
and no stop names two ids that are those of a job in the other order. -/
def KeptApart (b : JobBoard) : JobOp → Prop
  | .lookup _ call => ∀ j job, b.calls j = .scheduling job →
      job.pair ≠ (call.request.cloudServiceId, call.request.catalogId)
  | .schedule _ _ => True
  | .stop _ req => req.cloudServiceId ≠ req.catalogId ∧
      ∀ job ∈ b.jobs, job.pair ≠ (req.catalogId, req.cloudServiceId)

/-- A start succeeds only if there is no job of its pair, and a stop that succeeds takes away
the job of its pair and leaves all the others. -/
def ConcernsItsPair (b : JobBoard) : JobOp → Prop
  | .lookup _ _ => True
  | .schedule i failure => ∀ job, b.calls i = .scheduling job →
      (addJobToScheduler job failure).isOk = true → job.pair ∉ b.jobs.map EvaluationJob.pair
  | .stop ctx req => ∀ outcome jobs, b.stopEvaluation strategy ctx req = (outcome, jobs) →
      match outcome with
      | .error _ => jobs = b.jobs
      | .ok _ => (req.cloudServiceId, req.catalogId) ∈ b.jobs.map EvaluationJob.pair ∧
          jobs = b.jobs.filter (fun j => j.pair ≠ (req.cloudServiceId, req.catalogId))

/-- At most one job per pair, and each start that is about to schedule is the only one for a
pair without a job. -/
structure JobsApart (b : JobBoard) : Prop where
  nodup : (b.jobs.map EvaluationJob.pair).Nodup
  free : ∀ i job, b.calls i = .scheduling job → job.pair ∉ b.jobs.map EvaluationJob.pair
  alone : ∀ i j job job', b.calls i = .scheduling job → b.calls j = .scheduling job' →
    job.pair = job'.pair → i = j

theorem hasTags_iff (j : EvaluationJob) (s c : String) :
    j.hasTags [s, c] = true ↔ (s = j.toe.cloudServiceId ∨ s = j.toe.catalogId) ∧
      (c = j.toe.cloudServiceId ∨ c = j.toe.catalogId) := by
  simp [EvaluationJob.hasTags]

/-- Two different ids determine the pair of a job up to its order. -/
theorem pair_of_hasTags (j : EvaluationJob) (s c : String) (hne : s ≠ c)
    (hswap : j.pair ≠ (c, s)) : j.hasTags [s, c] = true ↔ j.pair = (s, c) := by
  rw [hasTags_iff]
  unfold EvaluationJob.pair at hswap ⊢
  rw [Prod.mk.injEq]
  constructor
  · rintro ⟨hs | hs,hc | hc⟩
    · exact absurd (hs.trans hc.symm) hne
    · exact ⟨hs.symm, hc.symm⟩
    · exact absurd (by rw [← hs, ← hc]) hswap
    · exact absurd (hs.trans hc.symm) hne
  · rintro ⟨hs,hc⟩
    exact ⟨.inl hs.symm, .inr hc.symm⟩

theorem hasTags_of_pair (j : EvaluationJob) (s c : String) (h : j.pair = (s, c)) :
    j.hasTags [s, c] = true := by
  obtain ⟨hs,hc⟩ := Prod.mk.inj h
  exact (hasTags_iff j s c).mpr ⟨.inl hs.symm, .inr hc.symm⟩

theorem prepareJob_pair (svc : EvaluationService) (call : StartCall) (job : EvaluationJob)
    (h : (svc.prepareJob strategy call).1 = .ok job) :
    job.pair = (call.request.cloudServiceId, call.request.catalogId) := by
  unfold EvaluationService.prepareJob at h
  split at h
  · cases h
  · split at h
    · cases h
    · simp only at h
      split at h
      · cases h
      · split at h
        · cases h
        · rename_i toe htoe
          split at h
          · cases h
          · cases h
            obtain ⟨hs,hc⟩ := call.toe_ids toe htoe
            exact Prod.ext hs hc

/-- A start gets to its scheduling with the job it has prepared, and finds no other one. -/
theorem lookupPhase_eq_scheduling (b : JobBoard) (call : StartCall) (job : EvaluationJob)
    (h : b.lookupPhase strategy call = .scheduling job) :
    (b.svc.prepareJob strategy call).1 = .ok job ∧
      b.findJobsByTag [call.request.cloudServiceId, call.request.catalogId] = [] := by
  unfold JobBoard.lookupPhase at h
  split at h
  · cases h
  · rename_i hprep
    split at h
    · cases h
    · rename_i hnone
      cases h
      exact ⟨hprep, by simpa using hnone⟩

theorem lookupPhase_scheduling (b : JobBoard) (call : StartCall) (job : EvaluationJob)
    (h : b.lookupPhase strategy call = .scheduling job) :
    job.pair = (call.request.cloudServiceId, call.request.catalogId) ∧
      job.pair ∉ b.jobs.map EvaluationJob.pair := by
  obtain ⟨hprep,hnone⟩ := lookupPhase_eq_scheduling strategy b call job h
  have hpair := prepareJob_pair strategy b.svc call job hprep
  refine ⟨hpair, fun hmem => ?_⟩
  -- a job of the pair would have been found
  obtain ⟨old,hold,heq⟩ := List.mem_map.mp hmem
  have hfound : old ∈ b.findJobsByTag [call.request.cloudServiceId, call.request.catalogId] :=
    List.mem_filter.mpr ⟨hold, hasTags_of_pair old _ _ (heq.trans hpair)⟩
  rw [hnone] at hfound
  cases hfound

theorem jobsApart_lookup (b b' : JobBoard) (i : ℕ) (call : StartCall) (hb : JobsApart b)
    (hkept : KeptApart b (.lookup i call)) (hstep : b.step strategy (.lookup i call) = some b') :
    JobsApart b' := by
  simp only [JobBoard.step] at hstep
  split at hstep
  · cases hstep
    have hnew (job : EvaluationJob) := lookupPhase_scheduling strategy b call job
    refine ⟨hb.nodup, fun j job hj => ?_, fun j k job job' hj hk heq => ?_⟩
    · rcases Transitions.update_eq_cases hj with ⟨_,hphase⟩ | ⟨_,hold⟩
      · exact (hnew job hphase).2
      · exact hb.free j job hold
    · -- another start for the pair would still be on its way
      rcases Transitions.update_eq_cases hj with ⟨hji,hphase⟩ | ⟨_,hold⟩
      · rcases Transitions.update_eq_cases hk with ⟨hki,_⟩ | ⟨_,hold'⟩
        · rw [hji, hki]
        · exact absurd (heq.symm.trans (hnew job hphase).1) (hkept k job' hold')
      · rcases Transitions.update_eq_cases hk with ⟨_,hphase'⟩ | ⟨_,hold'⟩
        · exact absurd (heq.trans (hnew job' hphase').1) (hkept j job hold)
        · exact hb.alone j k job job' hold hold' heq
  · cases hstep

theorem jobsApart_schedule (b b' : JobBoard) (i : ℕ) (failure : Option Err) (hb : JobsApart b)
    (hstep : b.step strategy (.schedule i failure) = some b') : JobsApart b' := by
  simp only [JobBoard.step] at hstep
  split at hstep
  · rename_i job hi
    cases hstep
    -- the call itself has returned, so only the others are left
    have hother (j : ℕ) (job' : EvaluationJob) (hj : Function.update b.calls i
        (.returned (addJobToScheduler job failure)) j = .scheduling job') :
        j ≠ i ∧ b.calls j = .scheduling job' := by
      rcases Transitions.update_eq_cases hj with ⟨_,hphase⟩ | hold
      · cases hphase
      · exact hold
    refine ⟨?_, fun j job' hj => ?_, fun j k job₁ job₂ hj hk heq =>
      hb.alone j k job₁ job₂ (hother j job₁ hj).2 (hother k job₂ hk).2 heq⟩
    · simp only
      split
      · rw [List.map_append, List.map_singleton, List.nodup_append]
        refine ⟨hb.nodup, List.nodup_singleton _, ?_⟩
        intro p hp q hq hpq
        rw [List.mem_singleton] at hq
        exact hb.free i job hi (by rw [← hq, ← hpq]; exact hp)
      · exact hb.nodup
    · obtain ⟨hne,hold⟩ := hother j job' hj
      have hfree := hb.free j job' hold
      simp only
      split
      · rw [List.map_append, List.mem_append, not_or, List.map_singleton, List.mem_singleton]
        exact ⟨hfree, fun heq => hne (hb.alone j i job' job hold hi heq)⟩
      · exact hfree
  · cases hstep

theorem stopEvaluation_sublist (b : JobBoard) (ctx : CallContext) (req : StopEvaluationRequest) :
    (b.stopEvaluation strategy ctx req).2.Sublist b.jobs := by
  unfold JobBoard.stopEvaluation
  simp only
  split
  · exact List.Sublist.refl _
  · split
    · exact List.Sublist.refl _
    · split
      · exact List.Sublist.refl _
      · exact List.filter_sublist

theorem jobsApart_step (b : JobBoard) (op : JobOp) (b' : JobBoard) (hb : JobsApart b)
    (hkept : KeptApart b op) (hstep : b.step strategy op = some b') : JobsApart b' := by
  cases op with
  | lookup i call => exact jobsApart_lookup strategy b b' i call hb hkept hstep
  | schedule i failure => exact jobsApart_schedule strategy b b' i failure hb hstep
  | stop ctx req =>
    cases hstep
    have hsub := (stopEvaluation_sublist strategy b ctx req).map EvaluationJob.pair
    exact ⟨hb.nodup.sublist hsub, fun i job hi hmem => hb.free i job hi (hsub.subset hmem),
      hb.alone⟩

theorem stop_concernsItsPair (b : JobBoard) (ctx : CallContext) (req : StopEvaluationRequest)
    (hkept : KeptApart b (.stop ctx req)) : ConcernsItsPair strategy b (.stop ctx req) := by
  obtain ⟨hne,hswap⟩ := hkept
  have htags (j : EvaluationJob) (hj : j ∈ b.jobs) := pair_of_hasTags j req.cloudServiceId
    req.catalogId hne (hswap j hj)
  intro outcome jobs h
  unfold JobBoard.stopEvaluation at h
  simp only at h
  split at h
  · cases h
    rfl
  · split at h
    · cases h
      rfl
    · split at h
      · cases h
        rfl
      · rename_i hfound
        cases h
        constructor
        · obtain ⟨j,hj⟩ := List.exists_mem_of_length_pos (Nat.pos_of_ne_zero hfound)
          obtain ⟨hmem,hhas⟩ := List.mem_filter.mp hj
          exact List.mem_map.mpr ⟨j, hmem, (htags j hmem).mp hhas⟩
        · apply List.filter_congr
          intro j hj
          rw [Bool.eq_iff_iff, Bool.not_eq_true', decide_eq_true_eq, ← Bool.not_eq_true,
            htags j hj]

/-- In every run that keeps starts of one pair apart and stops to pairs of two ids in one
order, a pair has at most one job, and every call concerns the job of its own pair. -/
theorem jobs_stay_apart (svc : EvaluationService) (ops : List JobOp) (b : JobBoard)
    (hkept : Transitions.Allowed (JobBoard.step strategy) KeptApart (.start svc) ops)
    (hrun : Transitions.run (JobBoard.step strategy) (.start svc) ops = some b) :
    (b.jobs.map EvaluationJob.pair).Nodup ∧
      ∀ op, KeptApart b op → ConcernsItsPair strategy b op := by
  have hstart : JobsApart (JobBoard.start svc) := by
    refine ⟨List.nodup_nil, ?_, ?_⟩
    · intro i job h
      cases h
    · intro i j job job' h
      cases h
  have hb := Transitions.invariant_run (jobsApart_step strategy) ops _ b hstart hkept hrun
  refine ⟨hb.nodup, fun op hop => ?_⟩
  cases op with
  | lookup i call => trivial
  | schedule i failure => exact fun job hjob _ => hb.free i job hjob
  | stop ctx req => exact stop_concernsItsPair strategy b ctx req hop

/-- A call that the orchestrator answers with a catalog of one control. -/
def startCall (cloudServiceId catalogId : String) : StartCall where
  ctx := .noBearer
  request := ⟨cloudServiceId, catalogId, none⟩
  listing := .ok [⟨"OPS-01", "OPS", catalogId, [], ["BootLoggingEnabled"], none, none⟩]
  toe := .ok ⟨cloudServiceId, catalogId, none⟩
  catalog := .ok ⟨catalogId, []⟩
  toe_ids := by
    intro t ht
    cases ht
    exact ⟨rfl, rfl⟩

/-- One evaluation is started and stopped again. -/
def oneEvaluation : List JobOp :=
  [.lookup 0 (startCall "11111111-1111-1111-1111-111111111111" "EUCS"), .schedule 0 none,
    .stop .noBearer ⟨"11111111-1111-1111-1111-111111111111", "EUCS"⟩]

theorem jobs_stay_apart_once :
    ∃ b, Transitions.run (JobBoard.step .allowAll) (.start ⟨∅⟩) oneEvaluation = some b ∧
      (b.jobs.map EvaluationJob.pair).Nodup := by
  obtain ⟨b,hrun⟩ : ∃ b, Transitions.run (JobBoard.step .allowAll) (.start ⟨∅⟩) oneEvaluation =
      some b := ⟨_, rfl⟩
  have hkept : Transitions.Allowed (JobBoard.step .allowAll) KeptApart (.start ⟨∅⟩)
      oneEvaluation := by
    refine ⟨?_, fun b₁ h₁ => ⟨trivial, fun b₂ h₂ => ?_⟩⟩
    · intro j job hj
      cases hj
    cases h₁
    cases h₂
    refine ⟨⟨by decide, fun job hjob => ?_⟩, fun _ _ => trivial⟩
    rw [List.mem_singleton.mp hjob]
    decide
  exact ⟨b, hrun, (jobs_stay_apart .allowAll ⟨∅⟩ oneEvaluation b hkept hrun).1⟩

/-- Two starts of one pair look for jobs before either has scheduled its own. And the job of a
service with a catalog that is named like a second service falls to a stop with both names
exchanged. -/
theorem starts_overlap_and_tags_are_unordered :
    (∃ b, Transitions.run (JobBoard.step .allowAll) (.start ⟨∅⟩)
        [.lookup 0 (startCall "11111111-1111-1111-1111-111111111111" "EUCS"),
          .lookup 1 (startCall "11111111-1111-1111-1111-111111111111" "EUCS"),
          .schedule 0 none, .schedule 1 none] = some b ∧
      b.jobs.map EvaluationJob.pair = [("11111111-1111-1111-1111-111111111111", "EUCS"),
        ("11111111-1111-1111-1111-111111111111", "EUCS")]) ∧
    ∃ b, Transitions.run (JobBoard.step .allowAll) (.start ⟨∅⟩)
        [.lookup 0 (startCall "11111111-1111-1111-1111-111111111111"
          "22222222-2222-2222-2222-222222222222"), .schedule 0 none] = some b ∧
      b.jobs.map EvaluationJob.pair = [("11111111-1111-1111-1111-111111111111",
        "22222222-2222-2222-2222-222222222222")] ∧
      b.stopEvaluation .allowAll .noBearer ⟨"22222222-2222-2222-2222-222222222222",
        "11111111-1111-1111-1111-111111111111"⟩ = (.ok (), []) := by
  exact ⟨⟨_, rfl, rfl⟩, _, rfl, rfl, rfl⟩

end Jobs
end Clouditor
