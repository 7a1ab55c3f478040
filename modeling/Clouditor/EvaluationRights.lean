import Clouditor.EvaluationJobs

/-! The rights with which a scheduled evaluation lists the manual results of its service. -/
namespace Clouditor
set_option autoImplicit false

/-- `context.Background()`, which carries nothing of a caller. -/
def CallContext.background : CallContext := .noBearer

/-- `ListAllPaginated` has no context of its caller to hand on. -/
def listAllInBackground {α : Type}
    (list : CallContext → PageTokenText → Except Err (List α × PageTokenText)) (calls : ℕ) :
    Option (Except Err (List α)) :=
  listAllPaginated (list .background) calls .empty

section Jobs
variable (job : EvaluationJob) (strategy : AuthorizationStrategy)
  (E : SQL.Engine EvaluationResult EvaluationResult.timestamp) (now : Time)
  (table : List EvaluationResult)

def EvaluationJob.manualRequest : ListEvaluationResultsRequest :=
  Clouditor.manualRequest job.toe.cloudServiceId job.toe.catalogId

/-- The manual results that a run of the job starts from. -/
def EvaluationJob.manualResults (calls : ℕ) : Option (Except Err (List EvaluationResult)) :=
  listAllInBackground (fun ctx t =>
    listEvaluationResults E (strategy.access ctx) now table (job.manualRequest.withToken t)) calls

/-- One run of the job. The context it was scheduled with is not among the arguments of the
list call. -/
def EvaluationJob.run (env : EvaluationEnv) (svc : EvaluationService) : EvaluationRun :=
  evaluateCatalog env svc job.toe job.catalog E (strategy.access .background) now table

/-- The run does not end for a lack of rights, and starts from what the caller of
`StartEvaluation` would be shown. -/
def HasRightsOf (ctx : CallContext) (env : EvaluationEnv) (svc : EvaluationService) : Prop :=
  (job.run strategy E now table env svc).err.bind Err.code ≠ some .permissionDenied ∧
  ∀ calls, 0 < calls → job.manualResults strategy E now table calls =
    some ((listEvaluationResults E (strategy.access ctx) now table job.manualRequest).map Prod.fst)

/-- The latest results come without pages, so one call is all it takes. -/
theorem manualResults_eq (calls : ℕ) (hcalls : 0 < calls) :
    job.manualResults strategy E now table calls = some ((listEvaluationResults E
      (strategy.access .background) now table job.manualRequest).map Prod.fst) := by
  obtain ⟨n,rfl⟩ := Nat.exists_eq_succ_of_ne_zero hcalls.ne'
  have hfirst : job.manualRequest.withToken .empty = job.manualRequest := rfl
  unfold EvaluationJob.manualResults listAllInBackground listAllPaginated
  simp only [hfirst]
  cases hl : listEvaluationResults E (strategy.access .background) now table
      job.manualRequest with
  | error e => rfl
  | ok res =>
    have hacc := accepted_of_ok E _ now table _ res rfl hl
    obtain ⟨out,hout,_⟩ := listEvaluationResults_latest E _ now table _ hacc rfl
    cases hl.symm.trans hout
    rfl

end Jobs

section Codes

variable (env : EvaluationEnv) (svc : EvaluationService) (toe : TargetOfEvaluation)

theorem getControl_code (catalogId categoryName controlId : String) (e : Err)
    (h : svc.getControl catalogId categoryName controlId = .error e) : e.code = none := by
  unfold EvaluationService.getControl at h
  split at h
  · cases h
    rfl
  · split at h
    · cases h
      rfl
    · split at h
      · cases h
        rfl
      · split at h
        · cases h
          rfl
        · cases h

theorem getAllMetricsFromControl_code (catalogId categoryName controlId : String) (e : Err)
    (h : svc.getAllMetricsFromControl catalogId categoryName controlId = .error e) :
    e.code = none := by
  unfold EvaluationService.getAllMetricsFromControl at h
  split at h
  · rename_i e' hget
    cases h
    exact getControl_code svc _ _ _ e' hget
  · rename_i control _
    split at h
    · split at h
      · rename_i e' hsub
        cases h
        unfold EvaluationService.getMetricsFromSubcontrols at hsub
        cases hm : control.controls.mapM
            (fun c => svc.getControl c.categoryCatalogId c.categoryName c.id) with
        | error err =>
          rw [hm] at hsub
          cases hsub
          obtain ⟨c,_,hc⟩ := mapM_eq_error hm
          exact getControl_code svc _ _ _ e' hc
        | ok _ =>
          rw [hm] at hsub
          cases hsub
      · cases h
    · cases h

theorem evaluateSubcontrol_code (hdb : ∀ r e, env.create r = some e → e.code = none)
    (control : Control) (e : Err) (h : evaluateSubcontrol env svc toe control = .error e) :
    e.code = none := by
  unfold evaluateSubcontrol at h
  split at h
  · rename_i hmetrics
    cases h
    exact getAllMetricsFromControl_code svc _ _ _ e hmetrics
  · split at h
    · rename_i hcreate
      cases h
      exact hdb _ _ hcreate
    · cases h

/-- Nothing that goes wrong with one control is a question of rights. -/
theorem evaluateControl_code (hdb : ∀ r e, env.create r = some e → e.code = none)
    (catalog : Catalog) (control : Control) (manual : List EvaluationResult) (e : Err)
    (h : (evaluateControl env svc toe catalog control manual).err = some e) : e.code = none := by
  unfold evaluateControl at h
  simp only at h
  split at h
  · rename_i e' hfirst
    cases h
    obtain ⟨outcome,hmem,herr⟩ := List.exists_of_findSome?_eq_some hfirst
    obtain ⟨sub,_,rfl⟩ := List.mem_map.mp hmem
    cases hsub : evaluateSubcontrol env svc toe sub with
    | error err =>
      rw [hsub] at herr
      cases herr
      exact evaluateSubcontrol_code env svc toe hdb sub _ hsub
    | ok r =>
      rw [hsub] at herr
      cases herr
  · split at h
    · rename_i hcreate
      cases h
      exact hdb _ _ hcreate
    · cases h

end Codes

section Rights

theorem prepareJob_accepted (strategy : AuthorizationStrategy) (svc : EvaluationService)
    (call : StartCall) (job : EvaluationJob) (h : (svc.prepareJob strategy call).1 = .ok job) :
    call.request.valid = true ∧
      (strategy.access call.ctx).checkAccess call.request.cloudServiceId = true := by
  unfold EvaluationService.prepareJob at h
  split at h
  · cases h
  · rename_i hvalid
    split at h
    · cases h
    · rename_i haccess
      exact ⟨by simpa using hvalid, by simpa using haccess⟩

/-- The manual request of an accepted job is valid, and permitted to whoever has access to the
service. -/
theorem manualRequest_checks (strategy : AuthorizationStrategy) (svc : EvaluationService)
    (call : StartCall) (job : EvaluationJob) (h : (svc.prepareJob strategy call).1 = .ok job) :
    job.manualRequest.valid = true ∧
      ∀ a : Access, job.manualRequest.permitted a = a.checkAccess call.request.cloudServiceId := by
  obtain ⟨hs,hc⟩ := Prod.mk.inj (prepareJob_pair strategy svc call job h)
  have hvalid := (prepareJob_accepted strategy svc call job h).1
  simp only [StartEvaluationRequest.valid, Bool.and_eq_true, decide_eq_true_eq] at hvalid
  constructor
  · simp [EvaluationJob.manualRequest, manualRequest, ListEvaluationResultsRequest.valid,
      EvaluationFilter.valid, hs, hc, hvalid.1.1, hvalid.1.2]
  · intro a
    simp [EvaluationJob.manualRequest, manualRequest, ListEvaluationResultsRequest.permitted, hs]

section Runs
variable (E : SQL.Engine EvaluationResult EvaluationResult.timestamp) (now : Time)
  (table : List EvaluationResult) (env : EvaluationEnv) (svc : EvaluationService)
  (job : EvaluationJob)

theorem run_denied (strategy : AuthorizationStrategy) (hvalid : job.manualRequest.valid = true)
    (hno : job.manualRequest.permitted (strategy.access .background) = false) :
    (job.run strategy E now table env svc).err = some errPermissionDenied := by
  have hplan : catalogPlan svc job.toe job.catalog E (strategy.access .background) now table =
      .error errPermissionDenied := by
    change Except.map _ (listEvaluationResults E _ now table job.manualRequest) = _
    simp [listEvaluationResults, hvalid, hno, Except.map]
  rw [EvaluationJob.run, evaluateCatalog_of_error _ _ _ _ _ _ _ _ _ hplan]

/-- After the list of manual results a run can only fail with errors that have no code. -/
theorem run_code (strategy : AuthorizationStrategy)
    (hdb : ∀ r e, env.create r = some e → e.code = none)
    (plan : List (Control × List EvaluationResult))
    (hplan : catalogPlan svc job.toe job.catalog E (strategy.access .background) now table =
      .ok plan) : (job.run strategy E now table env svc).err.bind Err.code = none := by
  rw [EvaluationJob.run, evaluateCatalog_of_plan _ _ _ _ _ _ _ _ plan hplan]
  apply Option.bind_eq_none_iff.mpr
  intro e he
  obtain ⟨p,_,herr⟩ := List.exists_of_findSome?_eq_some he
  exact evaluateControl_code env svc job.toe hdb job.catalog p.1 p.2 e herr

end Runs

/-- Whoever has started an evaluation, its runs have the rights of that caller exactly if the
strategy does not look at the caller. -/
theorem job_has_rights_iff (strategy : AuthorizationStrategy) (b : JobBoard) (call : StartCall)
    (job : EvaluationJob) (hstart : b.lookupPhase strategy call = .scheduling job)
    (E : SQL.Engine EvaluationResult EvaluationResult.timestamp) (now : Time)
    (table : List EvaluationResult) (env : EvaluationEnv) (svc : EvaluationService)
    (hdb : ∀ r e, env.create r = some e → e.code = none) :
    HasRightsOf job strategy E now table call.ctx env svc ↔ strategy = .allowAll := by
  have hprep := (lookupPhase_eq_scheduling strategy b call job hstart).1
  obtain ⟨hvalid,hpermitted⟩ := manualRequest_checks strategy b.svc call job hprep
  cases strategy with
  | jwt s =>
    refine iff_of_false (fun h => h.1 ?_) (by simp)
    -- without a token the strategy allows no service
    have hno : job.manualRequest.permitted
        ((AuthorizationStrategy.jwt s).access .background) = false := by
      rw [hpermitted]
      rfl
    rw [run_denied E now table env svc job (.jwt s) hvalid hno]
    rfl
  | allowAll =>
    have hyes : job.manualRequest.permitted .allowAll = true := by
      rw [hpermitted]
      rfl
    obtain ⟨plan,hplan⟩ := catalogPlan_of_accepted svc job.toe job.catalog E .allowAll now table
      ⟨hvalid, hyes, .inl rfl⟩
    refine iff_of_true ⟨?_, manualResults_eq job .allowAll E now table⟩ rfl
    rw [run_code E now table env svc job .allowAll hdb plan hplan]
    simp

/-- A database that takes every result, and an orchestrator without assessment results. -/
def quietEnv : EvaluationEnv where
  listAssessmentResults _ _ := .ok []
  create _ := none
  newId _ := "33333333-3333-3333-3333-333333333333"
  now _ := 0

def quietEngine : SQL.Engine EvaluationResult EvaluationResult.timestamp :=
  SQL.Engine.inTableOrder true EvaluationResult.timestamp

theorem job_has_rights_allowAll :
    ∃ job, (JobBoard.start ⟨∅⟩).lookupPhase .allowAll
        (startCall "11111111-1111-1111-1111-111111111111" "EUCS") = .scheduling job ∧
      HasRightsOf job .allowAll quietEngine 0 [] .noBearer quietEnv ⟨∅⟩ := by
  obtain ⟨job,hjob⟩ : ∃ job, (JobBoard.start ⟨∅⟩).lookupPhase .allowAll
      (startCall "11111111-1111-1111-1111-111111111111" "EUCS") = .scheduling job := ⟨_, rfl⟩
  refine ⟨job, hjob, ?_⟩
  refine (job_has_rights_iff .allowAll (.start ⟨∅⟩) (startCall _ _) job hjob quietEngine 0 []
    quietEnv ⟨∅⟩ ?_).mpr rfl
  intro r e h
  cases h

/-- The same call with a token for all services. -/
def adminCall : StartCall :=
  { startCall "11111111-1111-1111-1111-111111111111" "EUCS" with
    ctx := .token [("cladmin", .bool true)] }

/-- An administrator starts an evaluation, and none of its runs gets past the access check. -/
theorem job_of_administrator_is_denied :
    ∃ job, (JobBoard.start ⟨∅⟩).lookupPhase (.jwt sampleStrategy) adminCall = .scheduling job ∧
      (job.run (.jwt sampleStrategy) quietEngine 0 [] quietEnv ⟨∅⟩).err =
        some errPermissionDenied ∧
      listEvaluationResults quietEngine ((AuthorizationStrategy.jwt sampleStrategy).access
        adminCall.ctx) 0 [] job.manualRequest = .ok ([], .empty) := by
  exact ⟨_, rfl, rfl, rfl⟩

end Rights
end Clouditor
