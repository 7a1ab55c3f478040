import Clouditor.ErrorGroups
import Clouditor.EvaluationVerdict

/-! The error groups of a run over a catalog: one for the parent controls, and one below it
for the sub-controls of each of them. -/
namespace Clouditor
open scoped List
set_option autoImplicit false

section Tasks
variable (env : EvaluationEnv) (svc : EvaluationService) (toe : TargetOfEvaluation)
  (catalog : Catalog)

/-- The end of `evaluateControl`, after the sub-controls. -/
def storeControl (control : Control) (manual autos : List EvaluationResult)
    (create : EvaluationResult → Option Err) : Except Err EvaluationResult :=
  let result := controlResult (env.newId control) (env.now control) toe control (autos ++ manual)
  match create result with
  | some e => .error e
  | none => .ok result

/-- `evaluateControl` as a function of the outer group. Each insert may be answered in its own
way, and `evaluateSubcontrol` has no name for its context. -/
def controlTask (p : Control × List EvaluationResult) :
    ErrorGroups.Task (EvaluationResult → Option Err) EvaluationResult Err where
  parts := (relevantSubcontrols toe catalog p.1 p.2).map (fun sub _ create =>
    evaluateSubcontrol { env with create := create } svc toe sub)
  finish := storeControl env toe p.1 p.2

def catalogTasks (plan : List (Control × List EvaluationResult)) :
    List (ErrorGroups.Task (EvaluationResult → Option Err) EvaluationResult Err) :=
  plan.map (controlTask env svc toe catalog)

variable {env svc toe catalog}

theorem evaluateSubcontrol_eq {s : Control} {r : EvaluationResult}
    (h : evaluateSubcontrol env svc toe s = .ok r) :
    ∃ metrics, svc.getAllMetricsFromControl toe.catalogId s.categoryName s.id = .ok metrics ∧
      r = autoResult env toe s metrics := by
  unfold evaluateSubcontrol at h
  split at h
  · cases h
  · rename_i metrics hmetrics
    split at h
    · cases h
    · exact ⟨metrics, hmetrics, (Except.ok.inj h).symm⟩

theorem storeControl_eq {control : Control} {manual autos : List EvaluationResult}
    {create : EvaluationResult → Option Err} {r : EvaluationResult}
    (h : storeControl env toe control manual autos create = .ok r) :
    r = controlResult (env.newId control) (env.now control) toe control (autos ++ manual) := by
  simp only [storeControl] at h
  split at h
  · cases h
  · exact (Except.ok.inj h).symm

end Tasks

section Sequential
variable {env : EvaluationEnv} {svc : EvaluationService} {toe : TargetOfEvaluation}
  {catalog : Catalog}

theorem rows_of_outcomes (outcomes : List (Except Err EvaluationResult)) :
    (outcomes.map some).flatMap ErrorGroups.rowOf = outcomes.filterMap Except.toOption := by
  induction outcomes with
  | nil => rfl
  | cons o l ih =>
    rw [List.map_cons, List.flatMap_cons, ih]
    cases o <;> rfl

theorem findSome_err (outcomes : List (Except Err EvaluationResult)) :
    (outcomes.findSome? Except.err).isSome ↔ ∃ e, some (.error e) ∈ outcomes.map some := by
  rw [List.findSome?_isSome_iff]
  constructor
  · rintro ⟨o,ho,herr⟩
    cases o with
    | error e => exact ⟨e, List.mem_map_of_mem ho⟩
    | ok r => cases herr
  · rintro ⟨e,he⟩
    exact ⟨.error e, by simpa using he, rfl⟩

/-- A control whose inserts are answered as `env` says stores the same rows, and fails in the
same cases, as in the run that takes one control after the other. -/
theorem controlTask_result {p : Control × List EvaluationResult}
    {t : ErrorGroups.Progress EvaluationResult Err} {o : Except Err EvaluationResult}
    (h : ErrorGroups.Sound (· = env.create) (controlTask env svc toe catalog p) t)
    (hr : t.result = some o) :
    t.written = (evaluateControl env svc toe catalog p.1 p.2).stored ∧
      ((∃ e, o = .error e) ↔ (evaluateControl env svc toe catalog p.1 p.2).err.isSome) := by
  obtain ⟨hdone,_,rfl,hout⟩ := h.result o hr
  have hparts : t.parts = ((relevantSubcontrols toe catalog p.1 p.2).map
      (evaluateSubcontrol env svc toe)).map some := by
    rw [h.parts_eq hdone (fun f hf c => ?_), controlTask, List.map_map, List.map_map]
    · rfl
    · obtain ⟨_,_,rfl⟩ := List.mem_map.mp hf
      rfl
  unfold evaluateControl
  generalize (relevantSubcontrols toe catalog p.1 p.2).map (evaluateSubcontrol env svc toe) =
    outcomes at hparts
  have hrows : t.rows = outcomes.filterMap Except.toOption := by
    rw [ErrorGroups.Progress.rows, hparts, rows_of_outcomes]
  have hfail := h.failure
  rw [hparts, ← findSome_err] at hfail
  rw [ErrorGroups.Progress.written, hr, ← hout, ErrorGroups.Progress.outcome]
  cases hf : outcomes.findSome? Except.err with
  | some e =>
    obtain ⟨e',he'⟩ := Option.isSome_iff_exists.mp (hfail.mpr (by rw [hf]; rfl))
    simp [he', hrows, ErrorGroups.rowOf, hf]
  | none =>
    have hnone : t.failure = none := by simpa [hf] using hfail
    simp only [hnone, hrows, controlTask, storeControl]
    cases hc : env.create (controlResult (env.newId p.1) (env.now p.1) toe p.1
        (outcomes.filterMap Except.toOption ++ p.2)) <;> simp [ErrorGroups.rowOf, hf]

variable {E : SQL.Engine EvaluationResult EvaluationResult.timestamp} {a : Access} {now : Time}
  {table : List EvaluationResult} {plan : List (Control × List EvaluationResult)}

/-- In which order ever the functions of the groups end, the rows are those of `evaluateCatalog`
and there is an error in the same cases. -/
theorem groups_evaluateCatalog (hplan : catalogPlan svc toe catalog E a now table = .ok plan)
    (ops : List (ErrorGroups.Op (EvaluationResult → Option Err)))
    (st : ErrorGroups.State EvaluationResult Err) (hanswer : ∀ op ∈ ops, op.answer = env.create)
    (hrun : Transitions.run (ErrorGroups.step (catalogTasks env svc toe catalog plan))
      (ErrorGroups.start (catalogTasks env svc toe catalog plan)) ops = some st)
    (hdone : st.Done) :
    st.stored ~ (evaluateCatalog env svc toe catalog E a now table).stored ∧
      (st.err.isSome ↔ (evaluateCatalog env svc toe catalog E a now table).err.isSome) := by
  have h := ErrorGroups.consistent_run (P := (· = env.create)) ops st hanswer hrun
  have hlen : st.tasks.length = plan.length := by simpa [catalogTasks] using h.length
  have htask (j : ℕ) (hj : j < st.tasks.length) (hj' : j < plan.length) :
      ∃ o, st.tasks[j].result = some o ∧
        ErrorGroups.Sound (· = env.create) (controlTask env svc toe catalog plan[j])
          st.tasks[j] := by
    obtain ⟨o,ho⟩ := Option.isSome_iff_exists.mp (hdone _ (List.getElem_mem hj))
    refine ⟨o, ho, h.sound j _ _ ?_ (List.getElem?_eq_getElem hj)⟩
    simp [catalogTasks, List.getElem?_eq_getElem hj']
  have hwritten : st.tasks.map ErrorGroups.Progress.written =
      plan.map (fun p => (evaluateControl env svc toe catalog p.1 p.2).stored) := by
    apply List.ext_getElem (by simpa using hlen)
    intro j hj hj'
    rw [List.getElem_map, List.getElem_map]
    obtain ⟨o,ho,hsound⟩ := htask j (by simpa using hj) (by simpa using hj')
    exact (controlTask_result hsound ho).1
  rw [evaluateCatalog_of_plan env svc toe catalog E a now table plan hplan]
  constructor
  · have hst := h.stored
    rw [List.flatMap_def, hwritten, ← List.flatMap_def] at hst
    exact hst
  · rw [h.err, List.findSome?_isSome_iff]
    constructor
    · rintro ⟨e,he⟩
      obtain ⟨j,hj,hres⟩ := List.mem_iff_getElem.mp he
      rw [List.getElem_map] at hres
      have hlt : j < st.tasks.length := by simpa using hj
      obtain ⟨o,ho,hsound⟩ := htask j hlt (hlen ▸ hlt)
      have hfailed := (controlTask_result hsound ho).2.mp ⟨e, by simpa [ho] using hres⟩
      exact ⟨_, List.getElem_mem _, hfailed⟩
    · rintro ⟨p,hp,herr⟩
      obtain ⟨j,hj,rfl⟩ := List.mem_iff_getElem.mp hp
      obtain ⟨o,ho,hsound⟩ := htask j (hlen ▸ hj) hj
      obtain ⟨e,rfl⟩ := (controlTask_result hsound ho).2.mpr herr
      exact ⟨e, List.mem_map.mpr ⟨_, List.getElem_mem _, ho⟩⟩

end Sequential

section Local
variable {env : EvaluationEnv} {svc svc' : EvaluationService} {toe : TargetOfEvaluation}
  {catalog : Catalog}

/-- Whatever `svc` finds in its cache, `svc'` finds as well. -/
def EvaluationService.Extends (svc svc' : EvaluationService) : Prop :=
  ∀ catalogId tag c, (svc.cached catalogId).lookup tag = some c →
    (svc'.cached catalogId).lookup tag = some c

theorem EvaluationService.Extends.getControl (hext : svc.Extends svc')
    {catalogId categoryName controlId : String} {c : Control}
    (h : svc.getControl catalogId categoryName controlId = .ok c) :
    svc'.getControl catalogId categoryName controlId = .ok c := by
  unfold EvaluationService.getControl at h ⊢
  split_ifs at h ⊢
  cases hc : (svc.cached catalogId).lookup (controlTag categoryName controlId) with
  | none => simp [hc] at h
  | some d => simpa [hc, hext _ _ d hc] using h

theorem EvaluationService.Extends.getAllMetricsFromControl (hext : svc.Extends svc')
    {catalogId categoryName controlId : String} {metrics : List String}
    (h : svc.getAllMetricsFromControl catalogId categoryName controlId = .ok metrics) :
    svc'.getAllMetricsFromControl catalogId categoryName controlId = .ok metrics := by
  unfold EvaluationService.getAllMetricsFromControl at h ⊢
  cases hc : svc.getControl catalogId categoryName controlId with
  | error e => simp [hc] at h
  | ok c =>
    have hsubs (metrics : List String) (hm : svc.getMetricsFromSubcontrols c = .ok metrics) :
        svc'.getMetricsFromSubcontrols c = .ok metrics := by
      unfold EvaluationService.getMetricsFromSubcontrols at hm ⊢
      cases hl : c.controls.mapM
          (fun s => svc.getControl s.categoryCatalogId s.categoryName s.id) with
      | error e => simp [hl, Except.map] at hm
      | ok subs =>
        rw [mapM_ok_mono (fun s _ _ hs => hext.getControl hs) hl]
        simpa [hl] using hm
    rw [hext.getControl hc]
    simp only [hc] at h ⊢
    split_ifs at h ⊢
    · cases hm : svc.getMetricsFromSubcontrols c with
      | error e => simp [hm] at h
      | ok l => simpa [hm, hsubs l hm] using h
    · exact h

theorem controlTask_agree (hext : svc.Extends svc') (p : Control × List EvaluationResult) :
    ErrorGroups.Agree (controlTask env svc toe catalog p) (controlTask env svc' toe catalog p) := by
  refine ⟨by simp [controlTask], fun i f f' hf hf' c create x c' create' x' hx hx' => ?_,
    fun rows create r create' r' hr hr' => ?_⟩
  · simp only [controlTask, List.getElem?_map, Option.map_eq_some_iff] at hf hf'
    obtain ⟨s,hs,rfl⟩ := hf
    obtain ⟨s',hs',rfl⟩ := hf'
    obtain rfl : s = s' := Option.some.inj (hs.symm.trans hs')
    obtain ⟨metrics,hm,rfl⟩ := evaluateSubcontrol_eq hx
    obtain ⟨metrics',hm',rfl⟩ := evaluateSubcontrol_eq hx'
    obtain rfl := Except.ok.inj ((hext.getAllMetricsFromControl hm).symm.trans hm')
    rfl
  · exact (storeControl_eq hr).trans (storeControl_eq hr').symm

instance (toe : TargetOfEvaluation) (c : Control) :
    DecidablePred (fun r : EvaluationResult => r.isFor toe c) :=
  fun _ => inferInstanceAs (Decidable (_ ∧ _ ∧ _ ∧ _))

/-- The stored results for the control `c` itself. -/
def parentResults (toe : TargetOfEvaluation) (c : Control) (stored : List EvaluationResult) :
    List EvaluationResult :=
  stored.filter (fun r => r.isFor toe c)

/-- The controls of the catalog are cached, from a listing in which sub-controls name their
parent. -/
def EvaluationService.CachedFor (svc : EvaluationService) (toe : TargetOfEvaluation) : Prop :=
  ∃ svc0 controls, EvaluationService.cacheControls svc0 toe.catalogId (.ok controls) = .ok svc ∧
    ∀ c ∈ controls, ∀ s ∈ c.controls, s.parentControlId ≠ none

/-- The evaluation of `p` has failed. -/
def Failed (plan : List (Control × List EvaluationResult))
    (st : ErrorGroups.State EvaluationResult Err) (p : Control × List EvaluationResult) : Prop :=
  ∃ (j : ℕ) (t : ErrorGroups.Progress EvaluationResult Err) (e : Err),
    plan[j]? = some p ∧ st.tasks[j]? = some t ∧ t.result = some (.error e)

/-- Outside the failed controls the results are those of the run `st'`, a failed control has
none, and the run ends with an error exactly if a control has failed. -/
structure LocalFailures (toe : TargetOfEvaluation)
    (plan : List (Control × List EvaluationResult))
    (st st' : ErrorGroups.State EvaluationResult Err) : Prop where
  kept : ∀ p ∈ plan, ¬ Failed plan st p → ∃ r, parentResults toe p.1 st.stored = [r] ∧
    parentResults toe p.1 st'.stored = [r]
  dropped : ∀ p ∈ plan, Failed plan st p → parentResults toe p.1 st.stored = []
  err : st.err.isSome ↔ ∃ p ∈ plan, Failed plan st p

theorem values_tag_nodup (hcached : svc.CachedFor toe) :
    ((svc.values toe.catalogId).map Control.tag).Nodup := by
  obtain ⟨svc0,controls,hcache,_⟩ := hcached
  -- every control is cached under its own tag
  have hkeys : (svc.values toe.catalogId).map Control.tag = (svc.cached toe.catalogId).keys := by
    rw [EvaluationService.values, List.map_map]
    refine List.map_congr_left (fun e he => ?_)
    have hl := AList.mem_lookup_iff.mpr he
    rw [cached_of_cacheControls hcache, lookup_cacheControl] at hl
    exact (cachedAt_spec controls e.1 e.2 hl).2
  rw [hkeys]
  exact AList.keys_nodup _

variable {E : SQL.Engine EvaluationResult EvaluationResult.timestamp} {a : Access} {now : Time}
  {table : List EvaluationResult} {plan plan' : List (Control × List EvaluationResult)}

theorem plan_key_nodup (hcached : svc.CachedFor toe)
    (hplan : catalogPlan svc toe catalog E a now table = .ok plan) :
    (plan.map (fun p => p.1.key)).Nodup := by
  obtain ⟨results,rfl,_⟩ := catalogPlan_ok svc toe catalog E a now table plan hplan
  have htags : (((svc.values toe.catalogId).insertionSort controlIdLe).map Control.tag).Nodup :=
    ((List.perm_insertionSort controlIdLe _).map Control.tag).nodup_iff.mpr
      (values_tag_nodup hcached)
  have hfilter := htags.sublist ((List.filter_sublist (p := fun c : Control =>
    c.parentControlId.isNone && !(ignoredControls results).contains c.id &&
      c.isRelevantFor toe catalog)).map Control.tag)
  -- the tag is made of the key
  have hsplit : Control.tag = (fun k : String × String => controlTag k.1 k.2) ∘ Control.key := rfl
  rw [hsplit, ← List.map_map] at hfilter
  rw [planFor, List.map_map]
  exact hfilter.of_map _

theorem sub_parent_of_plan (hcached : svc.CachedFor toe)
    (hplan : catalogPlan svc toe catalog E a now table = .ok plan)
    {p : Control × List EvaluationResult} (hp : p ∈ plan) :
    ∀ s ∈ p.1.controls, s.parentControlId ≠ none := by
  obtain ⟨results,rfl,_⟩ := catalogPlan_ok svc toe catalog E a now table plan hplan
  obtain ⟨svc0,controls,hcache,hsub⟩ := hcached
  have hvalue := ((mem_planFor svc toe catalog results p).mp hp).1
  rw [mem_values hcache] at hvalue
  exact hsub p.1 (cachedAt_spec controls _ _ hvalue).1

variable {P : (EvaluationResult → Option Err) → Prop}
  {t : ErrorGroups.Progress EvaluationResult Err} {p : Control × List EvaluationResult}

/-- The rows of the sub-controls are not about a parent control. -/
theorem filter_rows (hsub : ∀ s ∈ p.1.controls, s.parentControlId ≠ none)
    (h : ErrorGroups.Sound P (controlTask env svc toe catalog p) t) (c : Control) :
    t.rows.filter (fun r => r.isFor toe c) = [] := by
  rw [List.filter_eq_nil_iff]
  intro r hr hfor
  obtain ⟨o,ho,hrow⟩ := List.mem_flatMap.mp hr
  obtain rfl : o = some (.ok r) := by
    rcases o with _ | _ | x <;> simp_all [ErrorGroups.rowOf]
  obtain ⟨i,hi⟩ := List.mem_iff_getElem?.mp ho
  obtain ⟨f,_,_,hf,_,hx⟩ := h.outcome i _ hi
  obtain ⟨s,hs,rfl⟩ := List.mem_map.mp (List.mem_of_getElem? hf)
  obtain ⟨_,_,rfl⟩ := evaluateSubcontrol_eq hx
  have hpar := (of_decide_eq_true hfor).2.2.2
  exact hsub s (List.mem_of_mem_filter hs) hpar

theorem filter_written (hsub : ∀ s ∈ p.1.controls, s.parentControlId ≠ none)
    (h : ErrorGroups.Sound P (controlTask env svc toe catalog p) t) (c : Control) :
    t.written.filter (fun r => r.isFor toe c) =
      if p.1.key = c.key then ErrorGroups.rowOf t.result else [] := by
  rw [ErrorGroups.Progress.written, List.filter_append, filter_rows hsub h, List.nil_append]
  cases hr : t.result with
  | none => simp [ErrorGroups.rowOf]
  | some o =>
    cases o with
    | error e => simp [ErrorGroups.rowOf]
    | ok r =>
      obtain ⟨_,create,hfin⟩ := h.of_ok hr
      obtain rfl := storeControl_eq hfin
      have hfor : (controlResult (env.newId p.1) (env.now p.1) toe p.1 (t.rows ++ p.2)).isFor
          toe c ↔ p.1.key = c.key := by
        simp [EvaluationResult.isFor, controlResult, Control.key]
      simp only [ErrorGroups.rowOf, List.filter_cons, List.filter_nil, decide_eq_true_eq, hfor]

/-- What a run has stored for a control of its plan is what the evaluation of this control has
ended with. -/
theorem parentResults_eq (hcached : svc.CachedFor toe)
    (hplan : catalogPlan svc toe catalog E a now table = .ok plan)
    {st : ErrorGroups.State EvaluationResult Err}
    (h : ErrorGroups.Consistent P (catalogTasks env svc toe catalog plan) st) {j : ℕ}
    (hp : plan[j]? = some p) (ht : st.tasks[j]? = some t) :
    parentResults toe p.1 st.stored = ErrorGroups.rowOf t.result := by
  have hnodup := plan_key_nodup hcached hplan
  have hsound (k : ℕ) (u : ErrorGroups.Progress EvaluationResult Err)
      (hu : st.tasks[k]? = some u) : ∃ q, plan[k]? = some q ∧
        ErrorGroups.Sound P (controlTask env svc toe catalog q) u := by
    have hlt : k < plan.length := by
      have hk := (List.getElem?_eq_some_iff.mp hu).1
      rwa [h.length, catalogTasks, List.length_map] at hk
    have hq := List.getElem?_eq_getElem hlt
    exact ⟨plan[k], hq, h.sound k _ u (by simp [catalogTasks, hq]) hu⟩
  have hfilter (k : ℕ) (u : ErrorGroups.Progress EvaluationResult Err)
      (hu : st.tasks[k]? = some u) : u.written.filter (fun r => r.isFor toe p.1) =
        if k = j then ErrorGroups.rowOf u.result else [] := by
    obtain ⟨q,hq,hsq⟩ := hsound k u hu
    rw [filter_written (sub_parent_of_plan hcached hplan (List.mem_of_getElem? hq)) hsq]
    have hkey : q.1.key = p.1.key ↔ k = j := by
      constructor
      · intro heq
        have hget : (plan.map (fun p => p.1.key))[k]? = (plan.map (fun p => p.1.key))[j]? := by
          simp [hq, hp, heq]
        have hlt : k < (plan.map (fun p => p.1.key)).length := by
          simpa using (List.getElem?_eq_some_iff.mp hq).1
        exact (List.getElem?_inj hlt hnodup).mp hget
      · rintro rfl
        rw [hq, Option.some.injEq] at hp
        rw [hp]
    simp only [hkey]
  have hperm := h.stored.filter (fun r => r.isFor toe p.1)
  rw [List.filter_flatMap, ErrorGroups.flatMap_of_single _ ht (fun k u hk hu => ?_), hfilter j t ht,
    if_pos rfl] at hperm
  · exact ErrorGroups.eq_of_perm_rowOf hperm
  · rw [hfilter k u hu, if_neg hk]

/-- Every control of the plan has its place in the run. -/
theorem exists_task {st : ErrorGroups.State EvaluationResult Err}
    (h : ErrorGroups.Consistent P (catalogTasks env svc toe catalog plan) st) (hp : p ∈ plan) :
    ∃ (j : ℕ) (t : ErrorGroups.Progress EvaluationResult Err), plan[j]? = some p ∧
      st.tasks[j]? = some t ∧ ErrorGroups.Sound P (controlTask env svc toe catalog p) t := by
  obtain ⟨j,hj⟩ := List.mem_iff_getElem?.mp hp
  have hlt : j < st.tasks.length := by
    rw [h.length, catalogTasks, List.length_map]
    exact (List.getElem?_eq_some_iff.mp hj).1
  have ht := List.getElem?_eq_getElem hlt
  exact ⟨j, _, hj, ht, h.sound j _ _ (by simp [catalogTasks, hj]) ht⟩

/-- A control that has not failed in a run that is through has its result. -/
theorem result_of_not_failed {st : ErrorGroups.State EvaluationResult Err} {j : ℕ}
    (hdone : st.Done) (hp : plan[j]? = some p) (ht : st.tasks[j]? = some t)
    (hok : ¬ Failed plan st p) : ∃ r, t.result = some (.ok r) := by
  obtain ⟨o,ho⟩ := Option.isSome_iff_exists.mp (hdone t (List.mem_of_getElem? ht))
  cases o with
  | error e => exact absurd ⟨j, t, e, hp, ht, ho⟩ hok
  | ok r => exact ⟨r, ho⟩

theorem err_iff_failed {st : ErrorGroups.State EvaluationResult Err}
    (h : ErrorGroups.Consistent P (catalogTasks env svc toe catalog plan) st) :
    st.err.isSome ↔ ∃ p ∈ plan, Failed plan st p := by
  rw [h.err]
  constructor
  · rintro ⟨e,he⟩
    obtain ⟨t,hmem,hr⟩ := List.mem_map.mp he
    obtain ⟨j,ht⟩ := List.mem_iff_getElem?.mp hmem
    have hlt : j < plan.length := by
      have hj := (List.getElem?_eq_some_iff.mp ht).1
      rwa [h.length, catalogTasks, List.length_map] at hj
    exact ⟨plan[j], List.getElem_mem hlt, j, t, e, List.getElem?_eq_getElem hlt, ht, hr⟩
  · rintro ⟨p,_,j,t,e,_,ht,hr⟩
    exact ⟨e, List.mem_map.mpr ⟨t, List.mem_of_getElem? ht, hr⟩⟩

/-- A run goes on until every function has ended, whatever the database answers. Then the
results of the controls that have not failed are those of a run without failures in which the
cache has at least the same controls, a failed control has no result of its own, and there is
an error exactly if a control has failed. -/
theorem failures_stay_local (hcached : svc.CachedFor toe) (hcached' : svc'.CachedFor toe)
    (hext : svc.Extends svc')
    (hplan : catalogPlan svc toe catalog E a now table = .ok plan)
    (hplan' : catalogPlan svc' toe catalog E a now table = .ok plan')
    (hsame : ∀ p, p ∈ plan ↔ p ∈ plan')
    (ops' : List (ErrorGroups.Op (EvaluationResult → Option Err)))
    (st' : ErrorGroups.State EvaluationResult Err)
    (hrun' : Transitions.run (ErrorGroups.step (catalogTasks env svc' toe catalog plan'))
      (ErrorGroups.start (catalogTasks env svc' toe catalog plan')) ops' = some st')
    (hdone' : st'.Done) (hfree : ∀ p ∈ plan', ¬ Failed plan' st' p)
    (ops : List (ErrorGroups.Op (EvaluationResult → Option Err)))
    (st : ErrorGroups.State EvaluationResult Err)
    (hrun : Transitions.run (ErrorGroups.step (catalogTasks env svc toe catalog plan))
      (ErrorGroups.start (catalogTasks env svc toe catalog plan)) ops = some st) :
    ops.length ≤ (ErrorGroups.start (catalogTasks env svc toe catalog plan)).remaining ∧
    (¬ st.Done → ∃ next : (EvaluationResult → Option Err) →
        ErrorGroups.Op (EvaluationResult → Option Err), ∀ create, (next create).answer = create ∧
      (ErrorGroups.step (catalogTasks env svc toe catalog plan) st (next create)).isSome) ∧
    (st.Done → LocalFailures toe plan st st') := by
  have h := ErrorGroups.consistent_run (P := fun _ => True) ops st (fun _ _ => trivial) hrun
  have h' := ErrorGroups.consistent_run (P := fun _ => True) ops' st' (fun _ _ => trivial) hrun'
  have hsteps := ErrorGroups.remaining_run ops _ st hrun
  refine ⟨by omega, ErrorGroups.exists_next h, fun hdone => ⟨?_, ?_, err_iff_failed h⟩⟩
  · intro p hp hok
    have hp' := (hsame p).mp hp
    obtain ⟨j,t,hj,ht,hsound⟩ := exists_task h hp
    obtain ⟨j',t',hj',ht',hsound'⟩ := exists_task h' hp'
    obtain ⟨r,hr⟩ := result_of_not_failed hdone hj ht hok
    obtain ⟨r',hr'⟩ := result_of_not_failed hdone' hj' ht' (hfree p hp')
    obtain rfl := (controlTask_agree hext p).result_eq hsound hsound' hr hr'
    refine ⟨r, ?_, ?_⟩
    · rw [parentResults_eq hcached hplan h hj ht, hr]
      rfl
    · rw [parentResults_eq hcached' hplan' h' hj' ht', hr']
      rfl
  · rintro p _ ⟨j,t,e,hj,ht,hr⟩
    rw [parentResults_eq hcached hplan h hj ht, hr]
    rfl

end Local

section Samples

/-- Two parent controls, the first of which has a sub-control that is not listed. -/
def gapControls : List Control :=
  [⟨"OPS-13", "Operations", "EUCS",
      [⟨"OPS-13.1", "Operations", "EUCS", [], [], some "OPS-13", none⟩], [], none, none⟩,
    ⟨"OPS-14", "Operations", "EUCS", [], [], none, none⟩]

def missingControl : Control :=
  ⟨"OPS-13.1", "Operations", "EUCS", [], ["BackupEnabled"], some "OPS-13", none⟩

def serviceOf (controls : List Control) : EvaluationService :=
  ⟨AList.insert "EUCS" (controls.foldl cacheControl ∅) ∅⟩

theorem serviceOf_cached (controls : List Control) (catalogId : String) :
    (serviceOf controls).cached catalogId =
      if catalogId = "EUCS" then controls.foldl cacheControl ∅ else ∅ := by
  rw [serviceOf, EvaluationService.cached]
  split_ifs with hid
  · rw [hid, AList.lookup_insert, Option.getD_some]
  · rw [AList.lookup_insert_ne hid]
    rfl

theorem gap_extends :
    (serviceOf gapControls).Extends (serviceOf (gapControls ++ [missingControl])) := by
  intro catalogId tag c h
  rw [serviceOf_cached] at h ⊢
  split_ifs at h ⊢
  · rw [lookup_cacheControl] at h ⊢
    -- the listed controls have other tags than the one that is added
    obtain ⟨hmem,htag⟩ := cachedAt_spec gapControls tag c h
    have hne : missingControl.tag ≠ tag := by
      rw [← htag]
      simp only [gapControls, List.mem_cons, List.not_mem_nil, or_false] at hmem
      rcases hmem with rfl | rfl <;> decide
    simpa [cachedAt, hne] using h
  · exact h

def gapPlan : List (Control × List EvaluationResult) := gapControls.map (fun c => (c, []))

def gapTasks (controls : List Control) :
    List (ErrorGroups.Task (EvaluationResult → Option Err) EvaluationResult Err) :=
  catalogTasks (backupEnv []) (serviceOf controls) backupToe ⟨"EUCS", []⟩ gapPlan

/-- The sub-control is looked up first, and the other parent is evaluated before the first one
has waited for its group. -/
def gapOps : List (ErrorGroups.Op (EvaluationResult → Option Err)) :=
  [.part 0 0 false (fun _ => none), .finish 1 (fun _ => none), .finish 0 (fun _ => none)]

theorem failures_stay_local_gap :
    ∃ st st', Transitions.run (ErrorGroups.step (gapTasks gapControls))
        (ErrorGroups.start (gapTasks gapControls)) gapOps = some st ∧
      Transitions.run (ErrorGroups.step (gapTasks (gapControls ++ [missingControl])))
        (ErrorGroups.start (gapTasks (gapControls ++ [missingControl]))) gapOps = some st' ∧
      st.Done ∧ st.err.isSome ∧ LocalFailures backupToe gapPlan st st' := by
  have hcached (controls : List Control) (h : controls.length ≠ 0)
      (hsub : ∀ c ∈ controls, ∀ s ∈ c.controls, s.parentControlId ≠ none) :
      (serviceOf controls).CachedFor backupToe := by
    refine ⟨⟨∅⟩, controls, ?_, hsub⟩
    simp [EvaluationService.cacheControls, backupToe, h, serviceOf]
  have hplan : catalogPlan (serviceOf gapControls) backupToe ⟨"EUCS", []⟩
      (SQL.Engine.inTableOrder true EvaluationResult.timestamp) Access.allowAll 0 [] =
        .ok gapPlan := rfl
  obtain ⟨st,hrun,hall,herr⟩ : ∃ st, Transitions.run (ErrorGroups.step (gapTasks gapControls))
      (ErrorGroups.start (gapTasks gapControls)) gapOps = some st ∧
      st.tasks.all (fun t => t.result.isSome) = true ∧ st.err.isSome := ⟨_, rfl, rfl, rfl⟩
  obtain ⟨st',hrun',hall',herr'⟩ : ∃ st', Transitions.run
      (ErrorGroups.step (gapTasks (gapControls ++ [missingControl])))
      (ErrorGroups.start (gapTasks (gapControls ++ [missingControl]))) gapOps = some st' ∧
      st'.tasks.all (fun t => t.result.isSome) = true ∧ st'.err = none := ⟨_, rfl, rfl, rfl⟩
  have hdone : st.Done := by simpa [ErrorGroups.State.Done] using hall
  have hdone' : st'.Done := by simpa [ErrorGroups.State.Done] using hall'
  have hfree (p : Control × List EvaluationResult) (hp : p ∈ gapPlan) :
      ¬ Failed gapPlan st' p := by
    intro hfailed
    have h' := ErrorGroups.consistent_run (P := fun _ => True) gapOps st' (fun _ _ => trivial) hrun'
    have hsome := (err_iff_failed h').mpr ⟨p, hp, hfailed⟩
    simp [herr'] at hsome
  obtain ⟨_,_,hlocal⟩ := failures_stay_local
    (hcached gapControls (by decide) (by simp [gapControls]))
    (hcached _ (by decide) (by simp [gapControls, missingControl])) gap_extends hplan rfl
    (fun _ => Iff.rfl) gapOps st' hrun' hdone' hfree gapOps st hrun
  exact ⟨st, st', hrun, hrun', hdone, herr, hlocal hdone⟩

theorem gap_groups_evaluateCatalog :
    ∃ st, Transitions.run (ErrorGroups.step (gapTasks (gapControls ++ [missingControl])))
        (ErrorGroups.start (gapTasks (gapControls ++ [missingControl]))) gapOps = some st ∧
      st.stored ~ (evaluateCatalog (backupEnv []) (serviceOf (gapControls ++ [missingControl]))
        backupToe ⟨"EUCS", []⟩ (SQL.Engine.inTableOrder true EvaluationResult.timestamp)
        Access.allowAll 0 []).stored := by
  obtain ⟨st,hrun,hall⟩ : ∃ st, Transitions.run
      (ErrorGroups.step (gapTasks (gapControls ++ [missingControl])))
      (ErrorGroups.start (gapTasks (gapControls ++ [missingControl]))) gapOps = some st ∧
      st.tasks.all (fun t => t.result.isSome) = true := ⟨_, rfl, rfl⟩
  have hdone : st.Done := by simpa [ErrorGroups.State.Done] using hall
  have hanswer (op : ErrorGroups.Op (EvaluationResult → Option Err)) (hop : op ∈ gapOps) :
      op.answer = (backupEnv []).create := by
    simp only [gapOps, List.mem_cons, List.not_mem_nil, or_false] at hop
    obtain rfl | rfl | rfl := hop
    · rfl
    · rfl
    · rfl
  exact ⟨st, hrun, (groups_evaluateCatalog rfl gapOps st hanswer hrun hdone).1⟩

end Samples
end Clouditor
