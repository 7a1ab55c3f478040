import Clouditor.EvaluationRun

/-! The verdict a run without manual results gives each parent control, compared
with the latest assessment results of the metrics attached to it. -/
namespace Clouditor
set_option autoImplicit false

def assessmentKey (r : AssessmentResult) : String × String := (r.resourceId, r.metricId)

def assessmentStamp (r : AssessmentResult) : Option ℤ := some r.timestamp

section Latest
variable (EA : SQL.Engine AssessmentResult assessmentStamp) (assessments : List AssessmentResult)

/-- The latest result for each resource and metric of a service. -/
def latestAssessments (cloudServiceId : String) : List AssessmentResult :=
  EA.firstPer assessmentKey (assessments.filter (fun r => r.cloudServiceId = cloudServiceId))

/-- The orchestrator answers each list call with the latest of the matching results. -/
def ListsLatest (env : EvaluationEnv) (cloudServiceId : String) : Prop :=
  ∀ metrics, metrics ≠ [] → ∃ l, env.listAssessmentResults cloudServiceId metrics = .ok l ∧
    l.Perm (EA.firstPer assessmentKey (assessments.filter (fun r =>
      r.metricId ∈ metrics && r.cloudServiceId = cloudServiceId)))

theorem mem_fetchAssessments (env : EvaluationEnv) (toe : TargetOfEvaluation)
    (h : ListsLatest EA assessments env toe.cloudServiceId) (metrics : List String)
    (r : AssessmentResult) :
    r ∈ fetchAssessments env toe metrics ↔
      r ∈ latestAssessments EA assessments toe.cloudServiceId ∧ r.metricId ∈ metrics := by
  by_cases hm : metrics = []
  · simp [fetchAssessments, hm]
  obtain ⟨l,hl,hperm⟩ := h metrics hm
  have hfetch : fetchAssessments env toe metrics = l := by simp [fetchAssessments, hm, hl]
  rw [hfetch, hperm.mem_iff, ← List.filter_filter]
  have hf := SQL.mem_firstPer_filter EA assessmentKey (fun r => decide (r.metricId ∈ metrics))
    (fun k => decide (k.2 ∈ metrics)) (fun _ => rfl)
    (assessments.filter (fun r => r.cloudServiceId = toe.cloudServiceId)) r
  rw [hf, decide_eq_true_eq]
  rfl

end Latest

def Covered (latest : List AssessmentResult) (metrics : List String) : Prop :=
  ∃ r ∈ latest, r.metricId ∈ metrics

def Violated (latest : List AssessmentResult) (metrics : List String) : Prop :=
  ∃ r ∈ latest, r.metricId ∈ metrics ∧ r.compliant = false

instance (latest : List AssessmentResult) (metrics : List String) :
    Decidable (Covered latest metrics) :=
  inferInstanceAs (Decidable (∃ r ∈ latest, r.metricId ∈ metrics))

instance (latest : List AssessmentResult) (metrics : List String) :
    Decidable (Violated latest metrics) :=
  inferInstanceAs (Decidable (∃ r ∈ latest, r.metricId ∈ metrics ∧ r.compliant = false))

theorem Violated.covered {latest : List AssessmentResult} {metrics : List String}
    (h : Violated latest metrics) : Covered latest metrics := by
  obtain ⟨r,hr,hm,_⟩ := h
  exact ⟨r, hr, hm⟩

section Assess

theorem foldl_assessStep_of_compliant (l : List AssessmentResult)
    (acc : EvaluationStatus × List String) (h : ∀ r ∈ l, r.compliant = true) :
    l.foldl assessStep acc = acc := by
  induction l with
  | nil => rfl
  | cons r l ih =>
    rw [List.foldl_cons, assessStep, h r List.mem_cons_self]
    exact ih (fun x hx => h x (List.mem_cons_of_mem r hx))

theorem foldl_assessStep_of_violation (l : List AssessmentResult)
    (acc : EvaluationStatus × List String)
    (h : acc.1 = .notCompliant ∨ ∃ r ∈ l, r.compliant = false) :
    (l.foldl assessStep acc).1 = .notCompliant := by
  induction l generalizing acc with
  | nil => simpa using h
  | cons r l ih =>
    rw [List.foldl_cons]
    apply ih
    cases hr : r.compliant with
    | false => exact Or.inl (by simp [assessStep, hr])
    | true =>
      rcases h with h | ⟨x,hx,hxc⟩
      · exact Or.inl (by simpa [assessStep, hr] using h)
      · rcases List.mem_cons.mp hx with rfl | hx
        · simp [hr] at hxc
        · exact Or.inr ⟨x, hx, hxc⟩

/-- One non-compliant assessment result is enough, and no result at all is pending. -/
theorem assess_status (l : List AssessmentResult) :
    ((assess l).1 = .notCompliant ↔ ∃ r ∈ l, r.compliant = false) ∧
    ((assess l).1 = .pending ↔ l = []) ∧
    ((assess l).1 = .compliant ↔ l ≠ [] ∧ ∀ r ∈ l, r.compliant = true) := by
  -- a violation decides, and without one only the length matters
  by_cases hv : ∃ r ∈ l, r.compliant = false
  · have hs : (assess l).1 = .notCompliant := foldl_assessStep_of_violation l _ (Or.inr hv)
    obtain ⟨r,hr,hc⟩ := hv
    refine ⟨⟨fun _ => ⟨r, hr, hc⟩, fun _ => hs⟩, ⟨?_, ?_⟩, ⟨?_, ?_⟩⟩
    · simp [hs]
    · rintro rfl
      cases hr
    · simp [hs]
    · rintro ⟨_,hall⟩
      simp [hall r hr] at hc
  · have hall : ∀ r ∈ l, r.compliant = true := by simpa using hv
    have hs : assess l = (if l.length = 0 then .pending else .compliant, []) :=
      foldl_assessStep_of_compliant l _ hall
    cases l with
    | nil => simp [assess]
    | cons r l =>
      rw [hs]
      exact ⟨iff_of_false (by simp) hv, by simp, iff_of_true (by simp) ⟨by simp, hall⟩⟩

end Assess
section Collected
variable {env : EvaluationEnv} {svc0 svc : EvaluationService} {toe : TargetOfEvaluation}
  {L : ControlListing toe.catalogId}

/-- The metrics the service collects for a sub-control: those cached under its tag and
under the tags of the controls below that one. -/
def collectedMetrics (controls : List Control) (s : Control) : List String :=
  match cachedAt controls s.tag with
  | none => []
  | some t =>
    t.metrics ++ t.controls.flatMap (fun u => (cachedAt controls u.tag).elim [] Control.metrics)

theorem getControl_ok (hcache : svc0.cacheControls toe.catalogId (.ok L.controls) = .ok svc)
    (categoryName controlId : String) (c : Control)
    (h : svc.getControl toe.catalogId categoryName controlId = .ok c) :
    cachedAt L.controls (controlTag categoryName controlId) = some c := by
  unfold EvaluationService.getControl at h
  rw [cached_of_cacheControls hcache, lookup_cacheControl] at h
  split_ifs at h
  cases hc : cachedAt L.controls (controlTag categoryName controlId) with
  | none => simp [hc] at h
  | some d => simpa [hc] using h

theorem flatMap_of_mapM_ok {α β γ : Type} (f : α → Except Err β) (g : β → List γ)
    (k : α → List γ) (l : List α) (ys : List β) (hk : ∀ u ∈ l, ∀ y, f u = .ok y → g y = k u)
    (h : l.mapM f = .ok ys) : ys.flatMap g = l.flatMap k := by
  induction l generalizing ys with
  | nil =>
    cases h
    rfl
  | cons u l ih =>
    obtain ⟨y,zs,hu,hl,rfl⟩ := mapM_cons_ok h
    rw [List.flatMap_cons, List.flatMap_cons, hk u List.mem_cons_self y hu,
      ih zs (fun v hv => hk v (List.mem_cons_of_mem u hv)) hl]

theorem getAllMetricsFromControl_ok
    (hcache : svc0.cacheControls toe.catalogId (.ok L.controls) = .ok svc) (s : Control)
    (metrics : List String)
    (h : svc.getAllMetricsFromControl toe.catalogId s.categoryName s.id = .ok metrics) :
    metrics = collectedMetrics L.controls s := by
  unfold EvaluationService.getAllMetricsFromControl at h
  cases hc : svc.getControl toe.catalogId s.categoryName s.id with
  | error e => simp [hc] at h
  | ok t =>
    have hat : cachedAt L.controls s.tag = some t := getControl_ok hcache _ _ t hc
    have ht := (cachedAt_spec L.controls s.tag t hat).1
    simp only [hc] at h
    rw [collectedMetrics, hat]
    split_ifs at h with hn
    · unfold EvaluationService.getMetricsFromSubcontrols at h
      cases hm : t.controls.mapM
          (fun u => svc.getControl u.categoryCatalogId u.categoryName u.id) with
      | error e => simp [hm, Except.map] at h
      | ok us =>
        -- the references below a control are looked up in the cache one by one
        have hflat := flatMap_of_mapM_ok _ Control.metrics
          (fun u => (cachedAt L.controls u.tag).elim [] Control.metrics) t.controls us ?_ hm
        · simp only [hm, Except.map, hflat, Except.ok.injEq] at h
          exact h.symm
        · intro u hu y hy
          rw [L.sub_catalog t ht u hu] at hy
          rw [show cachedAt L.controls u.tag = some y from getControl_ok hcache _ _ y hy]
          rfl
    · have hnil : t.controls = [] := by simpa using hn
      rw [Except.ok.injEq] at h
      simp [hnil, h]

theorem evaluateSubcontrol_ok
    (hcache : svc0.cacheControls toe.catalogId (.ok L.controls) = .ok svc) (s : Control)
    (r : EvaluationResult) (h : evaluateSubcontrol env svc toe s = .ok r) :
    r = autoResult env toe s (collectedMetrics L.controls s) := by
  unfold evaluateSubcontrol at h
  cases hm : svc.getAllMetricsFromControl toe.catalogId s.categoryName s.id with
  | error e => simp [hm] at h
  | ok metrics =>
    obtain rfl := getAllMetricsFromControl_ok hcache s metrics hm
    simp only [hm] at h
    split at h
    · cases h
    · exact (Except.ok.inj h).symm

theorem autos_eq (hcache : svc0.cacheControls toe.catalogId (.ok L.controls) = .ok svc)
    (subs : List Control) (autos : List EvaluationResult)
    (h : subs.map (evaluateSubcontrol env svc toe) = autos.map .ok) :
    autos = subs.map (fun s => autoResult env toe s (collectedMetrics L.controls s)) := by
  induction subs generalizing autos with
  | nil => simpa using h.symm
  | cons s subs ih =>
    cases autos with
    | nil => simp at h
    | cons r autos =>
      obtain ⟨hs,hrest⟩ := List.cons.inj h
      rw [List.map_cons, ← evaluateSubcontrol_ok hcache s r hs, ← ih autos hrest]

end Collected
section Statuses
variable {EA : SQL.Engine AssessmentResult assessmentStamp} {assessments : List AssessmentResult}
  {env : EvaluationEnv} {toe : TargetOfEvaluation}

theorem fetchAssessments_eq_nil (h : ListsLatest EA assessments env toe.cloudServiceId)
    (metrics : List String) : fetchAssessments env toe metrics = [] ↔
      ¬ Covered (latestAssessments EA assessments toe.cloudServiceId) metrics := by
  rw [List.eq_nil_iff_forall_not_mem]
  simp only [mem_fetchAssessments EA assessments env toe h, Covered, not_exists]

theorem autoResult_isPending (h : ListsLatest EA assessments env toe.cloudServiceId)
    (s : Control) (metrics : List String) :
    (autoResult env toe s metrics).isPending ↔
      ¬ Covered (latestAssessments EA assessments toe.cloudServiceId) metrics := by
  change (assess (fetchAssessments env toe metrics)).1 = .pending ↔ _
  rw [(assess_status _).2.1, fetchAssessments_eq_nil h]

theorem autoResult_isCompliant (h : ListsLatest EA assessments env toe.cloudServiceId)
    (s : Control) (metrics : List String) :
    (autoResult env toe s metrics).isCompliant ↔
      Covered (latestAssessments EA assessments toe.cloudServiceId) metrics ∧
      ¬ Violated (latestAssessments EA assessments toe.cloudServiceId) metrics := by
  have hne : (assess (fetchAssessments env toe metrics)).1 ≠ .compliantManually := by
    intro hm
    obtain ⟨h1,h2,h3⟩ := assess_status (fetchAssessments env toe metrics)
    simp only [hm, reduceCtorEq, false_iff, not_exists, not_and, Bool.not_eq_false] at h1 h2 h3
    exact h3 h2 h1
  have hmem := mem_fetchAssessments EA assessments env toe h metrics
  change ((assess (fetchAssessments env toe metrics)).1 = .compliant ∨
    (assess (fetchAssessments env toe metrics)).1 = .compliantManually) ↔ _
  rw [or_iff_left hne, (assess_status _).2.2, ne_eq, fetchAssessments_eq_nil h, not_not]
  simp only [hmem, Violated, not_exists, not_and, Bool.not_eq_false, and_imp]

end Statuses

section Verdict
variable (latest : List AssessmentResult) (controls : List Control) (toe : TargetOfEvaluation)
  (catalog : Catalog) (c : Control)

def relevantOf : List Control := c.controls.filter (fun s => s.isRelevantFor toe catalog)

/-- The metrics attached to a sub-control, looked up by its category and id. -/
def ownMetrics (s : Control) : List String :=
  (controls.filter (fun t => t.key = s.key)).flatMap Control.metrics

/-- The metrics attached to a control or to one of its relevant sub-controls. -/
def attachedMetrics : List String :=
  c.metrics ++ (relevantOf toe catalog c).flatMap (ownMetrics controls)

/-- There are results, and no metrics of the control or of one relevant sub-control
are without any. -/
def Complete : Prop :=
  Covered latest (attachedMetrics controls toe catalog c) ∧
  (c.metrics ≠ [] → Covered latest c.metrics) ∧
  ∀ s ∈ relevantOf toe catalog c,
    ownMetrics controls s ≠ [] → Covered latest (ownMetrics controls s)

/-- The status a control should get from the latest results of its metrics. -/
structure VerdictFor (status : EvaluationStatus) : Prop where
  notCompliant : status = .notCompliant ↔ Violated latest (attachedMetrics controls toe catalog c)
  pending : ¬ Covered latest (attachedMetrics controls toe catalog c) → status = .pending
  compliant : Complete latest controls toe catalog c →
    ¬ Violated latest (attachedMetrics controls toe catalog c) → status = .compliant

/-- Some sub-control without results stands after one with results. -/
def Gap : Prop :=
  ¬ (relevantOf toe catalog c).Pairwise (fun x y =>
    Covered latest (collectedMetrics controls x) → Covered latest (collectedMetrics controls y))

instance : Decidable (Gap latest controls toe catalog c) := inferInstanceAs (Decidable (¬ _))

/-- The results of the metrics the service collects for the sub-controls tell the same
as those of the attached metrics. -/
structure Agrees : Prop where
  violated : ((∃ s ∈ relevantOf toe catalog c, Violated latest (collectedMetrics controls s)) ∨
    Gap latest controls toe catalog c) ↔ Violated latest (attachedMetrics controls toe catalog c)
  covered : (∃ s ∈ relevantOf toe catalog c, Covered latest (collectedMetrics controls s)) →
    Covered latest (attachedMetrics controls toe catalog c)
  complete : Complete latest controls toe catalog c →
    ¬ Violated latest (attachedMetrics controls toe catalog c) →
    ∃ s ∈ relevantOf toe catalog c, Covered latest (collectedMetrics controls s)

variable {latest controls toe catalog c}
  {EA : SQL.Engine AssessmentResult assessmentStamp} {assessments : List AssessmentResult}
  {env : EvaluationEnv}

/-- The verdict is right exactly when collected and attached metrics agree, whatever
the status is, as long as it is the one the loop computes. -/
theorem verdictFor_iff (status : EvaluationStatus)
    (hmem : status ∈ [.pending, .compliant, .notCompliant])
    (hpend : status = .pending ↔
      ¬ ∃ s ∈ relevantOf toe catalog c, Covered latest (collectedMetrics controls s))
    (hfail : status = .notCompliant ↔
      (∃ s ∈ relevantOf toe catalog c, Violated latest (collectedMetrics controls s)) ∨
        Gap latest controls toe catalog c) :
    VerdictFor latest controls toe catalog c status ↔ Agrees latest controls toe catalog c := by
  constructor
  · intro h
    refine ⟨hfail.symm.trans h.notCompliant, ?_, ?_⟩
    · intro hcov
      by_contra hn
      exact hpend.mp (h.pending hn) hcov
    · intro hc hv
      by_contra hn
      have hs := hpend.mpr hn
      rw [h.compliant hc hv] at hs
      cases hs
  · intro h
    refine ⟨hfail.trans h.violated, ?_, ?_⟩
    · intro hn
      exact hpend.mpr (fun hcov => hn (h.covered hcov))
    · intro hc hv
      have hnp : status ≠ .pending := fun hs => hpend.mp hs (h.complete hc hv)
      have hnf : status ≠ .notCompliant := fun hs => hv (h.violated.mp (hfail.mp hs))
      simpa [hnp, hnf] using hmem

/-- The aggregated status of sub-controls that were all evaluated automatically. -/
theorem aggregateStatus_autos (h : ListsLatest EA assessments env toe.cloudServiceId) :
    VerdictFor (latestAssessments EA assessments toe.cloudServiceId) controls toe catalog c
        (aggregateStatus ((relevantOf toe catalog c).map
          (fun s => autoResult env toe s (collectedMetrics controls s)))) ↔
      Agrees (latestAssessments EA assessments toe.cloudServiceId) controls toe catalog c := by
  apply verdictFor_iff _ (aggregateStatus_mem _)
  -- all pending means no results at all, not failed means no violation and no gap
  · rw [aggregateStatus_eq_pending, List.forall_mem_map]
    simp only [autoResult_isPending h, not_exists, not_and]
  · rw [← not_iff_not, ← ne_eq, aggregateStatus_ne_notCompliant, Undecided, List.forall_mem_map,
      List.pairwise_map]
    simp only [autoResult_isPending h, autoResult_isCompliant h, not_or, Gap, not_not,
      not_imp_not, not_exists, not_and]
    refine and_congr (forall₂_congr (fun s _ => ?_)) Iff.rfl
    constructor
    · rintro (⟨_,hv⟩ | hc) hs
      · exact hv hs
      · exact hc hs.covered
    · intro hv
      by_cases hc : Covered (latestAssessments EA assessments toe.cloudServiceId)
          (collectedMetrics controls s)
      · exact Or.inl ⟨hc, hv⟩
      · exact Or.inr hc

end Verdict
section Catalog
variable {env : EvaluationEnv} {svc0 svc : EvaluationService} {toe : TargetOfEvaluation}
  {catalog : Catalog} {E : SQL.Engine EvaluationResult EvaluationResult.timestamp} {a : Access}
  {now : Time} {table : List EvaluationResult} {L : ControlListing toe.catalogId}

/-- `r` is a result for the control `c` itself, seen as a parent. -/
def EvaluationResult.isFor (r : EvaluationResult) (toe : TargetOfEvaluation) (c : Control) :
    Prop :=
  r.cloudServiceId = toe.cloudServiceId ∧ r.controlCatalogId = toe.catalogId ∧
    (r.controlCategoryName, r.controlId) = c.key ∧ r.parentControlId = none

/-- Automatic results neither have a manual status nor an end of validity. -/
def Automatic (table : List EvaluationResult) : Prop :=
  ∀ r ∈ table, r.manual = false ∧ r.validUntil = none

theorem results_of_automatic (hauto : Automatic table) (results : List EvaluationResult)
    (hnew : SQL.NewestPer E.nullsFirst EvaluationResult.timestamp EvaluationResult.controlId
      (table.filter (selected a now (manualRequest toe.cloudServiceId toe.catalogId).filter))
      results) : results = [] := by
  apply List.eq_nil_iff_forall_not_mem.mpr
  intro r hr
  obtain ⟨hmem,hsel⟩ := List.mem_filter.mp (hnew.mem r hr)
  obtain ⟨hman,hval⟩ := hauto r hmem
  simp [selected, manualRequest, hman, hval] at hsel

theorem relevantSubcontrols_nil (c : Control) :
    relevantSubcontrols toe catalog c [] = relevantOf toe catalog c := by
  simp [relevantSubcontrols, relevantOf]

/-- The results of the relevant sub-controls of `c`. -/
def autosOf (env : EvaluationEnv) (L : ControlListing toe.catalogId) (catalog : Catalog)
    (c : Control) : List EvaluationResult :=
  (relevantOf toe catalog c).map (fun s => autoResult env toe s (collectedMetrics L.controls s))

/-- Without manual results a complete run stores one parent row for each relevant
parent control in the cache, and no other row without a parent. -/
theorem parent_rows (hcache : svc0.cacheControls toe.catalogId (.ok L.controls) = .ok svc)
    (hauto : Automatic table)
    (hrun : (evaluateCatalog env svc toe catalog E a now table).err = none)
    (r : EvaluationResult) :
    (r ∈ (evaluateCatalog env svc toe catalog E a now table).stored ∧ r.parentControlId = none) ↔
    ∃ c, cachedAt L.controls c.tag = some c ∧ c.parentControlId = none ∧
      c.isRelevantFor toe catalog = true ∧
      r = controlResult (env.newId c) (env.now c) toe c (autosOf env L catalog c) := by
  obtain ⟨plan,hplan,herr,hstored⟩ := evaluateCatalog_ok env svc toe catalog E a now table hrun
  obtain ⟨results,rfl,hnew⟩ := catalogPlan_ok svc toe catalog E a now table plan hplan
  obtain rfl := results_of_automatic hauto results hnew
  -- without manual results the plan is all of the relevant parents
  have hmem (p : Control × List EvaluationResult) : p ∈ planFor svc toe catalog [] ↔
      cachedAt L.controls p.1.tag = some p.1 ∧ p.1.parentControlId = none ∧
        p.1.isRelevantFor toe catalog = true ∧ p.2 = [] := by
    rw [mem_planFor, mem_values hcache]
    simp [ignoredControls, manualOf]
  have hrows (p : Control × List EvaluationResult) (hp : p ∈ planFor svc toe catalog []) :
      (evaluateControl env svc toe catalog p.1 p.2).stored = autosOf env L catalog p.1 ++
        [controlResult (env.newId p.1) (env.now p.1) toe p.1 (autosOf env L catalog p.1)] := by
    obtain ⟨autos,hautos,hst⟩ := evaluateControl_ok env svc toe catalog p.1 p.2 (herr p hp)
    rw [((hmem p).mp hp).2.2.2, relevantSubcontrols_nil] at hautos
    obtain rfl := autos_eq hcache _ _ hautos
    rw [hst, ((hmem p).mp hp).2.2.2, List.append_nil]
    rfl
  rw [hstored, List.mem_flatMap]
  constructor
  · rintro ⟨⟨p,hp,hr⟩,hpar⟩
    obtain ⟨hcached,hnone,hrel,_⟩ := (hmem p).mp hp
    rw [hrows p hp, List.mem_append, List.mem_singleton] at hr
    rcases hr with hr | rfl
    · -- the row of a sub-control names its parent
      obtain ⟨s,hs,rfl⟩ := List.mem_map.mp hr
      have hsub := L.sub_parent p.1 (cachedAt_spec _ _ _ hcached).1 s (List.mem_of_mem_filter hs)
      rw [show (autoResult env toe s _).parentControlId = s.parentControlId from rfl, hsub] at hpar
      cases hpar
    · exact ⟨p.1, hcached, hnone, hrel, rfl⟩
  · rintro ⟨c,hcached,hnone,hrel,rfl⟩
    have hp : (c, []) ∈ planFor svc toe catalog [] := (hmem _).mpr ⟨hcached, hnone, hrel, rfl⟩
    exact ⟨⟨(c, []), hp, by rw [hrows _ hp]; simp⟩, rfl⟩

variable {EA : SQL.Engine AssessmentResult assessmentStamp} {assessments : List AssessmentResult}

/-- A complete run without manual results gives every relevant parent control the verdict
its latest assessment results call for exactly when each of them keeps its place in the
cache and the metrics collected for its sub-controls agree with those attached to it. -/
theorem evaluateCatalog_verdict_iff
    (hcache : svc0.cacheControls toe.catalogId (.ok L.controls) = .ok svc)
    (hlist : ListsLatest EA assessments env toe.cloudServiceId) (hauto : Automatic table)
    (hrun : (evaluateCatalog env svc toe catalog E a now table).err = none) :
    (∀ c ∈ L.controls, c.parentControlId = none → c.isRelevantFor toe catalog = true →
      ∃ r ∈ (evaluateCatalog env svc toe catalog E a now table).stored, r.isFor toe c ∧
        VerdictFor (latestAssessments EA assessments toe.cloudServiceId) L.controls toe catalog c
          r.status) ↔
    ∀ c ∈ L.controls, c.parentControlId = none → c.isRelevantFor toe catalog = true →
      cachedAt L.controls c.tag = some c ∧
      Agrees (latestAssessments EA assessments toe.cloudServiceId) L.controls toe catalog c := by
  have hrows := parent_rows hcache hauto hrun
  refine forall₂_congr (fun c hc => forall₂_congr (fun hnone hrel => ?_))
  constructor
  · rintro ⟨r,hr,⟨_,_,hkey,hpar⟩,hverdict⟩
    obtain ⟨d,hd,_,_,rfl⟩ := (hrows r).mp ⟨hr, hpar⟩
    obtain rfl := L.eq_of_key (cachedAt_spec _ _ _ hd).1 hc hkey
    exact ⟨hd, (aggregateStatus_autos hlist).mp hverdict⟩
  · rintro ⟨hcached,hagrees⟩
    obtain ⟨hr,_⟩ := (hrows _).mpr ⟨c, hcached, hnone, hrel, rfl⟩
    exact ⟨_, hr, ⟨rfl, rfl, rfl, rfl⟩, (aggregateStatus_autos hlist).mpr hagrees⟩

def backupToe : TargetOfEvaluation := ⟨"11111111-1111-1111-1111-111111111111", "EUCS", none⟩

/-- A parent control with two sub-controls that have a metric each. -/
def backupListing : ControlListing backupToe.catalogId where
  controls :=
    [⟨"OPS-13", "Operations", "EUCS",
      [⟨"OPS-13.1", "Operations", "EUCS", [], [], some "OPS-13", none⟩,
        ⟨"OPS-13.2", "Operations", "EUCS", [], [], some "OPS-13", none⟩], [], none, none⟩,
    ⟨"OPS-13.1", "Operations", "EUCS", [], ["BackupEnabled"], some "OPS-13", none⟩,
    ⟨"OPS-13.2", "Operations", "EUCS", [], ["BackupTested"], some "OPS-13", none⟩]
  key_nodup := by decide
  sub_parent := by simp
  sub_catalog := by simp [backupToe]
  sub_listed := by simp [Control.key]

def backupService : EvaluationService :=
  ⟨AList.insert "EUCS" (backupListing.controls.foldl cacheControl ∅) ∅⟩

/-- The orchestrator over a fixed set of assessment results, with a database that
accepts every row. -/
def backupEnv (assessments : List AssessmentResult) : EvaluationEnv where
  listAssessmentResults cloudServiceId metrics := .ok
    ((SQL.Engine.inTableOrder true assessmentStamp).firstPer assessmentKey
      (assessments.filter (fun r => r.metricId ∈ metrics && r.cloudServiceId = cloudServiceId)))
  create _ := none
  newId c := c.id
  now _ := 0

theorem backupEnv_listsLatest (assessments : List AssessmentResult) (cloudServiceId : String) :
    ListsLatest (SQL.Engine.inTableOrder true assessmentStamp) assessments
      (backupEnv assessments) cloudServiceId :=
  fun _ _ => ⟨_, rfl, List.Perm.refl _⟩

def backupResult (id metricId : String) : AssessmentResult :=
  ⟨id, 0, metricId, true, "vm", "11111111-1111-1111-1111-111111111111"⟩

def backupRun (assessments : List AssessmentResult) : EvaluationRun :=
  evaluateCatalog (backupEnv assessments) backupService backupToe ⟨"EUCS", []⟩
    (SQL.Engine.inTableOrder true EvaluationResult.timestamp) Access.allowAll 0 []

theorem evaluateCatalog_verdict_backup :
    EvaluationService.cacheControls ⟨∅⟩ backupToe.catalogId (.ok backupListing.controls) =
      .ok backupService ∧
    (backupRun [backupResult "1" "BackupEnabled", backupResult "2" "BackupTested"]).err = none ∧
    ∀ c ∈ backupListing.controls, c.parentControlId = none →
      c.isRelevantFor backupToe ⟨"EUCS", []⟩ = true →
      ∃ r ∈ (backupRun [backupResult "1" "BackupEnabled", backupResult "2" "BackupTested"]).stored,
        r.isFor backupToe c ∧
        VerdictFor (latestAssessments (SQL.Engine.inTableOrder true assessmentStamp)
          [backupResult "1" "BackupEnabled", backupResult "2" "BackupTested"]
          backupToe.cloudServiceId) backupListing.controls backupToe ⟨"EUCS", []⟩ c r.status := by
  have hcache : EvaluationService.cacheControls ⟨∅⟩ backupToe.catalogId
      (.ok backupListing.controls) = .ok backupService := rfl
  have hauto : Automatic [] := by simp [Automatic]
  have hrun : (backupRun [backupResult "1" "BackupEnabled",
      backupResult "2" "BackupTested"]).err = none := by decide
  refine ⟨hcache, hrun,
    (evaluateCatalog_verdict_iff hcache (backupEnv_listsLatest _ _) hauto hrun).mpr ?_⟩
  intro c hc hnone _
  rcases List.mem_cons.mp hc with rfl | hc
  · exact ⟨rfl, by decide, by decide, fun _ _ => by decide⟩
  · simp only [List.mem_cons, List.not_mem_nil, or_false] at hc
    rcases hc with rfl | rfl <;> cases hnone

/-- One sub-control has a compliant result and the next one has none yet: the parent is
stored as not compliant although nothing violates it. -/
theorem evaluateCatalog_verdict_gap :
    EvaluationService.cacheControls ⟨∅⟩ backupToe.catalogId (.ok backupListing.controls) =
      .ok backupService ∧
    ListsLatest (SQL.Engine.inTableOrder true assessmentStamp) [backupResult "1" "BackupEnabled"]
      (backupEnv [backupResult "1" "BackupEnabled"]) backupToe.cloudServiceId ∧
    (backupRun [backupResult "1" "BackupEnabled"]).err = none ∧
    ¬ ∀ c ∈ backupListing.controls, c.parentControlId = none →
      c.isRelevantFor backupToe ⟨"EUCS", []⟩ = true →
      ∃ r ∈ (backupRun [backupResult "1" "BackupEnabled"]).stored, r.isFor backupToe c ∧
        VerdictFor (latestAssessments (SQL.Engine.inTableOrder true assessmentStamp)
          [backupResult "1" "BackupEnabled"] backupToe.cloudServiceId) backupListing.controls
          backupToe ⟨"EUCS", []⟩ c r.status := by
  refine ⟨rfl, backupEnv_listsLatest _ _, by decide, fun h => ?_⟩
  have hstored : ∀ r ∈ (backupRun [backupResult "1" "BackupEnabled"]).stored,
      r.parentControlId = none → r.status = .notCompliant := by decide
  obtain ⟨r,hr,hfor,hverdict⟩ := h _ List.mem_cons_self rfl rfl
  have hviolated := hverdict.notCompliant.mp (hstored r hr hfor.2.2.2)
  revert hviolated
  decide

end Catalog
end Clouditor
