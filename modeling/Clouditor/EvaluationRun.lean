import Clouditor.EvaluationAggregation
import Clouditor.EvaluationQuery
import Mathlib.Data.List.AList

/-! One run of the evaluation service over a catalog: the cached controls, the
metrics collected for a sub-control, and the results stored on the way up. -/
namespace Clouditor
set_option autoImplicit false

/-- The map `catalogControls`, by catalog and then by tag. -/
structure EvaluationService where
  catalogControls : AList (fun _ : String => AList (fun _ : String => Control))

def errCatalogIdIsMissing : Err := ⟨none, "catalog_id is missing"⟩
def errCategoryNameIsMissing : Err := ⟨none, "category_name is missing"⟩
def errControlIdIsMissing : Err := ⟨none, "control_id is missing"⟩
def errControlNotAvailable : Err := ⟨none, "control not available"⟩

def controlTag (categoryName controlId : String) : String := categoryName ++ "-" ++ controlId

def Control.tag (c : Control) : String := controlTag c.categoryName c.id

def cacheControl (m : AList (fun _ : String => Control)) (c : Control) :
    AList (fun _ : String => Control) :=
  m.insert c.tag c

/-- `listing` is what the orchestrator answers to `ListControls`. -/
def EvaluationService.cacheControls (svc : EvaluationService) (catalogId : String)
    (listing : Except Err (List Control)) : Except Err EvaluationService :=
  if catalogId = "" then .error errCatalogIdIsMissing
  else match listing with
    | .error e => .error e
    | .ok controls =>
      if controls.length = 0 then
        .error ⟨none, "no controls for catalog '" ++ catalogId ++ "' available"⟩
      -- what was cached for the catalog before is gone
      else .ok ⟨svc.catalogControls.insert catalogId (controls.foldl cacheControl ∅)⟩

def EvaluationService.cached (svc : EvaluationService) (catalogId : String) :
    AList (fun _ : String => Control) :=
  (svc.catalogControls.lookup catalogId).getD ∅

def EvaluationService.getControl (svc : EvaluationService)
    (catalogId categoryName controlId : String) : Except Err Control :=
  if catalogId = "" then .error errCatalogIdIsMissing
  else if categoryName = "" then .error errCategoryNameIsMissing
  else if controlId = "" then .error errControlIdIsMissing
  else match (svc.cached catalogId).lookup (controlTag categoryName controlId) with
    | none => .error errControlNotAvailable
    | some control => .ok control

def EvaluationService.getMetricsFromSubcontrols (svc : EvaluationService) (control : Control) :
    Except Err (List String) :=
  (control.controls.mapM (fun c => svc.getControl c.categoryCatalogId c.categoryName c.id)).map
    (fun subcontrols => subcontrols.flatMap Control.metrics)

/-- The metrics of a control and of the controls right below it. -/
def EvaluationService.getAllMetricsFromControl (svc : EvaluationService)
    (catalogId categoryName controlId : String) : Except Err (List String) :=
  match svc.getControl catalogId categoryName controlId with
  | .error e => .error (e.wrap ("could not get control for control id \x7b" ++ controlId ++ "\x7d"))
  | .ok control =>
    if control.controls.length ≠ 0 then
      match svc.getMetricsFromSubcontrols control with
      | .error e => .error (e.wrap "error getting metrics from sub-controls")
      | .ok metrics => .ok (control.metrics ++ metrics)
    else .ok control.metrics

/-- What a run gets from outside: the assessment results of a service for some
metrics, the answers of the database to an insert, and fresh ids and times. -/
structure EvaluationEnv where
  listAssessmentResults : String → List String → Except Err (List AssessmentResult)
  create : EvaluationResult → Option Err
  newId : Control → String
  now : Control → Time

def assessStep (acc : EvaluationStatus × List String) (r : AssessmentResult) :
    EvaluationStatus × List String :=
  if !r.compliant then (.notCompliant, acc.2 ++ [r.id]) else acc

def assess (assessments : List AssessmentResult) : EvaluationStatus × List String :=
  assessments.foldl assessStep (if assessments.length = 0 then .pending else .compliant, [])

section Run
variable (env : EvaluationEnv) (svc : EvaluationService) (toe : TargetOfEvaluation)
  (catalog : Catalog)

/-- A failed list call leaves the sub-control without assessment results. -/
def fetchAssessments (metrics : List String) : List AssessmentResult :=
  if metrics.length ≠ 0 then
    match env.listAssessmentResults toe.cloudServiceId metrics with
    | .error _ => []
    | .ok assessments => assessments
  else []

/-- The result `evaluateSubcontrol` creates from the metrics it has collected. -/
def autoResult (control : Control) (metrics : List String) : EvaluationResult where
  id := env.newId control
  timestamp := some (env.now control)
  controlCategoryName := control.categoryName
  controlId := control.id
  parentControlId := control.parentControlId
  cloudServiceId := toe.cloudServiceId
  controlCatalogId := toe.catalogId
  status := (assess (fetchAssessments env toe metrics)).1
  failingAssessmentResultIds := (assess (fetchAssessments env toe metrics)).2
  validUntil := none

def evaluateSubcontrol (control : Control) : Except Err EvaluationResult :=
  match svc.getAllMetricsFromControl toe.catalogId control.categoryName control.id with
  | .error e => .error e
  | .ok metrics =>
    match env.create (autoResult env toe control metrics) with
    | some e => .error e
    | none => .ok (autoResult env toe control metrics)

/-- The rows a run has stored and the error it ends with. -/
structure EvaluationRun where
  stored : List EvaluationResult
  err : Option Err

def Except.err {α : Type} : Except Err α → Option Err
  | .error e => some e
  | .ok _ => none

def relevantSubcontrols (control : Control) (manual : List EvaluationResult) : List Control :=
  control.controls.filter (fun sub =>
    !(manual.map EvaluationResult.controlId).contains sub.id && sub.isRelevantFor toe catalog)

/-- The group runs every sub-control, also when one of them fails. -/
def evaluateControl (control : Control) (manual : List EvaluationResult) : EvaluationRun :=
  let outcomes := (relevantSubcontrols toe catalog control manual).map
    (evaluateSubcontrol env svc toe)
  let results := outcomes.filterMap Except.toOption
  match outcomes.findSome? Except.err with
  | some e => ⟨results, some e⟩
  | none =>
    -- manual results come after the automatic ones
    let result := controlResult (env.newId control) (env.now control) toe control
      (results ++ manual)
    match env.create result with
    | some e => ⟨results, some e⟩
    | none => ⟨results ++ [result], none⟩

/-- The controls without a parent that have a manual result. -/
def ignoredControls (results : List EvaluationResult) : List String :=
  (results.filter (fun r => r.parentControlId.isNone)).map EvaluationResult.controlId

/-- The manual results grouped under one parent id. -/
def manualOf (results : List EvaluationResult) (parent : String) : List EvaluationResult :=
  results.filter (fun r => r.parentControlId = some parent)

def controlIdLe (c d : Control) : Prop := c.id ≤ d.id

instance : DecidableRel controlIdLe := fun c d => inferInstanceAs (Decidable (c.id ≤ d.id))

def EvaluationService.values (svc : EvaluationService) (catalogId : String) : List Control :=
  (svc.cached catalogId).entries.map Sigma.snd

def planFor (results : List EvaluationResult) : List (Control × List EvaluationResult) :=
  -- ids stand for controls here, without the category they belong to
  (((svc.values toe.catalogId).insertionSort controlIdLe).filter (fun c =>
    c.parentControlId.isNone && !(ignoredControls results).contains c.id &&
      c.isRelevantFor toe catalog)).map (fun c => (c, manualOf results c.id))

variable (E : SQL.Engine EvaluationResult EvaluationResult.timestamp) (a : Access) (now : Time)
  (table : List EvaluationResult)

/-- The controls a run evaluates, each with its manual results. -/
def catalogPlan : Except Err (List (Control × List EvaluationResult)) :=
  (listEvaluationResults E a now table (manualRequest toe.cloudServiceId toe.catalogId)).map
    (fun res => planFor svc toe catalog res.1)

def evaluateCatalog : EvaluationRun :=
  match catalogPlan svc toe catalog E a now table with
  | .error e => ⟨[], some e⟩
  | .ok plan =>
    let runs := plan.map (fun p => evaluateControl env svc toe catalog p.1 p.2)
    -- an error of one control does not take back the rows of the others
    ⟨runs.flatMap EvaluationRun.stored, runs.findSome? EvaluationRun.err⟩

/-- The control that ends up under a tag: the last one listed with it. -/
def cachedAt (controls : List Control) (tag : String) : Option Control :=
  controls.reverse.find? (fun c => c.tag = tag)

theorem lookup_cacheControl (controls : List Control) (tag : String) :
    (controls.foldl cacheControl ∅).lookup tag = cachedAt controls tag := by
  induction controls using List.reverseRecOn with
  | nil => rfl
  | append_singleton l c ih =>
    rw [List.foldl_append, List.foldl_cons, List.foldl_nil, cacheControl, cachedAt,
      List.reverse_append, List.reverse_singleton, List.singleton_append, List.find?_cons]
    by_cases h : c.tag = tag
    · subst h
      rw [AList.lookup_insert]
      simp
    · rw [AList.lookup_insert_ne (fun h' => h h'.symm), ih]
      simp [h, cachedAt]

theorem cachedAt_spec (controls : List Control) (tag : String) (c : Control)
    (h : cachedAt controls tag = some c) : c ∈ controls ∧ c.tag = tag := by
  have hm := List.mem_of_find?_eq_some h
  have ht := List.find?_some h
  exact ⟨List.mem_reverse.mp hm, by simpa using ht⟩

variable {svc}

theorem cached_of_cacheControls {svc0 : EvaluationService} {catalogId : String}
    {controls : List Control} (h : svc0.cacheControls catalogId (.ok controls) = .ok svc) :
    svc.cached catalogId = controls.foldl cacheControl ∅ := by
  simp only [EvaluationService.cacheControls] at h
  split_ifs at h
  rw [Except.ok.injEq] at h
  rw [EvaluationService.cached, ← h]
  simp only [AList.lookup_insert, Option.getD_some]

/-- After caching, a run sees a listed control unless a later one has its tag. -/
theorem mem_values {svc0 : EvaluationService} {catalogId : String} {controls : List Control}
    (h : svc0.cacheControls catalogId (.ok controls) = .ok svc) (c : Control) :
    c ∈ svc.values catalogId ↔ cachedAt controls c.tag = some c := by
  rw [EvaluationService.values, cached_of_cacheControls h, ← lookup_cacheControl]
  constructor
  · intro hc
    obtain ⟨e,he,rfl⟩ := List.mem_map.mp hc
    have hl : (controls.foldl cacheControl ∅).lookup e.1 = some e.2 :=
      AList.mem_lookup_iff.mpr he
    -- an entry stands under the tag of its control
    have ht := (cachedAt_spec controls e.1 e.2 (by rw [← lookup_cacheControl, hl])).2
    rw [ht, hl]
  · intro hl
    exact List.mem_map.mpr ⟨⟨c.tag, c⟩, AList.mem_lookup_iff.mp hl, rfl⟩

variable (svc)

theorem mem_planFor (results : List EvaluationResult) (p : Control × List EvaluationResult) :
    p ∈ planFor svc toe catalog results ↔
      p.1 ∈ svc.values toe.catalogId ∧ p.1.parentControlId = none ∧
      p.1.id ∉ ignoredControls results ∧ p.1.isRelevantFor toe catalog = true ∧
      p.2 = manualOf results p.1.id := by
  simp only [planFor, List.mem_map, List.mem_filter, List.mem_insertionSort, Bool.and_eq_true,
    Option.isNone_iff_eq_none, Bool.not_eq_true', List.contains_eq_mem, decide_eq_false_iff_not]
  constructor
  · rintro ⟨c,⟨hc,⟨hp,hi⟩,hr⟩,rfl⟩
    exact ⟨hc, hp, hi, hr, rfl⟩
  · rintro ⟨hc,hp,hi,hr,hm⟩
    exact ⟨p.1, ⟨hc, ⟨hp, hi⟩, hr⟩, by rw [← hm]⟩

theorem accepted_of_catalogPlan (plan : List (Control × List EvaluationResult))
    (h : catalogPlan svc toe catalog E a now table = .ok plan) :
    Accepted E a (manualRequest toe.cloudServiceId toe.catalogId) := by
  rw [catalogPlan] at h
  cases hl : listEvaluationResults E a now table
      (manualRequest toe.cloudServiceId toe.catalogId) with
  | error e => simp [hl, Except.map] at h
  | ok res => exact accepted_of_ok E a now table _ res rfl hl

/-- A plan is made from the newest row per control id of those the manual request
selects. -/
theorem catalogPlan_ok (plan : List (Control × List EvaluationResult))
    (h : catalogPlan svc toe catalog E a now table = .ok plan) :
    ∃ results, plan = planFor svc toe catalog results ∧
      SQL.NewestPer E.nullsFirst EvaluationResult.timestamp EvaluationResult.controlId
        (table.filter (selected a now (manualRequest toe.cloudServiceId toe.catalogId).filter))
        results := by
  obtain ⟨out,hout,hnew⟩ := listEvaluationResults_latest E a now table _
    (accepted_of_catalogPlan svc toe catalog E a now table plan h) rfl
  rw [catalogPlan, hout] at h
  exact ⟨out, (Except.ok.inj h).symm, hnew⟩

theorem catalogPlan_of_accepted
    (hacc : Accepted E a (manualRequest toe.cloudServiceId toe.catalogId)) :
    ∃ plan, catalogPlan svc toe catalog E a now table = .ok plan := by
  obtain ⟨out,hout,_⟩ := listEvaluationResults_latest E a now table _ hacc rfl
  exact ⟨_, by rw [catalogPlan, hout]; rfl⟩

theorem eq_map_ok {α : Type} (outcomes : List (Except Err α))
    (h : outcomes.findSome? Except.err = none) : ∃ l : List α, outcomes = l.map .ok := by
  induction outcomes with
  | nil => exact ⟨[], rfl⟩
  | cons o os ih =>
    rw [List.findSome?_cons] at h
    cases o with
    | error e => simp [Except.err] at h
    | ok x =>
      obtain ⟨l,hl⟩ := ih (by simpa [Except.err] using h)
      exact ⟨x :: l, by rw [hl, List.map_cons]⟩

/-- A control evaluated without error: every relevant sub-control has its result,
and the row of the control itself is stored last. -/
theorem evaluateControl_ok (control : Control) (manual : List EvaluationResult)
    (h : (evaluateControl env svc toe catalog control manual).err = none) :
    ∃ autos, (relevantSubcontrols toe catalog control manual).map
        (evaluateSubcontrol env svc toe) = autos.map .ok ∧
      (evaluateControl env svc toe catalog control manual).stored = autos ++
        [controlResult (env.newId control) (env.now control) toe control (autos ++ manual)] := by
  unfold evaluateControl at h ⊢
  cases hf : ((relevantSubcontrols toe catalog control manual).map
      (evaluateSubcontrol env svc toe)).findSome? Except.err with
  | some e => simp [hf] at h
  | none =>
    obtain ⟨autos,hautos⟩ := eq_map_ok _ hf
    have hto : (autos.map Except.ok : List (Except Err EvaluationResult)).filterMap
        Except.toOption = autos := by
      rw [List.filterMap_map]
      exact List.filterMap_some
    rw [hautos] at hf
    simp only [hautos, hf, hto] at h ⊢
    cases hc : env.create (controlResult (env.newId control) (env.now control) toe control
        (autos ++ manual)) with
    | some e => simp [hc] at h
    | none => exact ⟨autos, rfl, by simp⟩

theorem evaluateCatalog_of_plan (plan : List (Control × List EvaluationResult))
    (h : catalogPlan svc toe catalog E a now table = .ok plan) :
    evaluateCatalog env svc toe catalog E a now table =
      ⟨plan.flatMap (fun p => (evaluateControl env svc toe catalog p.1 p.2).stored),
        plan.findSome? (fun p => (evaluateControl env svc toe catalog p.1 p.2).err)⟩ := by
  unfold evaluateCatalog
  rw [h]
  simp only [List.flatMap_map, List.findSome?_map]
  rfl

theorem evaluateCatalog_of_error (e : Err)
    (h : catalogPlan svc toe catalog E a now table = .error e) :
    evaluateCatalog env svc toe catalog E a now table = ⟨[], some e⟩ := by
  unfold evaluateCatalog
  rw [h]

theorem evaluateCatalog_ok
    (h : (evaluateCatalog env svc toe catalog E a now table).err = none) :
    ∃ plan, catalogPlan svc toe catalog E a now table = .ok plan ∧
      (∀ p ∈ plan, (evaluateControl env svc toe catalog p.1 p.2).err = none) ∧
      (evaluateCatalog env svc toe catalog E a now table).stored =
        plan.flatMap (fun p => (evaluateControl env svc toe catalog p.1 p.2).stored) := by
  cases hp : catalogPlan svc toe catalog E a now table with
  | error e =>
    rw [evaluateCatalog_of_error env svc toe catalog E a now table e hp] at h
    cases h
  | ok plan =>
    rw [evaluateCatalog_of_plan env svc toe catalog E a now table plan hp] at h ⊢
    exact ⟨plan, rfl, List.findSome?_eq_none_iff.mp h, rfl⟩

end Run
end Clouditor
