import Clouditor.EvaluationVerdict

/-! Manual results: which rows of the table reach a run, and which controls and
sub-controls they take the place of. -/
namespace Clouditor
set_option autoImplicit false

section Rows
variable (toe : TargetOfEvaluation) (now : Time)

def ofTarget (r : EvaluationResult) : Bool :=
  r.cloudServiceId = toe.cloudServiceId && r.controlCatalogId = toe.catalogId

/-- A manual result of the target within its validity period. -/
def validManual (r : EvaluationResult) : Bool :=
  ofTarget toe r && r.manual && r.validUntil.all (now ≤ ·)

def EvaluationResult.live (r : EvaluationResult) (now : Time) : Bool :=
  r.validUntil.any (now ≤ ·)

def manualSelected (a : Access) : EvaluationResult → Bool :=
  selected a now (manualRequest toe.cloudServiceId toe.catalogId).filter

theorem manualSelected_eq (a : Access) (r : EvaluationResult) :
    manualSelected toe now a r = ((ofTarget toe r && r.manual && r.validUntil.isNone) ||
      (r.live now && a.checkAccess r.cloudServiceId)) := by
  simp [manualSelected, selected, manualRequest, EvaluationFilter.meets, ofTarget,
    EvaluationResult.live]

theorem manualSelected_of_validManual (a : Access) (ha : a.checkAccess toe.cloudServiceId = true)
    (r : EvaluationResult) (h : validManual toe now r = true) :
    manualSelected toe now a r = true := by
  rw [manualSelected_eq]
  simp only [validManual, Bool.and_eq_true] at h
  obtain ⟨⟨ht,hm⟩,hv⟩ := h
  have hcs : r.cloudServiceId = toe.cloudServiceId := by
    simp only [ofTarget, Bool.and_eq_true, decide_eq_true_eq] at ht
    exact ht.1
  cases hu : r.validUntil with
  | none => simp [ht, hm]
  | some t =>
    rw [hu, Option.all_some] at hv
    simp [EvaluationResult.live, hu, hcs, ha, hv]

/-- The missing parentheses let in whatever is still live; where every live row is a
valid manual result of the target, nothing else comes through. -/
theorem validManual_of_manualSelected (a : Access) (r : EvaluationResult)
    (hlive : r.live now = true → validManual toe now r = true)
    (h : manualSelected toe now a r = true) : validManual toe now r = true := by
  rw [manualSelected_eq] at h
  simp only [Bool.or_eq_true, Bool.and_eq_true, Option.isNone_iff_eq_none] at h
  rcases h with ⟨⟨ht,hm⟩,hv⟩ | ⟨hl,_⟩
  · simp [validManual, ht, hm, hv]
  · exact hlive hl

end Rows

section Independence
variable (env : EvaluationEnv) (svc : EvaluationService) (toe : TargetOfEvaluation)
  (catalog : Catalog) (E : SQL.Engine EvaluationResult EvaluationResult.timestamp) (now : Time)

/-- The two tables hold the same rows of the target. -/
def SameTarget (t u : List EvaluationResult) : Prop :=
  t.filter (ofTarget toe) = u.filter (ofTarget toe)

/-- No row of another service or catalog has an end of validity that is still ahead. -/
def NoForeign (t : List EvaluationResult) : Prop :=
  ∀ r ∈ t, ofTarget toe r = false → r.live now = false

/-- Both runs evaluate the same controls and store the same statuses. -/
def SameOutcome (t u : List EvaluationResult) : Prop :=
  (catalogPlan svc toe catalog E Access.allowAll now t).map (List.map Prod.fst) =
    (catalogPlan svc toe catalog E Access.allowAll now u).map (List.map Prod.fst) ∧
  (evaluateCatalog env svc toe catalog E Access.allowAll now t).stored.map
      (fun r => (r.controlCategoryName, r.controlId, r.parentControlId, r.status)) =
    (evaluateCatalog env svc toe catalog E Access.allowAll now u).stored.map
      (fun r => (r.controlCategoryName, r.controlId, r.parentControlId, r.status))

theorem filter_manualSelected (a : Access) (t : List EvaluationResult)
    (h : NoForeign toe now t) : t.filter (manualSelected toe now a) =
      (t.filter (ofTarget toe)).filter (manualSelected toe now a) := by
  rw [List.filter_filter]
  apply List.filter_congr
  intro r hr
  cases ht : ofTarget toe r with
  | true => simp
  | false => simp [manualSelected_eq, ht, h r hr ht]

/-- A run depends on the table only through the rows the manual request selects. -/
theorem catalogPlan_congr (a : Access) (t u : List EvaluationResult)
    (h : t.filter (manualSelected toe now a) = u.filter (manualSelected toe now a)) :
    catalogPlan svc toe catalog E a now t = catalogPlan svc toe catalog E a now u := by
  have hrows := h
  unfold manualSelected at hrows
  simp only [catalogPlan, listEvaluationResults, evaluationQuery_select, hrows]

theorem sameOutcome_of_plan (t u : List EvaluationResult)
    (h : catalogPlan svc toe catalog E Access.allowAll now t =
      catalogPlan svc toe catalog E Access.allowAll now u) :
    SameOutcome env svc toe catalog E now t u := by
  have hrun : evaluateCatalog env svc toe catalog E Access.allowAll now t =
      evaluateCatalog env svc toe catalog E Access.allowAll now u := by
    unfold evaluateCatalog
    rw [h]
  exact ⟨by rw [h], by rw [hrun]⟩

/-- A manual result for `c` under another catalog of the same service. -/
def foreignRow (c : Control) : EvaluationResult :=
  bareRow toe.cloudServiceId (toe.catalogId ++ "'") c.id .compliantManually (some now)

theorem foreignRow_ofTarget (c : Control) : ofTarget toe (foreignRow toe now c) = false := by
  have hne : toe.catalogId ++ "'" ≠ toe.catalogId := by
    intro h
    have hlen := congrArg (fun s => s.toList.length) h
    simp at hlen
  simp [ofTarget, foreignRow, bareRow, hne]

/-- One foreign row is enough to take a control out of the plan. -/
theorem foreignRow_skips (c : Control) (plan : List (Control × List EvaluationResult))
    (h : catalogPlan svc toe catalog E Access.allowAll now [foreignRow toe now c] = .ok plan) :
    c ∉ plan.map Prod.fst := by
  obtain ⟨results,rfl,hnew⟩ := catalogPlan_ok svc toe catalog E Access.allowAll now _ plan h
  have hsel : manualSelected toe now Access.allowAll (foreignRow toe now c) = true := by
    simp [manualSelected_eq, EvaluationResult.live, foreignRow, bareRow, Access.checkAccess,
      Access.allowAll]
  obtain ⟨r,hr,hid⟩ := hnew.cover (foreignRow toe now c)
    (List.mem_filter.mpr ⟨List.mem_singleton_self _, hsel⟩)
  have hrow := List.mem_singleton.mp (List.mem_of_mem_filter (hnew.mem r hr))
  intro hc
  obtain ⟨p,hp,rfl⟩ := List.mem_map.mp hc
  refine ((mem_planFor svc toe catalog results p).mp hp).2.2.1 ?_
  refine List.mem_map.mpr ⟨r, List.mem_filter.mpr ⟨hr, ?_⟩, hid⟩
  rw [hrow]
  rfl

theorem accepted_allowAll (h : (manualRequest toe.cloudServiceId toe.catalogId).valid = true) :
    Accepted E Access.allowAll (manualRequest toe.cloudServiceId toe.catalogId) :=
  ⟨h, rfl, Or.inl rfl⟩

theorem planFor_eq_nil (results : List EvaluationResult)
    (h : ∀ c ∈ svc.values toe.catalogId, c.parentControlId = none →
      c.isRelevantFor toe catalog = false) : planFor svc toe catalog results = [] := by
  apply List.eq_nil_iff_forall_not_mem.mpr
  intro p hp
  obtain ⟨hc,hnone,_,hrel,_⟩ := (mem_planFor svc toe catalog results p).mp hp
  rw [h p.1 hc hnone] at hrel
  cases hrel

theorem mem_plan_empty (c : Control) (hc : c ∈ svc.values toe.catalogId)
    (hnone : c.parentControlId = none) (hrel : c.isRelevantFor toe catalog = true)
    (plan : List (Control × List EvaluationResult))
    (h : catalogPlan svc toe catalog E Access.allowAll now [] = .ok plan) :
    c ∈ plan.map Prod.fst := by
  obtain ⟨results,rfl,hnew⟩ := catalogPlan_ok svc toe catalog E Access.allowAll now [] plan h
  obtain rfl : results = [] :=
    List.eq_nil_iff_forall_not_mem.mpr (fun r hr => by cases hnew.mem r hr)
  refine List.mem_map.mpr ⟨(c, []), (mem_planFor svc toe catalog [] _).mpr ?_, rfl⟩
  exact ⟨hc, hnone, by simp [ignoredControls], hrel, rfl⟩

/-- Two stores that agree on the rows of the target lead to the same outcome when no
row of another target is live. Without that condition they do so for every pair of
stores only if there is nothing to evaluate. -/
theorem evaluateCatalog_independent_iff :
    (∀ t u, SameTarget toe t u → NoForeign toe now t → NoForeign toe now u →
      SameOutcome env svc toe catalog E now t u) ∧
    ((∀ t u, SameTarget toe t u → SameOutcome env svc toe catalog E now t u) ↔
      (manualRequest toe.cloudServiceId toe.catalogId).valid = false ∨
      ∀ c ∈ svc.values toe.catalogId, c.parentControlId = none →
        c.isRelevantFor toe catalog = false) := by
  refine ⟨?_, ?_, ?_⟩
  · intro t u hsame ht hu
    apply sameOutcome_of_plan
    apply catalogPlan_congr
    rw [filter_manualSelected toe now _ t ht, filter_manualSelected toe now _ u hu,
      show t.filter (ofTarget toe) = u.filter (ofTarget toe) from hsame]
  · intro h
    by_contra hbad
    push Not at hbad
    obtain ⟨hv,c,hc,hnone,hrel⟩ := hbad
    have hacc := accepted_allowAll toe E (by simpa using hv)
    obtain ⟨p,hp⟩ := catalogPlan_of_accepted svc toe catalog E Access.allowAll now [] hacc
    -- the empty table and one foreign row with the id of the control tell runs apart
    obtain ⟨q,hq⟩ := catalogPlan_of_accepted svc toe catalog E Access.allowAll now
      [foreignRow toe now c] hacc
    have hsame : SameTarget toe [] [foreignRow toe now c] := by
      simp [SameTarget, foreignRow_ofTarget]
    have hplans := (h _ _ hsame).1
    rw [hp, hq] at hplans
    have hmem := mem_plan_empty svc toe catalog E now c hc hnone (by simpa using hrel) p hp
    rw [Except.ok.inj hplans] at hmem
    exact foreignRow_skips svc toe catalog E now c q hq hmem
  · rintro (hv | hnone) t u _
    · apply sameOutcome_of_plan
      simp [catalogPlan, listEvaluationResults, hv, Except.map]
    · apply sameOutcome_of_plan
      simp only [catalogPlan, planFor_eq_nil svc toe catalog _ hnone]
      by_cases hv : (manualRequest toe.cloudServiceId toe.catalogId).valid = true
      · obtain ⟨p,hp,_⟩ := listEvaluationResults_latest E Access.allowAll now t _
          (accepted_allowAll toe E hv) rfl
        obtain ⟨q,hq,_⟩ := listEvaluationResults_latest E Access.allowAll now u _
          (accepted_allowAll toe E hv) rfl
        rw [hp, hq]
        rfl
      · simp [listEvaluationResults, hv, Except.map]

/-- A manual result of another service, for a control with the same short name, and
the control of the target is no longer evaluated. -/
theorem evaluateCatalog_foreign_skip :
    SameTarget backupToe []
      [bareRow "22222222-2222-2222-2222-222222222222" "BSI" "OPS-13" .compliantManually
        (some 100)] ∧
    ¬ SameOutcome (backupEnv []) backupService backupToe ⟨"EUCS", []⟩
      (SQL.Engine.inTableOrder true EvaluationResult.timestamp) 50 []
      [bareRow "22222222-2222-2222-2222-222222222222" "BSI" "OPS-13" .compliantManually
        (some 100)] := by
  refine ⟨rfl, fun h => ?_⟩
  have hstored := h.2
  revert hstored
  decide

end Independence
def EvaluationResult.key (r : EvaluationResult) : String × String :=
  (r.controlCategoryName, r.controlId)

section Overrides
variable (toe : TargetOfEvaluation) (catalog : Catalog)
  (E : SQL.Engine EvaluationResult EvaluationResult.timestamp) (now : Time)
  (table : List EvaluationResult)

def HasManual (c : Control) : Prop := ∃ r ∈ table, validManual toe now r = true ∧ r.key = c.key

/-- A valid manual result of one of the relevant sub-controls of `c`. -/
def manualOfSub (c : Control) (r : EvaluationResult) : Bool :=
  validManual toe now r && (relevantOf toe catalog c).any (fun s => r.key = s.key)

/-- What a plan should do with the manual results: skip exactly the controls that have
one, and hand each parent the latest one of each relevant sub-control of its own. -/
structure OverridesExactly (L : ControlListing toe.catalogId)
    (plan : List (Control × List EvaluationResult)) : Prop where
  parents : ∀ c ∈ L.controls, c.parentControlId = none → c.isRelevantFor toe catalog = true →
    (c ∉ plan.map Prod.fst ↔ HasManual toe now table c)
  subs : ∀ p ∈ plan, ∀ s ∈ relevantOf toe catalog p.1,
    (s ∉ relevantSubcontrols toe catalog p.1 p.2 ↔ HasManual toe now table s)
  aggregated : ∀ p ∈ plan, SQL.NewestPer E.nullsFirst EvaluationResult.timestamp
    EvaluationResult.key (table.filter (manualOfSub toe catalog now p.1)) p.2

/-- The valid manual results name `c` and its relevant sub-controls by id only where
they mean them, and name `c` as a parent only for a relevant sub-control of it. -/
structure Attributable (c : Control) : Prop where
  parent_id : ∀ r ∈ table, validManual toe now r = true → r.controlId = c.id →
    r.key = c.key ∧ r.parentControlId = none
  sub_id : ∀ s ∈ relevantOf toe catalog c, ∀ r ∈ table, validManual toe now r = true →
    r.controlId = s.id → r.key = s.key ∧ r.parentControlId = some c.id
  grouped : ∀ r ∈ table, validManual toe now r = true → r.parentControlId = some c.id →
    ∃ s ∈ relevantOf toe catalog c, r.key = s.key

variable {toe catalog E now table}

theorem not_mem_relevantSubcontrols (c s : Control) (manual : List EvaluationResult)
    (hs : s ∈ relevantOf toe catalog c) :
    s ∉ relevantSubcontrols toe catalog c manual ↔ ∃ r ∈ manual, r.controlId = s.id := by
  obtain ⟨hmem,hrel⟩ := List.mem_filter.mp hs
  simp [relevantSubcontrols, hmem, hrel]

theorem mem_manualOf (results : List EvaluationResult) (parent : String) (r : EvaluationResult) :
    r ∈ manualOf results parent ↔ r ∈ results ∧ r.parentControlId = some parent := by
  simp [manualOf]

theorem mem_ignoredControls (results : List EvaluationResult) (id : String) :
    id ∈ ignoredControls results ↔
      ∃ r ∈ results, r.parentControlId = none ∧ r.controlId = id := by
  simp [ignoredControls, and_assoc]

section Attribution
variable {c : Control} {results : List EvaluationResult}
  (hatt : Attributable toe catalog now table c)
  (hnew : SQL.NewestPer E.nullsFirst EvaluationResult.timestamp EvaluationResult.controlId
    (table.filter (validManual toe now)) results)

include hatt hnew

theorem mem_ignoredControls_iff_hasManual :
    c.id ∈ ignoredControls results ↔ HasManual toe now table c := by
  rw [mem_ignoredControls]
  constructor
  · rintro ⟨r,hr,_,hid⟩
    obtain ⟨hmem,hv⟩ := List.mem_filter.mp (hnew.mem r hr)
    exact ⟨r, hmem, hv, (hatt.parent_id r hmem hv hid).1⟩
  · rintro ⟨m,hm,hv,hkey⟩
    obtain ⟨r,hr,hid⟩ := hnew.cover m (List.mem_filter.mpr ⟨hm, hv⟩)
    obtain ⟨hmem,hrv⟩ := List.mem_filter.mp (hnew.mem r hr)
    have hrc : r.controlId = c.id := hid.trans (congrArg Prod.snd hkey)
    exact ⟨r, hr, (hatt.parent_id r hmem hrv hrc).2, hrc⟩

theorem skips_sub_iff_hasManual (s : Control) (hs : s ∈ relevantOf toe catalog c) :
    s ∉ relevantSubcontrols toe catalog c (manualOf results c.id) ↔ HasManual toe now table s := by
  rw [not_mem_relevantSubcontrols c s _ hs]
  constructor
  · rintro ⟨r,hr,hid⟩
    obtain ⟨hmem,hv⟩ := List.mem_filter.mp (hnew.mem r ((mem_manualOf _ _ r).mp hr).1)
    exact ⟨r, hmem, hv, (hatt.sub_id s hs r hmem hv hid).1⟩
  · rintro ⟨m,hm,hv,hkey⟩
    obtain ⟨r,hr,hid⟩ := hnew.cover m (List.mem_filter.mpr ⟨hm, hv⟩)
    obtain ⟨hmem,hrv⟩ := List.mem_filter.mp (hnew.mem r hr)
    have hrs : r.controlId = s.id := hid.trans (congrArg Prod.snd hkey)
    exact ⟨r, (mem_manualOf _ _ r).mpr ⟨hr, (hatt.sub_id s hs r hmem hrv hrs).2⟩, hrs⟩

theorem manualOf_newestPer :
    SQL.NewestPer E.nullsFirst EvaluationResult.timestamp EvaluationResult.key
      (table.filter (manualOfSub toe catalog now c)) (manualOf results c.id) where
  nodup := by
    -- one row per control id, so one row per key
    have hn : ((manualOf results c.id).map EvaluationResult.controlId).Nodup :=
      hnew.nodup.sublist (List.filter_sublist.map _)
    exact List.Nodup.of_map Prod.snd (by rw [List.map_map]; exact hn)
  mem r hr := by
    obtain ⟨hres,hpar⟩ := (mem_manualOf _ _ r).mp hr
    obtain ⟨hmem,hv⟩ := List.mem_filter.mp (hnew.mem r hres)
    obtain ⟨s,hs,hkey⟩ := hatt.grouped r hmem hv hpar
    refine List.mem_filter.mpr ⟨hmem, ?_⟩
    simp only [manualOfSub, hv, Bool.true_and, List.any_eq_true]
    exact ⟨s, hs, by simpa using hkey⟩
  -- rows of one key also share the control id they were ranked by
  max r hr x hx hkey := by
    obtain ⟨hx,hsub⟩ := List.mem_filter.mp hx
    simp only [manualOfSub, Bool.and_eq_true] at hsub
    exact hnew.max r ((mem_manualOf _ _ r).mp hr).1 x (List.mem_filter.mpr ⟨hx, hsub.1⟩)
      (congrArg Prod.snd hkey)
  cover x hx := by
    obtain ⟨hx,hsub⟩ := List.mem_filter.mp hx
    simp only [manualOfSub, Bool.and_eq_true, List.any_eq_true, decide_eq_true_eq] at hsub
    obtain ⟨hxv,s,hs,hxs⟩ := hsub
    obtain ⟨r,hr,hid⟩ := hnew.cover x (List.mem_filter.mpr ⟨hx, hxv⟩)
    obtain ⟨hmem,hrv⟩ := List.mem_filter.mp (hnew.mem r hr)
    obtain ⟨hkey,hpar⟩ := hatt.sub_id s hs r hmem hrv (hid.trans (congrArg Prod.snd hxs))
    exact ⟨r, (mem_manualOf _ _ r).mpr ⟨hr, hpar⟩, hkey.trans hxs.symm⟩

end Attribution

variable {svc0 svc : EvaluationService} {a : Access} {L : ControlListing toe.catalogId}

/-- Where every live row is a valid manual result of the target, the plan is made from
the newest of exactly these. -/
theorem catalogPlan_valid (plan : List (Control × List EvaluationResult))
    (hplan : catalogPlan svc toe catalog E a now table = .ok plan)
    (hlive : ∀ r ∈ table, r.live now = true → validManual toe now r = true) :
    ∃ results, plan = planFor svc toe catalog results ∧
      SQL.NewestPer E.nullsFirst EvaluationResult.timestamp EvaluationResult.controlId
        (table.filter (validManual toe now)) results := by
  have hacc := accepted_of_catalogPlan svc toe catalog E a now table plan hplan
  obtain ⟨results,hres,hnew⟩ := catalogPlan_ok svc toe catalog E a now table plan hplan
  have hfilter : table.filter (manualSelected toe now a) = table.filter (validManual toe now) := by
    apply List.filter_congr
    intro r hr
    exact Bool.eq_iff_iff.mpr ⟨validManual_of_manualSelected toe now a r (hlive r hr),
      manualSelected_of_validManual toe now a hacc.permitted r⟩
  exact ⟨results, hres, hfilter ▸ hnew⟩

theorem not_mem_planFor (hcache : svc0.cacheControls toe.catalogId (.ok L.controls) = .ok svc)
    (results : List EvaluationResult) (c : Control)
    (hcached : cachedAt L.controls c.tag = some c) (hnone : c.parentControlId = none)
    (hrel : c.isRelevantFor toe catalog = true) :
    c ∉ (planFor svc toe catalog results).map Prod.fst ↔ c.id ∈ ignoredControls results := by
  rw [List.mem_map, ← not_iff_not, not_not]
  constructor
  · rintro ⟨p,hp,rfl⟩
    exact ((mem_planFor svc toe catalog results p).mp hp).2.2.1
  · intro hi
    refine ⟨(c, manualOf results c.id), (mem_planFor svc toe catalog results _).mpr ?_, rfl⟩
    exact ⟨(mem_values hcache c).mpr hcached, hnone, hi, hrel, rfl⟩

/-- Enough for every table: live rows are valid manual results of the target, and these
can be told apart by control id and parent id alone. -/
theorem overridesExactly_of_attributable
    (hcache : svc0.cacheControls toe.catalogId (.ok L.controls) = .ok svc)
    (plan : List (Control × List EvaluationResult))
    (hplan : catalogPlan svc toe catalog E a now table = .ok plan)
    (hlive : ∀ r ∈ table, r.live now = true → validManual toe now r = true)
    (hattr : ∀ c ∈ L.controls, c.parentControlId = none → c.isRelevantFor toe catalog = true →
      cachedAt L.controls c.tag = some c ∧ Attributable toe catalog now table c) :
    OverridesExactly toe catalog E now table L plan := by
  obtain ⟨results,rfl,hnew⟩ := catalogPlan_valid plan hplan hlive
  have hplanned (p : Control × List EvaluationResult)
      (hp : p ∈ planFor svc toe catalog results) :
      Attributable toe catalog now table p.1 ∧ p.2 = manualOf results p.1.id := by
    obtain ⟨hc,hnone,_,hrel,hman⟩ := (mem_planFor svc toe catalog results p).mp hp
    have hlisted := (cachedAt_spec _ _ _ ((mem_values hcache p.1).mp hc)).1
    exact ⟨(hattr p.1 hlisted hnone hrel).2, hman⟩
  refine ⟨?_, ?_, ?_⟩
  · intro c hc hnone hrel
    obtain ⟨hcached,hatt⟩ := hattr c hc hnone hrel
    rw [not_mem_planFor hcache results c hcached hnone hrel]
    exact mem_ignoredControls_iff_hasManual hatt hnew
  · intro p hp s hs
    obtain ⟨hatt,hman⟩ := hplanned p hp
    rw [hman]
    exact skips_sub_iff_hasManual hatt hnew s hs
  · intro p hp
    obtain ⟨hatt,hman⟩ := hplanned p hp
    rw [hman]
    exact manualOf_newestPer hatt hnew

/-- The table holds valid manual results of the target only, each for a listed control. -/
def ManualTable (toe : TargetOfEvaluation) (now : Time) (L : ControlListing toe.catalogId)
    (table : List EvaluationResult) : Prop :=
  ∀ r ∈ table, validManual toe now r = true ∧
    ∃ t ∈ L.controls, r.key = t.key ∧ r.parentControlId = t.parentControlId

/-- What a catalog must be like around `c` for ids without categories to do. -/
structure Unambiguous (toe : TargetOfEvaluation) (catalog : Catalog)
    (L : ControlListing toe.catalogId) (c : Control) : Prop where
  cached : cachedAt L.controls c.tag = some c
  parent_id : ∀ t ∈ L.controls, t.id = c.id → t.categoryName = c.categoryName
  sub_id : ∀ s ∈ relevantOf toe catalog c, ∀ t ∈ L.controls, t.id = s.id →
    t.categoryName = s.categoryName
  grouped : ∀ t ∈ L.controls, t.parentControlId = some c.id →
    ∃ s ∈ relevantOf toe catalog c, s.key = t.key

theorem attributable_of_unambiguous (c : Control) (hc : c ∈ L.controls)
    (hnone : c.parentControlId = none) (hu : Unambiguous toe catalog L c)
    (ht : ManualTable toe now L table) : Attributable toe catalog now table c where
  parent_id r hr _ hid := by
    obtain ⟨t,htl,hkey,hpar⟩ := (ht r hr).2
    have hid' : t.id = c.id := (congrArg Prod.snd hkey).symm.trans hid
    have htc : t.key = c.key := Prod.ext (hu.parent_id t htl hid') hid'
    obtain rfl := L.eq_of_key htl hc htc
    exact ⟨hkey, hpar.trans hnone⟩
  sub_id s hs r hr _ hid := by
    obtain ⟨t,htl,hkey,hpar⟩ := (ht r hr).2
    have hid' : t.id = s.id := (congrArg Prod.snd hkey).symm.trans hid
    have hts : t.key = s.key := Prod.ext (hu.sub_id s hs t htl hid') hid'
    obtain ⟨u,hul,hus,hup⟩ := L.sub_listed c hc s (List.mem_of_mem_filter hs)
    obtain rfl := L.eq_of_key htl hul (hts.trans hus.symm)
    exact ⟨hkey.trans hts, hpar.trans hup⟩
  grouped r hr _ hpar := by
    obtain ⟨t,htl,hkey,hpt⟩ := (ht r hr).2
    obtain ⟨s,hs,hst⟩ := hu.grouped t htl (hpt.symm.trans hpar)
    exact ⟨s, hs, hkey.trans hst.symm⟩

/-- A valid manual result for the control `t`. -/
def manualRow (toe : TargetOfEvaluation) (now : Time) (t : Control) (stamp : Time) :
    EvaluationResult where
  id := "00000000-0000-0000-0000-000000000000"
  cloudServiceId := toe.cloudServiceId
  controlId := t.id
  controlCategoryName := t.categoryName
  controlCatalogId := toe.catalogId
  parentControlId := t.parentControlId
  status := .compliantManually
  timestamp := some stamp
  failingAssessmentResultIds := []
  validUntil := some now

theorem manualRow_valid (t : Control) (stamp : Time) :
    validManual toe now (manualRow toe now t stamp) = true := by
  simp [validManual, ofTarget, manualRow, EvaluationResult.manual]

theorem manualTable_rows (rows : List (Control × Time)) (h : ∀ p ∈ rows, p.1 ∈ L.controls) :
    ManualTable toe now L (rows.map (fun p => manualRow toe now p.1 p.2)) := by
  intro r hr
  obtain ⟨p,hp,rfl⟩ := List.mem_map.mp hr
  exact ⟨manualRow_valid p.1 p.2, p.1, h p hp, rfl, rfl⟩

theorem ManualTable.live (h : ManualTable toe now L table) :
    ∀ r ∈ table, r.live now = true → validManual toe now r = true :=
  fun r hr _ => (h r hr).1

section Necessity
variable (hacc : Accepted E a (manualRequest toe.cloudServiceId toe.catalogId))
  (hall : ∀ table, ManualTable toe now L table → ∀ plan,
    catalogPlan svc toe catalog E a now table = .ok plan →
    OverridesExactly toe catalog E now table L plan)

include hacc hall

/-- The plan for a table of manual results, with the rows it is made from. -/
theorem exact_plan (ht : ManualTable toe now L table) :
    ∃ results, OverridesExactly toe catalog E now table L (planFor svc toe catalog results) ∧
      SQL.NewestPer E.nullsFirst EvaluationResult.timestamp EvaluationResult.controlId table
        results := by
  obtain ⟨plan,hplan⟩ := catalogPlan_of_accepted svc toe catalog E a now table hacc
  have hexact := hall table ht plan hplan
  obtain ⟨results,rfl,hnew⟩ := catalogPlan_valid plan hplan ht.live
  rw [List.filter_eq_self.mpr (fun r hr => (ht r hr).1)] at hnew
  exact ⟨results, hexact, hnew⟩

variable {c : Control} (hcache : svc0.cacheControls toe.catalogId (.ok L.controls) = .ok svc)
  (hc : c ∈ L.controls) (hnone : c.parentControlId = none)
  (hrel : c.isRelevantFor toe catalog = true)

include hcache hc hnone hrel

theorem cached_of_exact : cachedAt L.controls c.tag = some c := by
  have ht : ManualTable toe now L [] := by simp [ManualTable]
  obtain ⟨results,hexact,_⟩ := exact_plan hacc hall ht
  by_contra hn
  have hskip : c ∉ (planFor svc toe catalog results).map Prod.fst := by
    intro hmem
    obtain ⟨p,hp,rfl⟩ := List.mem_map.mp hmem
    exact hn ((mem_values hcache p.1).mp ((mem_planFor svc toe catalog results p).mp hp).1)
  obtain ⟨r,hr,_⟩ := (hexact.parents c hc hnone hrel).mp hskip
  cases hr

/-- With an older result for `c` and a newer one for another control of the same id, or
with the latter alone, the wrong one of the two is skipped. -/
theorem parent_id_of_exact (t : Control) (htl : t ∈ L.controls) (hid : t.id = c.id) :
    t.categoryName = c.categoryName := by
  have hcached := cached_of_exact hacc hall hcache hc hnone hrel
  by_contra hcat
  have hkey : t.key ≠ c.key := fun h => hcat (congrArg Prod.fst h)
  -- a result of a parent control is ignored by id, one of a sub-control hides an older one
  cases hpar : t.parentControlId with
  | none =>
    obtain ⟨results,hexact,hnew⟩ := exact_plan hacc hall
      (manualTable_rows [(t, 0)] (by simpa using htl))
    obtain ⟨r,hr,hri⟩ := hnew.cover (manualRow toe now t 0) (by simp)
    have hrow : r = manualRow toe now t 0 := by simpa using hnew.mem r hr
    have hskip := (not_mem_planFor hcache results c hcached hnone hrel).mpr
      ((mem_ignoredControls _ _).mpr ⟨r, hr, by rw [hrow]; exact hpar, hri.trans hid⟩)
    obtain ⟨m,hm,_,hmk⟩ := (hexact.parents c hc hnone hrel).mp hskip
    have hmrow : m = manualRow toe now t 0 := by simpa using hm
    rw [hmrow] at hmk
    exact hkey hmk
  | some p =>
    obtain ⟨results,hexact,hnew⟩ := exact_plan hacc hall
      (manualTable_rows [(c, 0), (t, 1)] (by simp [hc, htl]))
    have hmanual : HasManual toe now
        ([(c, 0), (t, 1)].map (fun p => manualRow toe now p.1 p.2)) c :=
      ⟨manualRow toe now c 0, by simp, manualRow_valid c 0, rfl⟩
    have hskip := (hexact.parents c hc hnone hrel).mpr hmanual
    rw [not_mem_planFor hcache results c hcached hnone hrel, mem_ignoredControls] at hskip
    obtain ⟨r,hr,hrp,_⟩ := hskip
    have hrow : r = manualRow toe now c 0 ∨ r = manualRow toe now t 1 := by
      simpa using hnew.mem r hr
    rcases hrow with rfl | rfl
    · have hmax := hnew.max _ hr (manualRow toe now t 1) (by simp) hid
      simp [SQL.stampLe, manualRow] at hmax
    · rw [show (manualRow toe now t 1).parentControlId = t.parentControlId from rfl, hpar] at hrp
      cases hrp

theorem sub_id_of_exact (s : Control) (hs : s ∈ relevantOf toe catalog c) (t : Control)
    (htl : t ∈ L.controls) (hid : t.id = s.id) : t.categoryName = s.categoryName := by
  have hcached := cached_of_exact hacc hall hcache hc hnone hrel
  obtain ⟨u,hul,hus,_⟩ := L.sub_listed c hc s (List.mem_of_mem_filter hs)
  have huid : u.id = s.id := congrArg Prod.snd hus
  have hucat : u.categoryName = s.categoryName := congrArg Prod.fst hus
  by_contra hcat
  obtain ⟨results,hexact,hnew⟩ := exact_plan hacc hall
    (manualTable_rows [(u, 0), (t, 1)] (by simp [hul, htl]))
  -- the newer row of the two is the only one that reaches the plan
  have honly (r : EvaluationResult) (hr : r ∈ results) : r = manualRow toe now t 1 := by
    have hrow : r = manualRow toe now u 0 ∨ r = manualRow toe now t 1 := by
      simpa using hnew.mem r hr
    rcases hrow with rfl | h
    · have hmax := hnew.max _ hr (manualRow toe now t 1) (by simp) (hid.trans huid.symm)
      simp [SQL.stampLe, manualRow] at hmax
    · exact h
  -- if `t` shared its id with `c` as well, the ids of parents would already clash
  have hplanned : c ∈ (planFor svc toe catalog results).map Prod.fst := by
    by_contra hskip
    rw [not_mem_planFor hcache results c hcached hnone hrel, mem_ignoredControls] at hskip
    obtain ⟨r,hr,_,hrc⟩ := hskip
    rw [honly r hr] at hrc
    have htc : t.id = c.id := hrc
    have hu := parent_id_of_exact hacc hall hcache hc hnone hrel u hul
      (huid.trans (hid.symm.trans htc))
    have ht := parent_id_of_exact hacc hall hcache hc hnone hrel t htl htc
    exact hcat (ht.trans (hu.symm.trans hucat))
  obtain ⟨p,hp,rfl⟩ := List.mem_map.mp hplanned
  -- the older row belongs to a sub-control of the plan, but nothing of it is aggregated
  have hrow : manualRow toe now u 0 ∈ ([(u, 0), (t, 1)].map
      (fun p => manualRow toe now p.1 p.2)).filter (manualOfSub toe catalog now p.1) := by
    refine List.mem_filter.mpr ⟨by simp, ?_⟩
    simp only [manualOfSub, manualRow_valid, Bool.true_and, List.any_eq_true]
    exact ⟨s, hs, decide_eq_true hus⟩
  obtain ⟨r,hr,hkey⟩ := (hexact.aggregated p hp).cover _ hrow
  rw [((mem_planFor svc toe catalog results p).mp hp).2.2.2.2] at hr
  rw [honly r ((mem_manualOf _ _ r).mp hr).1] at hkey
  exact hcat ((congrArg Prod.fst hkey).trans hucat)

theorem grouped_of_exact (t : Control) (htl : t ∈ L.controls)
    (hpar : t.parentControlId = some c.id) : ∃ s ∈ relevantOf toe catalog c, s.key = t.key := by
  have hcached := cached_of_exact hacc hall hcache hc hnone hrel
  obtain ⟨results,hexact,hnew⟩ := exact_plan hacc hall
    (manualTable_rows [(t, 0)] (by simpa using htl))
  have honly (r : EvaluationResult) (hr : r ∈ results) : r = manualRow toe now t 0 := by
    simpa using hnew.mem r hr
  have hplanned : c ∈ (planFor svc toe catalog results).map Prod.fst := by
    by_contra hskip
    rw [not_mem_planFor hcache results c hcached hnone hrel, mem_ignoredControls] at hskip
    obtain ⟨r,hr,hrp,_⟩ := hskip
    rw [honly r hr, show (manualRow toe now t 0).parentControlId = t.parentControlId from rfl,
      hpar] at hrp
    cases hrp
  obtain ⟨p,hp,rfl⟩ := List.mem_map.mp hplanned
  obtain ⟨r,hr,_⟩ := hnew.cover (manualRow toe now t 0) (by simp)
  obtain rfl := honly r hr
  -- the row is grouped under `c`, so it has to be one of a relevant sub-control
  have hmem := (hexact.aggregated p hp).mem (manualRow toe now t 0) (by
    rw [((mem_planFor svc toe catalog results p).mp hp).2.2.2.2]
    exact (mem_manualOf _ _ _).mpr ⟨hr, hpar⟩)
  have hsub := (List.mem_filter.mp hmem).2
  simp only [manualOfSub, Bool.and_eq_true, List.any_eq_true, decide_eq_true_eq] at hsub
  obtain ⟨_,s,hs,hkey⟩ := hsub
  exact ⟨s, hs, hkey.symm⟩

end Necessity

/-- Two categories of one catalog that use the same short name for a control. -/
def twinListing : ControlListing backupToe.catalogId where
  controls :=
    [⟨"OPS-01", "Operations", "EUCS", [], ["BackupEnabled"], none, none⟩,
      ⟨"OPS-01", "Premises", "EUCS", [], ["DoorLocked"], none, none⟩]
  key_nodup := by decide
  sub_parent := by simp
  sub_catalog := by simp
  sub_listed := by simp

def twinService : EvaluationService :=
  ⟨AList.insert "EUCS" (twinListing.controls.foldl cacheControl ∅) ∅⟩

end Overrides
end Clouditor
