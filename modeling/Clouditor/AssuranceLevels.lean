import Clouditor.EvaluationRun

/-! Which controls a run over a catalog evaluates, by the assurance levels of the controls and of
the target of evaluation. -/
namespace Clouditor
set_option autoImplicit false

/-- A catalog whose assurance levels are listed once each, from low to high. -/
structure LeveledCatalog extends Catalog where
  nodup : assuranceLevels.Nodup

section Levels
variable (catalog : LeveledCatalog)

abbrev LeveledCatalog.Level := Fin catalog.assuranceLevels.length

variable {catalog}

/-- The target of evaluation with a level of the list. -/
def TargetOfEvaluation.atLevel (toe : TargetOfEvaluation) (i : catalog.Level) :
    TargetOfEvaluation :=
  { toe with assuranceLevel := some catalog.assuranceLevels[i] }

/-- The control carries no level, or one of the list that is not above the given one. -/
def Control.WithinLevel (c : Control) (i : catalog.Level) : Prop :=
  c.assuranceLevel = none ∨ ∃ k : catalog.Level, k ≤ i ∧
    c.assuranceLevel = some catalog.assuranceLevels[k]

variable (catalog) in
/-- The control carries a level that the catalog does not list. -/
def Control.UnlistedLevel (c : Control) : Prop :=
  ∃ level, c.assuranceLevel = some level ∧ level ∉ catalog.assuranceLevels

theorem sliceIndex_getElem (i : catalog.Level) :
    sliceIndex catalog.assuranceLevels catalog.assuranceLevels[i] = i := by
  have hidx : catalog.assuranceLevels.idxOf? catalog.assuranceLevels[i] = some i.val := by
    rw [List.idxOf?_eq_some_iff]
    refine ⟨i.isLt, rfl, ?_⟩
    intro k hk heq
    have hsame := (catalog.nodup.getElem_inj_iff).mp heq
    omega
  rw [sliceIndex, hidx]

theorem sliceIndex_of_not_mem {levels : List String} {level : String} (h : level ∉ levels) :
    sliceIndex levels level = -1 := by
  rw [sliceIndex, List.idxOf?_eq_none_iff.mpr h]

/-- The index of a level that is not listed is below every other one, so such a control is
relevant as well. -/
theorem isRelevantFor_atLevel_iff (c : Control) (toe : TargetOfEvaluation) (i : catalog.Level) :
    c.isRelevantFor (toe.atLevel i) catalog.toCatalog = true ↔
      c.WithinLevel i ∨ c.UnlistedLevel catalog := by
  have hlength : catalog.assuranceLevels.length ≠ 0 := by
    have hi := i.isLt
    omega
  unfold Control.isRelevantFor Control.WithinLevel Control.UnlistedLevel
  rw [if_neg hlength]
  cases hlevel : c.assuranceLevel with
  | none => simp
  | some level =>
    simp only [TargetOfEvaluation.atLevel, sliceIndex_getElem, decide_eq_true_eq, reduceCtorEq,
      false_or, Option.some.injEq, exists_eq_left']
    by_cases hmem : level ∈ catalog.assuranceLevels
    · obtain ⟨k, hk, rfl⟩ := List.getElem_of_mem hmem
      have hindex : sliceIndex catalog.assuranceLevels catalog.assuranceLevels[k] = k :=
        sliceIndex_getElem ⟨k, hk⟩
      rw [hindex]
      constructor
      · intro hle
        exact .inl ⟨⟨k, hk⟩, Fin.mk_le_of_le_val (by omega), rfl⟩
      · intro h
        obtain ⟨k', hle, heq⟩ | hnot := h
        · have hsame : k = k'.val := (catalog.nodup.getElem_inj_iff).mp heq
          have hval : k'.val ≤ i.val := hle
          omega
        · exact absurd hmem hnot
    · rw [sliceIndex_of_not_mem hmem]
      exact iff_of_true (by omega) (.inr hmem)

theorem Control.WithinLevel.mono {c : Control} {i j : catalog.Level} (hij : i ≤ j)
    (h : c.WithinLevel i) : c.WithinLevel j := by
  obtain hnone | ⟨k, hk, hlevel⟩ := h
  · exact .inl hnone
  · exact .inr ⟨k, hk.trans hij, hlevel⟩

theorem not_unlisted_of_within {c : Control} {i : catalog.Level} (h : c.WithinLevel i) :
    ¬ c.UnlistedLevel catalog := by
  intro ⟨level, hlevel, hnot⟩
  obtain hnone | ⟨k, _, hk⟩ := h
  · rw [hnone] at hlevel
    cases hlevel
  · rw [hk] at hlevel
    obtain rfl := Option.some.inj hlevel
    exact hnot (List.getElem_mem _)

end Levels

section Evaluated
variable (svc : EvaluationService) (toe : TargetOfEvaluation) (catalog : Catalog)
  (results : List EvaluationResult)

/-- A run evaluates the parent control. -/
def EvaluatedParent (c : Control) : Prop := ∃ manual, (c, manual) ∈ planFor svc toe catalog results

/-- A run evaluates the sub-control of the parent. -/
def EvaluatedSub (c sub : Control) : Prop :=
  ∃ manual, (c, manual) ∈ planFor svc toe catalog results ∧
    sub ∈ relevantSubcontrols toe catalog c manual

/-- A cached parent control without a manual result. -/
structure OpenParent (catalogId : String) (c : Control) : Prop where
  cached : c ∈ svc.values catalogId
  parent : c.parentControlId = none
  noManual : c.id ∉ ignoredControls results

/-- A sub-control without a manual result. -/
structure OpenSub (c sub : Control) : Prop where
  listed : sub ∈ c.controls
  noManual : sub.id ∉ (manualOf results c.id).map EvaluationResult.controlId

variable {svc toe catalog results}

theorem evaluatedParent_iff {c : Control} :
    EvaluatedParent svc toe catalog results c ↔
      OpenParent svc results toe.catalogId c ∧ c.isRelevantFor toe catalog = true := by
  unfold EvaluatedParent
  simp only [mem_planFor]
  constructor
  · intro ⟨_, hcached, hparent, hmanual, hrelevant, _⟩
    exact ⟨⟨hcached, hparent, hmanual⟩, hrelevant⟩
  · intro ⟨⟨hcached, hparent, hmanual⟩, hrelevant⟩
    exact ⟨_, hcached, hparent, hmanual, hrelevant, rfl⟩

theorem evaluatedSub_iff {c sub : Control} :
    EvaluatedSub svc toe catalog results c sub ↔
      OpenParent svc results toe.catalogId c ∧ OpenSub results c sub ∧
        c.isRelevantFor toe catalog = true ∧ sub.isRelevantFor toe catalog = true := by
  unfold EvaluatedSub
  simp only [mem_planFor, relevantSubcontrols, List.mem_filter, Bool.and_eq_true,
    Bool.not_eq_true', List.contains_eq_mem, decide_eq_false_iff_not]
  constructor
  · intro ⟨_, ⟨hcached, hparent, hmanual, hrelevant, hresults⟩, hlisted, hsub, hsubRelevant⟩
    subst hresults
    exact ⟨⟨hcached, hparent, hmanual⟩, ⟨hlisted, hsub⟩, hrelevant, hsubRelevant⟩
  · intro ⟨⟨hcached, hparent, hmanual⟩, ⟨hlisted, hsub⟩, hrelevant, hsubRelevant⟩
    exact ⟨_, ⟨hcached, hparent, hmanual, hrelevant, rfl⟩, hlisted, hsub, hsubRelevant⟩

end Evaluated

section Exact
variable (svc : EvaluationService) (toe : TargetOfEvaluation) (catalog : LeveledCatalog)
  (results : List EvaluationResult)

variable {svc toe catalog results} in
theorem evaluatedParent_atLevel_iff {c : Control} {i : catalog.Level} :
    EvaluatedParent svc (toe.atLevel i) catalog.toCatalog results c ↔
      OpenParent svc results toe.catalogId c ∧ (c.WithinLevel i ∨ c.UnlistedLevel catalog) := by
  rw [evaluatedParent_iff, isRelevantFor_atLevel_iff]
  rfl

variable {svc toe catalog results} in
theorem evaluatedSub_atLevel_iff {c sub : Control} {i : catalog.Level} :
    EvaluatedSub svc (toe.atLevel i) catalog.toCatalog results c sub ↔
      OpenParent svc results toe.catalogId c ∧ OpenSub results c sub ∧
        (c.WithinLevel i ∨ c.UnlistedLevel catalog) ∧
          (sub.WithinLevel i ∨ sub.UnlistedLevel catalog) := by
  rw [evaluatedSub_iff, isRelevantFor_atLevel_iff, isRelevantFor_atLevel_iff]
  rfl

/-- What is evaluated at a level is evaluated at every higher one. -/
theorem evaluated_mono {i j : catalog.Level} (hij : i ≤ j) :
    (∀ c, EvaluatedParent svc (toe.atLevel i) catalog.toCatalog results c →
        EvaluatedParent svc (toe.atLevel j) catalog.toCatalog results c) ∧
      ∀ c sub, EvaluatedSub svc (toe.atLevel i) catalog.toCatalog results c sub →
        EvaluatedSub svc (toe.atLevel j) catalog.toCatalog results c sub := by
  have hmono (c : Control) (h : c.WithinLevel i ∨ c.UnlistedLevel catalog) :
      c.WithinLevel j ∨ c.UnlistedLevel catalog := h.imp_left (fun h => h.mono hij)
  constructor
  · intro c h
    obtain ⟨hopen, hrelevant⟩ := evaluatedParent_atLevel_iff.mp h
    exact evaluatedParent_atLevel_iff.mpr ⟨hopen, hmono c hrelevant⟩
  · intro c sub h
    obtain ⟨hopen, hsubOpen, hrelevant, hsubRelevant⟩ := evaluatedSub_atLevel_iff.mp h
    apply evaluatedSub_atLevel_iff.mpr
    exact ⟨hopen, hsubOpen, hmono c hrelevant, hmono sub hsubRelevant⟩

/-- With a level of the catalog, a run evaluates exactly the open controls within that level when
no open parent carries a level that is not listed, none of the open sub-controls below an
evaluated parent does, and no open sub-control within the level stands below a parent that is
above it. A higher level keeps all controls at both depths in any case. -/
theorem evaluated_within_level_iff (i : catalog.Level) :
    (((∀ c, EvaluatedParent svc (toe.atLevel i) catalog.toCatalog results c ↔
          OpenParent svc results toe.catalogId c ∧ c.WithinLevel i) ∧
        ∀ c sub, EvaluatedSub svc (toe.atLevel i) catalog.toCatalog results c sub ↔
          OpenParent svc results toe.catalogId c ∧ OpenSub results c sub ∧ sub.WithinLevel i) ↔
      ∀ c, OpenParent svc results toe.catalogId c → ¬ c.UnlistedLevel catalog ∧
        ∀ sub, OpenSub results c sub →
          (c.WithinLevel i → ¬ sub.UnlistedLevel catalog) ∧
          (¬ c.WithinLevel i → ¬ sub.WithinLevel i)) ∧
    ∀ j : catalog.Level, i ≤ j →
      (∀ c, EvaluatedParent svc (toe.atLevel i) catalog.toCatalog results c →
        EvaluatedParent svc (toe.atLevel j) catalog.toCatalog results c) ∧
      ∀ c sub, EvaluatedSub svc (toe.atLevel i) catalog.toCatalog results c sub →
        EvaluatedSub svc (toe.atLevel j) catalog.toCatalog results c sub := by
  refine ⟨⟨?_, ?_⟩, ?_⟩
  · intro ⟨hparents, hsubs⟩ c hopen
    have hlisted : ¬ c.UnlistedLevel catalog := by
      intro hunlisted
      have hwithin := (hparents c).mp (evaluatedParent_atLevel_iff.mpr ⟨hopen, .inr hunlisted⟩)
      exact not_unlisted_of_within hwithin.2 hunlisted
    refine ⟨hlisted, fun sub hsubOpen => ⟨?_, ?_⟩⟩
    · intro hwithin hunlisted
      have hevaluated :=
        evaluatedSub_atLevel_iff.mpr ⟨hopen, hsubOpen, .inl hwithin, .inr hunlisted⟩
      exact not_unlisted_of_within ((hsubs c sub).mp hevaluated).2.2 hunlisted
    · intro habove hwithin
      have hevaluated := (hsubs c sub).mpr ⟨hopen, hsubOpen, hwithin⟩
      obtain ⟨_, _, hrelevant, _⟩ := evaluatedSub_atLevel_iff.mp hevaluated
      exact hrelevant.elim habove hlisted
  · intro hcond
    constructor
    · intro c
      rw [evaluatedParent_atLevel_iff]
      apply and_congr_right
      intro hopen
      exact or_iff_left (hcond c hopen).1
    · intro c sub
      rw [evaluatedSub_atLevel_iff]
      apply and_congr_right
      intro hopen
      apply and_congr_right
      intro hsubOpen
      obtain ⟨hlisted, hsubs⟩ := hcond c hopen
      obtain ⟨hbelow, habove⟩ := hsubs sub hsubOpen
      constructor
      · intro ⟨hrelevant, hsubRelevant⟩
        have hwithin := hrelevant.resolve_right hlisted
        exact hsubRelevant.resolve_right (hbelow hwithin)
      · intro hsubWithin
        have hwithin : c.WithinLevel i := by
          by_contra hnot
          exact habove hnot hsubWithin
        exact ⟨.inl hwithin, .inl hsubWithin⟩
  · exact fun j hij => evaluated_mono svc toe catalog results hij

/-- A catalog with two levels. -/
def twoLevels : LeveledCatalog := ⟨⟨"catalog", ["basic", "high"]⟩, by decide⟩

def lowestLevel : twoLevels.Level := ⟨0, by decide⟩

/-- A control with a level that the catalog does not list. -/
def unlistedControl : Control := ⟨"OPS-01", "OPS", "catalog", [], [], none, some "medium"⟩

def unlistedService : EvaluationService :=
  ⟨AList.insert "catalog" (cacheControl ∅ unlistedControl) ∅⟩

/-- The control is evaluated at the lowest level, although its own level is none of the list at
or below that. -/
theorem unlisted_level_evaluated :
    EvaluatedParent unlistedService (TargetOfEvaluation.atLevel ⟨"service", "catalog", none⟩
        lowestLevel) twoLevels.toCatalog [] unlistedControl ∧
      ¬ unlistedControl.WithinLevel lowestLevel := by
  have hunlisted : unlistedControl.UnlistedLevel twoLevels := ⟨"medium", rfl, by decide⟩
  refine ⟨evaluatedParent_iff.mpr ⟨⟨?_, rfl, by simp [ignoredControls]⟩, ?_⟩, ?_⟩
  · exact List.mem_singleton.mpr rfl
  · exact (isRelevantFor_atLevel_iff _ _ _).mpr (.inr hunlisted)
  · exact fun hwithin => not_unlisted_of_within hwithin hunlisted

end Exact
end Clouditor
