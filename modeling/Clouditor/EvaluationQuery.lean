import Clouditor.EvaluationData
import Clouditor.Pagination
import Mathlib.Data.List.Sort

/-! `ListEvaluationResults`: the WHERE text it assembles from a filter and the
caller's services, and the rows that text selects. -/
namespace Clouditor
set_option autoImplicit false

structure EvaluationFilter where
  cloudServiceId : Option String
  catalogId : Option String
  controlId : Option String
  subControls : Option String
  parentsOnly : Option Bool
  validManualOnly : Option Bool

structure ListEvaluationResultsRequest where
  filter : Option EvaluationFilter
  latestByControlId : Option Bool
  page : PaginatedRequest

def EvaluationFilter.valid (f : EvaluationFilter) : Bool :=
  f.cloudServiceId.all isUuid && f.catalogId.all (· ≠ "") && f.controlId.all (· ≠ "") &&
    f.subControls.all (· ≠ "")

def ListEvaluationResultsRequest.valid (req : ListEvaluationResultsRequest) : Bool :=
  req.filter.all EvaluationFilter.valid

def ListEvaluationResultsRequest.latest (req : ListEvaluationResultsRequest) : Bool :=
  req.latestByControlId.getD false

/-- The access check reads the service id of the filter, empty if it is not set. -/
def ListEvaluationResultsRequest.permitted (a : Access) (req : ListEvaluationResultsRequest) :
    Bool :=
  req.filter.all (fun f => a.checkAccess (f.cloudServiceId.getD ""))

/-- The comparisons pushed for the fields before `valid_manual_only`. -/
def EvaluationFilter.conditions (f : EvaluationFilter) : List (SQL.Bound EvaluationColumn) :=
  f.cloudServiceId.toList.map (fun s => (.eq .cloudServiceId, some (.value (.text s)))) ++
  f.catalogId.toList.map (fun s => (.eq .controlCatalogId, some (.value (.text s)))) ++
  f.controlId.toList.map (fun s => (.eq .controlId, some (.value (.text s)))) ++
  f.subControls.toList.map (fun s => (.like .controlId, some (.value (.text (s ++ "%"))))) ++
  (if f.parentsOnly.getD false then [(.isNull .parentControlId, none)] else [])

def manualStatuses : List SQL.Value :=
  [.number EvaluationStatus.compliantManually.number,
    .number EvaluationStatus.notCompliantManually.number]

def accessConditions (a : Access) : List (SQL.Bound EvaluationColumn) :=
  if a.all then [] else [(.isIn .cloudServiceId, some (.list (a.allowed.map .text)))]

def evaluationQuery (a : Access) (filter : Option EvaluationFilter) :
    SQL.Query EvaluationColumn :=
  (match filter with
    | none => []
    | some f =>
      f.conditions.map SQL.fragment ++
      if f.validManualOnly.getD false then
        [SQL.fragment (.isIn .status, some (.list manualStatuses)),
          -- the one fragment with an OR, and it has no parentheses
          SQL.alternative (.isNull .validUntil) (.geNow .validUntil)]
      else []) ++
  (accessConditions a).map SQL.fragment

/-- The columns of `PARTITION BY`; a sub-control filter repeats the first one. -/
def evaluationPartition (filter : Option EvaluationFilter) : List EvaluationColumn :=
  .controlId :: (if filter.any (fun f => f.subControls.isSome) then [.controlId] else [])

def partitionKey (columns : List EvaluationColumn) (r : EvaluationResult) : List SQL.Value :=
  columns.map r.column

/-- `ORDER BY control_catalog_id, control_id`. -/
def catalogControlLe (r s : EvaluationResult) : Prop :=
  r.controlCatalogId < s.controlCatalogId ∨
    (r.controlCatalogId = s.controlCatalogId ∧ r.controlId ≤ s.controlId)

instance : DecidableRel catalogControlLe := fun _ _ => inferInstanceAs (Decidable (_ ∨ _))

def errDatabase : Err := ⟨none, "statement failed"⟩

def errPaginate (e : Err) : Err :=
  ⟨some .internal, "could not paginate results: " ++
    (e.wrap "could not paginate evaluation results").msg⟩

def listEvaluationResults (E : SQL.Engine EvaluationResult EvaluationResult.timestamp)
    (a : Access) (now : Time) (table : List EvaluationResult)
    (req : ListEvaluationResultsRequest) : Except Err (List EvaluationResult × PageTokenText) :=
  if !req.valid then .error errInvalidRequest
  else if !req.permitted a then .error errPermissionDenied
  else
    let selection := (evaluationQuery a req.filter).select EvaluationResult.column now table
    -- one raw statement without pages, or one page of a list
    if req.latest then
      match selection with
      | none => .error ⟨some .internal, (errDatabase.wrap "database error").msg⟩
      | some rows =>
        let key := partitionKey (evaluationPartition req.filter)
        .ok ((E.firstPer key rows).insertionSort catalogControlLe, .empty)
    else
      let page : Except Err (List EvaluationResult × PageTokenText) := match selection with
        | none => .error (errDatabase.wrap "database error")
        | some rows => paginateStorage E req.page defaultPaginationOpts rows
      page.mapError errPaginate

/-- What each set field of a filter asks of a row, field by field. -/
def EvaluationFilter.wants (f : EvaluationFilter) (now : Time) (r : EvaluationResult) : Bool :=
  f.cloudServiceId.all (r.cloudServiceId = ·) && f.catalogId.all (r.controlCatalogId = ·) &&
  f.controlId.all (r.controlId = ·) &&
  f.subControls.all (fun p => p.toList.isPrefixOf r.controlId.toList) &&
  (!f.parentsOnly.getD false || r.parentControlId.isNone) &&
  (!f.validManualOnly.getD false || (r.manual && r.validUntil.all (now ≤ ·)))

def considered (a : Access) (now : Time) (filter : Option EvaluationFilter)
    (r : EvaluationResult) : Bool :=
  filter.all (fun f => f.wants now r) && a.checkAccess r.cloudServiceId

/-- What the comparisons of `conditions` ask of a row. -/
def EvaluationFilter.meets (f : EvaluationFilter) (r : EvaluationResult) : Bool :=
  f.cloudServiceId.all (r.cloudServiceId = ·) && f.catalogId.all (r.controlCatalogId = ·) &&
  f.controlId.all (r.controlId = ·) &&
  f.subControls.all (fun p => SQL.like (p.toList ++ ['%']) r.controlId.toList) &&
  (!f.parentsOnly.getD false || r.parentControlId.isNone)

/-- What the assembled text selects. With `valid_manual_only` the text falls apart at
its OR: the filter guards the left part and the caller's services guard the right. -/
def selected (a : Access) (now : Time) (filter : Option EvaluationFilter)
    (r : EvaluationResult) : Bool :=
  match filter with
  | none => a.checkAccess r.cloudServiceId
  | some f =>
    if f.validManualOnly.getD false then
      (f.meets r && r.manual && r.validUntil.isNone) ||
        (r.validUntil.any (now ≤ ·) && a.checkAccess r.cloudServiceId)
    else f.meets r && a.checkAccess r.cloudServiceId

section Selection
variable (now : Time) (r : EvaluationResult)

theorem conditions_fits (f : EvaluationFilter) : ∀ b ∈ f.conditions, SQL.Fits b := by
  intro b hb
  simp only [EvaluationFilter.conditions, List.mem_append, List.mem_map] at hb
  rcases hb with (((⟨_,_,rfl⟩ | ⟨_,_,rfl⟩) | ⟨_,_,rfl⟩) | ⟨_,_,rfl⟩) | hb
  · rfl
  · rfl
  · rfl
  · rfl
  · split at hb
    · rw [List.mem_singleton.mp hb]
      rfl
    · cases hb

theorem accessConditions_fits (a : Access) : ∀ b ∈ accessConditions a, SQL.Fits b := by
  intro b hb
  unfold accessConditions at hb
  split at hb
  · cases hb
  · rw [List.mem_singleton.mp hb]
    rfl

theorem holds_conditions (f : EvaluationFilter) :
    f.conditions.all (SQL.holds EvaluationResult.column now r) = f.meets r := by
  obtain ⟨cs,cat,ctl,sub,par,vm⟩ := f
  simp only [EvaluationFilter.conditions, EvaluationFilter.meets, List.all_append]
  congr 1
  · cases cs <;> cases cat <;> cases ctl <;> cases sub <;>
      simp [EvaluationResult.column]
  · cases par.getD false <;> cases hp : r.parentControlId <;>
      simp [hp, EvaluationResult.column]

theorem holds_accessConditions (a : Access) :
    (accessConditions a).all (SQL.holds EvaluationResult.column now r) =
      a.checkAccess r.cloudServiceId := by
  rw [Bool.eq_iff_iff]
  cases h : a.all <;>
    simp [accessConditions, h, EvaluationResult.column, Access.checkAccess]

theorem holds_manual :
    SQL.holds EvaluationResult.column now r (.isIn .status, some (.list manualStatuses)) =
      r.manual := by
  cases h : r.status <;>
    simp [EvaluationResult.column, manualStatuses, EvaluationResult.manual, h,
      EvaluationStatus.number]

theorem holds_validUntil :
    SQL.holds EvaluationResult.column now r (.isNull .validUntil, none) = r.validUntil.isNone ∧
    SQL.holds EvaluationResult.column now r (.geNow .validUntil, none) =
      r.validUntil.any (now ≤ ·) := by
  cases h : r.validUntil <;>
    simp [EvaluationResult.column, h]

end Selection

/-- The statement always executes, and it selects the rows `selected` describes. -/
theorem evaluationQuery_select (a : Access) (now : Time) (filter : Option EvaluationFilter)
    (table : List EvaluationResult) :
    (evaluationQuery a filter).select EvaluationResult.column now table =
      some (table.filter (selected a now filter)) := by
  cases filter with
  | none =>
    have h := SQL.select_fragments EvaluationResult.column now table (accessConditions a)
      (accessConditions_fits a)
    simp only [holds_accessConditions] at h
    exact h
  | some f =>
    -- with the OR there are two alternatives, without it a single conjunction
    by_cases hv : f.validManualOnly.getD false = true
    · have h := SQL.select_alternative EvaluationResult.column now table
        (f.conditions ++ [(.isIn .status, some (.list manualStatuses))]) (accessConditions a)
        (.isNull .validUntil) (.geNow .validUntil) ?_ (accessConditions_fits a) rfl rfl
      · simp only [List.all_append, List.all_cons, List.all_nil, Bool.and_true,
          holds_conditions, holds_accessConditions, holds_manual, (holds_validUntil now _).1,
          (holds_validUntil now _).2] at h
        have hs : selected a now (some f) = fun r =>
            (f.meets r && r.manual && r.validUntil.isNone) ||
              (r.validUntil.any (now ≤ ·) && a.checkAccess r.cloudServiceId) :=
          funext fun r => if_pos hv
        simpa [evaluationQuery, hv, hs] using h
      · intro b hb
        rcases List.mem_append.mp hb with hb | hb
        · exact conditions_fits f b hb
        · rw [List.mem_singleton.mp hb]
          rfl
    · have h := SQL.select_fragments EvaluationResult.column now table
        (f.conditions ++ accessConditions a) ?_
      · simp only [List.all_append, holds_conditions, holds_accessConditions] at h
        have hs : selected a now (some f) = fun r =>
            f.meets r && a.checkAccess r.cloudServiceId :=
          funext fun r => if_neg hv
        simpa [evaluationQuery, hv, hs] using h
      · intro b hb
        rcases List.mem_append.mp hb with hb | hb
        · exact conditions_fits f b hb
        · exact accessConditions_fits a b hb

section Answers
variable (E : SQL.Engine EvaluationResult EvaluationResult.timestamp) (a : Access) (now : Time)
  (table : List EvaluationResult) (req : ListEvaluationResultsRequest)

def ListEvaluationResultsRequest.withToken (t : PageTokenText) : ListEvaluationResultsRequest :=
  { req with page := { req.page with pageToken := t } }

/-- The request passes validation and the access check, and the database can sort by
its `order_by` where that text is used. -/
structure Accepted : Prop where
  valid : req.valid = true
  permitted : req.permitted a = true
  sortable : req.latest = true ∨ (E.sort (orderStmt req.page.orderBy req.page.asc)).isSome = true

theorem partitionKey_iff (filter : Option EvaluationFilter) (x y : EvaluationResult) :
    partitionKey (evaluationPartition filter) x = partitionKey (evaluationPartition filter) y ↔
      x.controlId = y.controlId := by
  by_cases h : filter.any (fun f => f.subControls.isSome) = true <;>
    simp [partitionKey, evaluationPartition, h, EvaluationResult.column]

/-- The two checks stand before everything else. -/
theorem accepted_of_ok (res : List EvaluationResult × PageTokenText) (hl : req.latest = true)
    (h : listEvaluationResults E a now table req = .ok res) : Accepted E a req := by
  unfold listEvaluationResults at h
  split at h
  · cases h
  · rename_i hv
    split at h
    · cases h
    · rename_i hp
      exact ⟨by simpa using hv, by simpa using hp, Or.inl hl⟩

theorem listEvaluationResults_latest (h : Accepted E a req) (hl : req.latest = true) :
    ∃ out, listEvaluationResults E a now table req = .ok (out, .empty) ∧
      SQL.NewestPer E.nullsFirst EvaluationResult.timestamp EvaluationResult.controlId
        (table.filter (selected a now req.filter)) out := by
  refine ⟨(E.firstPer (partitionKey (evaluationPartition req.filter))
    (table.filter (selected a now req.filter))).insertionSort catalogControlLe, ?_, ?_⟩
  · simp [listEvaluationResults, h.valid, h.permitted, hl, evaluationQuery_select]
  · exact ((SQL.firstPer_newestPer E _ _).perm (List.perm_insertionSort _ _)).of_key
      (partitionKey_iff req.filter)

theorem listEvaluationResults_pages (h : Accepted E a req) (hl : req.latest = false) :
    ∃ out, (∀ n, table.length < n →
        listAllPaginated (fun t => listEvaluationResults E a now table (req.withToken t)) n
          .empty = some (.ok out)) ∧
      out.Perm (table.filter (selected a now req.filter)) := by
  obtain ⟨f,hf⟩ := Option.isSome_iff_exists.mp (h.sortable.resolve_left (by simp [hl]))
  refine ⟨f (table.filter (selected a now req.filter)), ?_, E.sort_perm _ f hf _⟩
  intro n hn
  -- the page token changes neither the checks nor the rows that are selected
  have hlist : (fun t => listEvaluationResults E a now table (req.withToken t)) = fun t =>
      (paginateStorage E { req.page with pageToken := t } defaultPaginationOpts
        (table.filter (selected a now req.filter))).mapError errPaginate := by
    funext t
    have hv : (req.withToken t).valid = true := h.valid
    have hp : (req.withToken t).permitted a = true := h.permitted
    have hlt : (req.withToken t).latest = false := hl
    simp only [listEvaluationResults, hv, hp, hlt, evaluationQuery_select]
    rfl
  have hlen : (table.filter (selected a now req.filter)).length < n :=
    lt_of_le_of_lt (List.length_filter_le _ _) hn
  rw [hlist, listAllPaginated_mapError, paginateStorage_all E req.page defaultPaginationOpts
    (by decide) (by decide) f hf _ n hlen]
  rfl

/-- The answer the filter asks for: over all pages every row that meets it and that the
caller may see, and in the other form the newest of these rows for each control id. -/
def ListsExactly : Prop :=
  if req.latest then
    ∃ out, listEvaluationResults E a now table req = .ok (out, .empty) ∧
      SQL.NewestPer E.nullsFirst EvaluationResult.timestamp EvaluationResult.controlId
        (table.filter (considered a now req.filter)) out
  else
    ∃ out, (∀ n, table.length < n →
        listAllPaginated (fun t => listEvaluationResults E a now table (req.withToken t)) n
          .empty = some (.ok out)) ∧
      out.Perm (table.filter (considered a now req.filter))

/-- The filters whose text says what their fields say. -/
def EvaluationFilter.Precise (f : EvaluationFilter) : Prop :=
  f.validManualOnly.getD false = false ∧
  ∀ p, f.subControls = some p → (∀ c ∈ p.toList, ¬ SQL.Wildcard c) ∨
    ∃ x, f.controlId = some x ∧
      (SQL.like (p.toList ++ ['%']) x.toList = true → p.toList <+: x.toList)

theorem listsExactly_of_selected (h : Accepted E a req)
    (hs : ∀ r ∈ table, selected a now req.filter r = considered a now req.filter r) :
    ListsExactly E a now table req := by
  unfold ListsExactly
  rw [← List.filter_congr hs]
  by_cases hl : req.latest = true
  · rw [if_pos hl]
    exact listEvaluationResults_latest E a now table req h hl
  · rw [if_neg hl]
    exact listEvaluationResults_pages E a now table req h (by simpa using hl)

/-- A table of one row tells the two conditions apart. -/
theorem listsExactly_singleton (h : Accepted E a req) (r : EvaluationResult)
    (hr : selected a now req.filter r = true) (he : ListsExactly E a now [r] req) :
    considered a now req.filter r = true := by
  have hsel : [r].filter (selected a now req.filter) = [r] := by simp [hr]
  by_contra hc
  have hnone : [r].filter (considered a now req.filter) = [] := by simp [hc]
  unfold ListsExactly at he
  rw [hnone] at he
  by_cases hl : req.latest = true
  · rw [if_pos hl] at he
    -- one call has one answer, and it would have to be empty and hold the row
    obtain ⟨out,hout,hnew⟩ := listEvaluationResults_latest E a now [r] req h hl
    obtain ⟨out',hout',hnew'⟩ := he
    rw [hout, Except.ok.injEq, Prod.mk.injEq] at hout'
    obtain ⟨x,hx,_⟩ := hnew.cover r (by simp [hr])
    have hmem := hnew'.mem x (hout'.1 ▸ hx)
    cases hmem
  · rw [if_neg hl] at he
    obtain ⟨out,hout,hperm⟩ := listEvaluationResults_pages E a now [r] req h (by simpa using hl)
    obtain ⟨out',hout',hperm'⟩ := he
    have heq := (hout 2 (by simp)).symm.trans (hout' 2 (by simp))
    rw [Option.some.injEq, Except.ok.injEq] at heq
    have hlen := hperm.length_eq.symm.trans ((congrArg List.length heq).trans hperm'.length_eq)
    rw [hsel] at hlen
    cases hlen

end Answers

/-- LIKE finds every text with the prefix, so the SQL comparisons never ask for more
than the fields do. -/
theorem meets_of_wants (f : EvaluationFilter) (now : Time) (r : EvaluationResult)
    (h : f.wants now r = true) : f.meets r = true := by
  simp only [EvaluationFilter.wants, Bool.and_eq_true] at h
  obtain ⟨⟨⟨⟨⟨hcs,hcat⟩,hctl⟩,hsub⟩,hpar⟩,_⟩ := h
  simp only [EvaluationFilter.meets, Bool.and_eq_true]
  -- all fields but `sub_controls` are compared alike
  refine ⟨⟨⟨⟨hcs, hcat⟩, hctl⟩, ?_⟩, hpar⟩
  cases hp : f.subControls with
  | none => rfl
  | some p =>
    rw [hp, Option.all_some, List.isPrefixOf_iff_prefix] at hsub
    obtain ⟨s,hs⟩ := hsub
    rw [Option.all_some, ← hs]
    exact SQL.like_append_percent p.toList s

theorem wants_of_meets (f : EvaluationFilter) (hf : f.Precise) (now : Time)
    (r : EvaluationResult) (h : f.meets r = true) : f.wants now r = true := by
  simp only [EvaluationFilter.meets, Bool.and_eq_true] at h
  obtain ⟨⟨⟨⟨hcs,hcat⟩,hctl⟩,hsub⟩,hpar⟩ := h
  simp only [EvaluationFilter.wants, Bool.and_eq_true]
  refine ⟨⟨⟨⟨⟨hcs, hcat⟩, hctl⟩, ?_⟩, hpar⟩, by simp [hf.1]⟩
  cases hp : f.subControls with
  | none => rfl
  | some p =>
    rw [hp, Option.all_some] at hsub
    rw [Option.all_some, List.isPrefixOf_iff_prefix]
    rcases hf.2 p hp with hw | ⟨x,hx,himp⟩
    · exact (SQL.like_literal_prefix p.toList r.controlId.toList hw).mp hsub
    · have hrx : r.controlId = x := by simpa [hx] using hctl
      rw [hrx] at hsub ⊢
      exact himp hsub

theorem selected_eq_considered (a : Access) (now : Time) (filter : Option EvaluationFilter)
    (hf : ∀ f, filter = some f → f.Precise) (r : EvaluationResult) :
    selected a now filter r = considered a now filter r := by
  cases filter with
  | none => simp [selected, considered]
  | some f =>
    have hp := hf f rfl
    have hm : f.meets r = f.wants now r :=
      Bool.eq_iff_iff.mpr ⟨wants_of_meets f hp now r, meets_of_wants f now r⟩
    simp [selected, considered, hp.1, hm]

/-- A row of the given service, catalog and control with a status of our choice. -/
def bareRow (cloudServiceId catalogId controlId : String) (status : EvaluationStatus)
    (validUntil : Option Time) : EvaluationResult where
  id := "00000000-0000-0000-0000-000000000000"
  cloudServiceId := cloudServiceId
  controlId := controlId
  controlCategoryName := "Category"
  controlCatalogId := catalogId
  parentControlId := none
  status := status
  timestamp := none
  failingAssessmentResultIds := []
  validUntil := validUntil

/-- Every other filter lets in a row it should not: one with an end of validity but
no manual status, or one a wildcard matches. -/
theorem exists_misselected (a : Access) (now : Time) (f : EvaluationFilter)
    (hp : a.checkAccess (f.cloudServiceId.getD "") = true) (hf : ¬ f.Precise) :
    ∃ r, selected a now (some f) r = true ∧ considered a now (some f) r = false := by
  by_cases hv : f.validManualOnly.getD false = true
  -- after the OR only the end of validity is asked for
  · refine ⟨bareRow (f.cloudServiceId.getD "") "" "" .pending (some now), ?_, ?_⟩
    · simp [selected, hv, bareRow, hp]
    · simp [considered, EvaluationFilter.wants, hv, bareRow, EvaluationResult.manual]
  · have hsub : ∃ p, f.subControls = some p ∧ (∃ c ∈ p.toList, SQL.Wildcard c) ∧
        ∀ x, f.controlId = some x →
          SQL.like (p.toList ++ ['%']) x.toList = true ∧ ¬ p.toList <+: x.toList := by
      by_contra hnone
      refine hf ⟨by simpa using hv, fun p hps => ?_⟩
      by_contra hbad
      push Not at hbad
      exact hnone ⟨p, hps, hbad.1, hbad.2⟩
    obtain ⟨p,hps,hw,hx⟩ := hsub
    -- the control id is the one the filter names, or a text the wildcard lets through
    obtain ⟨x,hctl,hlike,hpre⟩ : ∃ x, f.controlId.all (x = ·) = true ∧
        SQL.like (p.toList ++ ['%']) x.toList = true ∧ ¬ p.toList <+: x.toList := by
      cases hc : f.controlId with
      | some x => exact ⟨x, by simp, hx x hc⟩
      | none =>
        obtain ⟨s,hs,hn⟩ := SQL.like_wildcard_escape p.toList hw
        exact ⟨String.ofList s, rfl, by simpa using hs, by simpa using hn⟩
    let r := bareRow (f.cloudServiceId.getD "") (f.catalogId.getD "") x .pending none
    have hget (o : Option String) : o.all (o.getD "" = ·) = true := by cases o <;> simp
    have hcs : f.cloudServiceId.all (r.cloudServiceId = ·) = true := hget _
    have hcat : f.catalogId.all (r.controlCatalogId = ·) = true := hget _
    refine ⟨r, ?_, ?_⟩
    · have hm : f.meets r = true := by
        simp only [EvaluationFilter.meets, hcs, hcat, hps, Bool.and_eq_true, Option.all_some]
        exact ⟨⟨⟨⟨trivial, trivial⟩, hctl⟩, hlike⟩, by simp [r, bareRow]⟩
      have hac : a.checkAccess r.cloudServiceId = true := hp
      simp [selected, hv, hm, hac]
    · have hnp : p.toList.isPrefixOf r.controlId.toList = false := by
        rw [Bool.eq_false_iff, ne_eq, List.isPrefixOf_iff_prefix]
        exact hpre
      simp [considered, EvaluationFilter.wants, hps, hnp]

/-- An accepted request is answered exactly on every table precisely when its filter
does not set `valid_manual_only` and its `sub_controls` holds no effective wildcard. -/
theorem listEvaluationResults_exact_iff
    (E : SQL.Engine EvaluationResult EvaluationResult.timestamp) (a : Access) (now : Time)
    (req : ListEvaluationResultsRequest) (h : Accepted E a req) :
    (∀ table, ListsExactly E a now table req) ↔ ∀ f, req.filter = some f → f.Precise := by
  constructor
  · intro he f hf
    by_contra hn
    have hp : a.checkAccess (f.cloudServiceId.getD "") = true := by
      have hperm := h.permitted
      rw [ListEvaluationResultsRequest.permitted, hf, Option.all_some] at hperm
      exact hperm
    obtain ⟨r,hs,hc⟩ := exists_misselected a now f hp hn
    rw [← hf] at hs hc
    have hcons := listsExactly_singleton E a now req h r hs (he [r])
    rw [hc] at hcons
    cases hcons
  · intro hf table
    exact listsExactly_of_selected E a now table req h
      (fun r _ => selected_eq_considered a now req.filter hf r)

/-- A request for the results of one service and one control. -/
def controlRequest : ListEvaluationResultsRequest where
  filter := some ⟨some "11111111-1111-1111-1111-111111111111", none, some "OPS-01", none,
    some true, none⟩
  latestByControlId := none
  page := ⟨0, .empty, "", false⟩

theorem listEvaluationResults_exact_controlRequest :
    Accepted (SQL.Engine.inTableOrder true EvaluationResult.timestamp)
      ⟨false, ["11111111-1111-1111-1111-111111111111"]⟩ controlRequest ∧
    ∀ table, ListsExactly (SQL.Engine.inTableOrder true EvaluationResult.timestamp)
      ⟨false, ["11111111-1111-1111-1111-111111111111"]⟩ 0 table controlRequest := by
  have h : Accepted (SQL.Engine.inTableOrder true EvaluationResult.timestamp)
      ⟨false, ["11111111-1111-1111-1111-111111111111"]⟩ controlRequest :=
    ⟨by decide, by decide, Or.inr rfl⟩
  refine ⟨h, (listEvaluationResults_exact_iff _ _ 0 controlRequest h).mpr ?_⟩
  intro f hf
  cases hf
  exact ⟨rfl, by simp⟩

/-- The request of `evaluateCatalog`, for one service and one catalog. -/
def manualRequest (cloudServiceId catalogId : String) : ListEvaluationResultsRequest where
  filter := some ⟨some cloudServiceId, some catalogId, none, none, none, some true⟩
  latestByControlId := some true
  page := ⟨0, .empty, "", false⟩

/-- Asked for the valid manual results of one service, the call answers with a valid
manual result of another service and catalog. -/
theorem listEvaluationResults_manual_leak :
    Accepted (SQL.Engine.inTableOrder true EvaluationResult.timestamp) Access.allowAll
      (manualRequest "11111111-1111-1111-1111-111111111111" "EUCS") ∧
    ¬ ListsExactly (SQL.Engine.inTableOrder true EvaluationResult.timestamp) Access.allowAll 50
      [bareRow "22222222-2222-2222-2222-222222222222" "BSI" "OPS-01" .compliantManually (some 100)]
      (manualRequest "11111111-1111-1111-1111-111111111111" "EUCS") := by
  have h : Accepted (SQL.Engine.inTableOrder true EvaluationResult.timestamp) Access.allowAll
      (manualRequest "11111111-1111-1111-1111-111111111111" "EUCS") :=
    ⟨by decide, by decide, Or.inl rfl⟩
  refine ⟨h, fun he => ?_⟩
  have hc := listsExactly_singleton _ _ 50 _ h _ (by decide) he
  revert hc
  decide

end Clouditor
