import Clouditor.ControlLookup
import Clouditor.EvaluationManual
import Clouditor.Transitions

/-! Manual results from `CreateEvaluationResult`, which keeps the timestamp of the request, up
to the run that takes one of them into account. -/
namespace Clouditor
set_option autoImplicit false

section Creation

/-- The field constraints of the message. -/
def EvaluationResult.valid (r : EvaluationResult) : Bool :=
  (r.id = "" || isUuid r.id) && (r.cloudServiceId = "" || isUuid r.cloudServiceId) &&
    r.controlId ≠ "" && r.controlCategoryName ≠ "" && r.controlCatalogId ≠ "" &&
    r.failingAssessmentResultIds.all (· ≠ "")

def errOnlyManual : Err := ⟨some .invalidArgument, "only manually set statuses are allowed"⟩

def errValidity : Err := ⟨some .invalidArgument, "validity must be set"⟩

/-- A call of `CreateEvaluationResult`: the caller's rights, the message, the id that is drawn
for it, and the answer of the database to the insert. -/
structure CreateCall where
  caller : Access
  result : Option EvaluationResult
  newId : String
  answer : Option Err

/-- The result and the table after the call. -/
def createEvaluationResult (table : List EvaluationResult) (call : CreateCall) :
    Except Err (EvaluationResult × List EvaluationResult) :=
  match call.result with
  | none => .error errInvalidRequest
  | some r =>
    if !r.valid then .error errInvalidRequest
    else if r.status ≠ .compliantManually && r.status ≠ .notCompliantManually then
      .error errOnlyManual
    else if r.validUntil.isNone then .error errValidity
    else if !call.caller.checkAccess r.cloudServiceId then .error errPermissionDenied
    else
      -- everything but the id is as the caller has sent it, the timestamp too
      let res := { r with id := call.newId }
      match call.answer with
      | some e => .error ⟨some .internal, "database error: " ++ e.error⟩
      | none => .ok (res, table ++ [res])

/-- The table after an accepted call. -/
def createStep (table : List EvaluationResult) (call : CreateCall) :
    Option (List EvaluationResult) :=
  match createEvaluationResult table call with
  | .error _ => none
  | .ok (_, table) => some table

/-- The rows that accepted calls create, in the order of the calls. -/
def createdRows (calls : List CreateCall) : List EvaluationResult :=
  calls.flatMap (fun call => call.result.toList.map (fun r => { r with id := call.newId }))

theorem createEvaluationResult_ok {table table' : List EvaluationResult} {call : CreateCall}
    {res : EvaluationResult} (h : createEvaluationResult table call = .ok (res, table')) :
    ∃ r, call.result = some r ∧ r.manual = true ∧ r.validUntil ≠ none ∧
      table' = table ++ [{ r with id := call.newId }] := by
  unfold createEvaluationResult at h
  cases hr : call.result with
  | none => simp [hr] at h
  | some r =>
    simp only [hr] at h
    split_ifs at h with hvalid hstatus hvalidity haccess
    cases hans : call.answer with
    | some e => simp [hans] at h
    | none =>
      simp only [hans, Except.ok.injEq, Prod.mk.injEq] at h
      refine ⟨r, rfl, ?_, by simpa using hvalidity, h.2.symm⟩
      rw [Bool.and_eq_true, not_and_or] at hstatus
      simpa [EvaluationResult.manual] using hstatus

theorem createStep_some {table table' : List EvaluationResult} {call : CreateCall}
    (h : createStep table call = some table') :
    ∃ r, call.result = some r ∧ r.manual = true ∧ r.validUntil ≠ none ∧
      table' = table ++ [{ r with id := call.newId }] := by
  unfold createStep at h
  split at h
  · cases h
  · rename_i hok
    cases h
    exact createEvaluationResult_ok hok

theorem run_createdRows (calls : List CreateCall) (table table' : List EvaluationResult)
    (h : Transitions.run createStep table calls = some table') :
    table' = table ++ createdRows calls ∧
      ∀ r ∈ createdRows calls, r.manual = true ∧ r.validUntil ≠ none := by
  induction calls generalizing table with
  | nil =>
    cases h
    simp [createdRows]
  | cons call calls ih =>
    obtain ⟨u,hu,hrest⟩ := (Transitions.run_cons_eq_some _ _ _ _ _).mp h
    obtain ⟨r,hr,hmanual,huntil,rfl⟩ := createStep_some hu
    obtain ⟨htable,hrows⟩ := ih _ hrest
    have hcons : createdRows (call :: calls) =
        { r with id := call.newId } :: createdRows calls := by
      simp [createdRows, hr]
    rw [hcons]
    refine ⟨by rw [htable, List.append_assoc, List.singleton_append], ?_⟩
    rw [List.forall_mem_cons]
    exact ⟨⟨hmanual, huntil⟩, hrows⟩

end Creation

section Latest
variable {E : SQL.Engine EvaluationResult EvaluationResult.timestamp} {a : Access} {now : Time}
  {toe : TargetOfEvaluation} {c : Control} {base table : List EvaluationResult}
  {calls : List CreateCall}

/-- The manual results of the control that are still valid, in the order of the table. -/
def validResults (now : Time) (toe : TargetOfEvaluation) (c : Control)
    (table : List EvaluationResult) : List EvaluationResult :=
  table.filter (fun r => validManual toe now r && decide (r.key = c.key))

/-- What the list of manual results ranks along with them: every row with the id of the control,
if it is a manual result of the target without an end of validity, or of whatever target and
kind with one that is not over. -/
def rivals (a : Access) (now : Time) (toe : TargetOfEvaluation) (c : Control)
    (table : List EvaluationResult) : List EvaluationResult :=
  table.filter (fun r => decide (r.controlId = c.id) &&
    ((ofTarget toe r && r.manual && r.validUntil.isNone) ||
      (r.live now && a.checkAccess r.cloudServiceId)))

/-- Of the list that the plan of a run is made from, the part about `c` is the last of its
results in `created` that is still valid. -/
def TakesLast (E : SQL.Engine EvaluationResult EvaluationResult.timestamp) (a : Access)
    (now : Time) (toe : TargetOfEvaluation) (c : Control) (table created : List EvaluationResult) :
    Prop :=
  ∃ results, listEvaluationResults E a now table
      (manualRequest toe.cloudServiceId toe.catalogId) = .ok (results, .empty) ∧
    results.filter (fun r => r.controlId = c.id) = (validResults now toe c created).getLast?.toList

/-- The last result that is still valid has a later timestamp than all its rivals. If there is
none, there are no rivals either. -/
def LastOnTop (n : Bool) (a : Access) (now : Time) (toe : TargetOfEvaluation) (c : Control)
    (created : List EvaluationResult) : Prop :=
  match (validResults now toe c created).getLast? with
  | none => rivals a now toe c created = []
  | some last => ∀ x ∈ rivals a now toe c created, x ≠ last →
      SQL.stampLe n last.timestamp x.timestamp = false

/-- The message is about the control `c` of the target. -/
def CreateCall.IsFor (toe : TargetOfEvaluation) (c : Control) (call : CreateCall) : Prop :=
  ∀ r, call.result = some r → r.cloudServiceId = toe.cloudServiceId ∧
    r.controlCatalogId = toe.catalogId ∧ r.key = c.key

theorem createdRows_isFor (hfor : ∀ call ∈ calls, call.IsFor toe c) :
    ∀ r ∈ createdRows calls, ofTarget toe r = true ∧ r.key = c.key := by
  intro r hr
  obtain ⟨call,hcall,hrow⟩ := List.mem_flatMap.mp hr
  obtain ⟨x,hx,rfl⟩ := List.mem_map.mp hrow
  obtain ⟨hcs,hcat,hkey⟩ := hfor call hcall x (by simpa using hx)
  exact ⟨by simp [ofTarget, hcs, hcat], hkey⟩

/-- Of accepted calls for the control, every result counts until its validity ends. -/
theorem validResults_createdRows (hrun : Transitions.run createStep base calls = some table)
    (hfor : ∀ call ∈ calls, call.IsFor toe c) :
    validResults now toe c (createdRows calls) = (createdRows calls).filter (·.live now) := by
  apply List.filter_congr
  intro r hr
  obtain ⟨hmanual,huntil⟩ := (run_createdRows calls base table hrun).2 r hr
  obtain ⟨htarget,hkey⟩ := createdRows_isFor hfor r hr
  cases hu : r.validUntil with
  | none => exact absurd hu huntil
  | some t => simp [validManual, htarget, hmanual, hkey, EvaluationResult.live, hu]

theorem mem_rivals_of_valid (ha : a.checkAccess toe.cloudServiceId = true)
    {r : EvaluationResult} (hr : r ∈ validResults now toe c table) :
    r ∈ rivals a now toe c table := by
  obtain ⟨hmem,hvalid⟩ := List.mem_filter.mp hr
  rw [Bool.and_eq_true, decide_eq_true_eq] at hvalid
  have hsel := manualSelected_of_validManual toe now a ha r hvalid.1
  rw [manualSelected_eq] at hsel
  refine List.mem_filter.mpr ⟨hmem, ?_⟩
  rw [hsel, Bool.and_true, decide_eq_true_eq]
  exact congrArg Prod.snd hvalid.2

/-- The rows with the id of the control that the statement ranks. -/
theorem filter_selected : (table.filter (manualSelected toe now a)).filter
    (fun r => r.controlId = c.id) = rivals a now toe c table := by
  rw [List.filter_filter, rivals]
  simp only [manualSelected_eq]

/-- A list without duplicates that has the value of an option, and nothing else. -/
theorem eq_toList_of_mem_iff {α : Type} {l : List α} (hl : l.Nodup) (o : Option α)
    (h : ∀ x, x ∈ l ↔ o = some x) : l = o.toList := by
  have hone : o.toList.Nodup := by
    cases o <;> simp
  have hperm : l.Perm o.toList := by
    rw [List.perm_ext_iff_of_nodup hl hone]
    intro x
    rw [h, Option.mem_toList]
  cases o with
  | none => exact List.perm_nil.mp hperm
  | some x => exact List.perm_singleton.mp hperm

/-- What a run sees of the control: nothing, or one row that none of the others ranks
above. -/
theorem exists_results (hvalid : (manualRequest toe.cloudServiceId toe.catalogId).valid = true)
    (ha : a.checkAccess toe.cloudServiceId = true) (E : SQL.Engine EvaluationResult
      EvaluationResult.timestamp) (now : Time) (table : List EvaluationResult) :
    ∃ results, listEvaluationResults E a now table
        (manualRequest toe.cloudServiceId toe.catalogId) = .ok (results, .empty) ∧
      ∀ id, results.filter (fun r => r.controlId = id) =
        (E.first ((table.filter (manualSelected toe now a)).filter
          (fun r => r.controlId = id))).toList := by
  let key := partitionKey (evaluationPartition
    (manualRequest toe.cloudServiceId toe.catalogId).filter)
  let rows := table.filter (manualSelected toe now a)
  let results := (E.firstPer key rows).insertionSort catalogControlLe
  have hpermitted : (manualRequest toe.cloudServiceId toe.catalogId).permitted a = true := by
    simpa [ListEvaluationResultsRequest.permitted, manualRequest] using ha
  have hlist : listEvaluationResults E a now table
      (manualRequest toe.cloudServiceId toe.catalogId) = .ok (results, .empty) := by
    have hlatest : (manualRequest toe.cloudServiceId toe.catalogId).latest = true := rfl
    simp only [listEvaluationResults, hvalid, hpermitted, hlatest, evaluationQuery_select]
    rfl
  -- the statement numbers the rows of each control id on their own
  have hmem (r : EvaluationResult) :
      r ∈ results ↔ E.first (rows.filter (fun x => x.controlId = r.controlId)) = some r := by
    rw [List.mem_insertionSort, SQL.mem_firstPer]
    simp only [key, partitionKey_iff]
  have hnodup : results.Nodup := by
    rw [(List.perm_insertionSort catalogControlLe _).nodup_iff]
    exact List.Nodup.of_map key (SQL.firstPer_newestPer E key rows).nodup
  refine ⟨results, hlist, fun id => ?_⟩
  apply eq_toList_of_mem_iff (hnodup.filter _)
  intro r
  rw [List.mem_filter, hmem, decide_eq_true_eq]
  constructor
  · rintro ⟨hfirst,rfl⟩
    exact hfirst
  · intro hfirst
    obtain ⟨_,hid⟩ := List.mem_filter.mp (E.first_mem _ _ hfirst)
    rw [decide_eq_true_eq] at hid
    exact ⟨by rw [hid]; exact hfirst, hid⟩

/-- Whatever the database does with equal ranks, a run takes the last created result that is
still valid, exactly if the timestamp in its request is later than those of all its rivals. -/
theorem manual_result_is_last_iff (n : Bool)
    (hrun : Transitions.run createStep base calls = some table)
    (hvalid : (manualRequest toe.cloudServiceId toe.catalogId).valid = true)
    (ha : a.checkAccess toe.cloudServiceId = true) :
    (∀ E : SQL.Engine EvaluationResult EvaluationResult.timestamp, E.nullsFirst = n →
      TakesLast E a now toe c table (base ++ createdRows calls)) ↔
    LastOnTop n a now toe c (base ++ createdRows calls) := by
  rw [← (run_createdRows calls base table hrun).1]
  -- the part of the list about the control is what the database ranks first
  have htakes (E : SQL.Engine EvaluationResult EvaluationResult.timestamp) :
      TakesLast E a now toe c table table ↔
        E.first (rivals a now toe c table) = (validResults now toe c table).getLast? := by
    obtain ⟨results,hres,hfirst⟩ := exists_results hvalid ha E now table
    have hpart := hfirst c.id
    rw [filter_selected] at hpart
    constructor
    · intro ⟨results',hres',htake⟩
      obtain ⟨rfl,_⟩ := Prod.mk.inj (Except.ok.inj (hres.symm.trans hres'))
      have hhead := congrArg List.head? (hpart.symm.trans htake)
      rwa [Option.head?_toList, Option.head?_toList] at hhead
    · intro h
      exact ⟨results, hres, by rw [hpart, h]⟩
  simp only [htakes, LastOnTop]
  cases hlast : (validResults now toe c table).getLast? with
  | none =>
    constructor
    · intro h
      by_contra hne
      have hsome := (SQL.Engine.inTableOrder n EvaluationResult.timestamp).first_isSome _ hne
      rw [h _ rfl] at hsome
      cases hsome
    · intro h E _
      cases hf : E.first (rivals a now toe c table) with
      | none => rfl
      | some r =>
        have hmem := E.first_mem _ r hf
        rw [h] at hmem
        cases hmem
  | some last =>
    constructor
    · intro h x hx hne
      -- ask the database that prefers the other row
      have hpick := h (SQL.Engine.preferring n EvaluationResult.timestamp x) rfl
      exact (SQL.preferring_first hpick hx).resolve_left (Ne.symm hne)
    · rintro h E rfl
      have hmem := mem_rivals_of_valid ha (List.mem_of_getLast? hlast)
      obtain ⟨r,hr⟩ := Option.isSome_iff_exists.mp
        (E.first_isSome _ (List.ne_nil_of_mem hmem))
      have hmax := E.first_max _ r hr last hmem
      by_contra hne
      have hlt := h r (E.first_mem _ r hr) (fun heq => hne (heq ▸ hr))
      rw [hmax] at hlt
      cases hlt

end Latest

section Samples

/-- A manual result for `OPS-13` that is valid for a long time. -/
def decisionFor (status : EvaluationStatus) (timestamp : Option Time) : EvaluationResult where
  id := ""
  cloudServiceId := backupToe.cloudServiceId
  controlId := "OPS-13"
  controlCategoryName := "Operations"
  controlCatalogId := "EUCS"
  parentControlId := none
  status := status
  timestamp := timestamp
  failingAssessmentResultIds := []
  validUntil := some 1000

/-- A result is created, and later one that takes it back. -/
def revision (first second : Option Time) : List CreateCall :=
  [⟨Access.allowAll, some (decisionFor .compliantManually first),
      "11111111-1111-1111-1111-111111111112", none⟩,
    ⟨Access.allowAll, some (decisionFor .notCompliantManually second),
      "11111111-1111-1111-1111-111111111113", none⟩]

theorem revision_isFor (first second : Option Time) :
    ∀ call ∈ revision first second, call.IsFor backupToe (plainControl "Operations" "OPS-13") := by
  intro call hcall r hr
  simp only [revision, List.mem_cons, List.not_mem_nil, or_false] at hcall
  rcases hcall with rfl | rfl <;> cases hr <;> exact ⟨rfl, rfl, rfl⟩

theorem manual_result_is_last_revision :
    ∃ table, Transitions.run createStep [] (revision (some 50) (some 100)) = some table ∧
      TakesLast (SQL.Engine.inTableOrder true EvaluationResult.timestamp) Access.allowAll 200
        backupToe (plainControl "Operations" "OPS-13") table
        ([] ++ createdRows (revision (some 50) (some 100))) := by
  have hrun : Transitions.run createStep [] (revision (some 50) (some 100)) =
      some (createdRows (revision (some 50) (some 100))) := rfl
  refine ⟨_, hrun, (manual_result_is_last_iff true hrun (by decide) rfl).mpr ?_ _ rfl⟩
  rw [LastOnTop, List.nil_append, validResults_createdRows hrun (revision_isFor _ _)]
  intro x hx hne
  rcases List.mem_cons.mp hx with rfl | hx
  · rfl
  · exact absurd (List.mem_singleton.mp hx) hne

/-- The request that comes later has an earlier timestamp, and the result that it was to
replace is taken. -/
theorem revoked_result_is_taken :
    ∃ table results, Transitions.run createStep [] (revision (some 100) (some 50)) = some table ∧
      listEvaluationResults (SQL.Engine.inTableOrder true EvaluationResult.timestamp)
        Access.allowAll 200 table (manualRequest backupToe.cloudServiceId "EUCS") =
          .ok (results, .empty) ∧
      results.map EvaluationResult.status = [.compliantManually] ∧
      ¬ TakesLast (SQL.Engine.inTableOrder true EvaluationResult.timestamp) Access.allowAll 200
        backupToe (plainControl "Operations" "OPS-13") table
        ([] ++ createdRows (revision (some 100) (some 50))) := by
  refine ⟨_, _, rfl, rfl, rfl, ?_⟩
  rintro ⟨results,hres,htake⟩
  obtain ⟨rfl,_⟩ := Prod.mk.inj (Except.ok.inj hres)
  have hstatus := congrArg (List.map EvaluationResult.status) htake
  revert hstatus
  decide

end Samples
end Clouditor
