import Clouditor.MessageStreams

/-! What `handleEvidence` puts into its two streams, set against what it tells its caller. -/
namespace Clouditor
set_option autoImplicit false

section Queues
variable {M : Type}

/-- The messages that wait for a target. -/
def StreamTable.queued (t : StreamTable M) (target : String) : List M :=
  ((t.channels.lookup target).map StreamChannel.queue).getD []

/-- Between two tables, some messages were put into the queue of one target and none into
any other. -/
def Enqueued (target : String) (ms : List M) (t t' : StreamTable M) : Prop :=
  ∀ other, t'.queued other = t.queued other ++ if other = target then ms else []

/-- The target has a live stream, or one can be set up. -/
def StreamTable.Available (t : StreamTable M) (target : String) (init : StreamInit) : Prop :=
  init = .works ∨ ∃ c, t.channels.lookup target = some c ∧ c.dead = false

theorem enqueued_refl (target : String) (t : StreamTable M) : Enqueued target [] t t := by
  intro other
  simp

theorem Enqueued.trans {target : String} {ms ms' : List M} {t t' t'' : StreamTable M}
    (h : Enqueued target ms t t') (h' : Enqueued target ms' t' t'') :
    Enqueued target (ms ++ ms') t t'' := by
  intro other
  rw [h' other, h other]
  by_cases ho : other = target <;> simp [ho]

theorem queued_put (t : StreamTable M) (target : String) (c : StreamChannel M) (other : String) :
    (t.put target c).queued other = if other = target then c.queue else t.queued other := by
  unfold StreamTable.queued StreamTable.put
  by_cases ho : other = target
  · rw [if_pos ho, ho, AList.lookup_insert]
    rfl
  · rw [if_neg ho, AList.lookup_insert_ne ho]

theorem getStream_ok_iff (t : StreamTable M) (target component : String) (init : StreamInit) :
    (∃ t', t.getStream target component init = some (.ok (), t')) ↔ t.Available target init := by
  unfold StreamTable.getStream StreamTable.Available
  cases t.channels.lookup target with
  | none => cases init <;> simp [addStream]
  | some c => cases hd : c.dead <;> cases init <;> simp [restartStream, hd]

/-- Asking for a stream enqueues nothing, and leaves the target with a channel if it is
granted. -/
theorem getStream_enqueued {t t' : StreamTable M} {target component : String}
    {init : StreamInit} {r : Except Err Unit}
    (h : t.getStream target component init = some (r, t')) :
    Enqueued target [] t t' ∧ (r = .ok () → (t'.channels.lookup target).isSome = true) := by
  unfold StreamTable.getStream at h
  cases hl : t.channels.lookup target with
  | none =>
    rw [hl] at h
    cases hadd : addStream (M := M) init with
    | error e =>
      simp only [hadd, Option.some.injEq, Prod.mk.injEq] at h
      obtain ⟨rfl,rfl⟩ := h
      exact ⟨enqueued_refl target t, fun hr => by cases hr⟩
    | ok c =>
      simp only [hadd, Option.some.injEq, Prod.mk.injEq] at h
      obtain ⟨rfl,rfl⟩ := h
      -- a new channel starts with an empty queue, as a missing one has
      have hc : c.queue = [] := by
        cases init <;> cases hadd
        rfl
      have hnone : t.queued target = [] := by simp [StreamTable.queued, hl]
      refine ⟨fun other => ?_, fun _ => by simp [StreamTable.put]⟩
      rw [queued_put]
      by_cases ho : other = target <;> simp [ho, hc, hnone]
  | some c =>
    rw [hl] at h
    have hqueue : t.queued target = c.queue := by simp [StreamTable.queued, hl]
    by_cases hd : c.dead = true
    · cases init with
      | missing => simp [hd, restartStream] at h
      | fails msg => simp [hd, restartStream] at h
      | works =>
        simp only [hd, if_true, restartStream, Option.some.injEq, Prod.mk.injEq] at h
        obtain ⟨rfl,rfl⟩ := h
        refine ⟨fun other => ?_, fun _ => by simp [StreamTable.put]⟩
        rw [queued_put]
        by_cases ho : other = target <;> simp [ho, hqueue]
    · simp only [hd] at h
      cases h
      exact ⟨enqueued_refl target t, fun _ => by simp [hl]⟩

theorem send_enqueued (t : StreamTable M) (target : String) (m : M)
    (h : (t.channels.lookup target).isSome = true) :
    Enqueued target [m] t (t.send target m) ∧
      ((t.send target m).channels.lookup target).isSome = true := by
  obtain ⟨c,hc⟩ := Option.isSome_iff_exists.mp h
  have hsend : t.send target m = t.put target { c with queue := c.queue ++ [m] } := by
    simp only [StreamTable.send, hc]
  have hqueue : t.queued target = c.queue := by simp [StreamTable.queued, hc]
  rw [hsend]
  refine ⟨fun other => ?_, by simp [StreamTable.put]⟩
  rw [queued_put]
  by_cases ho : other = target <;> simp [ho, hqueue]

/-- A message for a stream that is granted is all that gets into its queue. -/
theorem getStream_send_enqueued {t t' : StreamTable M} {target component : String}
    {init : StreamInit} (h : t.getStream target component init = some (.ok (), t')) (m : M) :
    Enqueued target [m] t (t'.send target m) := by
  obtain ⟨hget,hlookup⟩ := getStream_enqueued h
  have hone := (send_enqueued t' target m (hlookup rfl)).1
  exact hget.trans hone

theorem sendResults_enqueued (t : StreamTable AssessmentResultRow) (target : String)
    (results : List AssessmentResultRow) (h : (t.channels.lookup target).isSome = true) :
    Enqueued target results t (sendResults t target results) := by
  induction results generalizing t with
  | nil => exact enqueued_refl target t
  | cons r results ih =>
    obtain ⟨hone,hlookup⟩ := send_enqueued t target r h
    have hrest := ih (t.send target r) hlookup
    exact hone.trans hrest

end Queues

section Handling
variable {I σ : Type} (svc : AssessmentService I σ)

/-- Nothing was put into either stream. -/
def Unsent (st st' : AssessmentServer σ svc.opa.Query) : Prop :=
  Enqueued svc.evidenceStore [] st.evidenceStoreStreams st'.evidenceStoreStreams ∧
  Enqueued svc.orchestrator [] st.orchestratorStreams st'.orchestratorStreams

/-- The orchestrator gets one result for each metric with an outcome, and each says which
evidence, service and resource it is about. -/
def ResultsSent (st st' : AssessmentServer σ svc.opa.Query) (e : EvidenceRow)
    (r : OntologyResource I) (data : List PolicyResult) : Prop :=
  ∃ rows, Enqueued svc.orchestrator rows st.orchestratorStreams st'.orchestratorStreams ∧
    rows.map AssessmentResultRow.metricId = data.map PolicyResult.metricId ∧
    ∀ row ∈ rows, row.evidenceId = e.id ∧ row.cloudServiceId = e.cloudServiceId ∧
      row.resourceId = r.id

/-- The policies come to an outcome for an evidence. -/
def Evaluates (st : AssessmentServer σ svc.opa.Query) (e : EvidenceRow) (hv : e.valid = true)
    (r : OntologyResource I) (data : List PolicyResult) (rego : RegoState σ svc.opa.Query) : Prop :=
  svc.decode (e.resource.getD "") = .ok r ∧
  eval svc.opa svc.source st.rego
    ⟨e.cloudServiceId, e.toolId, r.types, r.input, e.valid_service hv⟩ = some (.ok data, rego)

/-- Either nothing of an evidence is enqueued, and the caller gets an error, or all of it: the
evidence itself unless the store is disabled, and one result for each applicable metric. -/
def AllOrNothing (st : AssessmentServer σ svc.opa.Query) (m : AssessMessage) (e : EvidenceRow)
    (hv : e.valid = true) : Prop :=
  ∀ outcome st', handleEvidence svc st m e hv = some (outcome, st') →
    match outcome with
    | .error _ => Unsent svc st st'
    | .ok _ => ∃ r data rego, Evaluates svc st e hv r data rego ∧
        (data.map PolicyResult.metricId).Sublist (consideredMetrics svc.opa svc.source st.rego
          ⟨e.cloudServiceId, e.toolId, r.types, r.input, e.valid_service hv⟩) ∧
        Enqueued svc.evidenceStore (if svc.isEvidenceStoreDisabled then [] else [e])
          st.evidenceStoreStreams st'.evidenceStoreStreams ∧
        ResultsSent svc st st' e r data

variable {svc}

theorem sendToOrchestrator_store {st st' : AssessmentServer σ svc.opa.Query} {m : AssessMessage}
    {e : EvidenceRow} {r : OntologyResource I} {data : List PolicyResult}
    {outcome : Except Err Unit} (h : sendToOrchestrator svc st m e r data = some (outcome, st')) :
    st'.evidenceStoreStreams = st.evidenceStoreStreams := by
  unfold sendToOrchestrator at h
  split at h
  · cases h
  · cases h
    rfl
  · cases h
    rfl

theorem sendToOrchestrator_sent {st st' : AssessmentServer σ svc.opa.Query} {m : AssessMessage}
    {e : EvidenceRow} {r : OntologyResource I} {data : List PolicyResult}
    {outcome : Except Err Unit} (h : sendToOrchestrator svc st m e r data = some (outcome, st')) :
    match outcome with
    | .error _ => Enqueued svc.orchestrator [] st.orchestratorStreams st'.orchestratorStreams
    | .ok _ => ResultsSent svc st st' e r data := by
  unfold sendToOrchestrator at h
  split at h
  · cases h
  · rename_i hget
    cases h
    exact (getStream_enqueued hget).1
  · rename_i t hget
    obtain ⟨hnone,hlookup⟩ := getStream_enqueued hget
    cases h
    let rows := data.zipIdx.map (fun p => assessmentResult e r m.now (m.newId p.2) p.1)
    have hsent : Enqueued svc.orchestrator ([] ++ rows) st.orchestratorStreams
        (sendResults t svc.orchestrator rows) :=
      hnone.trans (sendResults_enqueued t svc.orchestrator rows (hlookup rfl))
    refine ⟨rows, hsent, ?_, ?_⟩
    · have hids : rows.map AssessmentResultRow.metricId =
          (data.zipIdx.map Prod.fst).map PolicyResult.metricId := by
        rw [List.map_map, List.map_map]
        rfl
      rw [hids, List.zipIdx_map_fst]
    · intro row hrow
      obtain ⟨p,_,rfl⟩ := List.mem_map.mp hrow
      exact ⟨rfl, rfl, rfl⟩

/-- Without an outcome of the policies there is nothing to send. -/
theorem handleEvidence_cases {st st' : AssessmentServer σ svc.opa.Query} {m : AssessMessage}
    {e : EvidenceRow} {hv : e.valid = true} {outcome : Except Err Unit}
    (h : handleEvidence svc st m e hv = some (outcome, st')) :
    (∃ r data rego, Evaluates svc st e hv r data rego ∧
      forwardResults svc { st with rego := rego } m e r data = some (outcome, st')) ∨
    ∃ err, outcome = .error err ∧ Unsent svc st st' := by
  have hsame (st₁ : AssessmentServer σ svc.opa.Query)
      (hs : st₁.evidenceStoreStreams = st.evidenceStoreStreams)
      (ho : st₁.orchestratorStreams = st.orchestratorStreams) : Unsent svc st st₁ := by
    unfold Unsent
    rw [hs, ho]
    exact ⟨enqueued_refl _ _, enqueued_refl _ _⟩
  unfold handleEvidence at h
  split at h
  · rename_i err _
    cases h
    exact .inr ⟨err, rfl, hsame st rfl rfl⟩
  · rename_i r hdec
    split at h
    · cases h
    · rename_i err rego _
      cases h
      exact .inr ⟨_, rfl, hsame _ rfl rfl⟩
    · rename_i data rego heval
      exact .inl ⟨r, data, rego, ⟨hdec, heval⟩, h⟩

theorem handleEvidence_of_evaluates {st : AssessmentServer σ svc.opa.Query} {e : EvidenceRow}
    {hv : e.valid = true} {r : OntologyResource I} {data : List PolicyResult}
    {rego : RegoState σ svc.opa.Query} (h : Evaluates svc st e hv r data rego)
    (m : AssessMessage) : handleEvidence svc st m e hv =
      forwardResults svc { st with rego := rego } m e r data := by
  obtain ⟨hdec,heval⟩ := h
  simp only [handleEvidence, hdec, heval]

/-- With the store enabled, the evidence is sent before the orchestrator is asked for. -/
theorem forwardResults_enabled {st st' : AssessmentServer σ svc.opa.Query} {m : AssessMessage}
    {e : EvidenceRow} {r : OntologyResource I} {data : List PolicyResult}
    {outcome : Except Err Unit} (hon : svc.isEvidenceStoreDisabled = false)
    (h : forwardResults svc st m e r data = some (outcome, st')) :
    (∃ err, outcome = .error err ∧ Unsent svc st st') ∨
    (st.evidenceStoreStreams.Available svc.evidenceStore m.storeInit ∧ ∃ t,
      Enqueued svc.evidenceStore [e] st.evidenceStoreStreams t ∧
      sendToOrchestrator svc { st with evidenceStoreStreams := t } m e r data =
        some (outcome, st')) := by
  unfold forwardResults at h
  rw [hon, if_neg Bool.false_ne_true] at h
  split at h
  · cases h
  · rename_i t hget
    cases h
    exact .inl ⟨_, rfl, (getStream_enqueued hget).1, enqueued_refl _ _⟩
  · rename_i t hget
    exact .inr ⟨(getStream_ok_iff _ _ _ _).mp ⟨t, hget⟩, _, getStream_send_enqueued hget e, h⟩

theorem sendToOrchestrator_refused {st st' : AssessmentServer σ svc.opa.Query}
    {m : AssessMessage} {e : EvidenceRow} {r : OntologyResource I} {data : List PolicyResult}
    {err : Err} (h : sendToOrchestrator svc st m e r data = some (.error err, st')) :
    st.orchestratorStreams.channels.lookup svc.orchestrator = none ∧
      m.orchestratorInit ≠ .works := by
  unfold sendToOrchestrator at h
  split at h
  · cases h
  · rename_i hget
    exact (getStream_refuses_iff _ _ _ _).mp ⟨_, _, hget⟩
  · cases h

/-- The orchestrator's refusal comes after the evidence is on its way to the store. -/
theorem refused_after_store {st : AssessmentServer σ svc.opa.Query} {m : AssessMessage}
    {e : EvidenceRow} {hv : e.valid = true} {r : OntologyResource I} {data : List PolicyResult}
    {rego : RegoState σ svc.opa.Query} (heval : Evaluates svc st e hv r data rego)
    (hon : svc.isEvidenceStoreDisabled = false)
    (havail : st.evidenceStoreStreams.Available svc.evidenceStore m.storeInit)
    (hnone : st.orchestratorStreams.channels.lookup svc.orchestrator = none)
    (hinit : m.orchestratorInit ≠ .works) :
    ∃ err st', handleEvidence svc st m e hv = some (.error err, st') ∧
      Enqueued svc.evidenceStore [e] st.evidenceStoreStreams st'.evidenceStoreStreams := by
  obtain ⟨t,hstore⟩ := (getStream_ok_iff _ _ "Evidence Store" _).mpr havail
  obtain ⟨err,t',horch⟩ := (getStream_refuses_iff st.orchestratorStreams svc.orchestrator
    "Orchestrator" m.orchestratorInit).mpr ⟨hnone, hinit⟩
  rw [handleEvidence_of_evaluates heval]
  simp only [forwardResults, hon, Bool.false_eq_true, if_false, hstore, sendToOrchestrator, horch]
  exact ⟨_, _, rfl, getStream_send_enqueued hstore e⟩

/-- An evidence is handled as a whole exactly if it does not get to an orchestrator that refuses
it with the store in front. -/
theorem all_or_nothing_iff (svc : AssessmentService I σ) (st : AssessmentServer σ svc.opa.Query)
    (m : AssessMessage) (e : EvidenceRow) (hv : e.valid = true) :
    AllOrNothing svc st m e hv ↔
      (svc.isEvidenceStoreDisabled = false →
        st.evidenceStoreStreams.Available svc.evidenceStore m.storeInit →
        st.orchestratorStreams.channels.lookup svc.orchestrator = none →
        m.orchestratorInit ≠ .works →
        ∀ r data rego, ¬ Evaluates svc st e hv r data rego) := by
  constructor
  · intro h hon havail hnone hinit r data rego heval
    obtain ⟨err,st',hcall,hlong⟩ := refused_after_store heval hon havail hnone hinit
    -- the queue of the store is one longer, though the caller got an error
    obtain ⟨hshort,_⟩ := h _ _ hcall
    have hqueue := (hlong svc.evidenceStore).symm.trans (hshort svc.evidenceStore)
    simp at hqueue
  · intro h outcome st' hcall
    rcases handleEvidence_cases hcall with ⟨r,data,rego,heval,hforward⟩ | ⟨err,rfl,hunsent⟩
    · cases hdis : svc.isEvidenceStoreDisabled with
      | true =>
        simp only [forwardResults, hdis, if_true] at hforward
        have hsent := sendToOrchestrator_sent hforward
        have hstore : Enqueued svc.evidenceStore [] st.evidenceStoreStreams
            st'.evidenceStoreStreams := by
          rw [sendToOrchestrator_store hforward]
          exact enqueued_refl _ _
        cases outcome with
        | error err => exact ⟨hstore, hsent⟩
        | ok u =>
          exact ⟨r, data, rego, heval, eval_sublist _ _ _ _ _ _ heval.2, hstore, hsent⟩
      | false =>
        rcases forwardResults_enabled hdis hforward with ⟨err,rfl,hunsent⟩ | ⟨havail,t,ht,hsend⟩
        · exact hunsent
        · have hstore : Enqueued svc.evidenceStore [e] st.evidenceStoreStreams
              st'.evidenceStoreStreams := by
            rw [sendToOrchestrator_store hsend]
            exact ht
          cases outcome with
          | error err =>
            obtain ⟨hnone,hinit⟩ := sendToOrchestrator_refused hsend
            exact absurd heval (h hdis havail hnone hinit r data rego)
          | ok u =>
            exact ⟨r, data, rego, heval, eval_sublist _ _ _ _ _ _ heval.2, hstore,
              sendToOrchestrator_sent hsend⟩
    · exact hunsent

/-- An assessment service with one metric, whose policy applies to everything. -/
def bootService : AssessmentService Unit Unit where
  opa := {
    Query := MetricConfiguration
    prepare := fun _ config _ => .ok config
    eval := fun config _ =>
      .ok [⟨some true, some true, some "==", config.targetValue, .ok config⟩] }
  source := {
    metrics := fun _ => .ok ["BootLoggingEnabled"]
    metricConfiguration := fun _ s m => (.ok ⟨"==", "true", true, none, m, s⟩, ())
    metricImplementation := fun _ _ => .ok "package clouditor.metrics.boot_logging_enabled" }
  decode := fun _ => .ok ⟨"my-vm", ["VirtualMachine"], .ok ()⟩
  isEvidenceStoreDisabled := false
  evidenceStore := "localhost:9092"
  orchestrator := "localhost:9090"

def bootEvidence : EvidenceRow where
  id := "22222222-2222-2222-2222-222222222222"
  timestamp := some 0
  cloudServiceId := "11111111-1111-1111-1111-111111111111"
  toolId := "tool"
  raw := none
  resource := some "my-vm"

def bootMessage (orchestratorInit : StreamInit) : AssessMessage where
  evidence := some bootEvidence
  storeEvents := []
  orchestratorEvents := []
  storeInit := .works
  orchestratorInit := orchestratorInit
  now := 0
  newId := fun _ => "33333333-3333-3333-3333-333333333333"

def bootServer : AssessmentServer Unit bootService.opa.Query :=
  ⟨RegoState.fresh (), ⟨∅, []⟩, ⟨∅, []⟩⟩

theorem all_or_nothing_boot :
    bootEvidence.valid = true ∧
      AllOrNothing bootService bootServer (bootMessage .works) bootEvidence (by decide) := by
  refine ⟨by decide, ?_⟩
  refine (all_or_nothing_iff bootService bootServer (bootMessage .works) bootEvidence
    (by decide)).mpr ?_
  intro _ _ _ hinit
  exact absurd rfl hinit

/-- The orchestrator cannot be reached: the caller gets an error, and the evidence goes to the
store. -/
theorem evidence_of_failed_call_is_sent :
    ∃ err st', handleEvidence bootService bootServer (bootMessage (.fails "unavailable"))
        bootEvidence (by decide) = some (.error err, st') ∧
      bootServer.evidenceStoreStreams.queued "localhost:9092" = [] ∧
      st'.evidenceStoreStreams.queued "localhost:9092" = [bootEvidence] := by
  exact ⟨_, _, rfl, rfl, rfl⟩

end Handling
end Clouditor
