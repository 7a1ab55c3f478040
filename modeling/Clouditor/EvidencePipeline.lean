import Clouditor.StreamAccounts
import Mathlib.Data.List.Perm.Subperm

/-! The way of an evidence through the services: the discovery service sends it to the assessment
service, which sends it on to the evidence store and its results to the orchestrator. Everything
happens in any order, streams fail and connections lose what they carry. -/
namespace Clouditor
set_option autoImplicit false
open scoped List

/-- The fixed parts of the services, and what the tokens allow that the discovery service and the
assessment service show to the service they send to. -/
structure Pipeline (R I σ : Type) where
  discovery : DiscoveryService R
  assessment : AssessmentService I σ
  discoveryRights : Access
  assessmentRights : Access

structure PipelineState (σ Q : Type) where
  discovery : DiscoveryState
  assessing : Receiver EvidenceRow AssessEvidencesResponse
  assessment : AssessmentServer σ Q
  storing : Receiver EvidenceRow StoreResponse
  recording : Receiver AssessmentResultRow StoreResponse
  db : Database

/-- The evidence of an `AssessMessage` is the next one on the stream, the rest of it says what
happens around its handling. -/
inductive PipelineOp (R : Type) where
  | discover (turn : DiscoveryTurn R)
  | discoveryLoop (ev : LoopEvent)
  | assess (m : AssessMessage)
  | storeLoop (ev : LoopEvent)
  | orchestratorLoop (ev : LoopEvent)
  | storeEvidence
  | recordResult
  | loseAssessment
  | loseEvidence
  | loseResult

section Steps
variable {R I σ : Type} (w : Pipeline R I σ)

abbrev Pipeline.State : Type := PipelineState σ w.assessment.opa.Query

def Pipeline.start (resources : Keyed.Rows Resource.key)
    (rego : RegoState σ w.assessment.opa.Query) (db : Database) : w.State where
  discovery := ⟨resources, .start, []⟩
  assessing := .start
  assessment := ⟨rego, .start, .start⟩
  storing := .start
  recording := .start
  db := db

variable {w}

/-- The evidences that were delivered to the assessment service and not received yet. -/
def PipelineState.toAssess (p : w.State) : List EvidenceRow :=
  p.assessing.onTheWay p.discovery.assessmentStreams w.discovery.assessment

def PipelineState.toStore (p : w.State) : List EvidenceRow :=
  p.storing.onTheWay p.assessment.evidenceStoreStreams w.assessment.evidenceStore

def PipelineState.toRecord (p : w.State) : List AssessmentResultRow :=
  p.recording.onTheWay p.assessment.orchestratorStreams w.assessment.orchestrator

variable (w)

/-- One step of one of the services, `none` if there is nothing to do it with or if the service
faults. -/
def Pipeline.step (p : w.State) : PipelineOp R → Option w.State
  | .discover turn =>
    (w.discovery.discover p.discovery turn).map (fun d => { p with discovery := d })
  | .discoveryLoop ev => some { p with discovery :=
      { p.discovery with assessmentStreams := p.discovery.assessmentStreams.happen ev } }
  | .assess m => p.toAssess.head?.bind (fun e =>
      (assessEvidence w.assessment w.discoveryRights p.assessment
          { m with evidence := some e }).map
        (fun r => { p with assessing := p.assessing.answer e (assessResponse r.1),
                           assessment := r.2 }))
  | .storeLoop ev => some { p with assessment :=
      { p.assessment with evidenceStoreStreams := p.assessment.evidenceStoreStreams.happen ev } }
  | .orchestratorLoop ev => some { p with assessment :=
      { p.assessment with orchestratorStreams := p.assessment.orchestratorStreams.happen ev } }
  | .storeEvidence => p.toStore.head?.map (fun e =>
      let r := p.db.storeEvidenceRequest w.assessmentRights (some e)
      { p with storing := p.storing.answer e (storeResponse r.1), db := r.2 })
  | .recordResult => p.toRecord.head?.map (fun row =>
      let r := p.db.storeAssessmentResultRequest w.assessmentRights (some row)
      { p with recording := p.recording.answer row (storeResponse r.1), db := r.2 })
  | .loseAssessment => p.toAssess.head?.map (fun e => { p with assessing := p.assessing.lose e })
  | .loseEvidence => p.toStore.head?.map (fun e => { p with storing := p.storing.lose e })
  | .loseResult => p.toRecord.head?.map (fun r => { p with recording := p.recording.lose r })

end Steps

section Handling
variable {I σ : Type} {svc : AssessmentService I σ}

/-- What the handling of an evidence puts into the two streams: nothing, the evidence alone, or
results with the evidence before them unless the store is disabled. -/
structure Handles (svc : AssessmentService I σ) (st st' : AssessmentServer σ svc.opa.Query)
    (e : EvidenceRow) (outcome : Except Err Unit) (es : List EvidenceRow)
    (rs : List AssessmentResultRow) : Prop where
  store : Flows svc.evidenceStore es st.evidenceStoreStreams st'.evidenceStoreStreams
  orchestrator : Flows svc.orchestrator rs st.orchestratorStreams st'.orchestratorStreams
  evidence : es = [] ∨ es = [e]
  results : ∀ r ∈ rs, r.evidenceId = e.id ∧ r.cloudServiceId = e.cloudServiceId
  before : outcome.isOk = true ∨ rs ≠ [] → svc.isEvidenceStoreDisabled = true ∨ es = [e]

theorem handles_nothing {st st' : AssessmentServer σ svc.opa.Query} (e : EvidenceRow) (err : Err)
    (hs : Flows svc.evidenceStore [] st.evidenceStoreStreams st'.evidenceStoreStreams)
    (ho : Flows svc.orchestrator [] st.orchestratorStreams st'.orchestratorStreams) :
    Handles svc st st' e (.error err) [] [] := by
  refine ⟨hs, ho, .inl rfl, fun r hr => absurd hr List.not_mem_nil, ?_⟩
  rintro (h | h)
  · cases h
  · exact absurd rfl h

theorem flows_sendResults (t : StreamTable AssessmentResultRow) (target : String)
    (results : List AssessmentResultRow) (h : (t.channels.lookup target).isSome = true) :
    Flows target results t (sendResults t target results) := by
  induction results generalizing t with
  | nil => exact flows_refl target t
  | cons r results ih =>
    have hlookup := (send_enqueued t target r h).2
    have hrest := ih (t.send target r) hlookup
    exact (flows_send t target r h).trans hrest

/-- The last part of the handling leaves the stream of the evidence store alone. -/
theorem handles_sendToOrchestrator {st u st' : AssessmentServer σ svc.opa.Query}
    {m : AssessMessage} {e : EvidenceRow} {r : OntologyResource I} {data : List PolicyResult}
    {outcome : Except Err Unit} {es : List EvidenceRow}
    (hs : Flows svc.evidenceStore es st.evidenceStoreStreams u.evidenceStoreStreams)
    (ho : Flows svc.orchestrator [] st.orchestratorStreams u.orchestratorStreams)
    (hes : es = [] ∧ svc.isEvidenceStoreDisabled = true ∨ es = [e])
    (h : sendToOrchestrator svc u m e r data = some (outcome, st')) :
    ∃ rs, Handles svc st st' e outcome es rs := by
  have hev : es = [] ∨ es = [e] := hes.imp_left And.left
  have hbefore : svc.isEvidenceStoreDisabled = true ∨ es = [e] := hes.imp_left And.right
  have hstore := sendToOrchestrator_store h
  unfold sendToOrchestrator at h
  split at h
  · cases h
  · rename_i hget
    cases h
    refine ⟨[], hs, ho.trans (flows_getStream hget _), hev,
      fun _ hr => absurd hr List.not_mem_nil, fun _ => hbefore⟩
  · rename_i t hget
    cases h
    have hlookup := (getStream_enqueued hget).2 rfl
    have hsent := (ho.trans (flows_getStream hget svc.orchestrator)).trans
      (flows_sendResults t svc.orchestrator
        (data.zipIdx.map (fun p => assessmentResult e r m.now (m.newId p.2) p.1)) hlookup)
    refine ⟨_, hs, hsent, hev, ?_, fun _ => hbefore⟩
    intro row hrow
    obtain ⟨p,_,rfl⟩ := List.mem_map.mp hrow
    exact ⟨rfl, rfl⟩

theorem handles_forwardResults {st st' : AssessmentServer σ svc.opa.Query} {m : AssessMessage}
    {e : EvidenceRow} {r : OntologyResource I} {data : List PolicyResult}
    {outcome : Except Err Unit} (h : forwardResults svc st m e r data = some (outcome, st')) :
    ∃ es rs, Handles svc st st' e outcome es rs := by
  unfold forwardResults at h
  split at h
  · rename_i hdis
    exact ⟨[], handles_sendToOrchestrator (flows_refl _ _) (flows_refl _ _) (.inl ⟨rfl, hdis⟩) h⟩
  · split at h
    · cases h
    · rename_i t hget
      cases h
      exact ⟨[], [], handles_nothing e _ (flows_getStream hget _) (flows_refl _ _)⟩
    · rename_i t hget
      -- the evidence is in its stream before the orchestrator is asked for
      have hsent := flows_granted hget [] e
      exact ⟨[e], handles_sendToOrchestrator
        (u := { st with evidenceStoreStreams := t.send svc.evidenceStore e }) hsent
        (flows_refl _ _) (.inr rfl) h⟩

theorem handles_assessEvidence {a : Access} {st st' : AssessmentServer σ svc.opa.Query}
    {m : AssessMessage} {e : EvidenceRow} {outcome : Except Err Unit} (hm : m.evidence = some e)
    (h : assessEvidence svc a st m = some (outcome, st')) :
    ∃ es rs, Handles svc st st' e outcome es rs := by
  have hs := flows_happen_all m.storeEvents st.evidenceStoreStreams svc.evidenceStore
  have ho := flows_happen_all m.orchestratorEvents st.orchestratorStreams svc.orchestrator
  have hnothing (err : Err) : Handles svc st (st.before m) e (.error err) [] [] :=
    handles_nothing e err hs ho
  simp only [assessEvidence, hm] at h
  split at h
  · split at h
    · cases h
      exact ⟨[], [], hnothing _⟩
    · unfold handleEvidence at h
      split at h
      · cases h
        exact ⟨[], [], hnothing _⟩
      · split at h
        · cases h
        · cases h
          exact ⟨[], [], handles_nothing e _ hs ho⟩
        · obtain ⟨es,rs,hh⟩ := handles_forwardResults h
          exact ⟨es, rs, ⟨hs.trans hh.store, ho.trans hh.orchestrator, hh.evidence, hh.results,
            hh.before⟩⟩
  · cases h
    exact ⟨[], [], hnothing _⟩

end Handling

section Conservation
variable {R I σ : Type} {w : Pipeline R I σ}

/-- The evidences whose handling the assessment service has reported as a success. -/
def PipelineState.assessed (p : w.State) : List EvidenceRow :=
  (p.assessing.answers.filter (fun x => x.2.status = .assessed)).map Prod.fst

/-- With `es` the evidences and `rs` the results that the assessment service has sent. -/
structure Balanced (w : Pipeline R I σ) (before : Database) (p : w.State)
    (es : List EvidenceRow) (rs : List AssessmentResultRow) : Prop where
  sent : Accounted w.discovery.assessment p.discovery.assessmentStreams p.assessing
    p.discovery.sent
  service : ∀ e ∈ p.discovery.sent, e.cloudServiceId = w.discovery.csID
  store : Accounted w.assessment.evidenceStore p.assessment.evidenceStoreStreams p.storing es
  assessed : w.assessment.isEvidenceStoreDisabled = false → p.assessed.Subperm es
  orchestrator : Accounted w.assessment.orchestrator p.assessment.orchestratorStreams
    p.recording rs
  origin : ∀ r ∈ rs, ∃ e ∈ p.discovery.sent, r.evidenceId = e.id ∧
    r.cloudServiceId = e.cloudServiceId ∧ (w.assessment.isEvidenceStoreDisabled = true ∨ e ∈ es)
  stored : ∀ x ∈ p.storing.answers, x.2.status = true → p.db.evidences.find x.1.id = some x.1
  recorded : ∀ id r, p.db.assessmentResults.find id = some r →
    before.assessmentResults.find id = some r ∨ r ∈ rs

theorem balanced_start (resources : Keyed.Rows Resource.key)
    (rego : RegoState σ w.assessment.opa.Query) (db : Database) :
    Balanced w db (w.start resources rego db) [] [] where
  sent := accounted_start _
  service := by simp [Pipeline.start]
  store := accounted_start _
  assessed := fun _ => List.Subperm.refl []
  orchestrator := accounted_start _
  origin := by simp
  stored := by simp [Pipeline.start, Receiver.start]
  recorded := fun _ _ h => .inl h

/-- A turn of the discovery sends at most one evidence, which is of its service. -/
theorem flows_discover {svc : DiscoveryService R} {st st' : DiscoveryState}
    {turn : DiscoveryTurn R} (h : svc.discover st turn = some st') :
    ∃ ms, Flows svc.assessment ms st.assessmentStreams st'.assessmentStreams ∧
      st'.sent = st.sent ++ ms ∧ ∀ e ∈ ms, e.cloudServiceId = svc.csID := by
  have hbefore := flows_happen_all turn.before st.assessmentStreams svc.assessment
  simp only [DiscoveryService.discover] at h
  split at h
  · cases h
    exact ⟨[], hbefore, by simp, by simp⟩
  · split at h
    · cases h
      exact ⟨[], hbefore, by simp, by simp⟩
    · split at h
      · cases h
      · rename_i hget
        cases h
        exact ⟨[], hbefore.trans (flows_getStream hget _), by simp, by simp⟩
      · rename_i streams hget
        cases h
        refine ⟨_, hbefore.trans (flows_granted hget turn.between _), rfl, ?_⟩
        intro e he
        rw [List.mem_singleton.mp he]
        rfl

/-- A call of the evidence store keeps every stored evidence, and a successful one has stored
the evidence it was called with. -/
theorem storeEvidenceRequest_cases (db : Database) (a : Access) (e : EvidenceRow) :
    (db.storeEvidenceRequest a (some e)).2.assessmentResults = db.assessmentResults ∧
    (∀ id v, db.evidences.find id = some v →
      (db.storeEvidenceRequest a (some e)).2.evidences.find id = some v) ∧
    ((storeResponse (db.storeEvidenceRequest a (some e)).1).status = true →
      (db.storeEvidenceRequest a (some e)).2.evidences.find e.id = some e) := by
  unfold Database.storeEvidenceRequest
  simp only [Option.elim_some]
  cases h : db.storeEvidence a e with
  | error err => exact ⟨rfl, fun _ _ hv => hv, fun hs => by cases hs⟩
  | ok p =>
    obtain ⟨_,h⟩ := checked_ok h
    split at h
    · cases h
    · rename_i rows hrows
      cases h
      obtain ⟨hnew,rfl⟩ := (Keyed.create_eq_some_iff _ _ _).mp hrows
      refine ⟨rfl, fun id v hv => ?_, fun _ => ?_⟩
      · have hid : id ≠ e.id := by
          rintro rfl
          rw [hnew] at hv
          cases hv
        simpa [Database.settle, Keyed.find_save, hid] using hv
      · simp [Database.settle, Keyed.find_save]

theorem storeAssessmentResultRequest_cases (db : Database) (a : Access)
    (row : AssessmentResultRow) :
    (db.storeAssessmentResultRequest a (some row)).2.evidences = db.evidences ∧
    ∀ id r, (db.storeAssessmentResultRequest a (some row)).2.assessmentResults.find id = some r →
      db.assessmentResults.find id = some r ∨ r = row := by
  unfold Database.storeAssessmentResultRequest
  simp only [Option.elim_some]
  cases h : db.storeAssessmentResult a row with
  | error err => exact ⟨rfl, fun _ _ hr => .inl hr⟩
  | ok p =>
    obtain ⟨_,h⟩ := checked_ok h
    split at h
    · cases h
    · rename_i rows hrows
      cases h
      obtain ⟨_,rfl⟩ := (Keyed.create_eq_some_iff _ _ _).mp hrows
      refine ⟨rfl, fun id r hr => ?_⟩
      simp only [Database.settle, Keyed.find_save] at hr
      split at hr
      · exact .inr (Option.some.inj hr).symm
      · exact .inl hr

/-- A message on the way is one of those that were sent. -/
theorem Accounted.mem_of_onTheWay {M A : Type} {target : String} {t : StreamTable M}
    {rcv : Receiver M A} {ms : List M} {m : M} (h : Accounted target t rcv ms)
    (hm : (rcv.onTheWay t target).head? = some m) : m ∈ ms := by
  rw [h.places.mem_iff]
  apply List.mem_append_left
  apply List.mem_append_right
  exact List.mem_of_head? hm

theorem balanced_discover {before : Database} {p p' : w.State} {es : List EvidenceRow}
    {rs : List AssessmentResultRow} {turn : DiscoveryTurn R} (h : Balanced w before p es rs)
    (hstep : w.step p (.discover turn) = some p') : Balanced w before p' es rs := by
  obtain ⟨d,hd,rfl⟩ := Option.map_eq_some_iff.mp hstep
  obtain ⟨ms,hflow,hsent,hcs⟩ := flows_discover hd
  refine { h with sent := ?_, service := ?_, origin := ?_ }
  · rw [hsent]
    exact h.sent.flows hflow
  · intro e he
    rw [hsent, List.mem_append] at he
    rcases he with he | he
    · exact h.service e he
    · exact hcs e he
  · intro r hr
    obtain ⟨e,he,hrest⟩ := h.origin r hr
    refine ⟨e, ?_, hrest⟩
    rw [hsent]
    exact List.mem_append_left ms he

theorem balanced_assess {before : Database} {p p' : w.State} {es : List EvidenceRow}
    {rs : List AssessmentResultRow} {m : AssessMessage} (h : Balanced w before p es rs)
    (hstep : w.step p (.assess m) = some p') : ∃ es' rs', Balanced w before p' es' rs' := by
  obtain ⟨e,he,hcall⟩ := Option.bind_eq_some_iff.mp hstep
  obtain ⟨⟨outcome,st⟩,hassess,rfl⟩ := Option.map_eq_some_iff.mp hcall
  obtain ⟨es',rs',hh⟩ := handles_assessEvidence rfl hassess
  have hmem : e ∈ p.discovery.sent := h.sent.mem_of_onTheWay he
  refine ⟨es ++ es', rs ++ rs', { h with
    sent := h.sent.answer he _, store := h.store.flows hh.store,
    assessed := ?_, orchestrator := h.orchestrator.flows hh.orchestrator, origin := ?_,
    recorded := ?_ }⟩
  · intro hon
    -- the evidence of a success is the one that was just sent to the store
    have hold := h.assessed hon
    simp only [PipelineState.assessed, Receiver.answer, List.filter_append, List.map_append]
    apply List.Subperm.append hold
    cases outcome with
    | error err => exact List.nil_subperm
    | ok u =>
      rcases hh.before (.inl rfl) with hdis | hes
      · rw [hon] at hdis
        cases hdis
      · rw [hes]
        exact List.Subperm.refl [e]
  · intro r hr
    rcases List.mem_append.mp hr with hr | hr
    · obtain ⟨e',he',hid,hcs,hstore⟩ := h.origin r hr
      exact ⟨e', he', hid, hcs, hstore.imp_right (List.mem_append_left es')⟩
    · obtain ⟨hid,hcs⟩ := hh.results r hr
      refine ⟨e, hmem, hid, hcs, ?_⟩
      refine (hh.before (.inr (List.ne_nil_of_mem hr))).imp_right (fun hes => ?_)
      rw [hes]
      exact List.mem_append_right es (List.mem_singleton_self e)
  · intro id r hr
    exact (h.recorded id r hr).imp_right (List.mem_append_left rs')

theorem balanced_step {before : Database} {p p' : w.State} {op : PipelineOp R}
    (h : ∃ es rs, Balanced w before p es rs) (hstep : w.step p op = some p') :
    ∃ es rs, Balanced w before p' es rs := by
  obtain ⟨es,rs,h⟩ := h
  cases op with
  | discover turn => exact ⟨es, rs, balanced_discover h hstep⟩
  | discoveryLoop ev =>
    cases hstep
    have hsent := h.sent.flows (flows_happen p.discovery.assessmentStreams ev _)
    rw [List.append_nil] at hsent
    exact ⟨es, rs, { h with sent := hsent }⟩
  | assess m => exact balanced_assess h hstep
  | storeLoop ev =>
    cases hstep
    have hstore := h.store.flows (flows_happen p.assessment.evidenceStoreStreams ev _)
    rw [List.append_nil] at hstore
    exact ⟨es, rs, { h with store := hstore }⟩
  | orchestratorLoop ev =>
    cases hstep
    have horch := h.orchestrator.flows (flows_happen p.assessment.orchestratorStreams ev _)
    rw [List.append_nil] at horch
    exact ⟨es, rs, { h with orchestrator := horch }⟩
  | storeEvidence =>
    obtain ⟨e,he,rfl⟩ := Option.map_eq_some_iff.mp hstep
    obtain ⟨hres,hkeep,hnew⟩ := storeEvidenceRequest_cases p.db w.assessmentRights e
    refine ⟨es, rs, { h with store := h.store.answer he _, stored := ?_, recorded := ?_ }⟩
    · intro x hx hok
      rcases List.mem_append.mp hx with hx | hx
      · exact hkeep _ _ (h.stored x hx hok)
      · rw [List.mem_singleton.mp hx] at hok ⊢
        exact hnew hok
    · intro id r hr
      rw [hres] at hr
      exact h.recorded id r hr
  | recordResult =>
    obtain ⟨row,hrow,rfl⟩ := Option.map_eq_some_iff.mp hstep
    obtain ⟨hev,hres⟩ := storeAssessmentResultRequest_cases p.db w.assessmentRights row
    refine ⟨es, rs, { h with orchestrator := h.orchestrator.answer hrow _, stored := ?_,
                             recorded := ?_ }⟩
    · intro x hx hok
      rw [hev]
      exact h.stored x hx hok
    · intro id r hr
      rcases hres id r hr with hold | rfl
      · exact h.recorded id r hold
      · exact .inr (h.orchestrator.mem_of_onTheWay hrow)
  | loseAssessment =>
    obtain ⟨e,he,rfl⟩ := Option.map_eq_some_iff.mp hstep
    exact ⟨es, rs, { h with sent := h.sent.lose he }⟩
  | loseEvidence =>
    obtain ⟨e,he,rfl⟩ := Option.map_eq_some_iff.mp hstep
    exact ⟨es, rs, { h with store := h.store.lose he }⟩
  | loseResult =>
    obtain ⟨r,hr,rfl⟩ := Option.map_eq_some_iff.mp hstep
    exact ⟨es, rs, { h with orchestrator := h.orchestrator.lose hr }⟩

theorem balanced_run (ops : List (PipelineOp R)) (resources : Keyed.Rows Resource.key)
    (rego : RegoState σ w.assessment.opa.Query) (db : Database) (p : w.State)
    (hrun : Transitions.run w.step (w.start resources rego db) ops = some p) :
    ∃ es rs, Balanced w db p es rs := by
  have hstep (s : w.State) (op : PipelineOp R) (s' : w.State)
      (h : ∃ es rs, Balanced w db s es rs) (_ : True) (hs : w.step s op = some s') :
      ∃ es rs, Balanced w db s' es rs := balanced_step h hs
  exact Transitions.invariant_run (P := fun _ _ => True) hstep ops _ p
    ⟨[], [], balanced_start resources rego db⟩
    (Transitions.allowed_of_forall ops _ (fun _ _ _ => trivial)) hrun

end Conservation

section Samples

/-- One discovered name, assessed by one metric. -/
def bootPipeline : Pipeline String Unit Unit :=
  ⟨namesService, bootService, .allowAll, .allowAll⟩

def bootStart : bootPipeline.State :=
  bootPipeline.start (Keyed.Rows.empty _) (RegoState.fresh ())
    (sampleDatabase "11111111-1111-1111-1111-111111111111")

/-- The stream to the evidence store fails once, and the result overtakes the evidence. -/
def overtakingRun : List (PipelineOp String) :=
  [.discover (nameTurn "vm-1" [] .works), .discoveryLoop (.deliver "localhost:9092"),
    .assess (bootMessage .works), .storeLoop (.fail "localhost:9092"),
    .orchestratorLoop (.deliver "localhost:9090"), .recordResult]

theorem overtakingRun_records :
    (Transitions.run bootPipeline.step bootStart overtakingRun).any (fun p =>
      (p.db.assessmentResults.find "33333333-3333-3333-3333-333333333333").isSome) = true := by
  decide

end Samples
end Clouditor
