import Clouditor.RegoEval
import Clouditor.ScopedRequests
import Clouditor.StreamTable
import Clouditor.WriteIsolation

/-! The bidirectional streams of the services: every message is handled by the unary call of
the same service and answered before the next one is received. -/
namespace Clouditor
set_option autoImplicit false

section Loop
variable {σ μ ρ : Type}

/-- A unary call on a message: its outcome and the state it leaves, `none` if it faults. -/
abbrev Unary (σ μ : Type) := σ → μ → Option (Except Err Unit × σ)

/-- The loop over the messages of a client: what it sends back until the client closes its
side, `none` if it faults. -/
def streamLoop (unary : Unary σ μ) (respond : Except Err Unit → ρ) :
    σ → List μ → Option (List ρ × σ)
  | s, [] => some ([], s)
  | s, m :: ms =>
    (unary s m).bind (fun r =>
      (streamLoop unary respond r.2 ms).map (fun p => (respond r.1 :: p.1, p.2)))

/-- The state that the unary calls on some messages leave. -/
def afterMessages (unary : Unary σ μ) : σ → List μ → Option σ
  | s, [] => some s
  | s, m :: ms => (unary s m).bind (fun r => afterMessages unary r.2 ms)

/-- The stream does not fault and answers each message in its turn, with a success exactly
when the unary call on it succeeds in the state that the calls before it have left. -/
def Answered (unary : Unary σ μ) (succeeded : ρ → Bool) (s : σ) (ms : List μ)
    (sent : Option (List ρ × σ)) : Prop :=
  ∃ rs t, sent = some (rs, t) ∧ rs.length = ms.length ∧
    ∀ pre m post, ms = pre ++ m :: post → ∃ s' r s'' response,
      afterMessages unary s pre = some s' ∧ unary s' m = some (r, s'') ∧
      rs[pre.length]? = some response ∧ succeeded response = r.isOk

/-- No unary call faults in the state it finds. -/
def Faultless (unary : Unary σ μ) (s : σ) (ms : List μ) : Prop :=
  ∀ pre m post s', ms = pre ++ m :: post → afterMessages unary s pre = some s' →
    unary s' m ≠ none

theorem streamLoop_answered_iff (unary : Unary σ μ) (respond : Except Err Unit → ρ)
    (succeeded : ρ → Bool) (hresp : ∀ r, succeeded (respond r) = r.isOk) (s : σ) (ms : List μ) :
    Answered unary succeeded s ms (streamLoop unary respond s ms) ↔ Faultless unary s ms := by
  constructor
  · rintro ⟨rs,t,_,_,h⟩ pre m post s' hms hs' hnone
    obtain ⟨u,r,u',_,hu,hr,_⟩ := h pre m post hms
    cases hu.symm.trans hs'
    rw [hnone] at hr
    cases hr
  · intro h
    induction ms generalizing s with
    | nil => exact ⟨[], s, rfl, rfl, by simp⟩
    | cons m ms ih =>
      obtain ⟨⟨r,s'⟩,hr⟩ := Option.ne_none_iff_exists'.mp (h [] m ms s rfl rfl)
      -- the rest of the stream starts where this call ends
      obtain ⟨rs,t,hrs,hlen,hat⟩ := ih s' (by
        intro pre m' post u hms hu
        exact h (m :: pre) m' post u (by rw [hms, List.cons_append]) (by
          simp only [afterMessages, hr, Option.bind_some, hu]))
      refine ⟨respond r :: rs, t, ?_, by rw [List.length_cons, List.length_cons, hlen], ?_⟩
      · simp only [streamLoop, hr, Option.bind_some, hrs, Option.map_some]
      · intro pre m' post hms
        cases pre with
        | nil =>
          obtain ⟨rfl,_⟩ := List.cons.inj hms
          exact ⟨s, r, s', respond r, rfl, hr, rfl, hresp r⟩
        | cons m'' pre =>
          obtain ⟨rfl,hrest⟩ := List.cons.inj hms
          obtain ⟨u,q,u',response,hu,hq⟩ := hat pre m' post hrest
          exact ⟨u, q, u', response, by simp only [afterMessages, hr, Option.bind_some, hu], hq⟩

end Loop

section Stores

structure StoreResponse where
  status : Bool
  statusMessage : String
  deriving DecidableEq

def storeResponse : Except Err Unit → StoreResponse
  | .error e => ⟨false, e.error⟩
  | .ok _ => ⟨true, ""⟩

/-- A failed call leaves the database as it was. -/
def Database.settle (db : Database) : Handled Unit → Except Err Unit × Database
  | .error e => (.error e, db)
  | .ok (_, db') => (.ok (), db')

/-- The payload is a required field of the request. -/
def Database.storeEvidenceRequest (db : Database) (a : Access) (payload : Option EvidenceRow) :
    Except Err Unit × Database :=
  db.settle (payload.elim (.error errInvalidRequest) (db.storeEvidence a))

def Database.storeAssessmentResultRequest (db : Database) (a : Access)
    (payload : Option AssessmentResultRow) : Except Err Unit × Database :=
  db.settle (payload.elim (.error errInvalidRequest) (db.storeAssessmentResult a))

def storeEvidences (a : Access) : Database → List (Option EvidenceRow) →
    Option (List StoreResponse × Database) :=
  streamLoop (fun db m => some (db.storeEvidenceRequest a m)) storeResponse

/-- This loop logs the id of the result before it answers. -/
def storeAssessmentResults (a : Access) : Database → List (Option AssessmentResultRow) →
    Option (List StoreResponse × Database)
  | db, [] => some ([], db)
  | db, m :: ms =>
    let handled := db.storeAssessmentResultRequest a m
    match m with
    | none => none
    | some _ =>
      (storeAssessmentResults a handled.2 ms).map (fun p => (storeResponse handled.1 :: p.1, p.2))

theorem storeAssessmentResults_eq (a : Access) (db : Database)
    (ms : List (Option AssessmentResultRow)) :
    storeAssessmentResults a db ms =
      if ms.all Option.isSome then
        streamLoop (fun db m => some (db.storeAssessmentResultRequest a m)) storeResponse db ms
      else none := by
  induction ms generalizing db with
  | nil => rfl
  | cons m ms ih =>
    cases m with
    | none => simp [storeAssessmentResults]
    | some r =>
      simp only [storeAssessmentResults, ih, List.all_cons, Option.isSome_some, Bool.true_and,
        streamLoop, Option.bind_some]
      split <;> rfl

end Stores

section Assessment

/-- What the send loops do between two messages. -/
inductive LoopEvent where
  | deliver (target : String)
  | fail (target : String)
  | putBack (target : String)

def StreamTable.happen {M : Type} (t : StreamTable M) : LoopEvent → StreamTable M
  | .deliver target => t.deliver target
  | .fail target => t.fail target
  | .putBack target => t.putBack target

/-- A resource that is embedded in an evidence, as the policies see it. -/
structure OntologyResource (I : Type) where
  id : String
  types : List String
  input : Except Err I

/-- The fixed parts of the assessment service. `decode` unmarshals and validates the resource
of an evidence. -/
structure AssessmentService (I σ : Type) where
  opa : OPA I
  source : Source σ
  decode : String → Except Err (OntologyResource I)
  isEvidenceStoreDisabled : Bool
  evidenceStore : String
  orchestrator : String

structure AssessmentServer (σ Q : Type) where
  rego : RegoState σ Q
  evidenceStoreStreams : StreamTable EvidenceRow
  orchestratorStreams : StreamTable AssessmentResultRow

/-- A message with its surroundings: what happens to the streams before it is handled, how
the init functions would end now, the time and the random ids. -/
structure AssessMessage where
  evidence : Option EvidenceRow
  storeEvents : List LoopEvent
  orchestratorEvents : List LoopEvent
  storeInit : StreamInit
  orchestratorInit : StreamInit
  now : Time
  newId : ℕ → String

inductive AssessmentStatus where
  | unspecified
  | waitingForRelated
  | assessed
  | failed
  deriving DecidableEq

structure AssessEvidencesResponse where
  status : AssessmentStatus
  statusMessage : String
  deriving DecidableEq

def assessResponse : Except Err Unit → AssessEvidencesResponse
  | .error e => ⟨.failed, e.error⟩
  | .ok _ => ⟨.assessed, ""⟩

variable {I σ : Type} (svc : AssessmentService I σ) (a : Access)

theorem EvidenceRow.valid_service (e : EvidenceRow) (h : e.valid = true) :
    isUuid e.cloudServiceId = true := by
  simp only [EvidenceRow.valid, Bool.and_eq_true] at h
  exact h.1.1.1.2

def assessmentResult (e : EvidenceRow) (r : OntologyResource I) (now : Time) (id : String)
    (data : PolicyResult) : AssessmentResultRow where
  id := id
  timestamp := some now
  metricId := data.metricId
  metricConfiguration := some data.config
  compliant := data.compliant
  evidenceId := e.id
  resourceId := r.id
  resourceTypes := r.types
  nonComplianceComments := "No comments so far"
  cloudServiceId := e.cloudServiceId
  toolId := some "Clouditor Assessment"

/-- The results of one evidence are sent to the orchestrator one after the other. -/
def sendResults (t : StreamTable AssessmentResultRow) (target : String)
    (results : List AssessmentResultRow) : StreamTable AssessmentResultRow :=
  results.foldl (fun t r => t.send target r) t

def errStream (component target : String) (e : Err) : Err :=
  ⟨some .internal,
    (e.wrap ("could not get stream to " ++ component ++ " (" ++ target ++ ")")).msg⟩

def sendToOrchestrator (st : AssessmentServer σ svc.opa.Query) (m : AssessMessage)
    (e : EvidenceRow) (r : OntologyResource I) (data : List PolicyResult) :
    Option (Except Err Unit × AssessmentServer σ svc.opa.Query) :=
  match st.orchestratorStreams.getStream svc.orchestrator "Orchestrator" m.orchestratorInit with
  | none => none
  | some (.error err, t) => some (.error (errStream "orchestrator" svc.orchestrator err),
      { st with orchestratorStreams := t })
  | some (.ok _, t) =>
    let results := data.zipIdx.map (fun p => assessmentResult e r m.now (m.newId p.2) p.1)
    some (.ok (), { st with orchestratorStreams := sendResults t svc.orchestrator results })

/-- `handleEvidence` from the first stream on. -/
def forwardResults (st : AssessmentServer σ svc.opa.Query) (m : AssessMessage) (e : EvidenceRow)
    (r : OntologyResource I) (data : List PolicyResult) :
    Option (Except Err Unit × AssessmentServer σ svc.opa.Query) :=
  if svc.isEvidenceStoreDisabled then sendToOrchestrator svc st m e r data
  else match st.evidenceStoreStreams.getStream svc.evidenceStore "Evidence Store" m.storeInit with
    | none => none
    | some (.error err, t) => some (.error (errStream "evidence store" svc.evidenceStore err),
        { st with evidenceStoreStreams := t })
    | some (.ok _, t) => sendToOrchestrator svc
        { st with evidenceStoreStreams := t.send svc.evidenceStore e } m e r data

def handleEvidence (st : AssessmentServer σ svc.opa.Query) (m : AssessMessage) (e : EvidenceRow)
    (hv : e.valid = true) : Option (Except Err Unit × AssessmentServer σ svc.opa.Query) :=
  match svc.decode (e.resource.getD "") with
  | .error err => some (.error err, st)
  | .ok r =>
    match eval svc.opa svc.source st.rego
        ⟨e.cloudServiceId, e.toolId, r.types, r.input, e.valid_service hv⟩ with
    | none => none
    | some (.error err, rego) => some (.error ⟨some .internal, err.msg⟩, { st with rego := rego })
    | some (.ok data, rego) => forwardResults svc { st with rego := rego } m e r data

/-- The server as a message finds it. -/
def AssessmentServer.before {Q : Type} (st : AssessmentServer σ Q) (m : AssessMessage) :
    AssessmentServer σ Q where
  rego := st.rego
  evidenceStoreStreams := m.storeEvents.foldl StreamTable.happen st.evidenceStoreStreams
  orchestratorStreams := m.orchestratorEvents.foldl StreamTable.happen st.orchestratorStreams

def assessEvidence : Unary (AssessmentServer σ svc.opa.Query) AssessMessage := fun st m =>
  let st := st.before m
  match m.evidence with
  | none => some (.error errInvalidRequest, st)
  | some e =>
    if hv : e.valid = true then
      if !a.checkAccess e.cloudServiceId then some (.error errPermissionDenied, st)
      else handleEvidence svc st m e hv
    else some (.error errInvalidRequest, st)

def assessEvidences : AssessmentServer σ svc.opa.Query → List AssessMessage →
    Option (List AssessEvidencesResponse × AssessmentServer σ svc.opa.Query) :=
  streamLoop (assessEvidence svc a) assessResponse

/-- A dead stream is asked for, and its init function is missing or fails. -/
def StreamTable.Broken {M : Type} (t : StreamTable M) (target : String) (init : StreamInit) :
    Prop :=
  ∃ c, t.channels.lookup target = some c ∧ c.dead = true ∧ init ≠ .works

theorem getStream_faults_iff {M : Type} (t : StreamTable M) (target component : String)
    (init : StreamInit) : t.getStream target component init = none ↔ t.Broken target init := by
  unfold StreamTable.getStream StreamTable.Broken
  cases t.channels.lookup target with
  | none => cases init <;> simp [addStream]
  | some c => cases hd : c.dead <;> cases init <;> simp [restartStream, hd]

/-- What a message has to find so that its handling does not fault. If it gets as far as the
policies, their results are complete; and if it gets as far as a stream, that one is not dead
with an init function that is missing or fails. -/
def Harmless (st : AssessmentServer σ svc.opa.Query) (m : AssessMessage) : Prop :=
  ∀ (e : EvidenceRow) (hv : e.valid = true) (r : OntologyResource I), m.evidence = some e →
    a.checkAccess e.cloudServiceId = true → svc.decode (e.resource.getD "") = .ok r →
    PoliciesComplete svc.opa svc.source st.rego
        ⟨e.cloudServiceId, e.toolId, r.types, r.input, e.valid_service hv⟩ ∧
    ∀ data rego, eval svc.opa svc.source st.rego
        ⟨e.cloudServiceId, e.toolId, r.types, r.input, e.valid_service hv⟩ =
          some (.ok data, rego) →
      (svc.isEvidenceStoreDisabled = false →
        ¬ (st.before m).evidenceStoreStreams.Broken svc.evidenceStore m.storeInit) ∧
      (svc.isEvidenceStoreDisabled = true ∨ m.storeInit = .works ∨
          ((st.before m).evidenceStoreStreams.channels.lookup svc.evidenceStore).isSome = true →
        ¬ (st.before m).orchestratorStreams.Broken svc.orchestrator m.orchestratorInit)

/-- Only a stream that has to be set up can be refused. -/
theorem getStream_refuses_iff {M : Type} (t : StreamTable M) (target component : String)
    (init : StreamInit) : (∃ e t', t.getStream target component init = some (.error e, t')) ↔
      t.channels.lookup target = none ∧ init ≠ .works := by
  unfold StreamTable.getStream
  cases t.channels.lookup target with
  | none => cases init <;> simp [addStream]
  | some c => cases hd : c.dead <;> cases init <;> simp [restartStream, hd]

theorem sendToOrchestrator_faults_iff (st : AssessmentServer σ svc.opa.Query) (m : AssessMessage)
    (e : EvidenceRow) (r : OntologyResource I) (data : List PolicyResult) :
    sendToOrchestrator svc st m e r data = none ↔
      st.orchestratorStreams.Broken svc.orchestrator m.orchestratorInit := by
  rw [← getStream_faults_iff _ _ "Orchestrator", sendToOrchestrator]
  rcases st.orchestratorStreams.getStream svc.orchestrator "Orchestrator" m.orchestratorInit with
    _ | ⟨_ | _,t⟩ <;> simp

theorem forwardResults_faults_iff (st : AssessmentServer σ svc.opa.Query) (m : AssessMessage)
    (e : EvidenceRow) (r : OntologyResource I) (data : List PolicyResult) :
    forwardResults svc st m e r data = none ↔
      (svc.isEvidenceStoreDisabled = false ∧
        st.evidenceStoreStreams.Broken svc.evidenceStore m.storeInit) ∨
      ((svc.isEvidenceStoreDisabled = true ∨ m.storeInit = .works ∨
          (st.evidenceStoreStreams.channels.lookup svc.evidenceStore).isSome = true) ∧
        st.orchestratorStreams.Broken svc.orchestrator m.orchestratorInit) := by
  have hstore := getStream_faults_iff st.evidenceStoreStreams svc.evidenceStore "Evidence Store"
    m.storeInit
  have hrefuse := getStream_refuses_iff st.evidenceStoreStreams svc.evidenceStore "Evidence Store"
    m.storeInit
  unfold forwardResults
  cases svc.isEvidenceStoreDisabled with
  | true => simp [sendToOrchestrator_faults_iff]
  | false =>
    cases hget : st.evidenceStoreStreams.getStream svc.evidenceStore "Evidence Store"
        m.storeInit with
    | none => simp [hstore.mp hget]
    | some p =>
      have hsafe : ¬ st.evidenceStoreStreams.Broken svc.evidenceStore m.storeInit := by
        rw [← hstore, hget]
        exact nofun
      obtain ⟨_ | _,t⟩ := p
      · -- refused, so the orchestrator is not asked for a stream
        obtain ⟨hl,hinit⟩ := hrefuse.mp ⟨_, _, hget⟩
        simp [hsafe, hl, hinit]
      · have hset : m.storeInit = .works ∨
            (st.evidenceStoreStreams.channels.lookup svc.evidenceStore).isSome = true := by
          by_contra hno
          rw [not_or, Option.not_isSome_iff_eq_none] at hno
          obtain ⟨_,_,herr⟩ := hrefuse.mpr hno.symm
          rw [hget] at herr
          cases herr
        simp [hsafe, hset, sendToOrchestrator_faults_iff]

/-- The unary call faults exactly where a message is not harmless. -/
theorem assessEvidence_faults_iff (st : AssessmentServer σ svc.opa.Query) (m : AssessMessage) :
    assessEvidence svc a st m = none ↔ ¬ Harmless svc a st m := by
  rw [← not_iff_not, not_not]
  unfold assessEvidence Harmless
  cases hm : m.evidence with
  | none => simp
  | some e =>
    by_cases hv : e.valid = true
    · by_cases hacc : a.checkAccess e.cloudServiceId = true
      · simp only [hv, hacc, dite_true, Bool.not_true, Bool.false_eq_true, if_false, handleEvidence]
        cases hdec : svc.decode (e.resource.getD "") with
        | error err =>
          refine iff_of_true nofun ?_
          intro e' _ r he _ hr
          cases he
          rw [hdec] at hr
          cases hr
        | ok r =>
          have hforward := forwardResults_faults_iff svc
          constructor
          · intro h e' hv' r' he _ hr
            cases he
            cases hdec.symm.trans hr
            refine ⟨?_, fun data rego heval => ?_⟩
            · by_contra hno
              refine h ?_
              simp only [AssessmentServer.before, (eval_panics_iff _ _ _ _).mpr hno]
            · simp only [AssessmentServer.before, heval, hforward] at h
              rw [not_or, not_and, not_and] at h
              exact h
          · intro h
            obtain ⟨hcomplete,hstreams⟩ := h e hv r rfl hacc hdec
            cases heval : eval svc.opa svc.source st.rego
                ⟨e.cloudServiceId, e.toolId, r.types, r.input, e.valid_service hv⟩ with
            | none => exact absurd hcomplete ((eval_panics_iff _ _ _ _).mp heval)
            | some p =>
              obtain ⟨_ | data,rego⟩ := p
              · simp [AssessmentServer.before, heval]
              · simp only [AssessmentServer.before, heval, hforward]
                rw [not_or, not_and, not_and]
                exact hstreams data rego heval
      · refine iff_of_true (by simp [hv, hacc]) ?_
        intro e' _ r he hacc'
        cases he
        exact absurd hacc' hacc
    · refine iff_of_true (by simp [hv]) ?_
      intro e' hv' r he
      cases he
      exact absurd hv' hv

end Assessment

section Streams
variable {I σ : Type}

/-- Each of the streams answers every message of a client in its turn. Evidences may be
assessed as long as no message does harm; evidences are stored without any condition; for
assessment results, every message needs a payload. -/
theorem streams_answer_iff (svc : AssessmentService I σ) (a : Access)
    (st : AssessmentServer σ svc.opa.Query) (ms : List AssessMessage) (db : Database)
    (evidences : List (Option EvidenceRow)) (results : List (Option AssessmentResultRow)) :
    (Answered (assessEvidence svc a) (fun r => r.status = .assessed) st ms
        (assessEvidences svc a st ms) ↔
      ∀ pre m post s, ms = pre ++ m :: post →
        afterMessages (assessEvidence svc a) st pre = some s → Harmless svc a s m) ∧
    Answered (fun db m => some (db.storeEvidenceRequest a m)) StoreResponse.status db evidences
      (storeEvidences a db evidences) ∧
    (Answered (fun db m => some (db.storeAssessmentResultRequest a m)) StoreResponse.status db
        results (storeAssessmentResults a db results) ↔ ∀ r ∈ results, r.isSome = true) := by
  have hstore (r : Except Err Unit) : (storeResponse r).status = r.isOk := by cases r <;> rfl
  refine ⟨?_, ?_, ?_⟩
  · rw [assessEvidences, streamLoop_answered_iff _ _ _ (fun r => by cases r <;> rfl)]
    simp only [Faultless, ne_eq, assessEvidence_faults_iff, not_not]
  · rw [storeEvidences, streamLoop_answered_iff _ _ _ hstore]
    intro pre m post s _ _
    exact nofun
  · -- the loop of the results is the common one as long as it does not fault
    rw [storeAssessmentResults_eq, ← List.all_eq_true]
    split
    · rename_i hall
      rw [streamLoop_answered_iff _ _ _ hstore]
      exact iff_of_true (fun _ _ _ _ _ _ => nofun) hall
    · rename_i hall
      refine iff_of_false ?_ hall
      rintro ⟨rs,t,hsent,_⟩
      cases hsent

/-- The first message without a result takes the stream down, where the same message is
only refused by the evidence store. -/
theorem result_without_payload :
    storeAssessmentResults sampleCall.access
      (sampleDatabase "11111111-1111-1111-1111-111111111111") [none] = none ∧
    (storeEvidences sampleCall.access
      (sampleDatabase "11111111-1111-1111-1111-111111111111") [none]).map Prod.fst =
        some [⟨false, "rpc error: code = InvalidArgument desc = invalid request"⟩] := by
  exact ⟨rfl, rfl⟩

end Streams
end Clouditor
