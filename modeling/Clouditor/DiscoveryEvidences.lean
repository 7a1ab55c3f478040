import Clouditor.DiscoveredResources
import Clouditor.EvidenceHandling
import Mathlib.Data.List.ReduceOption

/-! The loop of `StartDiscovery` over the resources of a discoverer: what it saves, and which
evidences it enqueues for the assessment service. -/
namespace Clouditor
set_option autoImplicit false

/-- What the loop uses of an ontology resource. `pack` wraps it into an `Any` message. -/
structure ResourceInterface (R : Type) where
  getId : R → String
  getRaw : R → String
  resourceTypes : R → List String
  pack : R → Except Err String

/-- The fixed parts of the discovery service. -/
structure DiscoveryService (R : Type) where
  interface : ResourceInterface R
  csID : String
  assessment : String

/-- A resource with what its turn of the loop meets: the answer of the database, the outcome of
the init function, and what the send loop does before and after `GetStream`. -/
structure DiscoveryTurn (R : Type) where
  resource : R
  saved : Option Err
  before : List LoopEvent
  init : StreamInit
  between : List LoopEvent
  newId : String
  now : Time

/-- In `sent` are the messages of the loop, in the order in which it has sent them. -/
structure DiscoveryState where
  resources : Keyed.Rows Resource.key
  assessmentStreams : StreamTable EvidenceRow
  sent : List EvidenceRow

section Loop
variable {R : Type}

def ResourceInterface.toDiscoveryResource (res : ResourceInterface R) (r : R) (csID : String) :
    Except Err Resource :=
  match res.pack r with
  | .error e => .error (e.wrap "could not convert protobuf structure")
  | .ok a => .ok
    { id := res.getId r
      resourceType := String.intercalate "," (res.resourceTypes r)
      properties := some a
      cloudServiceId := csID }

def evidenceCollectorToolId : String := "Clouditor Evidences Collection"

variable (svc : DiscoveryService R)

def DiscoveryService.evidence (turn : DiscoveryTurn R) (a : String) : EvidenceRow where
  id := turn.newId
  timestamp := some turn.now
  cloudServiceId := svc.csID
  toolId := evidenceCollectorToolId
  raw := some (svc.interface.getRaw turn.resource)
  resource := some a

/-- The streams as `GetStream` finds them. -/
def DiscoveryState.streamsAt (st : DiscoveryState) (turn : DiscoveryTurn R) :
    StreamTable EvidenceRow :=
  turn.before.foldl StreamTable.happen st.assessmentStreams

/-- One turn of the loop, `none` if it faults. -/
def DiscoveryService.discover (st : DiscoveryState) (turn : DiscoveryTurn R) :
    Option DiscoveryState :=
  let streams := st.streamsAt turn
  match svc.interface.toDiscoveryResource turn.resource svc.csID with
  | .error _ => some { st with assessmentStreams := streams }
  | .ok r =>
    -- an error of the database is logged, and the loop goes on with the evidence
    let resources := if turn.saved.isSome then st.resources else st.resources.save r
    match svc.interface.pack turn.resource with
    | .error _ => some { st with resources := resources, assessmentStreams := streams }
    | .ok a =>
      match streams.getStream svc.assessment "Assessment" turn.init with
      | none => none
      | some (.error _, streams) =>
        some { st with resources := resources, assessmentStreams := streams }
      | some (.ok _, streams) =>
        let e := svc.evidence turn a
        some ⟨resources, (turn.between.foldl StreamTable.happen streams).send svc.assessment e,
          st.sent ++ [e]⟩

/-- The evidence that a turn is to enqueue: there is one if the resource can be converted and
the stream can be had. -/
def DiscoveryService.Yields (st : DiscoveryState) (turn : DiscoveryTurn R) (e : EvidenceRow) :
    Prop :=
  ∃ a, svc.interface.pack turn.resource = .ok a ∧
    (st.streamsAt turn).Available svc.assessment turn.init ∧ e = svc.evidence turn a

/-- The loop runs through. Each turn in its place enqueues the evidence it is to enqueue, if
there is one, and there is nothing else in between. -/
def DiscoveryService.EnqueuesEach (st : DiscoveryState) (turns : List (DiscoveryTurn R)) : Prop :=
  ∃ (st' : DiscoveryState) (outcomes : List (Option EvidenceRow)),
    Transitions.run svc.discover st turns = some st' ∧
    outcomes.length = turns.length ∧ st'.sent = st.sent ++ outcomes.reduceOption ∧
    ∀ pre turn post, turns = pre ++ turn :: post → ∃ s s' outcome,
      Transitions.run svc.discover st pre = some s ∧ svc.discover s turn = some s' ∧
      outcomes[pre.length]? = some outcome ∧ (∀ e, outcome = some e ↔ svc.Yields s turn e) ∧
      s'.sent = s.sent ++ outcome.toList ∧
      ∀ e, outcome = some e → (s'.assessmentStreams.queued svc.assessment).getLast? = some e

/-- If the turn gets as far as the stream, that is not dead with an init function that is
missing or fails. -/
def DiscoveryService.Restartable (st : DiscoveryState) (turn : DiscoveryTurn R) : Prop :=
  ∀ a, svc.interface.pack turn.resource = .ok a →
    ¬ (st.streamsAt turn).Broken svc.assessment turn.init

end Loop

section Turns
variable {R : Type} {svc : DiscoveryService R} {st : DiscoveryState} {turn : DiscoveryTurn R}

/-- The send loop keeps every channel in the table. -/
theorem happen_lookup {M : Type} (t : StreamTable M) (ev : LoopEvent) (target : String)
    (h : (t.channels.lookup target).isSome = true) :
    ((t.happen ev).channels.lookup target).isSome = true := by
  have hput (other : String) (c : StreamChannel M) :
      ((t.channels.insert other c).lookup target).isSome = true := by
    by_cases hother : target = other
    · rw [hother, AList.lookup_insert]
      rfl
    · rw [AList.lookup_insert_ne hother]
      exact h
  cases ev with
  | deliver other =>
    simp only [StreamTable.happen, StreamTable.deliver]
    split
    · exact hput other _
    · exact h
  | fail other =>
    simp only [StreamTable.happen, StreamTable.fail]
    split
    · exact hput other _
    · exact h
  | putBack other =>
    simp only [StreamTable.happen, StreamTable.putBack]
    split
    · exact hput other _
    · exact h

theorem happen_all_lookup {M : Type} (events : List LoopEvent) (t : StreamTable M)
    (target : String) (h : (t.channels.lookup target).isSome = true) :
    ((events.foldl StreamTable.happen t).channels.lookup target).isSome = true := by
  induction events generalizing t with
  | nil => exact h
  | cons ev events ih => exact ih (t.happen ev) (happen_lookup t ev target h)

theorem discover_faults_iff : svc.discover st turn = none ↔ ¬ svc.Restartable st turn := by
  simp only [DiscoveryService.discover, DiscoveryService.Restartable,
    ResourceInterface.toDiscoveryResource]
  cases hpack : svc.interface.pack turn.resource with
  | error e => simp
  | ok a =>
    simp only [Except.ok.injEq, forall_eq', not_not]
    rw [← getStream_faults_iff _ _ "Assessment"]
    rcases (st.streamsAt turn).getStream svc.assessment "Assessment" turn.init with
      _ | ⟨_ | _,t⟩ <;> simp

/-- A turn that does not fault enqueues what it is to enqueue. -/
theorem discover_yields {st' : DiscoveryState} (h : svc.discover st turn = some st') :
    ∃ outcome : Option EvidenceRow, (∀ e, outcome = some e ↔ svc.Yields st turn e) ∧
      st'.sent = st.sent ++ outcome.toList ∧
      ∀ e, outcome = some e →
        (st'.assessmentStreams.queued svc.assessment).getLast? = some e := by
  simp only [DiscoveryService.discover, ResourceInterface.toDiscoveryResource] at h
  cases hpack : svc.interface.pack turn.resource with
  -- without a packed resource there is no evidence
  | error err =>
    simp only [hpack, Option.some.injEq] at h
    refine ⟨none, fun e => ⟨fun he => (by cases he), ?_⟩, by simp [← h], fun e he => by cases he⟩
    rintro ⟨a,ha,_⟩
    rw [hpack] at ha
    cases ha
  | ok a =>
    simp only [hpack] at h
    have hok := getStream_ok_iff (st.streamsAt turn) svc.assessment "Assessment" turn.init
    split at h
    · cases h
    · -- the stream is refused
      rename_i streams hget
      cases h
      refine ⟨none, fun e => ⟨fun he => (by cases he), ?_⟩, by simp, fun e he => by cases he⟩
      rintro ⟨_,_,havail,_⟩
      obtain ⟨t,ht⟩ := hok.mpr havail
      rw [hget] at ht
      cases ht
    · rename_i streams hget
      cases h
      refine ⟨some (svc.evidence turn a), fun e => ⟨?_, ?_⟩, by simp, fun e he => ?_⟩
      · rintro ⟨⟩
        exact ⟨a, hpack, hok.mp ⟨streams, hget⟩, rfl⟩
      · rintro ⟨_,ha,_,rfl⟩
        rw [hpack] at ha
        cases ha
        rfl
      -- the stream is in the table still, so the evidence is the last in its queue
      · cases he
        have hlookup := happen_all_lookup turn.between streams svc.assessment
          ((getStream_enqueued hget).2 rfl)
        have hqueue := (send_enqueued _ svc.assessment (svc.evidence turn a) hlookup).1
          svc.assessment
        rw [if_pos rfl] at hqueue
        rw [hqueue, List.getLast?_append]
        rfl

end Turns

section Runs
variable {R : Type} {svc : DiscoveryService R}

theorem enqueuesEach_of_restartable (turns : List (DiscoveryTurn R)) (st : DiscoveryState)
    (h : Transitions.Allowed svc.discover svc.Restartable st turns) :
    svc.EnqueuesEach st turns := by
  induction turns generalizing st with
  | nil => exact ⟨st, [], rfl, rfl, by simp, by simp⟩
  | cons turn turns ih =>
    obtain ⟨u,hu⟩ : ∃ u, svc.discover st turn = some u := by
      rw [← Option.ne_none_iff_exists', ne_eq, discover_faults_iff, not_not]
      exact h.1
    obtain ⟨outcome,hyield,hsent,hlast⟩ := discover_yields hu
    -- the rest of the loop starts where this turn ends
    obtain ⟨st',outcomes,hrun,hlen,hrest,hat⟩ := ih u (h.2 u hu)
    refine ⟨st', outcome :: outcomes, ?_, by simp [hlen], ?_, ?_⟩
    · rw [Transitions.run_cons_eq_some]
      exact ⟨u, hu, hrun⟩
    · rw [hrest, hsent]
      cases outcome <;> simp
    · intro pre turn' post heq
      cases pre with
      | nil =>
        obtain ⟨rfl,_⟩ := List.cons.inj heq
        exact ⟨st, u, outcome, rfl, hu, rfl, hyield, hsent, hlast⟩
      | cons turn'' pre =>
        obtain ⟨rfl,htail⟩ := List.cons.inj heq
        obtain ⟨s,s',outcome',hs,hrestof⟩ := hat pre turn' post htail
        refine ⟨s, s', outcome', ?_, ?_⟩
        · rw [Transitions.run_cons_eq_some]
          exact ⟨u, hu, hs⟩
        · simpa using hrestof

theorem restartable_of_run (turns : List (DiscoveryTurn R)) (st st' : DiscoveryState)
    (h : Transitions.run svc.discover st turns = some st') :
    Transitions.Allowed svc.discover svc.Restartable st turns := by
  induction turns generalizing st with
  | nil => trivial
  | cons turn turns ih =>
    obtain ⟨u,hu,hrest⟩ := (Transitions.run_cons_eq_some _ _ _ _ _).mp h
    refine ⟨?_, fun v hv => ?_⟩
    · by_contra hno
      rw [discover_faults_iff.mpr hno] at hu
      cases hu
    · rw [hu, Option.some.injEq] at hv
      exact ih v (hv ▸ hrest)

/-- A discovery of resources that are only names. -/
def namesService : DiscoveryService String where
  interface := {
    getId := id
    getRaw := fun _ => "{}"
    resourceTypes := fun _ => ["VirtualMachine"]
    pack := .ok }
  csID := "11111111-1111-1111-1111-111111111111"
  assessment := "localhost:9092"

def nameTurn (name : String) (before : List LoopEvent) (init : StreamInit) :
    DiscoveryTurn String where
  resource := name
  saved := none
  before := before
  init := init
  between := []
  newId := "22222222-2222-2222-2222-222222222222"
  now := 0

/-- The stream breaks after the first resource, and the restart for the second one fails. This
takes the whole loop down, and the third resource with it. -/
def brokenTurns : List (DiscoveryTurn String) :=
  [nameTurn "vm-1" [] .works,
    nameTurn "vm-2" [.fail "localhost:9092"] (.fails "unavailable"),
    nameTurn "vm-3" [] .works]

/-- The rows after a turn. -/
def DiscoveryService.saves (svc : DiscoveryService R) (rows : Keyed.Rows Resource.key)
    (turn : DiscoveryTurn R) : Keyed.Rows Resource.key :=
  match svc.interface.toDiscoveryResource turn.resource svc.csID with
  | .error _ => rows
  | .ok r => if turn.saved.isSome then rows else rows.save r

theorem discover_resources (st st' : DiscoveryState) (turn : DiscoveryTurn R)
    (h : svc.discover st turn = some st') : st'.resources = svc.saves st.resources turn := by
  simp only [DiscoveryService.discover] at h
  unfold DiscoveryService.saves
  cases hconv : svc.interface.toDiscoveryResource turn.resource svc.csID with
  | error e =>
    rw [hconv] at h
    cases h
    rfl
  | ok r =>
    simp only [hconv] at h
    split at h
    · cases h
      rfl
    · split at h
      · cases h
      · cases h
        rfl
      · cases h
        rfl

/-- Where nothing fails, the table of resources is the one that the handler of the request
leaves. -/
theorem run_startDiscovery (db db' : Database) (a : Access) (turns : List (DiscoveryTurn R))
    (st st' : DiscoveryState) (h : Transitions.run svc.discover st turns = some st')
    (hsaved : ∀ turn ∈ turns, turn.saved = none) (found : List Resource)
    (hfound : turns.map (fun turn => svc.interface.toDiscoveryResource turn.resource svc.csID) =
      found.map .ok) (hdb : db.resources = st.resources)
    (hstart : db.startDiscovery a svc.csID (.ok ()) (found.map Resource.toDiscovered) =
      .ok ((), db')) : db'.resources = st'.resources := by
  obtain ⟨_,hstart⟩ := checked_ok hstart
  cases hstart
  -- each row has the service of the discovery already
  have hcs : (found.map Resource.toDiscovered).map (Resource.mk · svc.csID) = found := by
    rw [List.map_map]
    conv_rhs => rw [← List.map_id found]
    apply List.map_congr_left
    intro r hr
    have hmem := List.mem_map_of_mem (f := Except.ok (ε := Err)) hr
    rw [← hfound, List.mem_map] at hmem
    obtain ⟨turn,_,hturn⟩ := hmem
    unfold ResourceInterface.toDiscoveryResource at hturn
    split at hturn
    · cases hturn
    · cases hturn
      rfl
  show db.resources.saveAll _ = _
  rw [hdb, hcs]
  clear hcs hstart hdb
  induction turns generalizing st found with
  | nil =>
    cases h
    rw [List.map_eq_nil_iff.mp hfound.symm]
    rfl
  | cons turn turns ih =>
    obtain ⟨u,hu,hrest⟩ := (Transitions.run_cons_eq_some _ _ _ _ _).mp h
    cases found with
    | nil => cases hfound
    | cons r found =>
      obtain ⟨hr,hfound⟩ := List.cons.inj hfound
      have hres : u.resources = st.resources.save r := by
        have hsave := hsaved turn List.mem_cons_self
        rw [discover_resources st u turn hu, DiscoveryService.saves]
        simp only [hr, hsave, Option.isSome_none, Bool.false_eq_true, if_false]
      have hih := ih u hrest (fun t ht => hsaved t (List.mem_cons_of_mem _ ht)) found hfound
      rw [hres] at hih
      exact hih

end Runs
end Clouditor
