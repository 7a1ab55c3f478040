import Clouditor.Transitions

/-! The lazily established connection that the clients of one service share: any number of calls
check it, establish it, use it and drop it, each of these in a step of its own. -/
namespace Clouditor
set_option autoImplicit false

/-- The client connection behind `cc`, as the state it reports is told apart by `init`. -/
inductive ClientConn
  | usable
  | shutdown
  deriving DecidableEq, Repr

/-- What the client connection gives a request back. -/
inductive Answer
  | ok
  | eof
  | unexpectedEOF
  | failed (text : String)
  deriving DecidableEq, Repr

/-- The answers after which a call has the connection established anew. -/
def Answer.isEOF : Answer → Bool
  | .eof | .unexpectedEOF => true
  | .ok | .failed _ => false

/-- What a call returns: the error of `init`, which names the target and wraps the error of the
dial (`could not connect to gPRC target %q: %w`), or the answer of the client connection. -/
inductive CallResult
  | couldNotConnect (target cause : String)
  | answered (answer : Answer)
  deriving DecidableEq, Repr

/-- Where a call of `Invoke` or of `NewStream` is. The two have one body. -/
inductive CallPhase
  | called
  /-- `init` found no connection to use and has given its read lock back. -/
  | dialing
  /-- `init` returned no error. -/
  | initialised
  /-- The request met the end of the stream, `ForceReconnect` comes next. -/
  | interrupted (answer : Answer)
  | returned (result : CallResult)
  /-- The request was made on a nil connection. -/
  | faulted
  deriving DecidableEq, Repr

/-- The connection and the calls made on it. -/
structure RPCConnection where
  target : String
  cc : Option ClientConn
  phase : ℕ → CallPhase

/-- The steps that interleave. A dial comes with its error, a use with its answer. -/
inductive ConnStep
  | check (call : ℕ)
  | dial (call : ℕ) (err : Option String)
  | use (call : ℕ) (answer : Answer)
  /-- `ForceReconnect` at the end of a call. -/
  | reset (call : ℕ)
  /-- `ForceReconnect` from outside of a call, as before a new stream is asked for. -/
  | forceReconnect
  /-- The client connection is shut down. -/
  | shutdown
  deriving DecidableEq, Repr

namespace RPCConnection

/-- No connection is established before the first call. -/
def new (target : String) : RPCConnection := ⟨target, none, fun _ => .called⟩

def moved (conn : RPCConnection) (i : ℕ) (phase : CallPhase) : RPCConnection :=
  { conn with phase := Function.update conn.phase i phase }

/-- `conn.cc != nil && conn.cc.GetState() != connectivity.Shutdown` -/
def established (conn : RPCConnection) : Bool := conn.cc = some .usable

/-- The part of `init` below the read lock. -/
def check (conn : RPCConnection) (i : ℕ) : RPCConnection :=
  conn.moved i (if conn.established then .initialised else .dialing)

/-- The part of `init` below the write lock. What `grpc.Dial` gives back is stored also when it
failed, and `cc` is not looked at again. -/
def dial (conn : RPCConnection) (i : ℕ) : Option String → RPCConnection
  | none => { conn.moved i .initialised with cc := some .usable }
  | some err => { conn.moved i (.returned (.couldNotConnect conn.target err)) with cc := none }

/-- The request to `conn.cc`, which is read without a lock. -/
def use (conn : RPCConnection) (i : ℕ) (answer : Answer) : RPCConnection :=
  match conn.cc with
  | none => conn.moved i .faulted
  | some _ =>
    conn.moved i (if answer.isEOF then .interrupted answer else .returned (.answered answer))

def forceReconnect (conn : RPCConnection) : RPCConnection := { conn with cc := none }

def step (conn : RPCConnection) : ConnStep → Option RPCConnection
  | .check i => if conn.phase i = .called then some (conn.check i) else none
  | .dial i err => if conn.phase i = .dialing then some (conn.dial i err) else none
  | .use i answer => if conn.phase i = .initialised then some (conn.use i answer) else none
  | .reset i =>
    match conn.phase i with
    | .interrupted answer => some (conn.moved i (.returned (.answered answer))).forceReconnect
    | _ => none
  | .forceReconnect => some conn.forceReconnect
  | .shutdown => some { conn with cc := conn.cc.map (fun _ => .shutdown) }

end RPCConnection

namespace ConnStep

/-- The call that makes the step. -/
def call : ConnStep → Option ℕ
  | .check i | .dial i _ | .use i _ | .reset i => some i
  | .forceReconnect | .shutdown => none

/-- A connection is there afterwards. -/
def establishes : ConnStep → Bool
  | .dial _ none => true
  | _ => false

/-- The connection that was there is given up or cannot be used any more. -/
def loses : ConnStep → Bool
  | .dial _ (some _) | .reset _ | .forceReconnect | .shutdown => true
  | _ => false

/-- `cc` is assigned. -/
def assigns : ConnStep → Bool
  | .dial _ _ | .reset _ | .forceReconnect => true
  | _ => false

/-- What is promised of a step: no request is made on a nil connection, and no connection is
established while there is one that can be used. -/
def Sound (conn : RPCConnection) : ConnStep → Prop
  | .use _ _ => conn.cc ≠ none
  | .dial _ none => conn.established = false
  | _ => True

/-- What was done since the last step of a call, the last first. -/
def sinceStep (i : ℕ) (past : List ConnStep) : List ConnStep :=
  past.takeWhile (fun o => o.call ≠ some i)

/-- Before a call uses the connection, the last assignment since its `init`, if there is one,
is that of an established connection. Before it establishes one, the last step since its check
that establishes or loses a connection, if there is one, loses it. -/
def Undisturbed (past : List ConnStep) : ConnStep → Prop
  | .use i _ => ∀ o, (sinceStep i past).find? assigns = some o → o.establishes
  | .dial i none =>
    ∀ o, (sinceStep i past).find? (fun o => o.establishes || o.loses) = some o → o.loses
  | _ => True

end ConnStep

section Steps
variable {conn conn' : RPCConnection} {o : ConnStep}

/-- What a step leaves in `cc` does not depend on the calls. -/
def ConnStep.left (cc : Option ClientConn) : ConnStep → Option ClientConn
  | .check _ | .use _ _ => cc
  | .dial _ none => some .usable
  | .dial _ (some _) | .reset _ | .forceReconnect => none
  | .shutdown => cc.map (fun _ => .shutdown)

/-- What a step does to the calls: one made by a call moves that call. If the call is to use
the connection next, it left one there, and if it is to establish it, it left none that can be
used. -/
inductive Moves (conn conn' : RPCConnection) (o : ConnStep) : Prop
  | none (hcall : o.call = none) (hphase : conn'.phase = conn.phase)
  | call (i : ℕ) (phase : CallPhase) (hcall : o.call = some i)
      (hphase : conn'.phase = Function.update conn.phase i phase)
      (huse : phase = .initialised → conn'.cc ≠ Option.none)
      (hdial : phase = .dialing → conn'.established = false)

theorem connStep_cases (h : conn.step o = some conn') :
    conn'.cc = o.left conn.cc ∧ Moves conn conn' o := by
  cases o with
  | check i =>
    cases (Option.ite_none_right_eq_some.mp h).2
    refine ⟨rfl, .call i _ rfl rfl (fun hready => ?_) (fun hdial => ?_)⟩
    · -- a call goes on without a dial only if the connection is there
      have hthere : conn.established = true := by
        by_contra hnot
        rw [if_neg hnot] at hready
        cases hready
      have husable : conn.cc = some .usable := of_decide_eq_true hthere
      show conn.cc ≠ none
      rw [husable]
      exact Option.some_ne_none _
    · show conn.established = false
      by_contra hthere
      rw [if_pos (Bool.of_not_eq_false hthere)] at hdial
      cases hdial
  | dial i err =>
    cases (Option.ite_none_right_eq_some.mp h).2
    cases err with
    | none =>
      exact ⟨rfl, .call i _ rfl rfl (fun _ => Option.some_ne_none _) (fun hdial => by cases hdial)⟩
    | some err =>
      exact ⟨rfl, .call i _ rfl rfl (fun hready => by cases hready) (fun _ => rfl)⟩
  | use i answer =>
    cases (Option.ite_none_right_eq_some.mp h).2
    -- a call is over after its request, or has only its reset to do
    unfold RPCConnection.use
    split
    · exact ⟨rfl, .call i _ rfl rfl (fun hready => by cases hready) (fun hdial => by cases hdial)⟩
    · refine ⟨rfl, .call i _ rfl rfl (fun hready => ?_) (fun hdial => ?_)⟩
      · split at hready <;> cases hready
      · split at hdial <;> cases hdial
  | reset i =>
    simp only [RPCConnection.step] at h
    split at h
    · cases h
      exact ⟨rfl, .call i _ rfl rfl (fun hready => by cases hready) (fun _ => rfl)⟩
    · cases h
  | forceReconnect =>
    cases h
    exact ⟨rfl, .none rfl rfl⟩
  | shutdown =>
    cases h
    exact ⟨rfl, .none rfl rfl⟩

theorem cc_ne_none_step (h : conn.step o = some conn') :
    conn'.cc ≠ none ↔ if o.assigns then o.establishes = true else conn.cc ≠ none := by
  rw [(connStep_cases h).1]
  cases o with
  | dial i err => cases err <;> simp [ConnStep.left, ConnStep.assigns, ConnStep.establishes]
  | _ => simp [ConnStep.left, ConnStep.assigns, ConnStep.establishes]

theorem established_step (h : conn.step o = some conn') :
    conn'.established = (!o.loses && (o.establishes || conn.established)) := by
  unfold RPCConnection.established
  rw [(connStep_cases h).1]
  cases o with
  | check i => rfl
  | use i answer => rfl
  | dial i err => cases err <;> rfl
  | reset i => rfl
  | forceReconnect => rfl
  | shutdown =>
    -- a connection that is shut down is not usable, nor is one that is not there
    cases conn.cc <;> rfl

end Steps

section Histories
open ConnStep
variable {past : List ConnStep} {conn conn' : RPCConnection} {o : ConnStep} {i : ℕ}

theorem sinceStep_own (h : o.call = some i) : sinceStep i (o :: past) = [] := by
  simp [sinceStep, h]

theorem sinceStep_other (h : o.call ≠ some i) :
    sinceStep i (o :: past) = o :: sinceStep i past := by
  simp [sinceStep, h]

/-- Between its steps, a call that is to use the connection has one exactly if nothing came in
between, and one that is to establish it has none exactly if nothing came in between. -/
structure Follows (past : List ConnStep) (conn : RPCConnection) (i : ℕ) : Prop where
  use : conn.phase i = .initialised → ∀ answer,
    (conn.cc ≠ none ↔ (ConnStep.use i answer).Undisturbed past)
  dial : conn.phase i = .dialing →
    (conn.established = false ↔ (ConnStep.dial i none).Undisturbed past)

/-- The steps of the others are recorded in what happened since. -/
theorem Follows.other (h : Follows past conn i) (hstep : conn.step o = some conn')
    (hne : o.call ≠ some i) (hphase : conn'.phase i = conn.phase i) :
    Follows (o :: past) conn' i where
  use hready answer := by
    rw [hphase] at hready
    rw [cc_ne_none_step hstep, Undisturbed, sinceStep_other hne, List.find?_cons]
    cases hassigns : o.assigns with
    | true => simp
    | false => simpa [Undisturbed] using h.use hready answer
  dial hdial := by
    rw [hphase] at hdial
    rw [established_step hstep, Undisturbed, sinceStep_other hne, List.find?_cons]
    have hthen := h.dial hdial
    cases hloses : o.loses with
    | true => simp [hloses]
    | false =>
      cases hestablishes : o.establishes with
      | true => simp [hloses]
      | false => simpa [Undisturbed] using hthen

theorem follows_connStep (h : ∀ i, Follows past conn i) (hstep : conn.step o = some conn') (i : ℕ) :
    Follows (o :: past) conn' i := by
  cases (connStep_cases hstep).2 with
  | none hcall hphase =>
    exact (h i).other hstep (by simp [hcall]) (congrFun hphase i)
  | call j phase hcall hphase huse hdial =>
    by_cases hij : i = j
    · subst hij
      have hown : conn'.phase i = phase := by rw [hphase, Function.update_self]
      -- the call saw the connection in this very step
      constructor
      · intro hready answer
        have hthere := huse (hown.symm.trans hready)
        simp [Undisturbed, sinceStep_own hcall, hthere]
      · intro hdialing
        have hnone := hdial (hown.symm.trans hdialing)
        simp [Undisturbed, sinceStep_own hcall, hnone]
    · apply (h i).other hstep
      · rw [hcall]
        exact fun hji => hij (Option.some.inj hji).symm
      · rw [hphase, Function.update_of_ne hij]

theorem follows_connRun (target : String) (steps : List ConnStep)
    (hrun : Transitions.run RPCConnection.step (.new target) steps = some conn) (i : ℕ) :
    Follows steps.reverse conn i := by
  have hstart : ∀ i, Follows [] (.new target) i :=
    fun i => ⟨fun hready => (by cases hready), fun hdial => (by cases hdial)⟩
  have hstep (past : List ConnStep) (s : RPCConnection) (o : ConnStep) (s' : RPCConnection)
      (h : ∀ i, Follows past s i) (hs' : s.step o = some s') (i : ℕ) : Follows (o :: past) s' i :=
    follows_connStep h hs' i
  have hend := Transitions.history_run hstep steps [] _ conn hstart hrun
  rw [List.append_nil] at hend
  exact hend i

/-- A step that can be done keeps what is promised exactly if its call was not disturbed. -/
theorem sound_iff_undisturbed (h : ∀ i, Follows past conn i) (hstep : conn.step o = some conn') :
    o.Sound conn ↔ o.Undisturbed past := by
  cases o with
  | use i answer => exact (h i).use (Option.ite_none_right_eq_some.mp hstep).1 answer
  | dial i err =>
    cases err with
    | none => exact (h i).dial (Option.ite_none_right_eq_some.mp hstep).1
    | some err => exact Iff.rfl
  | _ => exact Iff.rfl

/-- The interleavings that keep the promise are those in which every call finds the connection,
when it uses or establishes it, as it left it in its own step before. -/
theorem connection_sound_iff (target : String) (steps : List ConnStep) (conn : RPCConnection)
    (hrun : Transitions.run RPCConnection.step (.new target) steps = some conn) :
    Transitions.Allowed RPCConnection.step Sound (.new target) steps ↔
      ∀ before o after, steps = before ++ o :: after → o.Undisturbed before.reverse := by
  rw [Transitions.allowed_iff_forall_split steps _ conn hrun]
  constructor
  · intro hsound before o after hsplit
    -- the run can be done, so it comes to the step and does it
    rw [hsplit, Transitions.run_append] at hrun
    obtain ⟨there,hbefore,hrest⟩ := Option.bind_eq_some_iff.mp hrun
    obtain ⟨next,hstep,_⟩ := (Transitions.run_cons_eq_some _ there conn o after).mp hrest
    have hkept := hsound before o after there next hsplit hbefore hstep
    exact (sound_iff_undisturbed (follows_connRun target before hbefore) hstep).mp hkept
  · intro hundisturbed before o after there next hsplit hbefore hstep
    apply (sound_iff_undisturbed (follows_connRun target before hbefore) hstep).mpr
    exact hundisturbed before o after hsplit

/-- One call establishes the connection, a second one shares it, and a third has it established
anew after the first met the end of the stream. -/
theorem shared_connection_sound :
    let steps : List ConnStep := [.check 0, .dial 0 none, .check 1, .use 1 .ok, .use 0 .eof,
      .reset 0, .check 2, .dial 2 none, .use 2 .ok]
    (Transitions.run RPCConnection.step (.new "orchestrator:9090") steps).isSome ∧
      ∀ before o after, steps = before ++ o :: after → o.Undisturbed before.reverse := by
  refine ⟨rfl, (connection_sound_iff "orchestrator:9090" _ _ rfl).mp ?_⟩
  simp [Transitions.Allowed, Sound, RPCConnection.step, RPCConnection.new, RPCConnection.check,
    RPCConnection.established, RPCConnection.moved, RPCConnection.dial, RPCConnection.use,
    RPCConnection.forceReconnect, Answer.isEOF]

/-- Two calls that find no connection establish one each, and if the dial of the second fails
it takes the connection of the first away. So does a reconnect that is forced between the check
of a call and its request: the request is then made on a nil connection. -/
theorem racing_calls_break_connection :
    (¬ Transitions.Allowed RPCConnection.step Sound (.new "orchestrator:9090")
        [.check 0, .check 1, .dial 0 none, .dial 1 none]) ∧
      (¬ Transitions.Allowed RPCConnection.step Sound (.new "orchestrator:9090")
        [.check 0, .dial 0 none, .check 1, .forceReconnect, .use 1 .ok]) ∧
      (Transitions.run RPCConnection.step (.new "orchestrator:9090")
        [.check 0, .dial 0 none, .check 1, .forceReconnect, .use 1 .ok]).map (·.phase 1) =
          some .faulted ∧
      (Transitions.run RPCConnection.step (.new "orchestrator:9090")
        [.check 0, .check 1, .dial 0 none, .dial 1 (some "refused"), .use 0 .ok]).map
          (fun conn => (conn.phase 0, conn.phase 1)) =
            some (.faulted, .returned (.couldNotConnect "orchestrator:9090" "refused")) := by
  refine ⟨fun hsound => ?_, fun hsound => ?_, rfl, rfl⟩
  · have hsecond : true = false := (((hsound.2 _ rfl).2 _ rfl).2 _ rfl).1
    cases hsecond
  · have hrequest := ((((hsound.2 _ rfl).2 _ rfl).2 _ rfl).2 _ rfl).1
    exact hrequest rfl

/-- While no connection is lost, the calls of a sound run that find none establish one between
them. -/
theorem established_once (steps : List ConnStep) (conn conn' : RPCConnection)
    (hrun : Transitions.run RPCConnection.step conn steps = some conn')
    (hsound : Transitions.Allowed RPCConnection.step Sound conn steps)
    (hkept : ∀ o ∈ steps, o.loses = false) :
    steps.countP establishes + conn.established.toNat = conn'.established.toNat := by
  induction steps generalizing conn with
  | nil =>
    cases hrun
    exact Nat.zero_add _
  | cons o steps ih =>
    obtain ⟨next,hstep,hrest⟩ := (Transitions.run_cons_eq_some _ conn conn' o steps).mp hrun
    have hlater := ih next hrest (hsound.2 next hstep)
      (fun o' ho' => hkept o' (List.mem_cons_of_mem o ho'))
    have hnext := established_step hstep
    rw [hkept o List.mem_cons_self, Bool.not_false, Bool.true_and] at hnext
    rw [List.countP_cons, ← hlater, hnext]
    cases hestablishes : o.establishes with
    | false => simp
    | true =>
      have hnone : conn.established = false := by
        have hdial : o.Sound conn := hsound.1
        unfold establishes at hestablishes
        split at hestablishes
        · exact hdial
        · cases hestablishes
      simp [hnone]

end Histories

end Clouditor
