import Clouditor.StreamTable
import Mathlib.Logic.Function.Basic

/-! The stream to one target with any number of `GetStream` calls under way at once. Each
region under the lock, each read or write of the dead flag, each call of an init function,
each operation on a go channel and each `SendMsg` is a step of its own. -/
namespace Clouditor
set_option autoImplicit false

/-- A send loop waits at the go channel, is in `SendMsg`, or has had an error from it. -/
inductive SendLoop (M : Type) where
  | waiting
  | sending (m : M)
  | failed (m : M)
  deriving DecidableEq

/-- A channel with the send loops that run on it. -/
structure SharedChannel (M : Type) extends StreamChannel M where
  loops : List (SendLoop M)
  deriving DecidableEq

/-- What happens on a channel without a caller; `k` is the number of a loop or a put back. -/
inductive LoopStep where
  | take (k : ℕ)
  | accepted (k : ℕ)
  | rejected (k : ℕ)
  | declareDead (k : ℕ)
  | putBack (k : ℕ)

/-- Where a call of `GetStream` is. Channels are numbered in the order of their creation. -/
inductive GetStreamCall where
  | notCalled
  | adding (component : String)
  | registering
  | found (c : ℕ)
  | restarting (c : ℕ)
  | reviving (c : ℕ)
  | starting (c : ℕ)
  | returned (c : ℕ)
  | refused (e : Err)
  | faulted

/-- The process. A fault in a call takes the whole of it down, nothing recovers. -/
structure StreamWorld (M : Type) where
  target : String
  channels : List (SharedChannel M)
  registered : Option ℕ
  calls : ℕ → GetStreamCall
  delivered : List M
  sent : List M
  crashed : Bool

inductive WorldStep (M : Type) where
  | getStream (i : ℕ) (component : String)
  | init (i : ℕ) (result : StreamInit)
  | register (i : ℕ)
  | readDead (i : ℕ)
  | revive (i : ℕ)
  | start (i : ℕ)
  | send (i : ℕ) (m : M)
  | loop (c : ℕ) (s : LoopStep)

section Model
variable {M : Type}

/-- The channel `addStream` makes, before its loop is started. -/
def SharedChannel.fresh : SharedChannel M := ⟨⟨[], [], some .opened, false⟩, []⟩

/-- The step of a loop or a put back, with what `SendMsg` has accepted in it. -/
def SharedChannel.loopStep (ch : SharedChannel M) :
    LoopStep → Option (SharedChannel M × List M)
  | .take k =>
    match ch.loops[k]?, ch.queue with
    | some .waiting, m :: queue =>
      some ({ ch with queue := queue, loops := ch.loops.set k (.sending m) }, [])
    | _, _ => none
  | .accepted k =>
    match ch.loops[k]?, ch.stream with
    | some (.sending m), some .opened =>
      some ({ ch with loops := ch.loops.set k .waiting }, [m])
    | _, _ => none
  | .rejected k =>
    match ch.loops[k]?, ch.stream with
    | some (.sending m), some _ =>
      some ({ ch with stream := some .closed, loops := ch.loops.set k (.failed m) }, [])
    | _, _ => none
  -- the put back is started and the loop returns with nothing in between that others see
  | .declareDead k =>
    match ch.loops[k]? with
    | some (.failed m) =>
      some ({ ch with dead := true, returning := ch.returning ++ [m],
                      loops := ch.loops.eraseIdx k }, [])
    | _ => none
  | .putBack k =>
    match ch.returning[k]? with
    | some m =>
      some ({ ch with queue := ch.queue ++ [m], returning := ch.returning.eraseIdx k }, [])
    | none => none

def StreamWorld.goto (w : StreamWorld M) (i : ℕ) (p : GetStreamCall) : StreamWorld M :=
  { w with calls := Function.update w.calls i p }

def StreamWorld.setChannel (w : StreamWorld M) (c : ℕ) (ch : SharedChannel M) :
    StreamWorld M :=
  { w with channels := w.channels.set c ch }

/-- One step, `none` if the call, loop or put back is not where the step begins. -/
def StreamWorld.step (w : StreamWorld M) (s : WorldStep M) : Option (StreamWorld M) :=
  if w.crashed then none
  else match s with
  | .getStream i component =>
    match w.calls i, w.registered with
    | .notCalled, none => some (w.goto i (.adding component))
    | .notCalled, some c => some (w.goto i (.found c))
    | _, _ => none
  | .init i result =>
    match w.calls i with
    | .adding component =>
      match addStream (M := M) result with
      | .error e => some (w.goto i (.refused (errAddStream component w.target e)))
      | .ok _ => some (w.goto i .registering)
    | .restarting c =>
      w.channels[c]?.map (fun ch => match result with
        | .works => (w.setChannel c { ch with stream := some .opened }).goto i (.reviving c)
        -- the error text asks the nil channel for its component
        | .missing => { w.goto i .faulted with crashed := true }
        | .fails _ =>
          { (w.setChannel c { ch with stream := none }).goto i .faulted with crashed := true })
    | _ => none
  | .register i =>
    match w.calls i with
    | .registering => some { w.goto i (.starting w.channels.length) with
        channels := w.channels ++ [SharedChannel.fresh]
        registered := some w.channels.length }
    | _ => none
  | .readDead i =>
    match w.calls i with
    | .found c =>
      w.channels[c]?.map (fun ch => w.goto i (if ch.dead then .restarting c else .returned c))
    | _ => none
  | .revive i =>
    match w.calls i with
    | .reviving c =>
      w.channels[c]?.map (fun ch =>
        (w.setChannel c { ch with dead := false }).goto i (.starting c))
    | _ => none
  | .start i =>
    match w.calls i with
    | .starting c =>
      w.channels[c]?.map (fun ch =>
        (w.setChannel c { ch with loops := ch.loops ++ [.waiting] }).goto i (.returned c))
    | _ => none
  | .send i m =>
    match w.calls i with
    | .returned c =>
      w.channels[c]?.map (fun ch =>
        { w.setChannel c { ch with queue := ch.queue ++ [m] } with sent := w.sent ++ [m] })
    | _ => none
  | .loop c s =>
    w.channels[c]?.bind (fun ch => (ch.loopStep s).map (fun r =>
      { w.setChannel c r.1 with delivered := w.delivered ++ r.2 }))

def StreamWorld.start (target : String) : StreamWorld M :=
  ⟨target, [], none, fun _ => .notCalled, [], [], false⟩

def StreamWorld.run (w : StreamWorld M) (ops : List (WorldStep M)) : Option (StreamWorld M) :=
  Transitions.run StreamWorld.step w ops

/-- A call opens the stream, and the loop fails on the first message. -/
def failingRun : List (WorldStep String) :=
  [.getStream 0 "orchestrator", .init 0 .works, .register 0, .start 0, .send 0 "first",
    .loop 0 (.take 0), .loop 0 (.rejected 0), .loop 0 (.declareDead 0)]

end Model

section Steps
variable {M : Type}

theorem loopStep_take {ch : SharedChannel M} {k : ℕ} {m : M} {queue : List M}
    (hk : ch.loops[k]? = some .waiting) (hq : ch.queue = m :: queue) : ch.loopStep (.take k) =
      some ({ ch with queue := queue, loops := ch.loops.set k (.sending m) }, []) := by
  simp only [SharedChannel.loopStep, hk, hq]

theorem loopStep_accepted {ch : SharedChannel M} {k : ℕ} {m : M}
    (hk : ch.loops[k]? = some (.sending m)) (hs : ch.stream = some .opened) :
    ch.loopStep (.accepted k) = some ({ ch with loops := ch.loops.set k .waiting }, [m]) := by
  simp only [SharedChannel.loopStep, hk, hs]

theorem loopStep_rejected {ch : SharedChannel M} {k : ℕ} {m : M}
    (hk : ch.loops[k]? = some (.sending m)) (hs : ch.stream.isSome = true) :
    ch.loopStep (.rejected k) =
      some ({ ch with stream := some .closed, loops := ch.loops.set k (.failed m) }, []) := by
  obtain ⟨stream,hs⟩ := Option.isSome_iff_exists.mp hs
  simp only [SharedChannel.loopStep, hk, hs]

theorem loopStep_declareDead {ch : SharedChannel M} {k : ℕ} {m : M}
    (hk : ch.loops[k]? = some (.failed m)) : ch.loopStep (.declareDead k) =
      some ({ ch with dead := true, returning := ch.returning ++ [m],
                      loops := ch.loops.eraseIdx k }, []) := by
  simp only [SharedChannel.loopStep, hk]

theorem loopStep_putBack {ch : SharedChannel M} {k : ℕ} {m : M} (hk : ch.returning[k]? = some m) :
    ch.loopStep (.putBack k) = some ({ ch with
      queue := ch.queue ++ [m], returning := ch.returning.eraseIdx k }, []) := by
  simp only [SharedChannel.loopStep, hk]

theorem loopStep_cases (ch ch' : SharedChannel M) (s : LoopStep) (out : List M)
    (h : ch.loopStep s = some (ch', out)) :
    (∃ k m queue, ch.loops[k]? = some .waiting ∧ ch.queue = m :: queue ∧ out = [] ∧
      ch' = { ch with queue := queue, loops := ch.loops.set k (.sending m) }) ∨
    (∃ k m, ch.loops[k]? = some (.sending m) ∧ out = [m] ∧
      ch' = { ch with loops := ch.loops.set k .waiting }) ∨
    (∃ k m, ch.loops[k]? = some (.sending m) ∧ out = [] ∧
      ch' = { ch with stream := some .closed, loops := ch.loops.set k (.failed m) }) ∨
    (∃ k m, ch.loops[k]? = some (.failed m) ∧ out = [] ∧
      ch' = { ch with dead := true, returning := ch.returning ++ [m],
                      loops := ch.loops.eraseIdx k }) ∨
    (∃ k m, ch.returning[k]? = some m ∧ out = [] ∧
      ch' = { ch with queue := ch.queue ++ [m], returning := ch.returning.eraseIdx k }) := by
  cases s with
  | take k =>
    simp only [SharedChannel.loopStep] at h
    split at h <;> cases h
    exact .inl ⟨k, _, _, ‹_›, ‹_›, rfl, rfl⟩
  | accepted k =>
    simp only [SharedChannel.loopStep] at h
    split at h <;> cases h
    exact .inr (.inl ⟨k, _, ‹_›, rfl, rfl⟩)
  | rejected k =>
    simp only [SharedChannel.loopStep] at h
    split at h <;> cases h
    exact .inr (.inr (.inl ⟨k, _, ‹_›, rfl, rfl⟩))
  | declareDead k =>
    simp only [SharedChannel.loopStep] at h
    split at h <;> cases h
    exact .inr (.inr (.inr (.inl ⟨k, _, ‹_›, rfl, rfl⟩)))
  | putBack k =>
    simp only [SharedChannel.loopStep] at h
    split at h <;> cases h
    exact .inr (.inr (.inr (.inr ⟨k, _, ‹_›, rfl, rfl⟩)))

/-- What the steps of a world that has not crashed do. -/
inductive StreamWorld.Effect (w : StreamWorld M) : WorldStep M → StreamWorld M → Prop where
  | missed (i : ℕ) (component : String) (hi : w.calls i = .notCalled) (hr : w.registered = none) :
      Effect w (.getStream i component) (w.goto i (.adding component))
  | found (i c : ℕ) (component : String) (hi : w.calls i = .notCalled)
      (hr : w.registered = some c) : Effect w (.getStream i component) (w.goto i (.found c))
  | refused (i : ℕ) (component : String) (result : StreamInit) (e : Err)
      (hi : w.calls i = .adding component) : Effect w (.init i result) (w.goto i (.refused e))
  | created (i : ℕ) (component : String) (result : StreamInit)
      (hi : w.calls i = .adding component) : Effect w (.init i result) (w.goto i .registering)
  | opened (i c : ℕ) (ch : SharedChannel M) (hi : w.calls i = .restarting c)
      (hc : w.channels[c]? = some ch) : Effect w (.init i .works)
        ((w.setChannel c { ch with stream := some .opened }).goto i (.reviving c))
  | crashed (i c : ℕ) (ch : SharedChannel M) (result : StreamInit) (stream : Option ClientStream)
      (hi : w.calls i = .restarting c) (hc : w.channels[c]? = some ch) (hw : result ≠ .works) :
      Effect w (.init i result)
        { (w.setChannel c { ch with stream := stream }).goto i .faulted with crashed := true }
  | registered (i : ℕ) (hi : w.calls i = .registering) : Effect w (.register i)
      { w.goto i (.starting w.channels.length) with
        channels := w.channels ++ [SharedChannel.fresh]
        registered := some w.channels.length }
  | alive (i c : ℕ) (ch : SharedChannel M) (hi : w.calls i = .found c)
      (hc : w.channels[c]? = some ch) (hd : ch.dead = false) :
      Effect w (.readDead i) (w.goto i (.returned c))
  | dead (i c : ℕ) (ch : SharedChannel M) (hi : w.calls i = .found c)
      (hc : w.channels[c]? = some ch) (hd : ch.dead = true) :
      Effect w (.readDead i) (w.goto i (.restarting c))
  | revived (i c : ℕ) (ch : SharedChannel M) (hi : w.calls i = .reviving c)
      (hc : w.channels[c]? = some ch) : Effect w (.revive i)
        ((w.setChannel c { ch with dead := false }).goto i (.starting c))
  | started (i c : ℕ) (ch : SharedChannel M) (hi : w.calls i = .starting c)
      (hc : w.channels[c]? = some ch) : Effect w (.start i)
        ((w.setChannel c { ch with loops := ch.loops ++ [.waiting] }).goto i (.returned c))
  | sent (i c : ℕ) (m : M) (ch : SharedChannel M) (hi : w.calls i = .returned c)
      (hc : w.channels[c]? = some ch) : Effect w (.send i m)
        { w.setChannel c { ch with queue := ch.queue ++ [m] } with sent := w.sent ++ [m] }
  | looped (c : ℕ) (s : LoopStep) (ch ch' : SharedChannel M) (out : List M)
      (hc : w.channels[c]? = some ch) (hs : ch.loopStep s = some (ch', out)) :
      Effect w (.loop c s) { w.setChannel c ch' with delivered := w.delivered ++ out }

theorem step_effect (w w' : StreamWorld M) (s : WorldStep M) (h : w.step s = some w') :
    w.crashed = false ∧ w.Effect s w' := by
  unfold StreamWorld.step at h
  split at h
  · cases h
  · rename_i hcr
    refine ⟨by simpa using hcr, ?_⟩
    cases s with
    | getStream i component =>
      simp only at h
      split at h <;> cases h
      · exact .missed i component ‹_› ‹_›
      · exact .found i _ component ‹_› ‹_›
    | init i result =>
      simp only at h
      split at h
      · rename_i component hi
        split at h <;> cases h
        · exact .refused i component result _ hi
        · exact .created i component result hi
      · rename_i c hi
        obtain ⟨ch,hc,hw⟩ := Option.map_eq_some_iff.mp h
        cases result with
        | works =>
          cases hw
          exact .opened i c ch hi hc
        | missing =>
          cases hw
          -- no assignment has been made yet
          have hsame : w.setChannel c { ch with stream := ch.stream } = w := by
            obtain ⟨hlt,rfl⟩ := List.getElem?_eq_some_iff.mp hc
            rw [StreamWorld.setChannel, List.set_getElem_self hlt]
          have heff := StreamWorld.Effect.crashed i c ch .missing ch.stream hi hc nofun
          rwa [hsame] at heff
        | fails msg =>
          cases hw
          exact .crashed i c ch _ none hi hc nofun
      · cases h
    | register i =>
      simp only at h
      split at h <;> cases h
      exact .registered i ‹_›
    | readDead i =>
      simp only at h
      split at h
      · rename_i c hi
        obtain ⟨ch,hc,hw⟩ := Option.map_eq_some_iff.mp h
        cases hw
        by_cases hd : ch.dead = true
        · rw [if_pos hd]
          exact .dead i c ch hi hc hd
        · rw [if_neg hd]
          exact .alive i c ch hi hc (by simpa using hd)
      · cases h
    | revive i =>
      simp only at h
      split at h
      · obtain ⟨ch,hc,hw⟩ := Option.map_eq_some_iff.mp h
        cases hw
        exact .revived i _ ch ‹_› hc
      · cases h
    | start i =>
      simp only at h
      split at h
      · obtain ⟨ch,hc,hw⟩ := Option.map_eq_some_iff.mp h
        cases hw
        exact .started i _ ch ‹_› hc
      · cases h
    | send i m =>
      simp only at h
      split at h
      · obtain ⟨ch,hc,hw⟩ := Option.map_eq_some_iff.mp h
        cases hw
        exact .sent i _ m ch ‹_› hc
      · cases h
    | loop c s =>
      obtain ⟨ch,hc,hw⟩ := Option.bind_eq_some_iff.mp h
      obtain ⟨⟨ch',out⟩,hs,hw⟩ := Option.map_eq_some_iff.mp hw
      cases hw
      exact .looped c s ch ch' out hc hs

end Steps

section Refinement
variable {M : Type}

/-- The channel a call would find now, as the table of all targets has it. -/
def StreamWorld.channel (w : StreamWorld M) : Option (StreamChannel M) :=
  (w.registered.bind (fun c => w.channels[c]?)).map SharedChannel.toStreamChannel

/-- The call has ended as `GetStream` on the table of all targets says. -/
def StreamWorld.Ends (w w' : StreamWorld M) (t : StreamTable M) (i : ℕ) : Faulting M → Prop
  | none => w'.crashed = true
  | some (.ok _, t') => t'.channels.lookup w.target = w'.channel ∧
      ∃ c, w'.registered = some c ∧ w'.calls i = .returned c
  | some (.error e, t') => t' = t ∧ w'.channel = w.channel ∧ w'.calls i = .refused e

theorem getStream_adds (w : StreamWorld M) (t : StreamTable M) (i : ℕ) (component : String)
    (init : StreamInit) (hw : w.crashed = false) (hi : w.calls i = .notCalled)
    (hr : w.registered = none) (ht : t.channels.lookup w.target = none) :
    ∃ ops w', w.run ops = some w' ∧ w.Ends w' t i (t.getStream w.target component init) := by
  have hrefused (e : Err) (he : addStream (M := M) init = .error e) : ∃ ops w',
      w.run ops = some w' ∧ w.Ends w' t i (t.getStream w.target component init) := by
    refine ⟨[.getStream i component, .init i init], (w.goto i (.adding component)).goto i
      (.refused (errAddStream component w.target e)), ?_, ?_⟩
    · simp [StreamWorld.run, Transitions.run, StreamWorld.step, StreamWorld.goto, hw, hi, hr, he]
    · simp [StreamTable.getStream, ht, he, StreamWorld.Ends, StreamWorld.channel,
        StreamWorld.goto]
  cases init with
  | missing => exact hrefused _ rfl
  | fails msg => exact hrefused _ rfl
  | works =>
    refine ⟨[.getStream i component, .init i .works, .register i, .start i],
      { w.goto i (.returned w.channels.length) with
        channels := w.channels ++ [⟨⟨[], [], some .opened, false⟩, [.waiting]⟩]
        registered := some w.channels.length }, ?_, ?_⟩
    · simp [StreamWorld.run, Transitions.run, StreamWorld.step, StreamWorld.goto,
        StreamWorld.setChannel, hw, hi, hr, addStream, SharedChannel.fresh]
    · simp [StreamTable.getStream, ht, addStream, StreamWorld.Ends, StreamWorld.channel,
        StreamWorld.goto, StreamTable.put]

theorem getStream_finds (w : StreamWorld M) (t : StreamTable M) (i c : ℕ) (component : String)
    (init : StreamInit) (ch : SharedChannel M) (hw : w.crashed = false)
    (hi : w.calls i = .notCalled) (hr : w.registered = some c) (hc : w.channels[c]? = some ch)
    (ht : t.channels.lookup w.target = some ch.toStreamChannel) :
    ∃ ops w', w.run ops = some w' ∧ w.Ends w' t i (t.getStream w.target component init) := by
  have hset (x : SharedChannel M) : (w.channels.set c x)[c]? = some x :=
    List.getElem?_set_self (List.getElem?_eq_some_iff.mp hc).1
  by_cases hd : ch.dead = true
  · cases init with
    | missing =>
      refine ⟨[.getStream i component, .readDead i, .init i .missing],
        { w.goto i .faulted with crashed := true }, ?_, ?_⟩
      · simp [StreamWorld.run, Transitions.run, StreamWorld.step, StreamWorld.goto, hw, hi, hr, hc,
          hd]
      · simp [StreamTable.getStream, ht, hd, restartStream, StreamWorld.Ends]
    | fails msg =>
      refine ⟨[.getStream i component, .readDead i, .init i (.fails msg)],
        { (w.setChannel c { ch with stream := none }).goto i .faulted with crashed := true },
        ?_, ?_⟩
      · simp [StreamWorld.run, Transitions.run, StreamWorld.step, StreamWorld.goto,
          StreamWorld.setChannel, hw, hi, hr, hc, hd]
      · simp [StreamTable.getStream, ht, hd, restartStream, StreamWorld.Ends]
    | works =>
      refine ⟨[.getStream i component, .readDead i, .init i .works, .revive i, .start i],
        (w.setChannel c { ch with stream := some .opened, dead := false,
                                  loops := ch.loops ++ [.waiting] }).goto i (.returned c), ?_, ?_⟩
      · simp [StreamWorld.run, Transitions.run, StreamWorld.step, StreamWorld.goto,
          StreamWorld.setChannel, hw, hi, hr, hc, hd, hset]
      · simp [StreamTable.getStream, ht, hd, restartStream, StreamWorld.Ends, StreamWorld.channel,
          StreamWorld.goto, StreamWorld.setChannel, StreamTable.put, hr, hset]
  · refine ⟨[.getStream i component, .readDead i], w.goto i (.returned c), ?_, ?_⟩
    · simp [StreamWorld.run, Transitions.run, StreamWorld.step, StreamWorld.goto, hw, hi, hr, hc,
        hd]
    · simp [StreamTable.getStream, ht, hd, StreamWorld.Ends, StreamWorld.channel,
        StreamWorld.goto, hr, hc]

/-- A call that no other step comes between does what `getStream` of the table does. -/
theorem getStream_uninterrupted (w : StreamWorld M) (t : StreamTable M) (i : ℕ)
    (component : String) (init : StreamInit) (hw : w.crashed = false)
    (hi : w.calls i = .notCalled) (hr : ∀ c, w.registered = some c → c < w.channels.length)
    (ht : t.channels.lookup w.target = w.channel) :
    ∃ ops w', w.run ops = some w' ∧ w.Ends w' t i (t.getStream w.target component init) := by
  cases hreg : w.registered with
  | none =>
    simp only [StreamWorld.channel, hreg, Option.bind_none, Option.map_none] at ht
    exact getStream_adds w t i component init hw hi hreg ht
  | some c =>
    have hc := List.getElem?_eq_getElem (hr c hreg)
    simp only [StreamWorld.channel, hreg, Option.bind_some, hc, Option.map_some] at ht
    exact getStream_finds w t i c component init _ hw hi hreg hc ht

end Refinement
end Clouditor
