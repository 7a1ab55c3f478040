import Clouditor.StreamWorld
import Mathlib.Data.List.Count

/-! What becomes of the messages passed to `Send`: none is sent twice, and none is lost as
long as no call registers a channel over another one and restarts succeed. -/
namespace Clouditor
set_option autoImplicit false

section Conservation
variable {M : Type}

def SendLoop.held : SendLoop M → List M
  | .waiting => []
  | .sending m | .failed m => [m]

/-- Queued, on the way back to the queue, or taken by a loop and not accepted. -/
def SharedChannel.inFlight (ch : SharedChannel M) : List M :=
  ch.queue ++ ch.returning ++ ch.loops.flatMap SendLoop.held

def StreamWorld.inFlight (w : StreamWorld M) : List M := w.channels.flatMap SharedChannel.inFlight

/-- The messages in flight on the channel that later calls will find. -/
def StreamWorld.onRegistered (w : StreamWorld M) : List M :=
  match w.registered with
  | none => []
  | some c => (w.channels[c]?).elim [] SharedChannel.inFlight

/-- Every message sent is delivered or in flight, and as often as it was sent. -/
def StreamWorld.Conserved (w : StreamWorld M) : Prop := w.sent.Perm (w.delivered ++ w.inFlight)

theorem count_inFlight [BEq M] (ch : SharedChannel M) (x : M) :
    ch.inFlight.count x = ch.queue.count x + ch.returning.count x +
      (ch.loops.flatMap SendLoop.held).count x := by
  simp only [SharedChannel.inFlight, List.count_append]

theorem loopStep_conserves [BEq M] (ch ch' : SharedChannel M) (s : LoopStep) (out : List M)
    (h : ch.loopStep s = some (ch', out)) (x : M) :
    ch'.inFlight.count x + out.count x = ch.inFlight.count x := by
  rcases loopStep_cases ch ch' s out h with ⟨k,m,queue,hk,hq,rfl,rfl⟩ | ⟨k,m,hk,rfl,rfl⟩ |
    ⟨k,m,hk,rfl,rfl⟩ | ⟨k,m,hk,rfl,rfl⟩ | ⟨k,m,hk,rfl,rfl⟩
  · have hsum := Transitions.count_flatMap_set SendLoop.held x ch.loops k _ (.sending m) hk
    have hqueue : ch.queue.count x = queue.count x + [m].count x := by
      rw [hq, ← List.singleton_append, List.count_append, Nat.add_comm]
    simp only [count_inFlight, SendLoop.held, List.count_nil] at hsum ⊢
    omega
  · have hsum := Transitions.count_flatMap_set SendLoop.held x ch.loops k _ .waiting hk
    simp only [count_inFlight, SendLoop.held, List.count_nil] at hsum ⊢
    omega
  · have hsum := Transitions.count_flatMap_set SendLoop.held x ch.loops k _ (.failed m) hk
    simp only [count_inFlight, SendLoop.held, List.count_nil] at hsum ⊢
    omega
  · have hsum := Transitions.count_flatMap_eraseIdx SendLoop.held x ch.loops k _ hk
    simp only [count_inFlight, SendLoop.held, List.count_nil, List.count_append] at hsum ⊢
    omega
  · have hsum := Transitions.count_flatMap_eraseIdx (fun m : M => [m]) x ch.returning k _ hk
    simp only [List.flatMap_singleton'] at hsum
    simp only [count_inFlight, List.count_nil, List.count_append] at hsum ⊢
    omega

theorem conserved_step (w w' : StreamWorld M) (s : WorldStep M) (h : w.Conserved)
    (hs : w.step s = some w') : w'.Conserved := by
  classical
  rw [StreamWorld.Conserved, List.perm_iff_count] at h ⊢
  simp only [List.count_append, StreamWorld.inFlight] at h ⊢
  intro x
  have hx := h x
  have hset {c : ℕ} {ch : SharedChannel M} (ch' : SharedChannel M)
      (hc : w.channels[c]? = some ch) :=
    Transitions.count_flatMap_set SharedChannel.inFlight x w.channels c ch ch' hc
  -- most steps of a call change a channel and nothing that is in flight on it
  have hkeep {c : ℕ} {ch ch' : SharedChannel M} (hc : w.channels[c]? = some ch)
      (hch : ch'.inFlight = ch.inFlight) : w.sent.count x = w.delivered.count x +
        ((w.channels.set c ch').flatMap SharedChannel.inFlight).count x := by
    have hc' := hset ch' hc
    rw [hch] at hc'
    omega
  cases (step_effect w w' s hs).2 with
  | missed | found | refused | created | alive | dead => exact hx
  | opened i c ch hi hc => exact hkeep hc rfl
  | crashed i c ch result stream hi hc hw => exact hkeep hc rfl
  | revived i c ch hi hc => exact hkeep hc rfl
  | started i c ch hi hc => exact hkeep hc (by simp [SharedChannel.inFlight, SendLoop.held])
  | registered i hi =>
    simpa [StreamWorld.goto, SharedChannel.fresh, SharedChannel.inFlight] using hx
  | sent i c m ch hi hc =>
    have hc' := hset { ch with queue := ch.queue ++ [m] } hc
    simp only [StreamWorld.setChannel, count_inFlight, List.count_append] at hc' ⊢
    omega
  | looped c s ch ch' out hc hl =>
    have hc' := hset ch' hc
    have hout := loopStep_conserves ch ch' s out hl x
    simp only [StreamWorld.setChannel, List.count_append] at hc' ⊢
    omega

end Conservation

section Serving
variable {M : Type}

/-- No channel is registered over another one, and the init function of a restart works. -/
def StreamWorld.Orderly (w : StreamWorld M) : WorldStep M → Prop
  | .register _ => w.registered = none
  | .init i result => ∀ c, w.calls i = .restarting c → result = .works
  | _ => True

/-- The channel has a stream. Unless it is marked dead, a loop runs or is about to. -/
structure Attended (calls : ℕ → GetStreamCall) (ch : SharedChannel M) : Prop where
  stream : ch.stream.isSome = true
  alive : ch.dead = false → ch.loops ≠ [] ∨ ∃ i, calls i = .starting 0

/-- The process runs with one channel at most, and only so many calls have been made. -/
structure StreamWorld.Serving (w : StreamWorld M) : Prop where
  running : w.crashed = false
  channel : w.registered = none ∧ w.channels = [] ∨
    ∃ ch, w.registered = some 0 ∧ w.channels = [ch] ∧ Attended w.calls ch
  calls : ∃ n, ∀ i, n ≤ i → w.calls i = .notCalled

theorem Attended.goto {calls : ℕ → GetStreamCall} {ch : SharedChannel M} (h : Attended calls ch)
    (i : ℕ) (p : GetStreamCall) (hi : calls i ≠ .starting 0) :
    Attended (Function.update calls i p) ch := by
  refine ⟨h.stream, fun hd => (h.alive hd).imp_right ?_⟩
  rintro ⟨j,hj⟩
  have hne : j ≠ i := by
    rintro rfl
    exact hi hj
  exact ⟨j, by rw [Function.update_of_ne hne, hj]⟩

theorem calls_goto {calls : ℕ → GetStreamCall} (i : ℕ) (p : GetStreamCall)
    (h : ∃ n, ∀ j, n ≤ j → calls j = .notCalled) :
    ∃ n, ∀ j, n ≤ j → Function.update calls i p j = .notCalled := by
  obtain ⟨n,hn⟩ := h
  refine ⟨max n (i + 1), fun j hj => ?_⟩
  rw [Function.update_of_ne (by omega), hn j (by omega)]

theorem attended_loopStep {calls : ℕ → GetStreamCall} {ch ch' : SharedChannel M} {s : LoopStep}
    {out : List M} (h : Attended calls ch) (hs : ch.loopStep s = some (ch', out)) :
    Attended calls ch' := by
  have hset {k : ℕ} {l : SendLoop M} (l' : SendLoop M) (hk : ch.loops[k]? = some l) :
      ch.loops.set k l' ≠ [] := by
    rw [Ne, List.set_eq_nil_iff]
    rintro hnil
    simp [hnil] at hk
  rcases loopStep_cases ch ch' s out hs with ⟨k,m,queue,hk,_,_,rfl⟩ | ⟨k,m,hk,_,rfl⟩ |
    ⟨k,m,hk,_,rfl⟩ | ⟨k,m,hk,_,rfl⟩ | ⟨k,m,_,_,rfl⟩
  · exact ⟨h.stream, fun _ => .inl (hset _ hk)⟩
  · exact ⟨h.stream, fun _ => .inl (hset _ hk)⟩
  · exact ⟨rfl, fun _ => .inl (hset _ hk)⟩
  · exact ⟨h.stream, nofun⟩
  · exact ⟨h.stream, h.alive⟩

theorem serving_step (w w' : StreamWorld M) (s : WorldStep M) (h : w.Serving)
    (ho : w.Orderly s) (hs : w.step s = some w') : w'.Serving := by
  -- a call that moves without the channel
  have hgoto {i : ℕ} (p : GetStreamCall) (hi : w.calls i ≠ .starting 0) : (w.goto i p).Serving := by
    refine ⟨h.running, h.channel.imp_right ?_, calls_goto i p h.calls⟩
    rintro ⟨ch,hr,hch,hattended⟩
    exact ⟨ch, hr, hch, hattended.goto i p hi⟩
  -- a step on a channel is one on the only channel
  have hone {c : ℕ} {ch : SharedChannel M} (hc : w.channels[c]? = some ch) :
      c = 0 ∧ w.registered = some 0 ∧ w.channels = [ch] ∧ Attended w.calls ch := by
    rcases h.channel with ⟨_,hnil⟩ | ⟨ch₀,hr,hch,hattended⟩
    · simp [hnil] at hc
    · rw [hch] at hc
      obtain ⟨hlt,hget⟩ := List.getElem?_eq_some_iff.mp hc
      have hc0 : c = 0 := by simpa using hlt
      subst hc0
      cases hget
      exact ⟨rfl, hr, hch, hattended⟩
  have hset {c : ℕ} {ch ch' : SharedChannel M} {calls : ℕ → GetStreamCall}
      (hc : w.channels[c]? = some ch) (hattended : Attended calls ch') :
      w.registered = none ∧ w.channels.set c ch' = [] ∨
        ∃ d, w.registered = some 0 ∧ w.channels.set c ch' = [d] ∧ Attended calls d := by
    obtain ⟨rfl,hr,hch,_⟩ := hone hc
    exact .inr ⟨ch', hr, by rw [hch]; rfl, hattended⟩
  cases (step_effect w w' s hs).2 with
  | missed i _ hi | found i _ _ hi | refused i _ _ _ hi | created i _ _ hi | alive i _ _ hi
  | dead i _ _ hi => exact hgoto _ (by simp [hi])
  | opened i c ch hi hc =>
    have hattended := (hone hc).2.2.2.goto i (.reviving c) (by simp [hi])
    exact ⟨h.running, hset hc ⟨rfl, hattended.alive⟩, calls_goto i _ h.calls⟩
  | crashed i c ch result stream hi hc hw => exact absurd (ho c hi) hw
  | registered i hi =>
    rcases h.channel with ⟨_,hnil⟩ | ⟨ch₀,hr,_⟩
    · refine ⟨h.running, .inr ⟨.fresh, ?_, ?_, rfl, fun _ => .inr ⟨i, ?_⟩⟩, calls_goto i _ h.calls⟩
      · simp [hnil]
      · simp [hnil]
      · simp [StreamWorld.goto, hnil]
    · exact absurd (ho.symm.trans hr) (by simp)
  | revived i c ch hi hc =>
    have hstream := (hone hc).2.2.2.stream
    refine ⟨h.running, hset hc ⟨hstream, fun _ => .inr ⟨i, ?_⟩⟩, calls_goto i _ h.calls⟩
    simp [StreamWorld.goto, (hone hc).1]
  | started i c ch hi hc =>
    have hstream := (hone hc).2.2.2.stream
    exact ⟨h.running, hset hc ⟨hstream, fun _ => .inl (by simp)⟩, calls_goto i _ h.calls⟩
  | sent i c m ch hi hc =>
    have hattended := (hone hc).2.2.2
    exact ⟨h.running, hset hc ⟨hattended.stream, hattended.alive⟩, h.calls⟩
  | looped c s ch ch' out hc hl =>
    exact ⟨h.running, hset hc (attended_loopStep (hone hc).2.2.2 hl), h.calls⟩

theorem StreamWorld.Serving.attended {w : StreamWorld M} {ch : SharedChannel M} (h : w.Serving)
    (hch : w.channels = [ch]) : w.registered = some 0 ∧ Attended w.calls ch := by
  rcases h.channel with ⟨_,hnil⟩ | ⟨d,hr,hd,hattended⟩
  · simp [hnil] at hch
  · cases (List.cons.inj (hd.symm.trans hch)).1
    exact ⟨hr, hattended⟩

/-- With one channel at most, what is in flight is on the registered one. -/
theorem onRegistered_serving (w : StreamWorld M) (h : w.Serving) : w.onRegistered = w.inFlight := by
  rcases h.channel with ⟨hr,hch⟩ | ⟨ch,hr,hch,_⟩
  · simp [StreamWorld.onRegistered, StreamWorld.inFlight, hr, hch]
  · simp [StreamWorld.onRegistered, StreamWorld.inFlight, hr, hch]

end Serving

section Draining
variable {M : Type}

/-- A continuation without another message and with the conditions above. -/
def StreamWorld.Follows (w w' : StreamWorld M) : Prop :=
  ∃ ops, Transitions.Allowed StreamWorld.step StreamWorld.Orderly w ops ∧
    w.run ops = some w' ∧ w'.sent = w.sent

theorem StreamWorld.Follows.refl (w : StreamWorld M) : w.Follows w := ⟨[], trivial, rfl, rfl⟩

theorem StreamWorld.Follows.trans {u v w : StreamWorld M} (h : u.Follows v) (h' : v.Follows w) :
    u.Follows w := by
  obtain ⟨ops,hops,hrun,hsent⟩ := h
  obtain ⟨ops',hops',hrun',hsent'⟩ := h'
  exact ⟨ops ++ ops', Transitions.allowed_append u v ops ops' hops hrun hops',
    Transitions.run_trans hrun hrun', hsent'.trans hsent⟩

theorem StreamWorld.Follows.serving {w w' : StreamWorld M} (h : w.Follows w') (hw : w.Serving) :
    w'.Serving := by
  obtain ⟨ops,hops,hrun,_⟩ := h
  exact Transitions.invariant_run (fun u s u' => serving_step u u' s) ops w w' hw hops hrun

theorem follows_step {w u : StreamWorld M} {s : WorldStep M} (ho : w.Orderly s)
    (hs : w.step s = some u) (hsent : u.sent = w.sent) : w.Follows u := by
  refine ⟨[s], ⟨ho, fun _ _ => trivial⟩, ?_, hsent⟩
  rw [StreamWorld.run, Transitions.run, hs]
  rfl

theorem follows_loop {w : StreamWorld M} {ch ch' : SharedChannel M} {s : LoopStep} {out : List M}
    (hw : w.Serving) (hch : w.channels = [ch]) (hs : ch.loopStep s = some (ch', out)) :
    ∃ u, w.Follows u ∧ u.channels = [ch'] := by
  refine ⟨{ w.setChannel 0 ch' with delivered := w.delivered ++ out },
    follows_step (s := .loop 0 s) trivial ?_ rfl, by simp [StreamWorld.setChannel, hch]⟩
  simp [StreamWorld.step, hw.running, hch, hs]

theorem follows_start {w : StreamWorld M} {ch : SharedChannel M} {i : ℕ} (hw : w.crashed = false)
    (hch : w.channels = [ch]) (hi : w.calls i = .starting 0) :
    ∃ u, w.Follows u ∧ u.channels = [{ ch with loops := ch.loops ++ [.waiting] }] := by
  refine ⟨(w.setChannel 0 { ch with loops := ch.loops ++ [.waiting] }).goto i (.returned 0),
    follows_step (s := .start i) trivial ?_ rfl, by
      simp [StreamWorld.setChannel, StreamWorld.goto, hch]⟩
  simp [StreamWorld.step, hw, hi, hch]

/-- A further call restarts a dead channel. -/
theorem follows_restart {w : StreamWorld M} {ch : SharedChannel M} (hw : w.Serving)
    (hch : w.channels = [ch]) (hd : ch.dead = true) :
    ∃ u, w.Follows u ∧ u.channels = [{ ch with
      stream := some .opened, dead := false, loops := ch.loops ++ [.waiting] }] := by
  obtain ⟨n,hn⟩ := hw.calls
  have hi := hn n le_rfl
  have hr := (hw.attended hch).1
  -- the call with the number `n` has not been made yet and makes its five steps in a row
  let found := w.goto n (.found 0)
  let restarting := found.goto n (.restarting 0)
  let reviving := (restarting.setChannel 0 { ch with stream := some .opened }).goto n (.reviving 0)
  let starting := (reviving.setChannel 0
    { ch with stream := some .opened, dead := false }).goto n (.starting 0)
  have h1 : w.Follows found := follows_step (s := .getStream n "") trivial (by
    simp [StreamWorld.step, hw.running, hi, hr, found]) rfl
  have h2 : found.Follows restarting := follows_step (s := .readDead n) trivial (by
    simp [StreamWorld.step, StreamWorld.goto, hw.running, hch, hd, found, restarting]) rfl
  have h3 : restarting.Follows reviving := follows_step (s := .init n .works) (fun _ _ => rfl) (by
    simp [StreamWorld.step, StreamWorld.goto, StreamWorld.setChannel, hw.running, hch, found,
      restarting, reviving]) rfl
  have h4 : reviving.Follows starting := follows_step (s := .revive n) trivial (by
    simp [StreamWorld.step, StreamWorld.goto, StreamWorld.setChannel, hw.running, hch, found,
      restarting, reviving, starting]) rfl
  have hlast : starting.channels = [{ ch with stream := some .opened, dead := false }] := by
    simp [StreamWorld.goto, StreamWorld.setChannel, hch, found, restarting, reviving, starting]
  have hcall : starting.calls n = .starting 0 := by simp [StreamWorld.goto, starting]
  obtain ⟨u,h5,hu⟩ := follows_start (w := starting) hw.running hlast hcall
  exact ⟨u, h1.trans (h2.trans (h3.trans (h4.trans h5))), hu⟩

/-- A loop is there again where none was. -/
theorem follows_wake {w : StreamWorld M} {ch : SharedChannel M} (hw : w.Serving)
    (hch : w.channels = [ch]) (hl : ch.loops = []) : ∃ u ch', w.Follows u ∧ u.channels = [ch'] ∧
      ch'.queue = ch.queue ∧ ch'.returning = ch.returning ∧ ch'.loops = [.waiting] ∧
      (ch.stream = some .opened → ch'.stream = some .opened) := by
  by_cases hd : ch.dead = true
  · obtain ⟨u,hu,hch'⟩ := follows_restart hw hch hd
    exact ⟨u, _, hu, hch', rfl, rfl, by simp [hl], fun _ => rfl⟩
  · have halive := (hw.attended hch).2.alive (by simpa using hd)
    obtain ⟨i,hi⟩ := halive.resolve_left (fun hne => hne hl)
    obtain ⟨u,hu,hch'⟩ := follows_start hw.running hch hi
    exact ⟨u, _, hu, hch', rfl, rfl, by simp [hl], id⟩

def SendLoop.effort : SendLoop M → ℕ
  | .waiting => 0
  | .sending _ => 1
  | .failed _ => 4

/-- The number of steps until everything in flight on the channel is delivered. -/
def SharedChannel.effort (ch : SharedChannel M) : ℕ :=
  2 * ch.queue.length + 3 * ch.returning.length + (ch.loops.map SendLoop.effort).sum

theorem loops_cases (loops : List (SendLoop M)) :
    (∃ (k : ℕ) (m : M), loops[k]? = some (.sending m)) ∨
    (∃ (k : ℕ) (m : M), loops[k]? = some (.failed m)) ∨ ∀ l ∈ loops, l = .waiting := by
  by_cases hwait : ∀ l ∈ loops, l = .waiting
  · exact .inr (.inr hwait)
  · push Not at hwait
    obtain ⟨l,hl,hne⟩ := hwait
    obtain ⟨k,hk⟩ := List.getElem?_of_mem hl
    cases l with
    | waiting => exact absurd rfl hne
    | sending m => exact .inl ⟨k, m, hk⟩
    | failed m => exact .inr (.inl ⟨k, m, hk⟩)

/-- Where all loops wait, the messages in flight are queued or going back to the queue. -/
theorem inFlight_waiting (ch : SharedChannel M) (h : ∀ l ∈ ch.loops, l = .waiting) :
    ch.inFlight = ch.queue ++ ch.returning := by
  have hnil : ch.loops.flatMap SendLoop.held = [] := by
    rw [List.flatMap_eq_nil_iff]
    rintro l hl
    rw [h l hl]
    rfl
  rw [SharedChannel.inFlight, hnil, List.append_nil]

theorem follows_take {w : StreamWorld M} {ch : SharedChannel M} {m : M} {queue : List M}
    {loops : List (SendLoop M)} (hw : w.Serving) (hch : w.channels = [ch])
    (hopen : ch.stream = some .opened) (hq : ch.queue = m :: queue)
    (hl : ch.loops = .waiting :: loops) :
    ∃ u ch', w.Follows u ∧ u.channels = [ch'] ∧ ch'.stream = some .opened ∧
      ch'.effort < 2 * ch.queue.length + 3 * ch.returning.length +
        (loops.map SendLoop.effort).sum := by
  have hk : ch.loops[0]? = some .waiting := by rw [hl]; rfl
  obtain ⟨u,hu,hch'⟩ := follows_loop hw hch (loopStep_take hk hq)
  refine ⟨u, _, hu, hch', hopen, ?_⟩
  simp only [SharedChannel.effort, hq, hl, List.set_cons_zero, List.map_cons, List.sum_cons,
    SendLoop.effort, List.length_cons]
  omega

/-- With an open stream some step brings the channel closer to having delivered all. -/
theorem follows_closer {w : StreamWorld M} {ch : SharedChannel M} (hw : w.Serving)
    (hch : w.channels = [ch]) (hopen : ch.stream = some .opened) (hne : ch.inFlight ≠ []) :
    ∃ u ch', w.Follows u ∧ u.channels = [ch'] ∧ ch'.stream = some .opened ∧
      ch'.effort < ch.effort := by
  have hstep {s : LoopStep} {ch' : SharedChannel M} {out : List M}
      (hs : ch.loopStep s = some (ch', out)) (hopen' : ch'.stream = some .opened)
      (hless : ch'.effort < ch.effort) : ∃ u ch', w.Follows u ∧ u.channels = [ch'] ∧
        ch'.stream = some .opened ∧ ch'.effort < ch.effort := by
    obtain ⟨u,hu,hch'⟩ := follows_loop hw hch hs
    exact ⟨u, ch', hu, hch', hopen', hless⟩
  rcases loops_cases ch.loops with ⟨k,m,hk⟩ | ⟨k,m,hk⟩ | hwait
  · have hsum := Transitions.sum_set SendLoop.effort ch.loops k _ .waiting hk
    refine hstep (loopStep_accepted hk hopen) hopen ?_
    simp only [SharedChannel.effort, SendLoop.effort] at hsum ⊢
    omega
  · have hsum := Transitions.sum_eraseIdx SendLoop.effort ch.loops k _ hk
    refine hstep (loopStep_declareDead hk) hopen ?_
    simp only [SharedChannel.effort, SendLoop.effort, List.length_append, List.length_singleton]
      at hsum ⊢
    omega
  rw [inFlight_waiting ch hwait] at hne
  cases hr : ch.returning with
  | cons m returning =>
    have hk : ch.returning[0]? = some m := by rw [hr]; rfl
    refine hstep (loopStep_putBack hk) hopen ?_
    simp only [SharedChannel.effort, hr, List.length_append, List.length_cons,
      List.eraseIdx_cons_zero, List.length_nil]
    omega
  | nil =>
    obtain ⟨m,queue,hq⟩ := List.exists_cons_of_ne_nil (by simpa [hr] using hne)
    cases hl : ch.loops with
    | nil =>
      -- the message waits for a loop, and the effort only counts messages
      obtain ⟨u,ch',hu,hch',hq',hr',hl',hopen'⟩ := follows_wake hw hch hl
      obtain ⟨v,ch₂,hv,hch₂,hopen₂,hless⟩ := follows_take (hu.serving hw) hch'
        (hopen' hopen) (hq'.trans hq) hl'
      refine ⟨v, ch₂, hu.trans hv, hch₂, hopen₂, ?_⟩
      simpa only [SharedChannel.effort, hl, hq', hr'] using hless
    | cons l loops =>
      have hl' : l = .waiting := hwait l (by simp [hl])
      subst hl'
      obtain ⟨u,ch',hu,hch',hopen',hless⟩ := follows_take hw hch hopen hq hl
      refine ⟨u, ch', hu, hch', hopen', ?_⟩
      simpa only [SharedChannel.effort, hl, List.map_cons, List.sum_cons, SendLoop.effort,
        Nat.zero_add] using hless

theorem follows_drained {w : StreamWorld M} {ch : SharedChannel M} (hw : w.Serving)
    (hch : w.channels = [ch]) (hopen : ch.stream = some .opened) :
    ∃ u, w.Follows u ∧ u.inFlight = [] := by
  induction hn : ch.effort using Nat.strong_induction_on generalizing w ch with
  | _ n ih =>
    by_cases hnil : ch.inFlight = []
    · exact ⟨w, .refl w, by simp [StreamWorld.inFlight, hch, hnil]⟩
    · obtain ⟨u,ch',hu,hch',hopen',hless⟩ := follows_closer hw hch hopen hnil
      obtain ⟨v,hv,hdone⟩ := ih ch'.effort (hn ▸ hless) (hu.serving hw) hch' hopen' rfl
      exact ⟨v, hu.trans hv, hdone⟩

theorem follows_dead_of_sending {w : StreamWorld M} {ch : SharedChannel M} {k : ℕ} {m : M}
    (hw : w.Serving) (hch : w.channels = [ch]) (hk : ch.loops[k]? = some (.sending m)) :
    ∃ u ch', w.Follows u ∧ u.channels = [ch'] ∧ ch'.dead = true := by
  obtain ⟨u,hu,hch'⟩ := follows_loop hw hch (loopStep_rejected hk (hw.attended hch).2.stream)
  have hlt : k < ch.loops.length := (List.getElem?_eq_some_iff.mp hk).1
  have hk' : (ch.loops.set k (.failed m))[k]? = some (.failed m) := List.getElem?_set_self hlt
  obtain ⟨v,hv,hch₂⟩ := follows_loop (hu.serving hw) hch' (loopStep_declareDead hk')
  exact ⟨v, _, hu.trans hv, hch₂, rfl⟩

theorem follows_dead_of_queued {w : StreamWorld M} {ch : SharedChannel M} {m : M}
    {queue : List M} (hw : w.Serving) (hch : w.channels = [ch]) (hk : ch.loops[0]? = some .waiting)
    (hq : ch.queue = m :: queue) : ∃ u ch', w.Follows u ∧ u.channels = [ch'] ∧ ch'.dead = true := by
  obtain ⟨u,hu,hch'⟩ := follows_loop hw hch (loopStep_take hk hq)
  have hlt : 0 < ch.loops.length := (List.getElem?_eq_some_iff.mp hk).1
  have hk' : (ch.loops.set 0 (.sending m))[0]? = some (.sending m) := List.getElem?_set_self hlt
  obtain ⟨v,ch₂,hv,hch₂,hd⟩ := follows_dead_of_sending (hu.serving hw) hch' hk'
  exact ⟨v, ch₂, hu.trans hv, hch₂, hd⟩

/-- A loop with something to send can fail. -/
theorem follows_dead {w : StreamWorld M} {ch : SharedChannel M} (hw : w.Serving)
    (hch : w.channels = [ch]) (hl : ch.loops ≠ []) (hne : ch.inFlight ≠ []) :
    ∃ u ch', w.Follows u ∧ u.channels = [ch'] ∧ ch'.dead = true := by
  rcases loops_cases ch.loops with ⟨k,m,hk⟩ | ⟨k,m,hk⟩ | hwait
  · exact follows_dead_of_sending hw hch hk
  · obtain ⟨u,hu,hch'⟩ := follows_loop hw hch (loopStep_declareDead hk)
    exact ⟨u, _, hu, hch', rfl⟩
  -- all loops wait, so the first one gets a message from the queue, if need be put back before
  obtain ⟨l,loops,hcons⟩ := List.exists_cons_of_ne_nil hl
  have hk : ch.loops[0]? = some .waiting := by
    rw [hcons, List.getElem?_cons_zero, hwait l (by simp [hcons])]
  cases hq : ch.queue with
  | cons m queue => exact follows_dead_of_queued hw hch hk hq
  | nil =>
    rw [inFlight_waiting ch hwait, hq] at hne
    obtain ⟨m,returning,hr⟩ := List.exists_cons_of_ne_nil hne
    have hback : ch.returning[0]? = some m := by
      rw [List.nil_append] at hr
      rw [hr]
      rfl
    obtain ⟨u,hu,hch'⟩ := follows_loop hw hch (loopStep_putBack hback)
    have hqueue : ch.queue ++ [m] = [m] := by rw [hq]; rfl
    obtain ⟨v,ch₂,hv,hch₂,hd⟩ := follows_dead_of_queued (hu.serving hw) hch' hk hqueue
    exact ⟨v, ch₂, hu.trans hv, hch₂, hd⟩

/-- A channel with messages in flight gets a new stream, after the old one has failed. -/
theorem follows_opened {w : StreamWorld M} {ch : SharedChannel M} (hw : w.Serving)
    (hch : w.channels = [ch]) (hne : ch.inFlight ≠ []) :
    ∃ u ch', w.Follows u ∧ u.channels = [ch'] ∧ ch'.stream = some .opened := by
  have hfail {v : StreamWorld M} {d : SharedChannel M} (hv : w.Follows v) (hd : v.channels = [d])
      (hl : d.loops ≠ []) (hne' : d.inFlight ≠ []) :
      ∃ u ch', w.Follows u ∧ u.channels = [ch'] ∧ ch'.stream = some .opened := by
    obtain ⟨x,e,hx,he,hdead⟩ := follows_dead (hv.serving hw) hd hl hne'
    obtain ⟨u,hu,hch'⟩ := follows_restart ((hv.trans hx).serving hw) he hdead
    exact ⟨u, _, (hv.trans hx).trans hu, hch', rfl⟩
  by_cases hl : ch.loops = []
  · obtain ⟨v,d,hv,hd,hq,hr,hld,_⟩ := follows_wake hw hch hl
    refine hfail hv hd (by simp [hld]) ?_
    rw [inFlight_waiting d (by simp [hld]), hq, hr]
    rwa [inFlight_waiting ch (by simp [hl])] at hne
  · exact hfail (.refl w) hch hl hne

end Draining

section Delivery
variable {M : Type}

/-- Every message passed to `Send` is delivered, once, or in flight on the registered channel,
from where further calls can get all of them delivered. -/
structure StreamWorld.NoLoss (w : StreamWorld M) : Prop where
  kept : w.sent.Perm (w.delivered ++ w.onRegistered)
  once : w.delivered.Subperm w.sent
  delivers : ∃ u, w.Follows u ∧ u.delivered.Perm w.sent

theorem StreamWorld.Follows.delivered {w u : StreamWorld M} (h : w.Follows u) (hw : w.Conserved)
    (hu : u.inFlight = []) : u.delivered.Perm w.sent := by
  obtain ⟨ops,hops,hrun,hsent⟩ := h
  have hconserved : u.Conserved := Transitions.invariant_run
    (fun v s v' hv _ => conserved_step v v' s hv) ops w u hw hops hrun
  rw [StreamWorld.Conserved, hu, List.append_nil, hsent] at hconserved
  exact hconserved.symm

theorem noLoss_of_serving (w : StreamWorld M) (hw : w.Serving) (hc : w.Conserved) : w.NoLoss := by
  refine ⟨onRegistered_serving w hw ▸ hc, ?_, ?_⟩
  · exact (List.sublist_append_left w.delivered w.inFlight).subperm.trans hc.symm.subperm
  by_cases hnil : w.inFlight = []
  · exact ⟨w, .refl w, (StreamWorld.Follows.refl w).delivered hc hnil⟩
  rcases hw.channel with ⟨_,hch⟩ | ⟨ch,_,hch,_⟩
  · exact absurd (by rw [StreamWorld.inFlight, hch]; rfl) hnil
  have hne : ch.inFlight ≠ [] := by simpa [StreamWorld.inFlight, hch] using hnil
  obtain ⟨v,d,hv,hd,hopen⟩ := follows_opened hw hch hne
  obtain ⟨u,hu,hdone⟩ := follows_drained (hv.serving hw) hd hopen
  exact ⟨u, hv.trans hu, (hv.trans hu).delivered hc hdone⟩

/-- No message is lost or delivered twice as long as no channel is registered over another
one and restarts succeed. -/
theorem no_message_lost (target : String) (ops : List (WorldStep M)) (w : StreamWorld M)
    (hops : Transitions.Allowed StreamWorld.step StreamWorld.Orderly (.start target) ops)
    (hrun : (StreamWorld.start target).run ops = some w) : w.NoLoss := by
  have hserving : (StreamWorld.start target : StreamWorld M).Serving :=
    ⟨rfl, .inl ⟨rfl, rfl⟩, 0, fun _ _ => rfl⟩
  have hconserved : (StreamWorld.start target : StreamWorld M).Conserved := .nil
  apply noLoss_of_serving
  · exact Transitions.invariant_run (fun u s u' => serving_step u u' s) ops _ w hserving hops hrun
  · exact Transitions.invariant_run (fun u s u' hu _ => conserved_step u u' s hu) ops _ w
      hconserved hops hrun

theorem no_message_lost_on_failure : ∃ w : StreamWorld String,
    (StreamWorld.start "localhost:9090").run failingRun = some w ∧
    w.onRegistered = ["first"] ∧ w.NoLoss := by
  have hend : ∃ w, (StreamWorld.start "localhost:9090").run failingRun = some w ∧
      w.onRegistered = ["first"] := ⟨_, rfl, rfl⟩
  obtain ⟨w,hw,hon⟩ := hend
  refine ⟨w, hw, hon, no_message_lost "localhost:9090" failingRun w ?_ hw⟩
  refine ⟨trivial, ?_⟩
  rintro _ ⟨rfl⟩
  refine ⟨fun _ _ => rfl, ?_⟩
  rintro _ ⟨rfl⟩
  exact ⟨rfl, fun _ _ => Transitions.allowed_of_forall _ _ (by simp [StreamWorld.Orderly])⟩

/-- Two calls find no channel, and the second registers its own over that of the first. What is
sent on the first goes back to a queue that no later call will find. -/
theorem message_lost_on_first_channel : ∃ w : StreamWorld String,
    (StreamWorld.start "localhost:9090").run
      [.getStream 0 "orchestrator", .getStream 1 "orchestrator", .init 0 .works, .init 1 .works,
        .register 0, .start 0, .register 1, .start 1, .send 0 "result", .loop 0 (.take 0),
        .loop 0 (.rejected 0), .loop 0 (.declareDead 0), .loop 0 (.putBack 0)] = some w ∧
    w.sent = ["result"] ∧ w.delivered = [] ∧ w.registered = some 1 ∧ w.onRegistered = [] ∧
    ¬w.NoLoss := by
  refine ⟨_, rfl, rfl, rfl, rfl, rfl, fun h => ?_⟩
  exact absurd h.kept.length_eq (by decide)

end Delivery
end Clouditor
