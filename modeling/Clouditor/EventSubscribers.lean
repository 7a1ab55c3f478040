import Clouditor.AssessmentConfiguration
import Clouditor.FairRuns
import Mathlib.Tactic.IntervalCases

/-! The one channel of metric change events and the subscribers that all read from it. -/
namespace Clouditor
set_option autoImplicit false

/-- How a stream refuses an event: with `io.EOF` or with another error. -/
inductive SendFailure where
  | eof
  | other (e : Err)

/-- Where a call of `SubscribeMetricChangeEvents` is. Events are known by their number. -/
inductive SubscriberPhase where
  | notCalled
  | waiting
  | sending (n : ℕ)
  | returned (err : Option Err)

/-- The capacity of the channel `events`. -/
def eventsCapacity : ℕ := 1000

/-- All events ever put into the channel. Those from number `taken` on are still in it. -/
structure EventState where
  published : List MetricChangeEvent
  taken : ℕ
  phase : ℕ → SubscriberPhase
  connected : ℕ → Bool
  sent : ℕ → List ℕ

inductive EventOp where
  | subscribe (i : ℕ)
  | publish (event : MetricChangeEvent)
  | take (i : ℕ)
  | send (i : ℕ) (failure : SendFailure)
  | disconnect (i : ℕ)

def sendResult : SendFailure → Option Err
  | .eof => none
  | .other e => some ⟨some .unknown, "cannot stream response to the client: " ++ e.error⟩

def EventState.step (w : EventState) : EventOp → Option EventState
  | .subscribe i =>
    match w.phase i with
    | .notCalled => some { w with
        phase := Function.update w.phase i .waiting
        connected := Function.update w.connected i true }
    | _ => none
  -- a sender waits while the channel is full
  | .publish event =>
    if w.published.length - w.taken < eventsCapacity then
      some { w with published := w.published ++ [event] }
    else none
  | .take i =>
    match w.phase i with
    | .waiting =>
      if w.taken < w.published.length then
        some { w with
          taken := w.taken + 1
          phase := Function.update w.phase i (.sending w.taken) }
      else none
    | _ => none
  | .send i failure =>
    match w.phase i with
    | .sending n =>
      if w.connected i then
        some { w with
          phase := Function.update w.phase i .waiting
          sent := Function.update w.sent i (w.sent i ++ [n]) }
      -- the event has left the channel and goes to nobody else
      else some { w with phase := Function.update w.phase i (.returned (sendResult failure)) }
    | _ => none
  | .disconnect i => some { w with connected := Function.update w.connected i false }

/-- The steps, by what they find. -/
inductive EventStep (w : EventState) : EventOp → EventState → Prop where
  | subscribe (i : ℕ) (h : w.phase i = .notCalled) : EventStep w (.subscribe i) { w with
      phase := Function.update w.phase i .waiting
      connected := Function.update w.connected i true }
  | publish (event : MetricChangeEvent) : EventStep w (.publish event)
      { w with published := w.published ++ [event] }
  | take (i : ℕ) (h : w.phase i = .waiting) (hlt : w.taken < w.published.length) :
      EventStep w (.take i) { w with
        taken := w.taken + 1
        phase := Function.update w.phase i (.sending w.taken) }
  | sent (i : ℕ) (failure : SendFailure) (n : ℕ) (h : w.phase i = .sending n)
      (hconnected : w.connected i = true) : EventStep w (.send i failure) { w with
        phase := Function.update w.phase i .waiting
        sent := Function.update w.sent i (w.sent i ++ [n]) }
  | lost (i : ℕ) (failure : SendFailure) (n : ℕ) (h : w.phase i = .sending n)
      (hbroken : w.connected i = false) : EventStep w (.send i failure) { w with
        phase := Function.update w.phase i (.returned (sendResult failure)) }
  | disconnect (i : ℕ) : EventStep w (.disconnect i)
      { w with connected := Function.update w.connected i false }

theorem EventStep.of_step {w w' : EventState} {op : EventOp} (h : w.step op = some w') :
    EventStep w op w' := by
  cases op with
  | subscribe i =>
    simp only [EventState.step] at h
    split at h
    · rename_i hi
      cases h
      exact .subscribe i hi
    · cases h
  | publish event =>
    simp only [EventState.step] at h
    split at h
    · cases h
      exact .publish event
    · cases h
  | take i =>
    simp only [EventState.step] at h
    split at h
    · rename_i hi
      split at h
      · rename_i hlt
        cases h
        exact .take i hi hlt
      · cases h
    · cases h
  | send i failure =>
    simp only [EventState.step] at h
    split at h
    · rename_i n hi
      split at h
      · rename_i hconnected
        cases h
        exact .sent i failure n hi hconnected
      · rename_i hbroken
        cases h
        exact .lost i failure n hi (by simpa using hbroken)
    · cases h
  | disconnect i =>
    cases h
    exact .disconnect i

def EventState.start : EventState := ⟨[], 0, fun _ => .notCalled, fun _ => false, fun _ => []⟩

/-- The loop of the subscriber runs. -/
def EventState.Running (w : EventState) (i : ℕ) : Prop :=
  w.phase i = .waiting ∨ ∃ n, w.phase i = .sending n

def FairScheduling (e : FairRuns.Execution EventState.step .start) : Prop :=
  ∀ i, e.WeaklyFair (· = .take i) ∧ e.WeaklyFair (fun op => ∃ failure, op = .send i failure)

/-- Event `n` is put into the channel at `t`, while `i` is connected, and `i` stays so. -/
structure PublishedTo (e : FairRuns.Execution EventState.step .start) (t n i : ℕ) : Prop where
  publish : ∃ event, e.op t = some (.publish event)
  number : (e.state t).published.length = n
  running : (e.state t).Running i
  connected : ∀ m, t ≤ m → (e.state m).connected i = true

/-- Each event reaches every subscriber that is connected, also if another one breaks while it
has the event. -/
structure EventsDelivered (e : FairRuns.Execution EventState.step .start) : Prop where
  delivered : ∀ t n i, PublishedTo e t n i → ∃ m, n ∈ (e.state m).sent i
  unharmed : ∀ t n i j u failure, PublishedTo e t n i → j ≠ i →
    e.op u = some (.send j failure) → (e.state u).phase j = .sending n →
    (e.state u).connected j = false → ∃ m, n ∈ (e.state m).sent i

/-- A subscription starts while no loop runs. -/
def OneLoop (w : EventState) : EventOp → Prop
  | .subscribe _ => ∀ j, ¬ w.Running j
  | _ => True

/-- At most one loop runs, and nothing is taken that has not been put into the channel. -/
structure Orderly (w : EventState) : Prop where
  alone : ∀ i j, w.Running i → w.Running j → i = j
  taken_le : w.taken ≤ w.published.length

theorem not_running_of_notCalled {w : EventState} {i : ℕ} (h : w.phase i = .notCalled) :
    ¬ w.Running i := by
  simp [EventState.Running, h]

/-- Only the phase of one subscriber matters for whether its loop runs. -/
theorem EventState.Running.of_phase {w w' : EventState} {i : ℕ} (h : w.Running i)
    (hphase : w'.phase i = w.phase i) : w'.Running i := by
  simpa [EventState.Running, hphase] using h

section Steps
variable {w w' : EventState} {op : EventOp} {i : ℕ}

/-- A step leaves a subscriber where it is, starts its loop, or is one of the running loop, which
goes on if it is connected. -/
theorem EventStep.phase_cases (hstep : EventStep w op w') (i : ℕ) :
    w'.phase i = w.phase i ∨ (op = .subscribe i ∧ w.phase i = .notCalled) ∨
      (w.Running i ∧ (w.connected i = true → w'.Running i)) := by
  cases hstep with
  | subscribe j hj =>
    by_cases hij : i = j
    · subst hij
      exact .inr (.inl ⟨rfl, hj⟩)
    · exact .inl (Function.update_of_ne hij _ _)
  | publish event => exact .inl rfl
  | take j hj hlt =>
    by_cases hij : i = j
    · subst hij
      exact .inr (.inr ⟨.inl hj, fun _ => .inr ⟨w.taken, Function.update_self _ _ _⟩⟩)
    · exact .inl (Function.update_of_ne hij _ _)
  | sent j failure n hj _ =>
    by_cases hij : i = j
    · subst hij
      exact .inr (.inr ⟨.inr ⟨n, hj⟩, fun _ => .inl (Function.update_self _ _ _)⟩)
    · exact .inl (Function.update_of_ne hij _ _)
  | lost j failure n hj hbroken =>
    by_cases hij : i = j
    · subst hij
      refine .inr (.inr ⟨.inr ⟨n, hj⟩, fun hconnected => ?_⟩)
      rw [hbroken] at hconnected
      cases hconnected
    · exact .inl (Function.update_of_ne hij _ _)
  | disconnect j => exact .inl rfl

theorem running_before (hstep : EventStep w op w') (h : w'.Running i) :
    w.Running i ∨ op = .subscribe i := by
  rcases hstep.phase_cases i with hsame | ⟨hop,_⟩ | ⟨hrunning,_⟩
  · exact .inl (h.of_phase hsame.symm)
  · exact .inr hop
  · exact .inl hrunning

/-- A loop ends only after its connection. -/
theorem running_after (hstep : EventStep w op w') (h : w.Running i)
    (hconnected : w.connected i = true) : w'.Running i := by
  rcases hstep.phase_cases i with hsame | ⟨_,hnot⟩ | ⟨_,hrunning⟩
  · exact h.of_phase hsame
  · exact absurd h (not_running_of_notCalled hnot)
  · exact hrunning hconnected

theorem orderly_step (h : Orderly w) (hone : OneLoop w op) (hstep : EventStep w op w') :
    Orderly w' := by
  refine ⟨fun i j hi hj => ?_, ?_⟩
  · rcases running_before hstep hi with hi | rfl
    · rcases running_before hstep hj with hj | rfl
      · exact h.alone i j hi hj
      · exact absurd hi (hone i)
    · rcases running_before hstep hj with hj | hop
      · exact absurd hj (hone j)
      · cases hop
        rfl
  · cases hstep with
    | publish event =>
      have hle := h.taken_le
      simp only [List.length_append]
      omega
    | take j hj hlt => exact hlt
    | subscribe | sent | lost | disconnect => exact h.taken_le

/-- `i` is the only subscriber whose loop runs, and it is connected. -/
structure Alone (i : ℕ) (w : EventState) : Prop where
  orderly : Orderly w
  running : w.Running i
  connected : w.connected i = true

/-- All that can happen to a subscriber that is alone, and to the channel. -/
theorem alone_cases (h : Alone i w) (hstep : EventStep w op w') :
    (op = .take i ∧ w.phase i = .waiting ∧ w'.phase i = .sending w.taken ∧
      w'.taken = w.taken + 1 ∧ w'.published = w.published) ∨
    (∃ failure n, op = .send i failure ∧ w.phase i = .sending n ∧ w'.phase i = .waiting ∧
      n ∈ w'.sent i ∧ w'.taken = w.taken ∧ w'.published = w.published) ∨
    (op ≠ .take i ∧ (∀ failure, op ≠ .send i failure) ∧ w'.phase i = w.phase i ∧
      w'.taken = w.taken ∧ w.published.length ≤ w'.published.length) := by
  cases hstep with
  | subscribe j hj =>
    have hne : i ≠ j := fun hij => not_running_of_notCalled hj (hij ▸ h.running)
    refine .inr (.inr ⟨by simp, by simp, ?_, rfl, Nat.le_refl _⟩)
    exact Function.update_of_ne hne _ _
  | publish event => exact .inr (.inr ⟨by simp, by simp, rfl, rfl, by simp⟩)
  | take j hj hlt =>
    obtain rfl := h.orderly.alone i j h.running (.inl hj)
    exact .inl ⟨rfl, hj, Function.update_self _ _ _, rfl, rfl⟩
  | sent j failure n hj _ =>
    obtain rfl := h.orderly.alone i j h.running (.inr ⟨n, hj⟩)
    refine .inr (.inl ⟨failure, n, rfl, hj, Function.update_self _ _ _, ?_, rfl, rfl⟩)
    simp
  | lost j failure n hj hbroken =>
    obtain rfl := h.orderly.alone i j h.running (.inr ⟨n, hj⟩)
    rw [h.connected] at hbroken
    cases hbroken
  | disconnect j => exact .inr (.inr ⟨by simp, by simp, rfl, rfl, Nat.le_refl _⟩)

end Steps

section Delivery
variable {e : FairRuns.Execution EventState.step .start} {i t n x c : ℕ}

theorem sends_eventually (hfair : FairScheduling e) (halone : ∀ m, t ≤ m → Alone i (e.state m))
    (hphase : (e.state t).phase i = .sending x) (htaken : (e.state t).taken = c) :
    ∃ m, t ≤ m ∧ (e.state m).phase i = .waiting ∧ (e.state m).taken = c ∧
      x ∈ (e.state m).sent i := by
  refine e.leads_to (hfair i).2 (I := Alone i)
    (P := fun w => w.phase i = .sending x ∧ w.taken = c)
    (Q := fun w => w.phase i = .waiting ∧ w.taken = c ∧ x ∈ w.sent i) halone ?_ ?_ ?_
    ⟨hphase, htaken⟩
  · intro w op w' h _ hP hstep
    rcases alone_cases h (.of_step hstep) with ⟨_,hw,_⟩ | ⟨_,y,_,hy,hw',hsent,htk,_⟩ |
      ⟨_,_,hw',htk,_⟩
    · rw [hP.1] at hw
      cases hw
    · rw [hP.1] at hy
      cases hy
      exact .inr ⟨hw', htk.trans hP.2, hsent⟩
    · exact .inl ⟨hw'.trans hP.1, htk.trans hP.2⟩
  · rintro w op w' h _ hP ⟨failure,rfl⟩ hstep
    rcases alone_cases h (.of_step hstep) with ⟨hop,_⟩ | ⟨_,y,_,hy,hw',hsent,htk,_⟩ | ⟨_,hop,_⟩
    · cases hop
    · rw [hP.1] at hy
      cases hy
      exact ⟨hw', htk.trans hP.2, hsent⟩
    · exact absurd rfl (hop failure)
  · intro w h hP
    exact ⟨.send i .eof, ⟨.eof, rfl⟩, by simp [EventState.step, hP.1, h.connected]⟩

theorem takes_eventually (hfair : FairScheduling e) (halone : ∀ m, t ≤ m → Alone i (e.state m))
    (hphase : (e.state t).phase i = .waiting) (htaken : (e.state t).taken = c)
    (hlt : c < (e.state t).published.length) :
    ∃ m, t ≤ m ∧ (e.state m).phase i = .sending c ∧ (e.state m).taken = c + 1 := by
  refine e.leads_to (hfair i).1 (I := Alone i)
    (P := fun w => w.phase i = .waiting ∧ w.taken = c ∧ c < w.published.length)
    (Q := fun w => w.phase i = .sending c ∧ w.taken = c + 1) halone ?_ ?_ ?_
    ⟨hphase, htaken, hlt⟩
  · intro w op w' h _ hP hstep
    rcases alone_cases h (.of_step hstep) with ⟨_,_,hw',htk,_⟩ | ⟨_,y,_,hy,_⟩ | ⟨_,_,hw',htk,hlen⟩
    · rw [hP.2.1] at hw' htk
      exact .inr ⟨hw', htk⟩
    · rw [hP.1] at hy
      cases hy
    · exact .inl ⟨hw'.trans hP.1, htk.trans hP.2.1, hP.2.2.trans_le hlen⟩
  · rintro w op w' h _ hP rfl hstep
    rcases alone_cases h (.of_step hstep) with ⟨_,_,hw',htk,_⟩ | ⟨_,_,hop,_⟩ | ⟨hop,_⟩
    · rw [hP.2.1] at hw' htk
      exact ⟨hw', htk⟩
    · cases hop
    · exact absurd rfl hop
  · intro w h hP
    have hmore : w.taken < w.published.length := by
      rw [hP.2.1]
      exact hP.2.2
    exact ⟨.take i, rfl, by simp [EventState.step, hP.1, hmore]⟩

/-- A waiting subscriber takes the next event and sends it. -/
theorem next_event_sent (hfair : FairScheduling e) (halone : ∀ m, t ≤ m → Alone i (e.state m))
    (hphase : (e.state t).phase i = .waiting) (htaken : (e.state t).taken = c)
    (hlt : c < (e.state t).published.length) :
    ∃ m, t ≤ m ∧ (e.state m).phase i = .waiting ∧ (e.state m).taken = c + 1 ∧
      c ∈ (e.state m).sent i := by
  obtain ⟨u,hu,hsending,htaken'⟩ := takes_eventually hfair halone hphase htaken hlt
  obtain ⟨v,hv,hrest⟩ := sends_eventually hfair (fun m hm => halone m (hu.trans hm)) hsending
    htaken'
  exact ⟨v, hu.trans hv, hrest⟩

theorem published_mono (halone : ∀ m, t ≤ m → Alone i (e.state m)) {m : ℕ} (hm : t ≤ m) :
    (e.state t).published.length ≤ (e.state m).published.length := by
  refine e.stays (P := fun w => (e.state t).published.length ≤ w.published.length)
    (Nat.le_refl _) (fun k op hk ho hle => hle.trans ?_) m hm
  rcases alone_cases (halone k hk) (.of_step (e.next k op ho)) with ⟨_,_,_,_,hp⟩ |
    ⟨_,_,_,_,_,_,_,hp⟩ | ⟨_,_,_,_,hlen⟩
  · rw [hp]
  · rw [hp]
  · exact hlen

/-- The events in front of number `n` are taken and sent one by one. -/
theorem delivered_of_waiting (hfair : FairScheduling e) (k : ℕ)
    (halone : ∀ m, t ≤ m → Alone i (e.state m)) (hphase : (e.state t).phase i = .waiting)
    (hk : (e.state t).taken + k = n) (hlt : n < (e.state t).published.length) :
    ∃ m, n ∈ (e.state m).sent i := by
  induction k generalizing t with
  | zero =>
    obtain ⟨m,_,_,_,hsent⟩ := next_event_sent hfair halone hphase hk hlt
    exact ⟨m, hsent⟩
  | succ k ih =>
    obtain ⟨m,hm,hwaiting,htaken,_⟩ := next_event_sent hfair halone hphase rfl (by omega)
    exact ih (fun m' hm' => halone m' (hm.trans hm')) hwaiting (by omega)
      (hlt.trans_le (published_mono halone hm))

theorem alone_of_publishedTo (hone : ∀ m op, e.op m = some op → OneLoop (e.state m) op)
    (h : PublishedTo e t n i) (m : ℕ) (hm : t ≤ m) : Alone i (e.state m) := by
  have horderly : ∀ m, 0 ≤ m → Orderly (e.state m) := by
    refine e.stays ?_ (fun m op _ ho hm =>
      orderly_step hm (hone m op ho) (.of_step (e.next m op ho)))
    rw [e.start]
    exact ⟨fun _ _ hi => absurd hi (not_running_of_notCalled rfl), Nat.le_refl 0⟩
  have hrunning : ∀ m, t ≤ m → (e.state m).Running i :=
    e.stays (P := fun w => w.Running i) h.running (fun m op hm ho hi =>
      running_after (.of_step (e.next m op ho)) hi (h.connected m hm))
  exact ⟨horderly m (Nat.zero_le m), hrunning m hm, h.connected m hm⟩

theorem publish_step {w w' : EventState} {event : MetricChangeEvent}
    (hstep : EventStep w (.publish event) w') :
    w'.published.length = w.published.length + 1 ∧ w'.taken = w.taken := by
  cases hstep
  simp

/-- If a subscription starts only while no other loop runs, each event reaches every subscriber
that is connected. -/
theorem events_delivered (e : FairRuns.Execution EventState.step .start)
    (hfair : FairScheduling e) (hone : ∀ m op, e.op m = some op → OneLoop (e.state m) op) :
    EventsDelivered e := by
  have hdelivered (t n i : ℕ) (h : PublishedTo e t n i) : ∃ m, n ∈ (e.state m).sent i := by
    have halone := alone_of_publishedTo hone h
    obtain ⟨event,hop⟩ := h.publish
    obtain ⟨hlen,htaken⟩ := publish_step (.of_step (e.next t _ hop))
    have hle := (halone t (Nat.le_refl t)).orderly.taken_le
    have hnumber := h.number
    -- an event that is being sent has left the channel and does not stand in the way
    obtain ⟨u,hu,hwaiting,hsame⟩ : ∃ u, t + 1 ≤ u ∧ (e.state u).phase i = .waiting ∧
        (e.state u).taken = (e.state t).taken := by
      rcases (halone (t + 1) (by omega)).running with hwaiting | ⟨x,hsending⟩
      · exact ⟨t + 1, Nat.le_refl _, hwaiting, htaken⟩
      · obtain ⟨u,hu,hwaiting,hsame,_⟩ :=
          sends_eventually hfair (fun m hm => halone m (by omega)) hsending htaken
        exact ⟨u, hu, hwaiting, hsame⟩
    have hmono := published_mono (fun m hm => halone m (by omega)) hu
    exact delivered_of_waiting hfair (n - (e.state t).taken) (fun m hm => halone m (by omega))
      hwaiting (by omega) (by omega)
  exact ⟨hdelivered, fun t n i _ _ _ h _ _ _ _ => hdelivered t n i h⟩

end Delivery

section Samples
variable {ops : List EventOp} {s : EventState}

/-- A run that leaves neither an event in the channel nor one that is being sent is fair. -/
theorem fair_ofRun (hrun : Transitions.run EventState.step .start ops = some s)
    (hempty : s.published.length ≤ s.taken) (hsend : ∀ i n, s.phase i ≠ .sending n) :
    FairScheduling (FairRuns.ofRun hrun) := by
  have hnone {op : EventOp} (h : ∀ s', ¬ EventStep s op s') : s.step op = none := by
    cases hs : s.step op with
    | none => rfl
    | some s' => exact absurd (.of_step hs) (h s')
  refine fun i => ⟨FairRuns.weaklyFair_ofRun hrun (fun op hop => hnone (fun s' hs => ?_)),
    FairRuns.weaklyFair_ofRun hrun (fun op hop => hnone (fun s' hs => ?_))⟩
  · subst hop
    cases hs with
    | take _ _ hlt => omega
  · obtain ⟨failure,rfl⟩ := hop
    cases hs with
    | sent _ _ n hi _ => exact hsend i n hi
    | lost _ _ n hi _ => exact hsend i n hi

/-- One subscriber and one event. -/
def deliveryRun : List EventOp :=
  [.subscribe 0, .publish (.metadataChanged "BootLogging"), .take 0, .send 0 .eof]

theorem events_delivered_once :
    ∃ e : FairRuns.Execution EventState.step .start, FairScheduling e ∧ PublishedTo e 1 0 0 ∧
      EventsDelivered e := by
  obtain ⟨s,hrun,hempty,hphase,hconnected⟩ : ∃ s,
      Transitions.run EventState.step .start deliveryRun = some s ∧
      s.published.length ≤ s.taken ∧ (∀ i n, s.phase i ≠ .sending n) ∧ s.connected 0 = true := by
    refine ⟨_, rfl, by decide, fun i n => ?_, rfl⟩
    by_cases hi : i = 0 <;> simp [EventState.start, hi]
  have hfair := fair_ofRun hrun hempty hphase
  refine ⟨FairRuns.ofRun hrun, hfair, ⟨⟨_, rfl⟩, rfl, .inl rfl, fun m hm => ?_⟩,
    events_delivered _ hfair (fun m op hop => ?_)⟩
  · rcases Nat.lt_or_ge m 4 with hlt | hge
    · interval_cases m <;> rfl
    · rw [FairRuns.ofRun_state_of_le hrun hge, hconnected]
  · have hlt : m < 4 := (List.getElem?_eq_some_iff.mp hop).1
    -- the only subscription comes first
    interval_cases m <;> cases hop
    · exact fun j => not_running_of_notCalled rfl
    · trivial
    · trivial
    · trivial

/-- The second subscriber has broken off but still takes the next event: the first one, which
stays connected, never gets it. -/
def lossRun : List EventOp :=
  [.subscribe 0, .subscribe 1, .disconnect 1, .publish (.metadataChanged "BootLogging"), .take 1,
    .send 1 .eof]

theorem event_lost_by_broken_subscriber :
    ∃ e : FairRuns.Execution EventState.step .start, FairScheduling e ∧ PublishedTo e 3 0 0 ∧
      (∃ failure, e.op 5 = some (.send 1 failure)) ∧ (e.state 5).phase 1 = .sending 0 ∧
      (e.state 5).connected 1 = false ∧ ∀ m, 0 ∉ (e.state m).sent 0 := by
  obtain ⟨s,hrun,hempty,hphase,hconnected,hsent⟩ : ∃ s,
      Transitions.run EventState.step .start lossRun = some s ∧
      s.published.length ≤ s.taken ∧ (∀ i n, s.phase i ≠ .sending n) ∧ s.connected 0 = true ∧
      s.sent 0 = [] := by
    refine ⟨_, rfl, by decide, fun i n => ?_, rfl, rfl⟩
    by_cases h0 : i = 0 <;> by_cases h1 : i = 1 <;> simp [EventState.start, h0, h1]
  refine ⟨FairRuns.ofRun hrun, fair_ofRun hrun hempty hphase,
    ⟨⟨_, rfl⟩, rfl, .inl rfl, fun m hm => ?_⟩, ⟨_, rfl⟩, rfl, rfl, fun m => ?_⟩
  · rcases Nat.lt_or_ge m 6 with hlt | hge
    · interval_cases m <;> rfl
    · rw [FairRuns.ofRun_state_of_le hrun hge, hconnected]
  · rcases Nat.lt_or_ge m 6 with hlt | hge
    · interval_cases m <;> exact List.not_mem_nil
    · rw [FairRuns.ofRun_state_of_le hrun hge, hsent]
      exact List.not_mem_nil

end Samples
end Clouditor
