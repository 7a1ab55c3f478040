import Clouditor.StreamWorld

/-! At most one goroutine sends to a gRPC stream: when the restarts of a channel do not
overlap, and not in general. -/
namespace Clouditor
set_option autoImplicit false

section SingleSender
variable {M : Type}

/-- The channel whose dead flag the call has read and not cleared yet. -/
def GetStreamCall.restarts : GetStreamCall → Option ℕ
  | .restarting c | .reviving c => some c
  | _ => none

/-- The channel on which the call is going to start a loop. -/
def GetStreamCall.starts : GetStreamCall → Option ℕ
  | .starting c => some c
  | p => p.restarts

/-- The channel the call has in hand and may come to start a loop on. -/
def GetStreamCall.names : GetStreamCall → Option ℕ
  | .found c => some c
  | p => p.starts

theorem starts_of_restarts (p : GetStreamCall) (c : ℕ) (h : p.restarts = some c) :
    p.starts = some c := by
  cases p with
  | restarting | reviving => exact h
  | _ => cases h

theorem starts_cases (p : GetStreamCall) (c : ℕ) (h : p.starts = some c) :
    p.restarts = some c ∨ p = .starting c := by
  cases p with
  | starting d =>
    cases h
    exact .inr rfl
  | _ => exact .inl h

theorem names_of_starts (p : GetStreamCall) (c : ℕ) (h : p.starts = some c) :
    p.names = some c := by
  cases p with
  | found => cases h
  | _ => exact h

/-- A call finds a channel dead only while no other call restarts it. -/
def StreamWorld.LoneRestart (w : StreamWorld M) : WorldStep M → Prop
  | .readDead i => ∀ c ch, w.calls i = .found c → w.channels[c]? = some ch → ch.dead = true →
      ∀ j, (w.calls j).restarts ≠ some c
  | _ => True

/-- A channel has one loop or one call that will start it, and none of both while dead. -/
structure Tended (calls : ℕ → GetStreamCall) (c : ℕ) (ch : SharedChannel M) : Prop where
  alone : ∀ i j, (calls i).starts = some c → (calls j).starts = some c → i = j
  restarts : ∀ i, (calls i).restarts = some c → ch.dead = true
  starting : ∀ i, calls i = .starting c → ch.dead = false ∧ ch.loops = []
  single : ch.loops.length ≤ 1
  dead : ch.dead = true → ch.loops = []

/-- Numbers of channels are those of channels that exist. -/
structure StreamWorld.Numbered (w : StreamWorld M) : Prop where
  registered : ∀ c, w.registered = some c → c < w.channels.length
  calls : ∀ i c, (w.calls i).names = some c → c < w.channels.length

def StreamWorld.OneSender (w : StreamWorld M) : Prop :=
  ∀ (c : ℕ) (ch : SharedChannel M), w.channels[c]? = some ch → Tended w.calls c ch

section
variable {calls : ℕ → GetStreamCall} {c i : ℕ} {p : GetStreamCall} {ch ch' : SharedChannel M}

theorem Tended.goto (h : Tended calls c ch) (i : ℕ) (p : GetStreamCall)
    (hp : p.starts ≠ some c) : Tended (Function.update calls i p) c ch := by
  have hcall (j : ℕ) (q : GetStreamCall → Prop) (hq : ∀ r, q r → r.starts = some c)
      (hj : q (Function.update calls i p j)) : q (calls j) := by
    rcases Transitions.update_cases hj with ⟨_,hnew⟩ | ⟨_,hold⟩
    · exact absurd (hq p hnew) hp
    · exact hold
  exact {
    alone := fun j k hj hk => h.alone j k (hcall j (·.starts = some c) (fun _ => id) hj)
      (hcall k (·.starts = some c) (fun _ => id) hk)
    restarts := fun j hj => h.restarts j
      (hcall j (·.restarts = some c) (fun r => starts_of_restarts r c) hj)
    starting := fun j hj => h.starting j (hcall j (· = .starting c) (by rintro _ rfl; rfl) hj)
    single := h.single
    dead := h.dead }

/-- Where no other call will start a loop, only the one call and the channel count. -/
theorem tended_of_others (hothers : ∀ j, j ≠ i → (calls j).starts ≠ some c)
    (hr : p.restarts = some c → ch.dead = true)
    (hs : p = .starting c → ch.dead = false ∧ ch.loops = [])
    (hl : ch.loops.length ≤ 1) (hd : ch.dead = true → ch.loops = []) :
    Tended (Function.update calls i p) c ch := by
  have hcall (j : ℕ) (q : GetStreamCall → Prop) (hq : ∀ r, q r → r.starts = some c)
      (hj : q (Function.update calls i p j)) : j = i ∧ q p := by
    rcases Transitions.update_cases hj with hnew | ⟨hij,hold⟩
    · exact hnew
    · exact absurd (hq _ hold) (hothers j hij)
  exact {
    alone := fun j k hj hk => (hcall j (·.starts = some c) (fun _ => id) hj).1.trans
      (hcall k (·.starts = some c) (fun _ => id) hk).1.symm
    restarts := fun j hj =>
      hr (hcall j (·.restarts = some c) (fun r => starts_of_restarts r c) hj).2
    starting := fun j hj => hs (hcall j (· = .starting c) (by rintro _ rfl; rfl) hj).2
    single := hl
    dead := hd }

theorem Tended.others (h : Tended calls c ch) (hi : (calls i).starts = some c) (j : ℕ)
    (hj : j ≠ i) : (calls j).starts ≠ some c :=
  fun hs => hj (h.alone j i hs hi)

/-- Where a loop runs, the channel lives and no call will start one. -/
theorem Tended.of_loop (h : Tended calls c ch) (hl : ch.loops ≠ []) (j : ℕ) :
    (calls j).starts ≠ some c := by
  intro hstart
  rcases starts_cases _ c hstart with hr | hs
  · exact hl (h.dead (h.restarts j hr))
  · exact hl (h.starting j hs).2

theorem tended_loopStep {s : LoopStep} {out : List M} (h : Tended calls c ch)
    (hs : ch.loopStep s = some (ch', out)) : Tended calls c ch' := by
  have hne {k : ℕ} {l : SendLoop M} (hk : ch.loops[k]? = some l) : ch.loops ≠ [] := by
    rintro hnil
    simp [hnil] at hk
  -- with a running loop only the number of loops has to be looked at
  have hloop (hl : ch.loops ≠ []) (hlen : ch'.loops.length ≤ 1)
      (hd : ch'.dead = true → ch'.loops = []) : Tended calls c ch' := {
    alone := h.alone
    restarts := fun j hj => absurd (starts_of_restarts _ c hj) (h.of_loop hl j)
    starting := fun j hj => absurd (by rw [hj]; rfl) (h.of_loop hl j)
    single := hlen
    dead := hd }
  have hsame {k : ℕ} {l : SendLoop M} (hk : ch.loops[k]? = some l)
      (hlen : ch'.loops.length = ch.loops.length) (hd : ch'.dead = ch.dead) :
      Tended calls c ch' :=
    hloop (hne hk) (hlen ▸ h.single) (fun hdead => absurd (h.dead (hd ▸ hdead)) (hne hk))
  rcases loopStep_cases ch ch' s out hs with ⟨k,m,queue,hk,_,_,rfl⟩ | ⟨k,m,hk,_,rfl⟩ |
    ⟨k,m,hk,_,rfl⟩ | ⟨k,m,hk,_,rfl⟩ | ⟨k,m,_,_,rfl⟩
  · exact hsame hk List.length_set rfl
  · exact hsame hk List.length_set rfl
  · exact hsame hk List.length_set rfl
  · -- the loop that fails was the only one
    have hlt : k < ch.loops.length := (List.getElem?_eq_some_iff.mp hk).1
    have hlen : (ch.loops.eraseIdx k).length = 0 := by
      rw [List.length_eraseIdx_of_lt hlt]
      have := h.single
      omega
    exact hloop (hne hk) (by simp [hlen]) (fun _ => List.length_eq_zero_iff.mp hlen)
  · exact ⟨h.alone, h.restarts, h.starting, h.single, h.dead⟩

end

/-- Only the channel of the new place of the call is looked at again. -/
theorem oneSender_goto (w : StreamWorld M) (i : ℕ) (p : GetStreamCall) (h : w.OneSender)
    (hp : ∀ c ch, w.channels[c]? = some ch → p.starts = some c →
      Tended (Function.update w.calls i p) c ch) : (w.goto i p).OneSender := by
  intro c ch hc
  by_cases hs : p.starts = some c
  · exact hp c ch hc hs
  · exact (h c ch hc).goto i p hs

theorem tended_set {w : StreamWorld M} {calls : ℕ → GetStreamCall} {c : ℕ} {ch' : SharedChannel M}
    (h : w.OneSender)
    (hcalls : ∀ d (ch : SharedChannel M), d ≠ c → Tended w.calls d ch → Tended calls d ch)
    (hch : Tended calls c ch') (d : ℕ) (ch : SharedChannel M)
    (hd : (w.channels.set c ch')[d]? = some ch) : Tended calls d ch := by
  by_cases hdc : d = c
  · subst hdc
    rw [List.getElem?_set_self'] at hd
    obtain ⟨_,_,rfl⟩ := Option.map_eq_some_iff.mp hd
    exact hch
  · rw [List.getElem?_set_ne (Ne.symm hdc)] at hd
    exact hcalls d ch hdc (h d ch hd)

theorem oneSender_setChannel {w : StreamWorld M} {c i : ℕ} {ch' : SharedChannel M}
    {p : GetStreamCall} (h : w.OneSender) (hp : ∀ d, d ≠ c → p.starts ≠ some d)
    (hch : Tended (Function.update w.calls i p) c ch') :
    ((w.setChannel c ch').goto i p).OneSender :=
  tended_set h (fun d _ hdc ht => ht.goto i p (hp d hdc)) hch

theorem numbered_goto {w : StreamWorld M} {i n : ℕ} {p : GetStreamCall} (h : w.Numbered)
    (hn : w.channels.length ≤ n) (hp : ∀ c, p.names = some c → c < n) (j c : ℕ)
    (hj : (Function.update w.calls i p j).names = some c) : c < n := by
  rcases Transitions.update_cases (q := fun p => GetStreamCall.names p = some c) hj with
    ⟨_,hnew⟩ | ⟨_,hold⟩
  · exact hp c hnew
  · exact (h.calls j c hold).trans_le hn

theorem numbered_step (w w' : StreamWorld M) (s : WorldStep M) (h : w.Numbered)
    (hs : w.step s = some w') : w'.Numbered := by
  have hgoto {i : ℕ} {p : GetStreamCall} (hp : ∀ c, p.names = some c → c < w.channels.length) :
      (w.goto i p).Numbered := ⟨h.registered, numbered_goto h le_rfl hp⟩
  have hset {c : ℕ} (ch' : SharedChannel M) {u : StreamWorld M} (hu : u.Numbered) :
      (u.setChannel c ch').Numbered := by
    have hlen : (u.setChannel c ch').channels.length = u.channels.length := List.length_set
    exact ⟨fun d hd => hlen ▸ hu.registered d hd, fun j d hd => hlen ▸ hu.calls j d hd⟩
  have hlt {c : ℕ} {ch : SharedChannel M} (hc : w.channels[c]? = some ch) (d : ℕ)
      (hd : some c = some d) : d < w.channels.length := by
    cases hd
    exact (List.getElem?_eq_some_iff.mp hc).1
  cases (step_effect w w' s hs).2 with
  | missed | refused | created | alive => exact hgoto nofun
  | found i c component hi hr =>
    exact hgoto (fun d hd => h.registered d (hr.trans hd))
  | opened i c ch hi hc => exact hset _ (hgoto (i := i) (p := .reviving c) (hlt hc))
  | crashed i c ch result stream hi hc hw =>
    have hw' := hset (c := c) { ch with stream := stream } (hgoto (i := i) (p := .faulted) nofun)
    exact ⟨hw'.registered, hw'.calls⟩
  | registered i hi =>
    have hnew (d : ℕ) (hd : some w.channels.length = some d) :
        d < (w.channels ++ [SharedChannel.fresh]).length := by
      cases hd
      simp
    exact ⟨hnew, numbered_goto h (by simp) hnew⟩
  | dead i c ch hi hc hd => exact hgoto (hlt hc)
  | revived i c ch hi hc => exact hset _ (hgoto (i := i) (p := .starting c) (hlt hc))
  | started i c ch hi hc => exact hset _ (hgoto (i := i) (p := .returned c) nofun)
  | sent i c m ch hi hc =>
    have hw' := hset (c := c) { ch with queue := ch.queue ++ [m] } h
    exact ⟨hw'.registered, hw'.calls⟩
  | looped c s ch ch' out hc hl =>
    have hw' := hset (c := c) ch' h
    exact ⟨hw'.registered, hw'.calls⟩

theorem oneSender_step (w w' : StreamWorld M) (s : WorldStep M) (hn : w.Numbered)
    (h : w.OneSender) (hlone : w.LoneRestart s) (hs : w.step s = some w') : w'.OneSender := by
  cases (step_effect w w' s hs).2 with
  | missed | found | refused | created | alive => exact oneSender_goto w _ _ h nofun
  | opened i c ch hi hc =>
    -- the call still has the channel to itself, which stays dead until it is revived
    have ht := h c ch hc
    have hdead := ht.restarts i (by rw [hi]; rfl)
    refine oneSender_setChannel h (fun _ hne hp => hne (Option.some.inj hp).symm) ?_
    exact tended_of_others (ht.others (by rw [hi]; rfl)) (fun _ => hdead) nofun ht.single ht.dead
  | crashed i c ch result stream hi hc hw =>
    have ht := h c ch hc
    refine oneSender_setChannel h (fun _ _ => nofun) ?_
    exact tended_of_others (ht.others (by rw [hi]; rfl)) nofun nofun ht.single ht.dead
  | registered i hi =>
    intro d ch hd
    rcases lt_trichotomy d w.channels.length with hlt | rfl | hgt
    · rw [List.getElem?_append_left hlt] at hd
      exact (h d ch hd).goto i _ (fun hp => hlt.ne' (Option.some.inj hp))
    · rw [List.getElem?_concat_length] at hd
      cases hd
      -- no call can know the number of a channel that did not exist
      have hothers (j : ℕ) : (w.calls j).starts ≠ some w.channels.length :=
        fun hj => (hn.calls j _ (names_of_starts _ _ hj)).ne rfl
      exact tended_of_others (fun j _ => hothers j) nofun (fun _ => ⟨rfl, rfl⟩)
        (Nat.zero_le 1) nofun
    · rw [List.getElem?_eq_none (by simpa [Nat.succ_le_iff] using hgt)] at hd
      cases hd
  | dead i c ch hi hc hd =>
    -- the condition excludes other restarts, and a dead channel has no first start ahead
    have ht := h c ch hc
    have hnone (j : ℕ) : (w.calls j).starts ≠ some c := by
      intro hj
      rcases starts_cases _ c hj with hr | hs
      · exact hlone c ch hi hc hd j hr
      · exact absurd hd (by simp [(ht.starting j hs).1])
    refine oneSender_goto w i _ h (fun d ch' hd' hp => ?_)
    cases hp
    cases hc.symm.trans hd'
    exact tended_of_others (fun j _ => hnone j) (fun _ => hd) nofun ht.single ht.dead
  | revived i c ch hi hc =>
    have ht := h c ch hc
    have hdead := ht.restarts i (by rw [hi]; rfl)
    refine oneSender_setChannel h (fun _ hne hp => hne (Option.some.inj hp).symm) ?_
    exact tended_of_others (ht.others (by rw [hi]; rfl)) nofun (fun _ => ⟨rfl, ht.dead hdead⟩)
      ht.single nofun
  | started i c ch hi hc =>
    -- the one call that was to start a loop has done so
    have ht := h c ch hc
    obtain ⟨hlive,hnil⟩ := ht.starting i hi
    refine oneSender_setChannel h (fun _ _ => nofun) ?_
    exact tended_of_others (ht.others (by rw [hi]; rfl)) nofun nofun (by simp [hnil])
      (fun hd => absurd hd (by simp [hlive]))
  | sent i c m ch hi hc =>
    have ht := h c ch hc
    exact tended_set h (fun _ _ _ => id) ⟨ht.alone, ht.restarts, ht.starting, ht.single, ht.dead⟩
  | looped c s ch ch' out hc hl =>
    exact tended_set h (fun _ _ _ => id) (tended_loopStep (h c ch hc) hl)

/-- At most one send loop runs on a channel if calls that restart it do not overlap. -/
theorem single_sender (target : String) (ops : List (WorldStep M)) (w : StreamWorld M)
    (hlone : Transitions.Allowed StreamWorld.step StreamWorld.LoneRestart (.start target) ops)
    (hrun : (StreamWorld.start target).run ops = some w) :
    ∀ ch ∈ w.channels, ch.loops.length ≤ 1 := by
  have hstep (u : StreamWorld M) (s : WorldStep M) (u' : StreamWorld M)
      (h : u.Numbered ∧ u.OneSender) (hs : u.LoneRestart s) (hu : u.step s = some u') :
      u'.Numbered ∧ u'.OneSender :=
    ⟨numbered_step u u' s h.1 hu, oneSender_step u u' s h.1 h.2 hs hu⟩
  have hstart : (StreamWorld.start target : StreamWorld M).Numbered ∧
      (StreamWorld.start target : StreamWorld M).OneSender :=
    ⟨⟨nofun, nofun⟩, nofun⟩
  have hend := Transitions.invariant_run hstep ops _ w hstart hlone hrun
  intro ch hch
  obtain ⟨c,hc⟩ := List.getElem?_of_mem hch
  exact (hend.2 c ch hc).single

theorem single_sender_restart : ∃ w : StreamWorld String,
    (StreamWorld.start "localhost:9090").run (failingRun ++ [.getStream 1 "orchestrator",
      .readDead 1, .init 1 .works, .revive 1, .start 1]) = some w ∧
    w.channels.map (fun ch => ch.loops) = [[.waiting]] ∧
    ∀ ch ∈ w.channels, ch.loops.length ≤ 1 := by
  have hbefore : ∃ u, (StreamWorld.start "localhost:9090").run
      (failingRun ++ [.getStream 1 "orchestrator"]) = some u ∧
      ∀ j c, (u.calls j).restarts ≠ some c := by
    refine ⟨_, rfl, fun j c => ?_⟩
    match j with
    | 0 | 1 | _ + 2 => exact nofun
  have hafter : ∃ w, (StreamWorld.start "localhost:9090").run (failingRun ++
      [.getStream 1 "orchestrator"] ++ [.readDead 1, .init 1 .works, .revive 1, .start 1]) =
        some w ∧ w.channels.map (fun ch => ch.loops) = [[.waiting]] := ⟨_, rfl, rfl⟩
  obtain ⟨u,hu,hlone⟩ := hbefore
  obtain ⟨w,hw,hloops⟩ := hafter
  refine ⟨w, hw, hloops, single_sender "localhost:9090" _ w ?_ hw⟩
  refine Transitions.allowed_append _ u _ _ (Transitions.allowed_of_forall _ _
    (by simp [failingRun, StreamWorld.LoneRestart])) hu ?_
  exact ⟨fun c _ _ _ _ j => hlone j c, fun _ _ => Transitions.allowed_of_forall _ _
    (by simp [StreamWorld.LoneRestart])⟩

/-- Two calls read the flag before one of them clears it, and two loops are in `SendMsg`. -/
theorem two_senders_on_stream : ∃ w : StreamWorld String,
    (StreamWorld.start "localhost:9090").run (failingRun ++
      [.getStream 1 "orchestrator", .getStream 2 "orchestrator", .readDead 1, .readDead 2,
        .init 1 .works, .revive 1, .start 1, .init 2 .works, .revive 2, .start 2,
        .send 1 "second", .loop 0 (.putBack 0), .loop 0 (.take 0), .loop 0 (.take 1)]) = some w ∧
    w.channels.map (fun ch => ch.loops) = [[.sending "second", .sending "first"]] ∧
    ¬∀ ch ∈ w.channels, ch.loops.length ≤ 1 := by
  refine ⟨_, rfl, rfl, ?_⟩
  intro h
  exact absurd (h _ List.mem_cons_self) (by decide)

end SingleSender
end Clouditor
