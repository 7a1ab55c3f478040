import Clouditor.Transitions

/-! Requests that are handled at the same time on one state: each reads the state some
times, decides every time how to go on, and may write in a last step. If what it has read
still counts when it writes, the requests might as well have come one after the other. -/
namespace Interleaved
set_option autoImplicit false

section
variable {S Q A : Type}

/-- What is left to do for a request. The state can change between two of the steps, not
within one. -/
inductive Handler (S A : Type) where
  | answer (a : A)
  | read (next : S → Handler S A)
  | write (last : S → A × S)

/-- All steps of a request with nothing in between. -/
def Handler.exec : Handler S A → S → A × S
  | .answer a, s => (a, s)
  | .read next, s => (next s).exec s
  | .write last, s => last s

structure Pending (S Q A : Type) where
  request : Q
  rest : Handler S A
  reads : ℕ

/-- The state, the requests under way, and those that are answered in the order in which
their last steps were done. -/
structure World (S Q A : Type) where
  state : S
  pending : List (Pending S Q A)
  log : List (Q × A)

inductive Event (Q : Type) where
  | receive (q : Q)
  | advance (i : ℕ)
  deriving DecidableEq

def World.start (s : S) : World S Q A := ⟨s, [], []⟩

def World.finish (w : World S Q A) (i : ℕ) (q : Q) (a : A) (s : S) : World S Q A :=
  ⟨s, w.pending.eraseIdx i, w.log ++ [(q, a)]⟩

variable (handler : Q → Handler S A)

/-- One more request, or one more step of a request. An answer that a read decides on is
given at once. -/
def step (w : World S Q A) : Event Q → Option (World S Q A)
  | .receive q => some { w with pending := w.pending ++ [⟨q, handler q, 0⟩] }
  | .advance i =>
    match w.pending[i]? with
    | none => none
    | some p =>
      match p.rest with
      | .answer a => some (w.finish i p.request a w.state)
      | .write last => some (w.finish i p.request (last w.state).1 (last w.state).2)
      | .read next =>
        match next w.state with
        | .answer a => some (w.finish i p.request a w.state)
        | h => some { w with pending := w.pending.set i ⟨p.request, h, p.reads + 1⟩ }

section Advances
variable {w : World S Q A} {i : ℕ} {p : Pending S Q A}

theorem step_of_write {last : S → A × S} (hp : w.pending[i]? = some p)
    (hrest : p.rest = .write last) : step handler w (.advance i) =
      some (w.finish i p.request (last w.state).1 (last w.state).2) := by
  simp only [step, hp, hrest]

theorem step_of_read {next : S → Handler S A} {h : Handler S A} (hp : w.pending[i]? = some p)
    (hrest : p.rest = .read next) (hnext : next w.state = h) (hgoes : ∀ a, h ≠ .answer a) :
    step handler w (.advance i) =
      some { w with pending := w.pending.set i ⟨p.request, h, p.reads + 1⟩ } := by
  simp only [step, hp, hrest, hnext]

/-- Left alone, a request comes to its end. -/
theorem exists_end (w : World S Q A) (i : ℕ) (q : Q) (h : Handler S A) (n : ℕ)
    (hp : w.pending[i]? = some ⟨q, h, n⟩) :
    ∃ k, Transitions.run (step handler) w (List.replicate k (.advance i)) =
      some (w.finish i q (h.exec w.state).1 (h.exec w.state).2) := by
  induction h generalizing w n with
  | answer a =>
    refine ⟨1, (Transitions.run_cons_eq_some ..).mpr ⟨_, ?_, rfl⟩⟩
    simp only [step, hp, Handler.exec]
  | write last =>
    have hstep := step_of_write handler hp rfl
    exact ⟨1, (Transitions.run_cons_eq_some ..).mpr ⟨_, hstep, rfl⟩⟩
  | read next ih =>
    by_cases hgoes : ∃ a, next w.state = .answer a
    · obtain ⟨a,ha⟩ := hgoes
      refine ⟨1, (Transitions.run_cons_eq_some ..).mpr ⟨_, ?_, rfl⟩⟩
      simp only [step, hp, Handler.exec, ha]
    · -- the rest of the handler is a smaller one, in the same state
      have hstep := step_of_read handler hp rfl rfl (fun a ha => hgoes ⟨a, ha⟩)
      have hlt := (List.getElem?_eq_some_iff.mp hp).1
      obtain ⟨k,hk⟩ := ih w.state { w with pending := w.pending.set i ⟨q, next w.state, n + 1⟩ }
        (n + 1) (List.getElem?_set_self hlt)
      refine ⟨k + 1, (Transitions.run_cons_eq_some ..).mpr ⟨_, hstep, ?_⟩⟩
      rw [hk, World.finish, List.eraseIdx_set_eq]
      rfl

end Advances

/-- The answers to requests that come one after the other, and the state after them. -/
def replay (s : S) : List Q → List A × S
  | [] => ([], s)
  | q :: qs =>
    let first := (handler q).exec s
    let later := replay first.2 qs
    (first.1 :: later.1, later.2)

theorem replay_concat (s : S) (qs : List Q) (q : Q) :
    replay handler s (qs ++ [q]) =
      ((replay handler s qs).1 ++ [((handler q).exec (replay handler s qs).2).1],
        ((handler q).exec (replay handler s qs).2).2) := by
  induction qs generalizing s with
  | nil => rfl
  | cons r qs ih =>
    rw [List.cons_append, replay, ih]
    rfl

/-- Each answer is that of its handler in the state that the requests before it left. -/
theorem answer_of_replay (s s' : S) (log before after : List (Q × A)) (q : Q) (a : A)
    (h : replay handler s (log.map Prod.fst) = (log.map Prod.snd, s'))
    (hlog : log = before ++ (q, a) :: after) :
    a = ((handler q).exec (replay handler s (before.map Prod.fst)).2).1 := by
  induction before generalizing s log with
  | nil =>
    rw [hlog, List.nil_append, List.map_cons, List.map_cons, replay] at h
    exact (List.cons.inj (Prod.mk.inj h).1).1.symm
  | cons b before ih =>
    rw [hlog, List.cons_append, List.map_cons, List.map_cons, replay] at h
    rw [List.map_cons, replay]
    obtain ⟨hanswers,hstate⟩ := Prod.mk.inj h
    exact ih _ _ (Prod.ext (List.cons.inj hanswers).2 hstate) rfl

/-- A request comes, or one is answered by a write, or without one, or it goes on. -/
theorem step_cases {w w' : World S Q A} {e : Event Q} (h : step handler w e = some w') :
    (∃ q, e = .receive q ∧ w' = { w with pending := w.pending ++ [⟨q, handler q, 0⟩] }) ∨
    ∃ i p, e = .advance i ∧ w.pending[i]? = some p ∧
      ((∃ last, p.rest = .write last ∧
          w' = w.finish i p.request (last w.state).1 (last w.state).2) ∨
        (∃ a, p.rest.exec w.state = (a, w.state) ∧ w' = w.finish i p.request a w.state) ∨
        ∃ next, p.rest = .read next ∧ (∀ a, next w.state ≠ .answer a) ∧
          w' = { w with pending := w.pending.set i ⟨p.request, next w.state, p.reads + 1⟩ }) := by
  cases e with
  | receive q =>
    cases h
    exact .inl ⟨q, rfl, rfl⟩
  | advance i =>
    refine .inr ?_
    simp only [step] at h
    cases hp : w.pending[i]? with
    | none =>
      rw [hp] at h
      cases h
    | some p =>
      refine ⟨i, p, rfl, hp, ?_⟩
      rw [hp] at h
      cases hrest : p.rest with
      | answer a =>
        simp only [hrest, Option.some.injEq] at h
        exact .inr (.inl ⟨a, rfl, h.symm⟩)
      | write last =>
        simp only [hrest, Option.some.injEq] at h
        exact .inl ⟨last, rfl, h.symm⟩
      | read next =>
        simp only [hrest] at h
        cases hnext : next w.state with
        | answer a =>
          simp only [hnext, Option.some.injEq] at h
          exact .inr (.inl ⟨a, by rw [Handler.exec, hnext, Handler.exec], h.symm⟩)
        | read next' =>
          simp only [hnext, Option.some.injEq] at h
          exact .inr (.inr ⟨next, rfl, by rw [hnext]; exact nofun, by rw [hnext, h]⟩)
        | write last =>
          simp only [hnext, Option.some.injEq] at h
          exact .inr (.inr ⟨next, rfl, by rw [hnext]; exact nofun, by rw [hnext, h]⟩)

/-- What a request that has read something relies on, and which others must not be answered
meanwhile. -/
structure Reliance (handler : Q → Handler S A) where
  Ready : S → Q → Handler S A → Prop
  Disturbs : Q → Q → Prop
  first : ∀ s q next, handler q = .read next →
    (∃ a, next s = .answer a) ∨ Ready s q (next s)
  next : ∀ s q next, Ready s q (.read next) → (∃ a, next s = .answer a) ∨ Ready s q (next s)
  exec_eq : ∀ s q h, Ready s q h → h.exec s = (handler q).exec s
  stable : ∀ s q r h, ¬ Disturbs q r → Ready s r h → Ready ((handler q).exec s).2 r h

variable {handler} (rel : Reliance handler)

/-- A request that is about to write does not disturb any other that has read already. -/
def Undisturbed (w : World S Q A) : Event Q → Prop
  | .receive _ => True
  | .advance i => ∀ p last, w.pending[i]? = some p → p.rest = .write last →
      ∀ p' ∈ w.pending.eraseIdx i, 0 < p'.reads → ¬ rel.Disturbs p.request p'.request

theorem pending_of_step {w w' : World S Q A} {e : Event Q} (h : step handler w e = some w')
    (p : Pending S Q A) (hp : p ∈ w'.pending) :
    e = .receive p.request ∨ ∃ p₀ ∈ w.pending, p₀.request = p.request := by
  rcases step_cases handler h with ⟨q,rfl,rfl⟩ | ⟨i,p₁,_,hp₁,hcases⟩
  · rcases List.mem_append.mp hp with hp | hp
    · exact .inr ⟨p, hp, rfl⟩
    · exact .inl (by rw [List.mem_singleton.mp hp])
  · refine .inr ?_
    rcases hcases with ⟨last,_,rfl⟩ | ⟨a,_,rfl⟩ | ⟨next,_,_,rfl⟩
    · exact ⟨p, List.mem_of_mem_eraseIdx hp, rfl⟩
    · exact ⟨p, List.mem_of_mem_eraseIdx hp, rfl⟩
    · rcases List.mem_or_eq_of_mem_set hp with hp | rfl
      · exact ⟨p, hp, rfl⟩
      · exact ⟨p₁, List.mem_of_getElem? hp₁, rfl⟩

/-- Requests of which none disturbs another one are undisturbed in every order. -/
theorem undisturbed_of_receive (s : S) (events : List (Event Q))
    (h : ∀ q r, .receive q ∈ events → .receive r ∈ events → ¬ rel.Disturbs q r) :
    Transitions.Allowed (step handler) (Undisturbed rel) (World.start s) events := by
  have hmem : Transitions.Allowed (step handler) (fun _ e => e ∈ events) (World.start s) events :=
    Transitions.allowed_of_forall events _ (fun e he _ => he)
  have hkeep (w : World S Q A) (e : Event Q) (w' : World S Q A)
      (hw : ∀ p ∈ w.pending, .receive p.request ∈ events) (he : e ∈ events)
      (hstep : step handler w e = some w') : ∀ p ∈ w'.pending, .receive p.request ∈ events := by
    intro p hp
    rcases pending_of_step hstep p hp with rfl | ⟨p₀,hp₀,heq⟩
    · exact he
    · rw [← heq]
      exact hw p₀ hp₀
  have hquiet (w : World S Q A) (e : Event Q)
      (hw : ∀ p ∈ w.pending, .receive p.request ∈ events) (_ : e ∈ events) :
      Undisturbed rel w e := by
    cases e with
    | receive q => trivial
    | advance i =>
      intro p last hp _ p' hp' _
      exact h p.request p'.request (hw p (List.mem_of_getElem? hp))
        (hw p' (List.mem_of_mem_eraseIdx hp'))
  exact Transitions.allowed_imp hkeep hquiet events (World.start s)
    (fun _ hp => absurd hp List.not_mem_nil) hmem

/-- What holds of a request under way. -/
def Reliance.Fine (s : S) (p : Pending S Q A) : Prop :=
  (p.reads = 0 ∧ p.rest = handler p.request) ∨ (0 < p.reads ∧ rel.Ready s p.request p.rest)

theorem Reliance.Fine.exec_eq {rel : Reliance handler} {s : S} {p : Pending S Q A}
    (h : rel.Fine s p) : p.rest.exec s = (handler p.request).exec s := by
  rcases h with ⟨_,hrest⟩ | ⟨_,hready⟩
  · rw [hrest]
  · exact rel.exec_eq s p.request p.rest hready

theorem Reliance.Fine.read {rel : Reliance handler} {s : S} {p : Pending S Q A}
    (h : rel.Fine s p) {next : S → Handler S A} (hread : p.rest = .read next)
    (hgoes : ∀ a, next s ≠ .answer a) : rel.Fine s ⟨p.request, next s, p.reads + 1⟩ := by
  refine .inr ⟨Nat.succ_pos _, ?_⟩
  rcases h with ⟨_,hrest⟩ | ⟨_,hready⟩
  · rcases rel.first s p.request next (hrest.symm.trans hread) with ⟨a,ha⟩ | hready
    · exact absurd ha (hgoes a)
    · exact hready
  · rw [hread] at hready
    rcases rel.next s p.request next hready with ⟨a,ha⟩ | hready
    · exact absurd ha (hgoes a)
    · exact hready

theorem Reliance.Fine.stable {rel : Reliance handler} {s : S} {p : Pending S Q A}
    (h : rel.Fine s p) (q : Q) (hq : 0 < p.reads → ¬ rel.Disturbs q p.request) :
    rel.Fine ((handler q).exec s).2 p := by
  rcases h with ⟨h0,hrest⟩ | ⟨hpos,hready⟩
  · exact .inl ⟨h0, hrest⟩
  · exact .inr ⟨hpos, rel.stable s q p.request p.rest (hq hpos) hready⟩

/-- So far the answers and the state are those of the requests one after the other. -/
structure Serial (s : S) (w : World S Q A) : Prop where
  fine : ∀ p ∈ w.pending, rel.Fine w.state p
  replayed : replay handler s (w.log.map Prod.fst) = (w.log.map Prod.snd, w.state)

theorem serial_step {s : S} {w w' : World S Q A} {e : Event Q} (h : Serial rel s w)
    (hundisturbed : Undisturbed rel w e) (hstep : step handler w e = some w') :
    Serial rel s w' := by
  rcases step_cases handler hstep with ⟨q,_,rfl⟩ | ⟨i,p,rfl,hp,hcases⟩
  · refine ⟨fun p hp => ?_, h.replayed⟩
    rcases List.mem_append.mp hp with hp | hp
    · exact h.fine p hp
    · rw [List.mem_singleton.mp hp]
      exact .inl ⟨rfl, rfl⟩
  · have hmem : p ∈ w.pending := List.mem_of_getElem? hp
    have hexec := (h.fine p hmem).exec_eq
    have hreplayed (a : A) (s' : S) (ha : p.rest.exec w.state = (a, s')) :
        replay handler s ((w.finish i p.request a s').log.map Prod.fst) =
          ((w.finish i p.request a s').log.map Prod.snd, s') := by
      simp only [World.finish, List.map_append, List.map_cons, List.map_nil]
      rw [replay_concat, h.replayed, ← hexec, ha]
    rcases hcases with ⟨last,hlast,rfl⟩ | ⟨a,ha,rfl⟩ | ⟨next,hread,hgoes,rfl⟩
    · have hwritten : p.rest.exec w.state = last w.state := by rw [hlast, Handler.exec]
      refine ⟨fun p' hp' => ?_, hreplayed _ _ hwritten⟩
      -- what the others rely on has to survive the write
      have hfine := h.fine p' (List.mem_of_mem_eraseIdx hp')
      have hstable := hfine.stable p.request (hundisturbed p last hp hlast p' hp')
      rw [← hexec, hwritten] at hstable
      exact hstable
    · exact ⟨fun p' hp' => h.fine p' (List.mem_of_mem_eraseIdx hp'), hreplayed _ _ ha⟩
    · refine ⟨fun p' hp' => ?_, h.replayed⟩
      rcases List.mem_or_eq_of_mem_set hp' with hp' | rfl
      · exact h.fine p' hp'
      · exact (h.fine p hmem).read hread hgoes

/-- Undisturbed requests are answered as if they came one after the other, in the order of
their last steps, and they leave the same state. -/
theorem replay_of_run (s : S) (events : List (Event Q)) (w : World S Q A)
    (hrun : Transitions.run (step handler) (World.start s) events = some w)
    (hundisturbed : Transitions.Allowed (step handler) (Undisturbed rel) (World.start s) events) :
    replay handler s (w.log.map Prod.fst) = (w.log.map Prod.snd, w.state) := by
  have hstart : Serial rel s (World.start s) := ⟨fun _ hp => absurd hp List.not_mem_nil, rfl⟩
  have hserial := Transitions.invariant_run (fun _ _ _ h hu hs => serial_step rel h hu hs)
    events _ w hstart hundisturbed hrun
  exact hserial.replayed

end
end Interleaved
