import Clouditor.Requests
import Clouditor.Transitions
import Mathlib.Data.List.AList
import Mathlib.Data.List.Induction
import Mathlib.Tactic.SplitIfs

/-! The streams of a service to other services, as callers see them that wait for each
other: `GetStream`, `Send` and `CloseAll`, and what the send loops do in between. -/
namespace Clouditor
set_option autoImplicit false

/-- A gRPC client stream. Sending into a closed one is an error. -/
inductive ClientStream where
  | opened
  | closed
  deriving DecidableEq

/-- A `StreamChannelOf`. The queue is the go channel: its buffer and, behind it, the senders
that wait for a free place. In `returning` are the messages whose put back is under way. A nil
stream is `none`. -/
structure StreamChannel (M : Type) where
  queue : List M
  returning : List M
  stream : Option ClientStream
  dead : Bool
  deriving DecidableEq

/-- What becomes of a call of the init function. -/
inductive StreamInit where
  | missing
  | fails (msg : String)
  | works
  deriving DecidableEq

/-- The channels by target, and what `SendMsg` has accepted so far. -/
structure StreamTable (M : Type) where
  channels : AList (fun _ : String => StreamChannel M)
  delivered : List (String × M)

section Calls
variable {M : Type}

def errMissingInitFunc : Err := ⟨none, "missing stream initializer function"⟩

def errInitStream (msg : String) : Err := ⟨none, "could not init stream: " ++ msg⟩

def errAddStream (component target : String) (e : Err) : Err :=
  e.wrap ("could not add stream for " ++ component ++ " with target '" ++ target ++ "'")

def addStream : StreamInit → Except Err (StreamChannel M)
  | .missing => .error errMissingInitFunc
  | .fails msg => .error (errInitStream msg)
  | .works => .ok ⟨[], [], some .opened, false⟩

/-- The channel is changed in place, so also a failed restart leaves its mark. -/
def restartStream (c : StreamChannel M) : StreamInit → Except Err Unit × StreamChannel M
  | .missing => (.error errMissingInitFunc, c)
  | .fails msg => (.error (errInitStream msg), { c with stream := none })
  | .works => (.ok (), { c with stream := some .opened, dead := false })

def StreamTable.put (t : StreamTable M) (target : String) (c : StreamChannel M) : StreamTable M :=
  { t with channels := t.channels.insert target c }

/-- The answer of a call and the table after it, `none` if the call faults. -/
abbrev Faulting (M : Type) := Option (Except Err Unit × StreamTable M)

def StreamTable.getStream (t : StreamTable M) (target component : String) (init : StreamInit) :
    Faulting M :=
  match t.channels.lookup target with
  | none =>
    match addStream init with
    | .error e => some (.error (errAddStream component target e), t)
    | .ok c => some (.ok (), t.put target c)
  | some c =>
    if c.dead then
      match restartStream c init with
      | (.ok _, c) => some (.ok (), t.put target c)
      -- the error text asks the nil channel for its component
      | (.error _, _) => none
    else some (.ok (), t)

def StreamTable.send (t : StreamTable M) (target : String) (m : M) : StreamTable M :=
  match t.channels.lookup target with
  | none => t
  | some c => t.put target { c with queue := c.queue ++ [m] }

/-- The send loop takes a message and sends it. -/
def StreamTable.deliver (t : StreamTable M) (target : String) : StreamTable M :=
  match t.channels.lookup target with
  | some ⟨m :: queue, returning, some .opened, false⟩ =>
    ⟨t.channels.insert target ⟨queue, returning, some .opened, false⟩,
      t.delivered ++ [(target, m)]⟩
  | _ => t

/-- The send loop takes a message and fails to send it. -/
def StreamTable.fail (t : StreamTable M) (target : String) : StreamTable M :=
  match t.channels.lookup target with
  | some ⟨m :: queue, returning, some _, false⟩ =>
    t.put target ⟨queue, returning ++ [m], some .closed, true⟩
  | _ => t

def StreamTable.putBack (t : StreamTable M) (target : String) : StreamTable M :=
  match t.channels.lookup target with
  | some ⟨queue, m :: returning, stream, dead⟩ =>
    t.put target ⟨queue ++ [m], returning, stream, dead⟩
  | _ => t

def StreamChannel.closeSend (c : StreamChannel M) : StreamChannel M :=
  { c with stream := some .closed }

/-- `CloseAll` asks every channel for its stream, a nil one too. -/
def StreamTable.closeAll (t : StreamTable M) : Option (StreamTable M) :=
  if t.channels.entries.any (fun e => e.2.stream.isNone) then none
  else some ⟨⟨t.channels.entries.map (fun e => ⟨e.1, e.2.closeSend⟩), by
    have h := t.channels.nodupKeys
    unfold List.NodupKeys List.keys at h ⊢
    rwa [List.map_map]⟩, t.delivered⟩

inductive StreamOp (M : Type) where
  | getStream (target component : String) (init : StreamInit)
  | send (target : String) (m : M)
  | deliver (target : String)
  | fail (target : String)
  | putBack (target : String)
  | closeAll

def StreamTable.step (t : StreamTable M) : StreamOp M → Faulting M
  | .getStream target component init => t.getStream target component init
  | .send target m => some (.ok (), t.send target m)
  | .deliver target => some (.ok (), t.deliver target)
  | .fail target => some (.ok (), t.fail target)
  | .putBack target => some (.ok (), t.putBack target)
  | .closeAll => t.closeAll.map (fun t => (.ok (), t))

/-- The table after a step, whatever the caller was told. -/
def StreamTable.next (t : StreamTable M) (op : StreamOp M) : Option (StreamTable M) :=
  (t.step op).map Prod.snd

def StreamTable.run (t : StreamTable M) (ops : List (StreamOp M)) : Option (StreamTable M) :=
  Transitions.run StreamTable.next t ops

def StreamTable.start : StreamTable M := ⟨∅, []⟩

end Calls

section Draining
variable {M : Type}

theorem next_eq_some (t t' : StreamTable M) (op : StreamOp M) :
    t.next op = some t' ↔ ∃ r, t.step op = some (r, t') := by
  simp [StreamTable.next]

/-- What is queued or on its way back to the queue of a target. -/
def StreamTable.waiting (t : StreamTable M) (target : String) : List M :=
  match t.channels.lookup target with
  | none => []
  | some c => c.queue ++ c.returning

/-- The send loop and the put backs of a target alone can get `ms` delivered, and then
nothing is left there. -/
def StreamTable.Drains (t : StreamTable M) (target : String) (ms : List M) : Prop :=
  ∃ ops t', (∀ op ∈ ops, op = .deliver target ∨ op = .putBack target) ∧
    t.run ops = some t' ∧ t'.delivered = t.delivered ++ ms.map (fun m => (target, m)) ∧
    t'.waiting target = []

theorem run_deliver (t : StreamTable M) (target : String) (queue returning : List M)
    (h : t.channels.lookup target = some ⟨queue, returning, some .opened, false⟩) :
    ∃ t', t.run (queue.map (fun _ => .deliver target)) = some t' ∧
      t'.delivered = t.delivered ++ queue.map (fun m => (target, m)) ∧
      t'.channels.lookup target = some ⟨[], returning, some .opened, false⟩ := by
  induction queue generalizing t with
  | nil => exact ⟨t, rfl, by simp, h⟩
  | cons m queue ih =>
    have hstep : t.deliver target = ⟨t.channels.insert target
        ⟨queue, returning, some .opened, false⟩, t.delivered ++ [(target, m)]⟩ := by
      simp only [StreamTable.deliver, h]
    obtain ⟨t',hrun,hdel,hend⟩ := ih (t.deliver target) (by rw [hstep, AList.lookup_insert])
    refine ⟨t', hrun, ?_, hend⟩
    rw [hdel, hstep]
    simp

theorem run_putBack (t : StreamTable M) (target : String) (returning : List M)
    (h : t.channels.lookup target = some ⟨[], returning, some .opened, false⟩) :
    ∃ t', t.run (returning.flatMap (fun _ => [.putBack target, .deliver target])) = some t' ∧
      t'.delivered = t.delivered ++ returning.map (fun m => (target, m)) ∧
      t'.channels.lookup target = some ⟨[], [], some .opened, false⟩ := by
  induction returning generalizing t with
  | nil => exact ⟨t, rfl, by simp, h⟩
  | cons m returning ih =>
    -- each message goes back into the empty queue and then out
    have hback : (t.putBack target).channels.lookup target =
        some ⟨[m], returning, some .opened, false⟩ := by
      simp [StreamTable.putBack, StreamTable.put, h]
    have hdone : (t.putBack target).delivered = t.delivered := by
      simp [StreamTable.putBack, StreamTable.put, h]
    obtain ⟨u,hrun,hdel,hend⟩ := run_deliver (t.putBack target) target [m] returning hback
    obtain ⟨t',hrun',hdel',hend'⟩ := ih u hend
    refine ⟨t', ?_, ?_, hend'⟩
    · have hone : t.run [.putBack target, .deliver target] = some u := hrun
      exact Transitions.run_trans hone hrun'
    · rw [hdel', hdel, hdone]
      simp

/-- A live channel with an open stream gets everything delivered. -/
theorem drains_opened (t : StreamTable M) (target : String) (queue returning : List M)
    (h : t.channels.lookup target = some ⟨queue, returning, some .opened, false⟩) :
    t.Drains target (queue ++ returning) := by
  obtain ⟨u,hrun,hdel,hend⟩ := run_deliver t target queue returning h
  obtain ⟨t',hrun',hdel',hend'⟩ := run_putBack u target returning hend
  have hboth : t.run (queue.map (fun _ => .deliver target) ++
      returning.flatMap (fun _ => [.putBack target, .deliver target])) = some t' :=
    Transitions.run_trans hrun hrun'
  refine ⟨_, t', ?_, hboth, ?_, ?_⟩
  · intro op hop
    rcases List.mem_append.mp hop with hop | hop
    · obtain ⟨_,_,rfl⟩ := List.mem_map.mp hop
      exact .inl rfl
    · obtain ⟨_,_,hop⟩ := List.mem_flatMap.mp hop
      simp only [List.mem_cons, List.not_mem_nil, or_false] at hop
      exact hop.symm
  · rw [hdel', hdel, List.map_append, List.append_assoc]
  · simp [StreamTable.waiting, hend']

end Draining

section Laws
variable {M : Type}

/-- The init function is called when there is no channel for the target or a dead one. -/
def StreamTable.needsInit (t : StreamTable M) (target : String) : Bool :=
  (t.channels.lookup target).all StreamChannel.dead

/-- No step faults. `GetStream` returns the error of its init function and then leaves
everything as it was, or it has a channel that gets all waiting messages delivered. -/
def StreamTable.LawfulStep (t : StreamTable M) (op : StreamOp M) : Prop :=
  match op with
  | .getStream target _ init =>
    if t.needsInit target then
      if init = .works then
        ∃ t', t.step op = some (.ok (), t') ∧ t'.Drains target (t.waiting target)
      else ∃ e, t.step op = some (.error e, t)
    else t.step op = some (.ok (), t)
  | _ => (t.step op).isSome = true

/-- No message of a dead channel gets lost before its restart. -/
def KeepsWaiting (ops : List (StreamOp M)) : Prop :=
  ∀ (pre mid post : List (StreamOp M)) (target : String) (t t' : StreamTable M),
    ops = pre ++ mid ++ post → StreamTable.start.run pre = some t → t.run mid = some t' →
    (∃ c, t.channels.lookup target = some c ∧ c.dead = true) →
    (∀ component, .getStream target component .works ∉ mid) →
    (t.waiting target).Subperm (t'.waiting target)

structure LawfulRun (ops : List (StreamOp M)) : Prop where
  steps : ∀ pre op post, ops = pre ++ op :: post →
    ∃ t, StreamTable.start.run pre = some t ∧ t.LawfulStep op
  keeps : KeepsWaiting ops

/-- A dead channel is only asked for with an init function that works. -/
def StreamTable.Revivable (t : StreamTable M) : StreamOp M → Prop
  | .getStream target _ init =>
    ∀ c, t.channels.lookup target = some c → c.dead = true → init = .works
  | _ => True

/-- No registered channel has a nil stream. -/
def StreamTable.Connected (t : StreamTable M) : Prop :=
  ∀ target c, t.channels.lookup target = some c → c.stream.isSome = true

theorem connected_put (t : StreamTable M) (target : String) (c : StreamChannel M)
    (h : t.Connected) (hc : c.stream.isSome = true) : (t.put target c).Connected := by
  intro target' c' hl
  by_cases he : target' = target
  · subst he
    rw [StreamTable.put, AList.lookup_insert] at hl
    cases hl
    exact hc
  · rw [StreamTable.put, AList.lookup_insert_ne he] at hl
    exact h target' c' hl

theorem lookup_closeAll (t t' : StreamTable M) (h : t.closeAll = some t') (target : String) :
    t'.channels.lookup target = (t.channels.lookup target).map StreamChannel.closeSend := by
  unfold StreamTable.closeAll at h
  split at h
  · cases h
  · cases h
    apply Option.ext
    intro c
    rw [Option.map_eq_some_iff, ← Option.mem_def, AList.mem_lookup_iff, List.mem_map]
    constructor
    · rintro ⟨⟨k,d⟩,hmem,heq⟩
      cases heq
      exact ⟨d, AList.mem_lookup_iff.mpr hmem, rfl⟩
    · rintro ⟨d,hd,rfl⟩
      exact ⟨⟨target, d⟩, AList.mem_lookup_iff.mp hd, rfl⟩

theorem closeAll_isSome (t : StreamTable M) (h : t.Connected) : t.closeAll.isSome = true := by
  unfold StreamTable.closeAll
  rw [if_neg]
  · rfl
  · simp only [List.any_eq_true, not_exists, not_and]
    rintro ⟨target,c⟩ hmem hnone
    have hc := h target c (AList.mem_lookup_iff.mpr hmem)
    rw [Option.isNone_iff_eq_none.mp hnone] at hc
    cases hc

/-- A table after a step differs from the one before at one target at most, where the
channel is `c`; or all streams have been closed. -/
theorem step_cases (t t' : StreamTable M) (op : StreamOp M) (r : Except Err Unit)
    (h : t.step op = some (r, t')) :
    t' = t ∨ t.closeAll = some t' ∨ ∃ target c, t'.channels = t.channels.insert target c ∧
      match t.channels.lookup target with
      | none => ∃ component, op = .getStream target component .works ∧
          c = ⟨[], [], some .opened, false⟩
      | some d =>
        (∃ component, op = .getStream target component .works ∧ d.dead = true ∧
          c = ⟨d.queue, d.returning, some .opened, false⟩) ∨
        (∃ m, op = .send target m ∧ c = ⟨d.queue ++ [m], d.returning, d.stream, d.dead⟩) ∨
        (∃ m, op = .deliver target ∧ d = ⟨m :: c.queue, c.returning, some .opened, false⟩ ∧
          c.stream = some .opened ∧ c.dead = false) ∨
        (∃ m, op = .fail target ∧ d.queue = m :: c.queue ∧ d.dead = false ∧
          c.returning = d.returning ++ [m] ∧ c.stream = some .closed ∧ c.dead = true) ∨
        (∃ m, op = .putBack target ∧ d.returning = m :: c.returning ∧
          c.queue = d.queue ++ [m] ∧ c.stream = d.stream ∧ c.dead = d.dead) := by
  cases op with
  | getStream target component init =>
    -- a new channel, a revived one, or none that is changed
    simp only [StreamTable.step, StreamTable.getStream] at h
    split at h
    · rename_i hl
      cases init with
      | missing | fails _ =>
        cases h
        exact .inl rfl
      | works =>
        cases h
        exact .inr (.inr ⟨target, _, rfl, by rw [hl]; exact ⟨component, rfl, rfl⟩⟩)
    · rename_i d hl
      split at h
      · rename_i hd
        cases init with
        | missing | fails _ => cases h
        | works =>
          cases h
          exact .inr (.inr ⟨target, _, rfl, by rw [hl]; exact .inl ⟨component, rfl, hd, rfl⟩⟩)
      · cases h
        exact .inl rfl
  | send target m =>
    cases h
    unfold StreamTable.send
    split
    · exact .inl rfl
    · rename_i d hl
      exact .inr (.inr ⟨target, _, rfl, by rw [hl]; exact .inr (.inl ⟨m, rfl, rfl⟩)⟩)
  | deliver target =>
    cases h
    unfold StreamTable.deliver
    split
    · rename_i m queue returning hl
      refine .inr (.inr ⟨target, _, rfl, ?_⟩)
      rw [hl]
      exact .inr (.inr (.inl ⟨m, rfl, rfl, rfl, rfl⟩))
    · exact .inl rfl
  | fail target =>
    cases h
    unfold StreamTable.fail
    split
    · rename_i m queue returning s hl
      refine .inr (.inr ⟨target, _, rfl, ?_⟩)
      rw [hl]
      exact .inr (.inr (.inr (.inl ⟨m, rfl, rfl, rfl, rfl, rfl, rfl⟩)))
    · exact .inl rfl
  | putBack target =>
    cases h
    unfold StreamTable.putBack
    split
    · rename_i queue m returning s dead hl
      refine .inr (.inr ⟨target, _, rfl, ?_⟩)
      rw [hl]
      exact .inr (.inr (.inr (.inr ⟨m, rfl, rfl, rfl, rfl, rfl⟩)))
    · exact .inl rfl
  | closeAll =>
    simp only [StreamTable.step, Option.map_eq_some_iff, Prod.mk.injEq] at h
    obtain ⟨u,hu,_,rfl⟩ := h
    exact .inr (.inl hu)

theorem connected_step (t t' : StreamTable M) (op : StreamOp M) (r : Except Err Unit)
    (h : t.step op = some (r, t')) (hc : t.Connected) : t'.Connected := by
  rcases step_cases t t' op r h with rfl | hclose | ⟨target,c,hch,hcase⟩
  · exact hc
  · intro target c hl
    rw [lookup_closeAll t t' hclose, Option.map_eq_some_iff] at hl
    obtain ⟨d,_,rfl⟩ := hl
    rfl
  · -- a restart that fails would leave a nil stream, but then there is no table after it
    have hstream : c.stream.isSome = true := by
      cases hl : t.channels.lookup target with
      | none =>
        rw [hl] at hcase
        obtain ⟨_,_,rfl⟩ := hcase
        rfl
      | some d =>
        rw [hl] at hcase
        have hd := hc target d hl
        rcases hcase with ⟨_,_,_,rfl⟩ | ⟨_,_,rfl⟩ | ⟨_,_,_,hs,_⟩ | ⟨_,_,_,_,_,hs,_⟩ | ⟨_,_,_,_,hs,_⟩
        · rfl
        · exact hd
        · rw [hs]; rfl
        · rw [hs]; rfl
        · rw [hs]; exact hd
    intro target' c' hl
    rw [hch] at hl
    exact connected_put t target c hc hstream target' c' hl

theorem connected_run (ops : List (StreamOp M)) (t t' : StreamTable M) (h : t.run ops = some t')
    (hc : t.Connected) : t'.Connected := by
  have hstep (u : StreamTable M) (op : StreamOp M) (u' : StreamTable M) (hu : u.Connected)
      (_ : True) (hnext : u.next op = some u') : u'.Connected := by
    obtain ⟨r,hr⟩ := (next_eq_some u u' op).mp hnext
    exact connected_step u u' op r hr hu
  exact Transitions.invariant_run hstep ops t t' hc
    (Transitions.allowed_of_forall ops t (fun _ _ _ => trivial)) h

/-- Nothing leaves a dead channel: no loop takes from it before it is revived. -/
theorem dead_step (t t' : StreamTable M) (op : StreamOp M) (r : Except Err Unit)
    (h : t.step op = some (r, t')) (target : String) (c : StreamChannel M)
    (hl : t.channels.lookup target = some c) (hd : c.dead = true)
    (hop : ∀ component, op ≠ .getStream target component .works) :
    (t.waiting target).Subperm (t'.waiting target) ∧
      ∃ c', t'.channels.lookup target = some c' ∧ c'.dead = true := by
  rcases step_cases t t' op r h with rfl | hclose | ⟨target',c',hch,hcase⟩
  · exact ⟨List.Subperm.refl _, c, hl, hd⟩
  · have hl' := lookup_closeAll t t' hclose target
    rw [hl] at hl'
    refine ⟨?_, _, hl', hd⟩
    simp only [StreamTable.waiting, hl, hl']
    exact List.Subperm.refl _
  · by_cases he : target' = target
    · -- of the changes at a target only sends and put backs are possible while it is dead
      subst he
      rw [hl] at hcase
      have hl' : t'.channels.lookup target' = some c' := by rw [hch, AList.lookup_insert]
      simp only [StreamTable.waiting, hl, hl', Option.some.injEq, exists_eq_left']
      rcases hcase with ⟨_,hget,_⟩ | ⟨m,_,rfl⟩ | ⟨_,_,hdel,_⟩ | ⟨_,_,_,halive,_⟩ |
        ⟨m,_,hret,hq,_,hdead⟩
      · exact absurd hget (hop _)
      · refine ⟨List.Sublist.subperm ?_, hd⟩
        exact (List.sublist_append_left _ _).append (List.Sublist.refl _)
      · rw [hdel] at hd
        cases hd
      · rw [halive] at hd
        cases hd
      · refine ⟨?_, hdead.trans hd⟩
        rw [hq, hret, List.append_assoc]
        exact List.Subperm.refl _
    · have hl' : t'.channels.lookup target = some c := by
        rw [hch, AList.lookup_insert_ne (Ne.symm he), hl]
      simp only [StreamTable.waiting, hl, hl']
      exact ⟨List.Subperm.refl _, c, rfl, hd⟩

theorem dead_run (target : String) (ops : List (StreamOp M)) (t t' : StreamTable M)
    (h : t.run ops = some t') (hdead : ∃ c, t.channels.lookup target = some c ∧ c.dead = true)
    (hops : ∀ component, .getStream target component .works ∉ ops) :
    (t.waiting target).Subperm (t'.waiting target) := by
  induction ops generalizing t with
  | nil =>
    cases h
    exact List.Subperm.refl _
  | cons op ops ih =>
    obtain ⟨u,hnext,hrun⟩ := (Transitions.run_cons_eq_some _ t t' op ops).mp h
    obtain ⟨r,hu⟩ := (next_eq_some t u op).mp hnext
    obtain ⟨c,hl,hd⟩ := hdead
    obtain ⟨hsub,hdead'⟩ := dead_step t u op r hu target c hl hd
      (fun k hk => hops k (hk ▸ List.mem_cons_self))
    exact hsub.trans (ih u hrun hdead' (fun k hk => hops k (List.mem_cons_of_mem _ hk)))

theorem getStream_lawful (t : StreamTable M) (target component : String) (init : StreamInit)
    (h : t.Revivable (.getStream target component init)) :
    t.LawfulStep (.getStream target component init) := by
  unfold StreamTable.LawfulStep StreamTable.needsInit StreamTable.waiting
  simp only [StreamTable.step, StreamTable.getStream]
  cases hl : t.channels.lookup target with
  | none =>
    cases init with
    | missing | fails _ => exact ⟨_, rfl⟩
    | works =>
      refine ⟨_, rfl, drains_opened _ target [] [] ?_⟩
      rw [StreamTable.put, AList.lookup_insert]
  | some c =>
    by_cases hd : c.dead = true
    · cases h c hl hd
      simp only [Option.all_some, hd, if_true]
      refine ⟨_, rfl, drains_opened _ target c.queue c.returning ?_⟩
      rw [StreamTable.put, AList.lookup_insert]
    · simp [hd]

theorem lawful_of_revivable (t : StreamTable M) (op : StreamOp M) (hc : t.Connected)
    (h : t.Revivable op) : t.LawfulStep op := by
  cases op with
  | getStream target component init => exact getStream_lawful t target component init h
  | closeAll =>
    change (t.closeAll.map _).isSome = true
    rw [Option.isSome_map]
    exact closeAll_isSome t hc
  | _ => rfl

theorem revivable_of_lawful (t : StreamTable M) (op : StreamOp M) (h : t.LawfulStep op) :
    t.Revivable op := by
  cases op with
  | getStream target component init =>
    intro c hl hd
    by_contra hinit
    have hfault : t.step (.getStream target component init) = none := by
      simp only [StreamTable.step, StreamTable.getStream, hl, hd, if_true]
      cases init with
      | missing | fails _ => rfl
      | works => exact absurd rfl hinit
    simp [StreamTable.LawfulStep, StreamTable.needsInit, hl, hd, hinit, hfault] at h
  | _ => trivial

theorem step_of_lawful (t : StreamTable M) (op : StreamOp M) (h : t.LawfulStep op) :
    ∃ r t', t.step op = some (r, t') := by
  cases op with
  | getStream target component init =>
    simp only [StreamTable.LawfulStep] at h
    split_ifs at h
    · obtain ⟨t',ht,_⟩ := h
      exact ⟨_, t', ht⟩
    · obtain ⟨e,he⟩ := h
      exact ⟨_, t, he⟩
    · exact ⟨_, t, h⟩
  | _ =>
    obtain ⟨⟨r,t'⟩,ht⟩ := Option.isSome_iff_exists.mp h
    exact ⟨r, t', ht⟩

/-- The streams obey their laws in exactly the runs in which no dead channel is asked for
with an init function that is missing or fails. -/
theorem lawful_run_iff (ops : List (StreamOp M)) :
    LawfulRun ops ↔ ∀ pre op post t, ops = pre ++ op :: post →
      StreamTable.start.run pre = some t → t.Revivable op := by
  have hstart : (StreamTable.start : StreamTable M).Connected := by
    intro target c hl
    cases hl
  constructor
  · intro h pre op post t hops hrun
    obtain ⟨u,hu,hlaw⟩ := h.steps pre op post hops
    cases hu.symm.trans hrun
    exact revivable_of_lawful _ op hlaw
  · intro h
    refine ⟨?_, ?_⟩
    · intro pre
      -- by induction on the part of the run before the step, from its end
      induction pre using List.reverseRecOn with
      | nil =>
        intro op post hops
        exact ⟨_, rfl, lawful_of_revivable _ op hstart (h [] op post _ hops rfl)⟩
      | append_singleton pre last ih =>
        intro op post hops
        rw [List.append_assoc] at hops
        obtain ⟨t,ht,hlaw⟩ := ih last (op :: post) hops
        obtain ⟨r,u,hu⟩ := step_of_lawful t last hlaw
        have hlast : t.run [last] = some u := (Transitions.run_cons_eq_some _ t u last []).mpr
          ⟨u, (next_eq_some t u last).mpr ⟨r, hu⟩, rfl⟩
        have hrun : StreamTable.start.run (pre ++ [last]) = some u :=
          Transitions.run_trans ht hlast
        refine ⟨u, hrun, lawful_of_revivable u op (connected_run _ _ u hrun hstart) ?_⟩
        exact h (pre ++ [last]) op post u (by rw [List.append_assoc]; exact hops) hrun
    · intro pre mid post target t t' _ _ hmid hdead hno
      exact dead_run target mid t t' hmid hdead hno

/-- A stream fails, and the service behind it cannot be reached when it is asked for again. -/
theorem restart_with_failing_init : ∃ t : StreamTable String,
    StreamTable.start.run [.getStream "localhost:9090" "Orchestrator" .works,
      .send "localhost:9090" "result", .fail "localhost:9090"] = some t ∧
    t.waiting "localhost:9090" = ["result"] ∧
    t.step (.getStream "localhost:9090" "Orchestrator" (.fails "connection refused")) = none :=
  ⟨_, rfl, rfl, rfl⟩

end Laws
end Clouditor
