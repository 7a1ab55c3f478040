import Clouditor.DiscoveryEvidences

/-! Where a message is that was given to a stream: it waits, it is on its way, the server at the
other end has answered it, or it was lost with a connection. -/
namespace Clouditor
set_option autoImplicit false
open scoped List

section Flows
variable {M : Type}

/-- What `SendMsg` has accepted for a target, in this order. -/
def StreamTable.deliveredTo (t : StreamTable M) (target : String) : List M :=
  (t.delivered.filter (fun p => p.1 = target)).map Prod.snd

/-- Between two tables the messages `ms` were sent to a target. Of these and of what waited for
it before, a part has been delivered and the others wait. -/
def Flows (target : String) (ms : List M) (t t' : StreamTable M) : Prop :=
  ∃ sent, t'.deliveredTo target = t.deliveredTo target ++ sent ∧
    sent ++ t'.waiting target ~ t.waiting target ++ ms

theorem flows_refl (target : String) (t : StreamTable M) : Flows target [] t t :=
  ⟨[], by simp, by simp⟩

theorem Flows.trans {target : String} {ms ms' : List M} {t t' t'' : StreamTable M}
    (h : Flows target ms t t') (h' : Flows target ms' t' t'') :
    Flows target (ms ++ ms') t t'' := by
  obtain ⟨sent,hsent,hwait⟩ := h
  obtain ⟨sent',hsent',hwait'⟩ := h'
  refine ⟨sent ++ sent', by rw [hsent', hsent, List.append_assoc], ?_⟩
  calc (sent ++ sent') ++ t''.waiting target
      = sent ++ (sent' ++ t''.waiting target) := List.append_assoc _ _ _
    _ ~ sent ++ (t'.waiting target ++ ms') := hwait'.append_left sent
    _ = (sent ++ t'.waiting target) ++ ms' := (List.append_assoc _ _ _).symm
    _ ~ (t.waiting target ++ ms) ++ ms' := hwait.append_right ms'
    _ = t.waiting target ++ (ms ++ ms') := List.append_assoc _ _ _

theorem waiting_insert (t : StreamTable M) (other : String) (c : StreamChannel M)
    (delivered : List (String × M)) (target : String) :
    (⟨t.channels.insert other c, delivered⟩ : StreamTable M).waiting target =
      if target = other then c.queue ++ c.returning else t.waiting target := by
  unfold StreamTable.waiting
  by_cases ho : target = other
  · rw [if_pos ho, ho, AList.lookup_insert]
  · rw [if_neg ho, AList.lookup_insert_ne ho]

theorem waiting_of_lookup {t : StreamTable M} {target : String} {c : StreamChannel M}
    (h : t.channels.lookup target = some c) : t.waiting target = c.queue ++ c.returning := by
  simp only [StreamTable.waiting, h]

/-- A channel is put in the place of one with the same messages and some more. -/
theorem flows_put (t : StreamTable M) (other : String) (c : StreamChannel M) (ms : List M)
    (h : c.queue ++ c.returning ~ t.waiting other ++ ms) (target : String) :
    Flows target (if target = other then ms else []) t (t.put other c) := by
  refine ⟨[], by simp [StreamTable.deliveredTo, StreamTable.put], ?_⟩
  rw [List.nil_append, StreamTable.put, waiting_insert]
  by_cases ho : target = other
  · rw [if_pos ho, if_pos ho, ho]
    exact h
  · rw [if_neg ho, if_neg ho, List.append_nil]

theorem flows_happen (t : StreamTable M) (ev : LoopEvent) (target : String) :
    Flows target [] t (t.happen ev) := by
  -- a channel with the same messages is as good as the one before
  have hsame (other : String) (c d : StreamChannel M) (hd : t.channels.lookup other = some d)
      (h : c.queue ++ c.returning ~ d.queue ++ d.returning) :
      Flows target [] t (t.put other c) := by
    have hput := flows_put t other c [] (by rw [waiting_of_lookup hd, List.append_nil]; exact h)
      target
    rw [ite_self] at hput
    exact hput
  cases ev with
  | deliver other =>
    simp only [StreamTable.happen, StreamTable.deliver]
    split
    · rename_i m queue returning hl
      by_cases ho : target = other
      · subst ho
        refine ⟨[m], by simp [StreamTable.deliveredTo], ?_⟩
        rw [waiting_insert, if_pos rfl, waiting_of_lookup hl]
        simp
      · refine ⟨[], by simp [StreamTable.deliveredTo, Ne.symm ho], ?_⟩
        rw [waiting_insert, if_neg ho, List.nil_append, List.append_nil]
    · exact flows_refl target t
  | fail other =>
    simp only [StreamTable.happen, StreamTable.fail]
    split
    · rename_i m queue returning stream hl
      refine hsame other _ _ hl ?_
      -- the message goes from the front of the queue to the end of those under way back
      rw [← List.append_assoc]
      exact List.perm_append_singleton m (queue ++ returning)
    · exact flows_refl target t
  | putBack other =>
    simp only [StreamTable.happen, StreamTable.putBack]
    split
    · rename_i queue m returning stream dead hl
      refine hsame other _ _ hl ?_
      simp
    · exact flows_refl target t

theorem flows_happen_all (events : List LoopEvent) (t : StreamTable M) (target : String) :
    Flows target [] t (events.foldl StreamTable.happen t) := by
  induction events generalizing t with
  | nil => exact flows_refl target t
  | cons ev events ih => exact (flows_happen t ev target).trans (ih (t.happen ev))

theorem flows_getStream {t t' : StreamTable M} {other component : String} {init : StreamInit}
    {r : Except Err Unit} (h : t.getStream other component init = some (r, t'))
    (target : String) : Flows target [] t t' := by
  unfold StreamTable.getStream at h
  cases hl : t.channels.lookup other with
  | none =>
    rw [hl] at h
    cases init with
    | missing | fails =>
      cases h
      exact flows_refl target t
    | works =>
      cases h
      have hnone : t.waiting other = [] := by simp only [StreamTable.waiting, hl]
      have hput := flows_put t other ⟨[], [], some .opened, false⟩ [] (by rw [hnone]) target
      rw [ite_self] at hput
      exact hput
  | some c =>
    rw [hl] at h
    by_cases hd : c.dead = true
    · cases init with
      | missing | fails => simp [hd, restartStream] at h
      | works =>
        simp only [hd, if_true, restartStream, Option.some.injEq, Prod.mk.injEq] at h
        obtain ⟨rfl,rfl⟩ := h
        have hput := flows_put t other { c with stream := some .opened, dead := false } []
          (by rw [waiting_of_lookup hl, List.append_nil]) target
        rw [ite_self] at hput
        exact hput
    · simp only [hd] at h
      cases h
      exact flows_refl target t

theorem flows_send (t : StreamTable M) (target : String) (m : M)
    (h : (t.channels.lookup target).isSome = true) : Flows target [m] t (t.send target m) := by
  obtain ⟨c,hc⟩ := Option.isSome_iff_exists.mp h
  have hput := flows_put t target { c with queue := c.queue ++ [m] } [m] (by
    rw [waiting_of_lookup hc, List.append_assoc, List.append_assoc]
    exact (List.perm_append_comm).append_left c.queue) target
  rw [if_pos rfl] at hput
  simp only [StreamTable.send, hc]
  exact hput

/-- A stream that is granted takes a message, whatever its send loop does in between. -/
theorem flows_granted {t t' : StreamTable M} {target component : String} {init : StreamInit}
    (h : t.getStream target component init = some (.ok (), t')) (between : List LoopEvent)
    (m : M) : Flows target [m] t ((between.foldl StreamTable.happen t').send target m) := by
  have hlookup := happen_all_lookup between t' target ((getStream_enqueued h).2 rfl)
  have hthere := (flows_getStream h target).trans (flows_happen_all between t' target)
  exact hthere.trans (flows_send _ target m hlookup)

end Flows

section Receivers
variable {M A : Type}

/-- The other end of a stream. Of the messages that were delivered, the first `gone` ones have
left the connection: the server has answered them or they were lost. -/
structure Receiver (M A : Type) where
  gone : ℕ
  answers : List (M × A)
  lost : List M

def Receiver.start : Receiver M A := ⟨0, [], []⟩

/-- The messages that were delivered and are not gone yet. -/
def Receiver.onTheWay (rcv : Receiver M A) (t : StreamTable M) (target : String) : List M :=
  (t.deliveredTo target).drop rcv.gone

def Receiver.answer (rcv : Receiver M A) (m : M) (a : A) : Receiver M A :=
  { rcv with gone := rcv.gone + 1, answers := rcv.answers ++ [(m, a)] }

def Receiver.lose (rcv : Receiver M A) (m : M) : Receiver M A :=
  { rcv with gone := rcv.gone + 1, lost := rcv.lost ++ [m] }

/-- What is known of a message that was sent to a target. -/
def Receiver.known (rcv : Receiver M A) (t : StreamTable M) (target : String) : List M :=
  t.waiting target ++ rcv.onTheWay t target ++ (rcv.answers.map Prod.fst ++ rcv.lost)

/-- Each of the messages `ms` that were sent is in one place. -/
structure Accounted (target : String) (t : StreamTable M) (rcv : Receiver M A) (ms : List M) :
    Prop where
  places : ms ~ rcv.known t target
  gone_le : rcv.gone ≤ (t.deliveredTo target).length

theorem accounted_start (target : String) :
    Accounted target (StreamTable.start : StreamTable M) (Receiver.start : Receiver M A) [] :=
  ⟨List.Perm.refl [], le_rfl⟩

theorem Accounted.flows {target : String} {t t' : StreamTable M} {rcv : Receiver M A}
    {ms ms' : List M} (h : Accounted target t rcv ms) (hf : Flows target ms' t t') :
    Accounted target t' rcv (ms ++ ms') := by
  obtain ⟨sent,hsent,hwait⟩ := hf
  have hway : rcv.onTheWay t' target = rcv.onTheWay t target ++ sent := by
    rw [Receiver.onTheWay, hsent, List.drop_append_of_le_length h.gone_le]
    rfl
  refine ⟨?_, by rw [hsent, List.length_append]; exact h.gone_le.trans (Nat.le_add_right _ _)⟩
  have hplaces := h.places
  unfold Receiver.known at hplaces ⊢
  rw [hway]
  generalize rcv.answers.map Prod.fst ++ rcv.lost = past at hplaces ⊢
  generalize rcv.onTheWay t target = way at hplaces ⊢
  calc ms ++ ms'
      ~ (t.waiting target ++ way ++ past) ++ ms' := hplaces.append_right ms'
    _ ~ (t.waiting target ++ ms') ++ (way ++ past) := by
        rw [List.append_assoc, List.append_assoc, List.append_assoc,
          ← List.append_assoc way past ms']
        exact (List.perm_append_comm).append_left _
    _ ~ (sent ++ t'.waiting target) ++ (way ++ past) := hwait.symm.append_right _
    _ ~ (t'.waiting target ++ (way ++ sent)) ++ past := by
        rw [← List.append_assoc]
        apply List.Perm.append_right
        rw [List.append_assoc]
        exact (List.perm_append_comm).trans (by rw [List.append_assoc])

/-- The next message leaves the connection. -/
theorem Accounted.next {target : String} {t : StreamTable M} {rcv rcv' : Receiver M A}
    {ms : List M} {m : M} (h : Accounted target t rcv ms)
    (hm : (rcv.onTheWay t target).head? = some m) (hgone : rcv'.gone = rcv.gone + 1)
    (hpast : rcv'.answers.map Prod.fst ++ rcv'.lost ~
      m :: (rcv.answers.map Prod.fst ++ rcv.lost)) : Accounted target t rcv' ms := by
  have hway : rcv.onTheWay t target = m :: rcv'.onTheWay t target := by
    have hdrop : rcv'.onTheWay t target = (rcv.onTheWay t target).tail := by
      rw [Receiver.onTheWay, hgone, Receiver.onTheWay, List.tail_drop]
    rw [hdrop]
    exact (List.cons_head?_tail hm).symm
  have hlen := congrArg List.length hway
  rw [Receiver.onTheWay, List.length_drop, List.length_cons] at hlen
  refine ⟨h.places.trans ?_, by omega⟩
  unfold Receiver.known
  rw [hway]
  calc t.waiting target ++ m :: rcv'.onTheWay t target ++ (rcv.answers.map Prod.fst ++ rcv.lost)
      ~ t.waiting target ++ rcv'.onTheWay t target ++
        (m :: (rcv.answers.map Prod.fst ++ rcv.lost)) := by
        rw [List.append_assoc, List.append_assoc]
        apply List.Perm.append_left
        exact List.perm_middle.symm
    _ ~ t.waiting target ++ rcv'.onTheWay t target ++
        (rcv'.answers.map Prod.fst ++ rcv'.lost) := hpast.symm.append_left _

theorem Accounted.answer {target : String} {t : StreamTable M} {rcv : Receiver M A} {ms : List M}
    {m : M} (h : Accounted target t rcv ms) (hm : (rcv.onTheWay t target).head? = some m)
    (a : A) : Accounted target t (rcv.answer m a) ms := by
  refine h.next hm rfl ?_
  simp only [Receiver.answer, List.map_append, List.map_cons, List.map_nil, List.append_assoc]
  exact List.perm_middle

theorem Accounted.lose {target : String} {t : StreamTable M} {rcv : Receiver M A} {ms : List M}
    {m : M} (h : Accounted target t rcv ms) (hm : (rcv.onTheWay t target).head? = some m) :
    Accounted target t (rcv.lose m) ms := by
  refine h.next hm rfl ?_
  simp only [Receiver.lose, ← List.append_assoc]
  exact List.perm_append_singleton m _

end Receivers
end Clouditor
