import Clouditor.Transitions
import Mathlib.Logic.Hydra

/-! Programs that take reader-writer locks over a shared state: one alone, and several together.
Programs that nest their locks in one order never wait for each other in a circle. -/
namespace Locking
set_option autoImplicit false

/-- A writer first keeps new readers and writers out, and then waits for the readers inside. -/
inductive LockOp where
  | rlock
  | runlock
  | announce
  | drain
  | unlock

structure RWLock where
  writer : Bool
  readers : ℕ
  deriving DecidableEq

def RWLock.free : RWLock := ⟨false, 0⟩

/-- The lock after the operation, `none` as long as that has to wait. -/
def LockOp.apply : LockOp → RWLock → Option RWLock
  | .rlock, rw => if rw.writer then none else some { rw with readers := rw.readers + 1 }
  | .runlock, rw => if rw.readers = 0 then none else some { rw with readers := rw.readers - 1 }
  | .announce, rw => if rw.writer then none else some { rw with writer := true }
  | .drain, rw => if rw.readers = 0 then some rw else none
  | .unlock, rw => if rw.writer then some { rw with writer := false } else none

inductive Prog (L S A : Type) where
  | ret (a : A)
  | fault
  | lock (op : LockOp) (l : L) (next : Prog L S A)
  | act (f : S → S) (next : S → Prog L S A)

section Programs
variable {L S A B : Type}

def Prog.bind : Prog L S A → (A → Prog L S B) → Prog L S B
  | .ret a, k => k a
  | .fault, _ => .fault
  | .lock op l next, k => .lock op l (next.bind k)
  | .act f next, k => .act f (fun s => (next s).bind k)

/-- One access to the shared state. -/
def Prog.access (g : S → A × S) : Prog L S A := .act (fun s => (g s).2) (fun s => .ret (g s).1)

def Prog.locked (l : L) (p : Prog L S A) : Prog L S A :=
  .lock .announce l (.lock .drain l (p.bind (fun a => .lock .unlock l (.ret a))))

def Prog.rlocked (l : L) (p : Prog L S A) : Prog L S A :=
  .lock .rlock l (p.bind (fun a => .lock .runlock l (.ret a)))

end Programs

section Alone
variable {L S A B : Type} [DecidableEq L]

/-- How a program ends that nobody else interferes with, and the state it leaves. -/
inductive Outcome (L S A : Type) where
  | returned (a : A) (s : S) (locks : L → RWLock)
  | faulted (s : S) (locks : L → RWLock)
  | blocked (s : S) (locks : L → RWLock)

def exec : Prog L S A → S → (L → RWLock) → Outcome L S A
  | .ret a, s, locks => .returned a s locks
  | .fault, s, locks => .faulted s locks
  | .lock op l next, s, locks =>
    match op.apply (locks l) with
    | none => .blocked s locks
    | some rw => exec next s (Function.update locks l rw)
  | .act f next, s, locks => exec (next s) (f s) locks

def Outcome.andThen : Outcome L S A → (A → S → (L → RWLock) → Outcome L S B) → Outcome L S B
  | .returned a s locks, k => k a s locks
  | .faulted s locks, _ => .faulted s locks
  | .blocked s locks, _ => .blocked s locks

theorem exec_bind (p : Prog L S A) (k : A → Prog L S B) (s : S) (locks : L → RWLock) :
    exec (p.bind k) s locks = (exec p s locks).andThen (fun a => exec (k a)) := by
  induction p generalizing s locks with
  | ret a => rfl
  | fault => rfl
  | lock op l next ih =>
    simp only [Prog.bind, exec]
    cases op.apply (locks l) with
    | none => rfl
    | some rw => exact ih s _
  | act f next ih => exact ih s (f s) locks

theorem exec_access (g : S → A × S) (s : S) (locks : L → RWLock) :
    exec (Prog.access g) s locks = .returned (g s).1 (g s).2 locks := rfl

/-- A free lock is taken, and free again if the program inside returns. -/
theorem exec_locked (l : L) (p : Prog L S A) (s : S) (locks : L → RWLock)
    (h : locks l = .free) : exec (Prog.locked l p) s locks =
      (exec p s (Function.update locks l ⟨true, 0⟩)).andThen
        (fun a => exec (.lock .unlock l (.ret a))) := by
  simp only [Prog.locked, exec, h, LockOp.apply, RWLock.free, Bool.false_eq_true, if_false,
    Function.update_self, if_true, Function.update_idem, exec_bind]

theorem exec_rlocked (l : L) (p : Prog L S A) (s : S) (locks : L → RWLock)
    (h : locks l = .free) : exec (Prog.rlocked l p) s locks =
      (exec p s (Function.update locks l ⟨false, 1⟩)).andThen
        (fun a => exec (.lock .runlock l (.ret a))) := by
  simp only [Prog.rlocked, exec, h, LockOp.apply, RWLock.free, Bool.false_eq_true, if_false,
    exec_bind]

end Alone

section Together
variable {L S A : Type} [DecidableEq L]

structure World (L S A : Type) where
  shared : S
  locks : L → RWLock
  threads : List (Prog L S A)

/-- The next operation of one thread, `none` if it has none or has to wait. -/
def step (w : World L S A) (i : ℕ) : Option (World L S A) :=
  match w.threads[i]? with
  | some (.lock op l next) => (op.apply (w.locks l)).map (fun rw =>
      { w with locks := Function.update w.locks l rw, threads := w.threads.set i next })
  | some (.act f next) =>
      some { w with shared := f w.shared, threads := w.threads.set i (next w.shared) }
  | _ => none

theorem step_cases {w w' : World L S A} {i : ℕ} (h : step w i = some w') :
    (∃ op l next rw, w.threads[i]? = some (.lock op l next) ∧ op.apply (w.locks l) = some rw ∧
      w' = ⟨w.shared, Function.update w.locks l rw, w.threads.set i next⟩) ∨
    ∃ f next, w.threads[i]? = some (.act f next) ∧
      w' = ⟨f w.shared, w.locks, w.threads.set i (next w.shared)⟩ := by
  unfold step at h
  split at h
  · rename_i op l next hi
    obtain ⟨rw,hrw,heq⟩ := Option.map_eq_some_iff.mp h
    exact .inl ⟨op, l, next, rw, hi, hrw, heq.symm⟩
  · rename_i f next hi
    exact .inr ⟨f, next, hi, (Option.some.inj h).symm⟩
  · cases h

/-- What a thread that ran alone has come to. -/
def Outcome.ends : Outcome L S A → Option (Prog L S A × S × (L → RWLock))
  | .returned a s locks => some (.ret a, s, locks)
  | .faulted s locks => some (.fault, s, locks)
  | .blocked _ _ => none

/-- Alone, a thread does what its schedule of only itself does. -/
theorem exec_schedule (p q : Prog L S A) (w : World L S A) (i : ℕ) (s : S) (locks : L → RWLock)
    (hp : w.threads[i]? = some p) (h : (exec p w.shared w.locks).ends = some (q, s, locks)) :
    ∃ n, Transitions.run step w (List.replicate n i) =
      some ⟨s, locks, w.threads.set i q⟩ := by
  have hself : w.threads.set i p = w.threads := by
    obtain ⟨hi,hget⟩ := List.getElem?_eq_some_iff.mp hp
    rw [← hget]
    exact List.set_getElem_self hi
  have hnext (r : Prog L S A) : (w.threads.set i r)[i]? = some r :=
    List.getElem?_set_self (List.getElem?_eq_some_iff.mp hp).1
  -- one step of the schedule for each operation
  induction p generalizing w with
  | ret a =>
    cases h
    exact ⟨0, congrArg some (by rw [hself])⟩
  | fault =>
    cases h
    exact ⟨0, congrArg some (by rw [hself])⟩
  | lock op l next ih =>
    rw [exec] at h
    cases hop : op.apply (w.locks l) with
    | none => simp [hop, Outcome.ends] at h
    | some rw' =>
      simp only [hop] at h
      obtain ⟨n,hn⟩ := ih ⟨w.shared, Function.update w.locks l rw', w.threads.set i next⟩
        (hnext next) h (by simp) (fun r => by simp [hnext])
      refine ⟨n + 1, (Transitions.run_cons_eq_some _ _ _ _ _).mpr ⟨_, ?_, hn.trans (by simp)⟩⟩
      simp [step, hp, hop]
  | act f next ih =>
    obtain ⟨n,hn⟩ := ih w.shared ⟨f w.shared, w.locks, w.threads.set i (next w.shared)⟩
      (hnext _) h (by simp) (fun r => by simp [hnext])
    refine ⟨n + 1, (Transitions.run_cons_eq_some _ _ _ _ _).mpr ⟨_, ?_, hn.trans (by simp)⟩⟩
    simp [step, hp]

/-- The program a thread has left after one operation. -/
inductive Next : Prog L S A → Prog L S A → Prop where
  | lock (op : LockOp) (l : L) (next : Prog L S A) : Next next (.lock op l next)
  | act (f : S → S) (next : S → Prog L S A) (s : S) : Next (next s) (.act f next)

omit [DecidableEq L] in
theorem next_wellFounded : WellFounded (Next (L := L) (S := S) (A := A)) := by
  constructor
  intro p
  induction p with
  | ret a => exact ⟨_, fun q h => by cases h⟩
  | fault => exact ⟨_, fun q h => by cases h⟩
  | lock op l next ih =>
    refine ⟨_, fun q h => ?_⟩
    cases h
    exact ih
  | act f next ih =>
    refine ⟨_, fun q h => ?_⟩
    cases h with
    | act _ _ s => exact ih s

omit [DecidableEq L] in
theorem cutExpand_set (ps : List (Prog L S A)) (i : ℕ) (p q : Prog L S A)
    (hp : ps[i]? = some p) (hq : Next q p) :
    Relation.CutExpand Next (↑(ps.set i q) : Multiset (Prog L S A)) ↑ps := by
  obtain ⟨hi,hget⟩ := List.getElem?_eq_some_iff.mp hp
  have hset (r : Prog L S A) :
      (↑(ps.set i r) : Multiset (Prog L S A)) = ↑(ps.eraseIdx i) + {r} := by
    rw [← Multiset.coe_singleton, Multiset.coe_add, Multiset.coe_eq_coe]
    exact (List.set_perm_cons_eraseIdx hi r).trans (List.perm_append_singleton r _).symm
  have hself : ps.set i p = ps := by
    rw [← hget]
    exact List.set_getElem_self hi
  -- the program is taken out of the multiset, and what is left of it put in
  rw [hset q]
  nth_rewrite 2 [← hself]
  rw [hset p]
  exact Relation.cutExpand_add_single _ hq

/-- Some thread gets closer to its end with each step, so no schedule goes on forever. -/
theorem step_wellFounded :
    WellFounded (fun w' w : World L S A => ∃ i, step w i = some w') := by
  refine Subrelation.wf ?_ (InvImage.wf
    (fun w : World L S A => (w.threads : Multiset (Prog L S A))) next_wellFounded.cutExpand)
  intro w' w ⟨i,h⟩
  rcases step_cases h with ⟨op,l,next,rw,hi,_,rfl⟩ | ⟨f,next,hi,rfl⟩
  · exact cutExpand_set w.threads i _ _ hi (.lock op l next)
  · exact cutExpand_set w.threads i _ _ hi (.act f next w.shared)

/-- What a thread has of a lock. -/
inductive Hold where
  | out
  | reading
  | waiting
  | writing
  deriving DecidableEq

def Hold.reads : Hold → ℕ
  | .reading => 1
  | _ => 0

def Hold.writes : Hold → ℕ
  | .waiting | .writing => 1
  | _ => 0

def LockOp.move : LockOp → Hold → Option Hold
  | .rlock, .out => some .reading
  | .runlock, .reading => some .out
  | .announce, .out => some .waiting
  | .drain, .waiting => some .writing
  | .unlock, .writing => some .out
  | _, _ => none

theorem LockOp.apply_move {op : LockOp} {rw rw' : RWLock} {h h' : Hold}
    (hrw : op.apply rw = some rw') (hh : op.move h = some h') :
    rw'.readers + h.reads = rw.readers + h'.reads ∧
      rw'.writer.toNat + h.writes = rw.writer.toNat + h'.writes := by
  obtain ⟨writer,readers⟩ := rw
  cases op <;> cases h <;> cases hh <;> simp only [LockOp.apply] at hrw <;> split at hrw <;>
    cases hrw <;> simp_all [Hold.reads, Hold.writes]
  omega

def noHold : L → Hold := fun _ => .out

/-- The program returns with `final` held. It takes and releases locks inside of the locks of
lower ranks only, and does not fault. -/
def Disciplined (rank : L → ℕ) (final : L → Hold) : (L → Hold) → Prog L S A → Prop
  | held, .ret _ => held = final
  | _, .fault => False
  | held, .lock op l next => (∀ l', l' ≠ l → held l' ≠ .out → rank l' < rank l) ∧
      ∃ h, op.move (held l) = some h ∧ Disciplined rank final (Function.update held l h) next
  | held, .act _ next => ∀ s, Disciplined rank final held (next s)

/-- Each thread is disciplined, with some locks held, and together they hold what the locks
count. -/
def Orderly (rank : L → ℕ) (w : World L S A) : Prop :=
  ∃ ts : List (Prog L S A × (L → Hold)), w.threads = ts.map Prod.fst ∧
    (∀ t ∈ ts, Disciplined rank noHold t.2 t.1) ∧
    (∀ l, (w.locks l).readers = (ts.map (fun t => (t.2 l).reads)).sum) ∧
    ∀ l, (w.locks l).writer.toNat = (ts.map (fun t => (t.2 l).writes)).sum

variable {rank : L → ℕ}

/-- One thread changes what it has of one lock, and the count of that lock follows. -/
theorem count_set (g : Hold → ℕ) (ts : List (Prog L S A × (L → Hold))) (i : ℕ)
    (p q : Prog L S A) (held : L → Hold) (ht : ts[i]? = some (p, held)) (l : L) (hold : Hold)
    (count : L → ℕ) (hcount : ∀ l, count l = (ts.map (fun t => g (t.2 l))).sum) (n : ℕ)
    (hn : n + g (held l) = count l + g hold) (l' : L) : Function.update count l n l' =
      ((ts.set i (q, Function.update held l hold)).map (fun t => g (t.2 l'))).sum := by
  have hsum := Transitions.sum_set (fun t : Prog L S A × (L → Hold) => g (t.2 l')) ts i _
    (q, Function.update held l hold) ht
  have hl := hcount l'
  by_cases hll : l' = l
  · subst hll
    simp only [Function.update_self] at hsum ⊢
    omega
  · simp only [Function.update_of_ne hll] at hsum ⊢
    omega

theorem orderly_step {w w' : World L S A} {i : ℕ} (hw : Orderly rank w)
    (h : step w i = some w') : Orderly rank w' := by
  obtain ⟨ts,hts,hdis,hreads,hwrites⟩ := hw
  have hat (p : Prog L S A) (hp : w.threads[i]? = some p) :
      ∃ held, ts[i]? = some (p, held) ∧ Disciplined rank noHold held p := by
    rw [hts, List.getElem?_map] at hp
    obtain ⟨⟨_,held⟩,ht,rfl⟩ := Option.map_eq_some_iff.mp hp
    exact ⟨held, ht, hdis _ (List.mem_of_getElem? ht)⟩
  have hset (p : Prog L S A) (held : L → Hold) (hp : Disciplined rank noHold held p) :
      ∀ t ∈ ts.set i (p, held), Disciplined rank noHold t.2 t.1 := by
    intro t ht
    rcases List.mem_or_eq_of_mem_set ht with ht | rfl
    · exact hdis t ht
    · exact hp
  rcases step_cases h with ⟨op,l,next,rw,hi,hrw,rfl⟩ | ⟨f,next,hi,rfl⟩
  · obtain ⟨held,ht,_,hold,hmove,hnext⟩ := hat _ hi
    obtain ⟨hr,hw⟩ := LockOp.apply_move hrw hmove
    refine ⟨ts.set i (next, Function.update held l hold), ?_, hset _ _ hnext, fun l' => ?_,
      fun l' => ?_⟩
    · rw [hts, List.map_set]
    · rw [← count_set Hold.reads ts i _ next held ht l hold _ hreads rw.readers hr l']
      exact Function.apply_update (fun _ => RWLock.readers) w.locks l rw l'
    · rw [← count_set Hold.writes ts i _ next held ht l hold _ hwrites rw.writer.toNat hw l']
      exact Function.apply_update (fun _ (k : RWLock) => k.writer.toNat) w.locks l rw l'
  -- an access to the state moves no lock
  · obtain ⟨held,ht,hnext⟩ := hat _ hi
    have hsum (g : Hold → ℕ) (l : L) :
        ((ts.set i (next w.shared, held)).map (fun t => g (t.2 l))).sum =
          (ts.map (fun t => g (t.2 l))).sum := by
      have hsame := Transitions.sum_set (fun t : Prog L S A × (L → Hold) => g (t.2 l)) ts i _
        (next w.shared, held) ht
      dsimp only at hsame
      omega
    refine ⟨ts.set i (next w.shared, held), ?_, hset _ _ (hnext _), fun l => ?_, fun l => ?_⟩
    · rw [hts, List.map_set]
    · rw [hsum, hreads]
    · rw [hsum, hwrites]

/-- Nobody has faulted. -/
theorem Orderly.no_fault {w : World L S A} (hw : Orderly rank w) : Prog.fault ∉ w.threads := by
  obtain ⟨ts,hts,hdis,_⟩ := hw
  rw [hts, List.mem_map]
  rintro ⟨⟨p,held⟩,ht,rfl⟩
  exact hdis _ ht

theorem exists_of_sum_pos {α : Type} (g : α → ℕ) (ts : List α) (h : 0 < (ts.map g).sum) :
    ∃ t ∈ ts, 0 < g t := by
  by_contra hno
  push Not at hno
  have hzero : ∀ n ∈ ts.map g, n = 0 := by
    intro n hn
    obtain ⟨t,ht,rfl⟩ := List.mem_map.mp hn
    exact Nat.le_zero.mp (hno t ht)
  rw [List.sum_eq_zero hzero] at h
  exact absurd h (lt_irrefl 0)

/-- An operation that the holder of `h` may do has to wait for others only. -/
theorem LockOp.waits_cases {op : LockOp} {rw : RWLock} {h h' : Hold} (hrw : op.apply rw = none)
    (hmove : op.move h = some h') : (rw.writer = true ∧ h = .out) ∨
      (op = .drain ∧ h = .waiting ∧ 0 < rw.readers) ∨ rw.readers < h.reads ∨
      (h.writes = 1 ∧ rw.writer = false) := by
  cases op <;> cases h <;> cases hmove <;> simp only [LockOp.apply] at hrw <;> split at hrw <;>
    cases hrw <;> simp_all [Hold.reads, Hold.writes]
  omega

def Prog.nextRank (rank : L → ℕ) : Prog L S A → ℕ
  | .lock _ l _ => rank l
  | _ => 0

/-- The thread waits for the lock `l`. -/
def WaitsFor (w : World L S A) (t : Prog L S A × (L → Hold)) (op : LockOp) (l : L) : Prop :=
  (∃ next, t.1 = .lock op l next) ∧ op.apply (w.locks l) = none

/-- Some thread waits for a lock of at least the rank `n`. -/
def WaitsAbove (rank : L → ℕ) (w : World L S A) (ts : List (Prog L S A × (L → Hold))) (n : ℕ) :
    Prop :=
  ∃ t ∈ ts, ∃ op l, WaitsFor w t op l ∧ n ≤ rank l

section Waiting
variable {w : World L S A} {ts : List (Prog L S A × (L → Hold))}
  (hdis : ∀ t ∈ ts, Disciplined rank noHold t.2 t.1)
  (hreads : ∀ l, (w.locks l).readers = (ts.map (fun t => (t.2 l).reads)).sum)
  (hwrites : ∀ l, (w.locks l).writer.toNat = (ts.map (fun t => (t.2 l).writes)).sum)
include hdis hreads hwrites

/-- A thread waits for others: for a writer to leave, or as a writer for the readers. What it
holds itself is of a lower rank. -/
theorem waits_for_others {t : Prog L S A × (L → Hold)} (ht : t ∈ ts) {op : LockOp} {l : L}
    (hwait : WaitsFor w t op l) : (∀ l', l' ≠ l → t.2 l' ≠ .out → rank l' < rank l) ∧
      (((w.locks l).writer = true ∧ t.2 l = .out) ∨
        (t.2 l = .waiting ∧ 0 < (w.locks l).readers)) := by
  obtain ⟨⟨next,hnext⟩,hnone⟩ := hwait
  have hd := hdis t ht
  rw [hnext] at hd
  obtain ⟨hrank,hold,hmove,_⟩ := hd
  refine ⟨hrank, ?_⟩
  -- the lock counts at least what this thread has of it
  have hr : (t.2 l).reads ≤ (w.locks l).readers := by
    rw [hreads]
    exact List.single_le_sum (fun _ _ => Nat.zero_le _) _ (List.mem_map_of_mem ht)
  have hw : (t.2 l).writes ≤ (w.locks l).writer.toNat := by
    rw [hwrites]
    exact List.single_le_sum (fun _ _ => Nat.zero_le _) _ (List.mem_map_of_mem ht)
  rcases LockOp.waits_cases hnone hmove with h | h | h | ⟨h,hfree⟩
  · exact .inl h
  · exact .inr h.2
  · omega
  · rw [h, hfree] at hw
    cases hw

variable (hstuck : ∀ t ∈ ts, (∃ a, t.1 = .ret a) ∨ ∃ op l, WaitsFor w t op l)
include hstuck

/-- A holder of a lock waits itself, for a lock of a higher rank unless it drains this one. -/
theorem holder_waits {t : Prog L S A × (L → Hold)} (ht : t ∈ ts) {l : L} (hheld : t.2 l ≠ .out) :
    WaitsAbove rank w ts (rank l + 1) ∨ (t.2 l = .waiting ∧ 0 < (w.locks l).readers) := by
  rcases hstuck t ht with ⟨a,ha⟩ | ⟨op,l',hwait⟩
  · have hret := hdis t ht
    rw [ha] at hret
    exact absurd (congrFun hret l) hheld
  · obtain ⟨hrank,hwhy⟩ := waits_for_others hdis hreads hwrites ht hwait
    by_cases hll : l = l'
    · subst hll
      rcases hwhy with ⟨_,hout⟩ | hdrain
      · exact absurd hout hheld
      · exact .inr hdrain
    · exact .inl ⟨t, ht, op, l', hwait, hrank l hll hheld⟩

theorem reader_waits {l : L} (h : 0 < (w.locks l).readers) :
    WaitsAbove rank w ts (rank l + 1) := by
  rw [hreads] at h
  obtain ⟨t,ht,hpos⟩ := exists_of_sum_pos _ ts h
  have hheld : t.2 l ≠ .out := by
    intro hout
    simp [hout, Hold.reads] at hpos
  rcases holder_waits hdis hreads hwrites hstuck ht hheld with h | ⟨h,_⟩
  · exact h
  · simp [h, Hold.reads] at hpos

/-- Whoever waits for a lock waits for a thread that waits for a lock of a higher rank. -/
theorem waits_higher {t : Prog L S A × (L → Hold)} (ht : t ∈ ts) {op : LockOp} {l : L}
    (hwait : WaitsFor w t op l) : WaitsAbove rank w ts (rank l + 1) := by
  rcases (waits_for_others hdis hreads hwrites ht hwait).2 with ⟨hwriter,_⟩ | ⟨_,hreaders⟩
  · have hpos : 0 < (ts.map (fun t => (t.2 l).writes)).sum := by
      rw [← hwrites, hwriter]
      exact Nat.one_pos
    obtain ⟨u,hu,hpos⟩ := exists_of_sum_pos _ ts hpos
    have hheld : u.2 l ≠ .out := by
      intro hout
      simp [hout, Hold.writes] at hpos
    rcases holder_waits hdis hreads hwrites hstuck hu hheld with h | ⟨_,h⟩
    · exact h
    -- the writer is not in yet, so there are readers to wait for
    · exact reader_waits hdis hreads hwrites hstuck h
  · exact reader_waits hdis hreads hwrites hstuck hreaders

/-- The ranks of the locks waited for would go up without end. -/
theorem nobody_waits {t : Prog L S A × (L → Hold)} (ht : t ∈ ts) (op : LockOp) (l : L) :
    ¬ WaitsFor w t op l := by
  intro hwait
  have hup (n : ℕ) : WaitsAbove rank w ts n := by
    induction n with
    | zero => exact ⟨t, ht, op, l, hwait, Nat.zero_le _⟩
    | succ n ih =>
      obtain ⟨t₁,ht₁,op₁,l₁,hwait₁,hn⟩ := ih
      obtain ⟨t₂,ht₂,op₂,l₂,hwait₂,hlt⟩ := waits_higher hdis hreads hwrites hstuck ht₁ hwait₁
      exact ⟨t₂, ht₂, op₂, l₂, hwait₂, by omega⟩
  obtain ⟨t',ht',op',l',⟨⟨next,hnext⟩,_⟩,hle⟩ :=
    hup ((ts.map (fun t => t.1.nextRank rank)).sum + 1)
  have hmem : t'.1.nextRank rank ≤ (ts.map (fun t => t.1.nextRank rank)).sum :=
    List.single_le_sum (fun _ _ => Nat.zero_le _) _ (List.mem_map_of_mem ht')
  rw [hnext] at hmem
  exact absurd hle (Nat.not_le.mpr (Nat.lt_succ_of_le hmem))

end Waiting

/-- A disciplined thread without a next step has returned or waits for a lock. -/
theorem returned_or_waits {w : World L S A} {i : ℕ} {t : Prog L S A × (L → Hold)}
    (hget : w.threads[i]? = some t.1) (hd : Disciplined rank noHold t.2 t.1)
    (hnone : step w i = none) : (∃ a, t.1 = .ret a) ∨ ∃ op l, WaitsFor w t op l := by
  unfold step at hnone
  rw [hget] at hnone
  cases hp : t.1 with
  | ret a => exact .inl ⟨a, rfl⟩
  | fault =>
    rw [hp] at hd
    exact hd.elim
  | lock op l next =>
    rw [hp] at hnone
    exact .inr ⟨op, l, ⟨next, hp⟩, Option.map_eq_none_iff.mp hnone⟩
  | act f next =>
    rw [hp] at hnone
    cases hnone

/-- A lock that counts nobody is free. -/
theorem RWLock.eq_free {rw : RWLock} (hr : rw.readers = 0) (hw : rw.writer.toNat = 0) :
    rw = .free := by
  rcases rw with ⟨writer,readers⟩
  cases writer
  · exact congrArg _ hr
  · cases hw

omit [DecidableEq L] in
/-- Threads that have nothing of a lock do not count for it. -/
theorem count_eq_zero (g : Hold → ℕ) (hg : g .out = 0) (ts : List (Prog L S A × (L → Hold)))
    (l : L) (hout : ∀ t ∈ ts, t.2 l = .out) : (ts.map (fun t => g (t.2 l))).sum = 0 := by
  apply List.sum_eq_zero
  intro n hn
  obtain ⟨t,ht,rfl⟩ := List.mem_map.mp hn
  rw [hout t ht, hg]

/-- If no thread can go on, all have returned and every lock is free. -/
theorem Orderly.all_returned {w : World L S A} (hw : Orderly rank w)
    (hstuck : ∀ i, step w i = none) :
    (∀ p ∈ w.threads, ∃ a, p = .ret a) ∧ ∀ l, w.locks l = .free := by
  obtain ⟨ts,hts,hdis,hreads,hwrites⟩ := hw
  have hwaits : ∀ t ∈ ts, (∃ a, t.1 = .ret a) ∨ ∃ op l, WaitsFor w t op l := by
    intro t ht
    obtain ⟨i,hi⟩ := List.mem_iff_getElem?.mp ht
    refine returned_or_waits (i := i) ?_ (hdis t ht) (hstuck i)
    rw [hts, List.getElem?_map, hi]
    rfl
  have hret : ∀ t ∈ ts, ∃ a, t.1 = .ret a := by
    intro t ht
    rcases hwaits t ht with h | ⟨op,l,h⟩
    · exact h
    · exact absurd h (nobody_waits hdis hreads hwrites hwaits ht op l)
  have hout (l : L) : ∀ t ∈ ts, t.2 l = .out := by
    intro t ht
    obtain ⟨a,ha⟩ := hret t ht
    have hd := hdis t ht
    rw [ha] at hd
    exact congrFun hd l
  refine ⟨fun p hp => ?_, fun l => ?_⟩
  · rw [hts, List.mem_map] at hp
    obtain ⟨t,ht,rfl⟩ := hp
    exact hret t ht
  · have hr := (hreads l).trans (count_eq_zero Hold.reads rfl ts l (hout l))
    have hw := (hwrites l).trans (count_eq_zero Hold.writes rfl ts l (hout l))
    exact RWLock.eq_free hr hw

/-- Disciplined programs that start with every lock free. -/
theorem orderly_start (s : S) (ps : List (Prog L S A))
    (h : ∀ p ∈ ps, Disciplined rank noHold noHold p) :
    Orderly rank (⟨s, fun _ => .free, ps⟩ : World L S A) := by
  have hout (l : L) : ∀ t ∈ ps.map (fun p => (p, (noHold : L → Hold))), t.2 l = .out := by
    intro t ht
    obtain ⟨p,_,rfl⟩ := List.mem_map.mp ht
    rfl
  refine ⟨ps.map (fun p => (p, noHold)), by simp [Function.comp_def], fun t ht => ?_,
    fun l => (count_eq_zero Hold.reads rfl _ l (hout l)).symm,
    fun l => (count_eq_zero Hold.writes rfl _ l (hout l)).symm⟩
  obtain ⟨p,hp,rfl⟩ := List.mem_map.mp ht
  exact h p hp

theorem Orderly.run {w w' : World L S A} (hw : Orderly rank w) (is : List ℕ)
    (h : Transitions.run step w is = some w') : Orderly rank w' :=
  Transitions.invariant_run (P := fun _ _ => True)
    (fun _ _ _ hs _ hstep => orderly_step hs hstep) is w w' hw
    (Transitions.allowed_of_forall is w (fun _ _ _ => trivial)) h

/-- Every schedule can be continued to its end. -/
theorem exists_end (w : World L S A) :
    ∃ is w', Transitions.run step w is = some w' ∧ ∀ i, step w' i = none := by
  apply step_wellFounded.induction w
  intro w ih
  by_cases hstuck : ∀ i, step w i = none
  · exact ⟨[], w, rfl, hstuck⟩
  · push Not at hstuck
    obtain ⟨i,hi⟩ := hstuck
    obtain ⟨u,hu⟩ := Option.ne_none_iff_exists'.mp hi
    obtain ⟨is,w',hrun,hend⟩ := ih u ⟨i, hu⟩
    exact ⟨i :: is, w', (Transitions.run_cons_eq_some _ _ _ _ _).mpr ⟨u, hu, hrun⟩, hend⟩

end Together

section Discipline
variable {L S A B : Type} [DecidableEq L] {rank : L → ℕ} {final mid held : L → Hold}

theorem Disciplined.bind {p : Prog L S A} {k : A → Prog L S B}
    (hp : Disciplined rank mid held p) (hk : ∀ a, Disciplined rank final mid (k a)) :
    Disciplined rank final held (p.bind k) := by
  induction p generalizing held with
  | ret a =>
    rw [show held = mid from hp]
    exact hk a
  | fault => exact hp.elim
  | lock op l next ih =>
    obtain ⟨hrank,h,hmove,hnext⟩ := hp
    exact ⟨hrank, h, hmove, ih hnext⟩
  | act f next ih => exact fun s => ih s (hp s)

theorem disciplined_locked {l : L} {p : Prog L S A} (hout : held l = .out)
    (hrank : ∀ l', l' ≠ l → held l' ≠ .out → rank l' < rank l)
    (hp : Disciplined rank (Function.update held l .writing) (Function.update held l .writing) p) :
    Disciplined rank held held (Prog.locked l p) := by
  have hrank' (h : Hold) (l' : L) (hl : l' ≠ l) (hheld : Function.update held l h l' ≠ .out) :
      rank l' < rank l := by
    rw [Function.update_of_ne hl] at hheld
    exact hrank l' hl hheld
  refine ⟨hrank, .waiting, by rw [hout]; rfl, hrank' _, .writing, ?_, ?_⟩
  · rw [Function.update_self]
    rfl
  · rw [Function.update_idem]
    refine hp.bind fun a => ⟨hrank' _, .out, ?_, ?_⟩
    · rw [Function.update_self]
      rfl
    · show Function.update (Function.update held l .writing) l .out = held
      rw [Function.update_idem, ← hout, Function.update_eq_self]

theorem disciplined_rlocked {l : L} {p : Prog L S A} (hout : held l = .out)
    (hrank : ∀ l', l' ≠ l → held l' ≠ .out → rank l' < rank l)
    (hp : Disciplined rank (Function.update held l .reading) (Function.update held l .reading) p) :
    Disciplined rank held held (Prog.rlocked l p) := by
  refine ⟨hrank, .reading, by rw [hout]; rfl, hp.bind fun a => ⟨?_, .out, ?_, ?_⟩⟩
  · intro l' hl hheld
    rw [Function.update_of_ne hl] at hheld
    exact hrank l' hl hheld
  · rw [Function.update_self]
    rfl
  · show Function.update (Function.update held l .reading) l .out = held
    rw [Function.update_idem, ← hout, Function.update_eq_self]

theorem disciplined_access (g : S → A × S) : Disciplined rank held held (Prog.access g) :=
  fun _ => rfl

end Discipline
end Locking
