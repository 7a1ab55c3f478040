import Clouditor.ErrorGroups
import Clouditor.LockedStages

/-! The hooks of the services: functions that are registered under a lock and called, one after
the other, by goroutines that inform them of an event. -/
namespace Clouditor
set_option autoImplicit false
open Locking
open scoped List

section Programs

/-- The lists of hooks: those of the orchestrator for cloud services, targets of evaluation and
assessment results, those of the assessment, and those of the evidence store. -/
inductive HookRegistry where
  | cloudServiceHooks
  | toeHooks
  | assessmentResultHooks
  | resultHooks
  | evidenceHooks
  deriving DecidableEq

inductive HookMutex where
  | orchestratorHookMutex
  | orchestratorMu
  | assessmentHookMutex
  | evidenceMu
  deriving DecidableEq

/-- All lists of the orchestrator are written under one lock. -/
def HookRegistry.registerMutex : HookRegistry → HookMutex
  | .cloudServiceHooks => .orchestratorHookMutex
  | .toeHooks => .orchestratorHookMutex
  | .assessmentResultHooks => .orchestratorHookMutex
  | .resultHooks => .assessmentHookMutex
  | .evidenceHooks => .evidenceMu

/-- The orchestrator informs about results under another lock than it registers. -/
def HookRegistry.informMutex : HookRegistry → HookMutex
  | .cloudServiceHooks => .orchestratorHookMutex
  | .toeHooks => .orchestratorHookMutex
  | .assessmentResultHooks => .orchestratorMu
  | .resultHooks => .assessmentHookMutex
  | .evidenceHooks => .evidenceMu

/-- Whether the lock is taken for writing while the hooks are called. -/
def HookRegistry.exclusive : HookRegistry → Bool
  | .cloudServiceHooks => false
  | .toeHooks => false
  | .assessmentResultHooks => true
  | .resultHooks => false
  | .evidenceHooks => true

/-- The lists of hooks, and the calls so far: which event, by its number, and which hook. -/
structure HookState where
  hooks : HookRegistry → List ℕ
  calls : List (ℕ × ℕ)

def HookState.setHooks (st : HookState) (r : HookRegistry) (hs : List ℕ) : HookState :=
  { st with hooks := Function.update st.hooks r hs }

def HookState.call (st : HookState) (i h : ℕ) : HookState :=
  { st with calls := st.calls ++ [(i, h)] }

/-- The hooks that were called for an event, in their order. -/
def HookState.informed (st : HookState) (i : ℕ) : List ℕ :=
  (st.calls.filter (fun c => c.1 = i)).map Prod.snd

abbrev HookProg := Prog HookMutex HookState

def loadHooks (r : HookRegistry) : HookProg (List ℕ) := .access (fun st => (st.hooks r, st))

/-- The list is read and then written with one more hook. -/
def registerHook (r : HookRegistry) (h : ℕ) : HookProg Unit :=
  .locked r.registerMutex (.bind (loadHooks r) fun hs =>
    .access (fun st => ((), st.setHooks r (hs ++ [h]))))

variable (body : ℕ → HookProg Unit)

def callHooks (i : ℕ) : List ℕ → HookProg Unit
  | [] => .ret ()
  | h :: hs => .act (fun st => st.call i h) (fun _ => .bind (body h) fun _ => callHooks i hs)

/-- `informHooks` and `informToeHooks`. -/
def informReading (i : ℕ) (r : HookRegistry) : HookProg Unit :=
  .rlocked r.informMutex (.bind (loadHooks r) (callHooks body i))

/-- `informHook` of the orchestrator and `informHooks` of the evidence store, which look whether
there is a list before they go through it. -/
def informWriting (i : ℕ) (r : HookRegistry) : HookProg Unit :=
  .locked r.informMutex (.bind (loadHooks r) fun hs =>
    if hs.isEmpty then .ret () else .bind (loadHooks r) (callHooks body i))

def informOf (i : ℕ) (r : HookRegistry) : HookProg Unit :=
  if r.exclusive then informWriting body i r else informReading body i r

end Programs

section Alone
variable (body : ℕ → HookProg Unit)

theorem exec_callHooks_plain (i : ℕ) (front back : List ℕ) (hplain : ∀ h ∈ front, body h = .ret ())
    (st : HookState) (locks : HookMutex → RWLock) :
    exec (callHooks body i (front ++ back)) st locks =
      exec (callHooks body i back) { st with calls := st.calls ++ front.map (fun h => (i, h)) }
        locks := by
  induction front generalizing st with
  | nil => rw [List.nil_append, List.map_nil, List.append_nil]
  | cons h front ih =>
    have hrest := ih (fun x hx => hplain x (List.mem_cons_of_mem h hx)) (st.call i h)
    calc exec (callHooks body i (h :: front ++ back)) st locks
      _ = exec (callHooks body i (front ++ back)) (st.call i h) locks := by
        rw [List.cons_append, callHooks, hplain h List.mem_cons_self]
        rfl
      _ = _ := by
        rw [hrest, HookState.call, List.append_assoc]
        rfl

/-- Who comes to a lock that a writer has, or waits for, is kept out. -/
theorem exec_locked_of_writer {A : Type} (l : HookMutex) (p : HookProg A) (st : HookState)
    (locks : HookMutex → RWLock) (h : (locks l).writer = true) :
    exec (.locked l p) st locks = .blocked st locks := by
  simp only [Prog.locked, exec, LockOp.apply, h, if_true]

theorem exec_informOf_of_writer (i : ℕ) (r : HookRegistry) (st : HookState)
    (locks : HookMutex → RWLock) (h : (locks r.informMutex).writer = true) :
    exec (informOf body i r) st locks = .blocked st locks := by
  unfold informOf
  split_ifs
  · exact exec_locked_of_writer _ _ st locks h
  · simp only [informReading, Prog.rlocked, exec, LockOp.apply, h, if_true]

/-- A writer waits for a reader, and keeps others out meanwhile. -/
theorem exec_locked_of_reader {A : Type} (l : HookMutex) (p : HookProg A) (st : HookState)
    (locks : HookMutex → RWLock) (h : locks l = ⟨false, 1⟩) :
    exec (.locked l p) st locks = .blocked st (Function.update locks l ⟨true, 1⟩) := by
  simp only [Prog.locked, exec, LockOp.apply, h, Bool.false_eq_true, if_false,
    Function.update_self, Nat.one_ne_zero]

theorem exec_callHooks_blocked (i : ℕ) (front back : List ℕ) (h : ℕ)
    (hplain : ∀ x ∈ front, body x = .ret ()) (st : HookState) (locks locks' : HookMutex → RWLock)
    (hbody : ∀ st, exec (body h) st locks = .blocked st locks') :
    exec (callHooks body i (front ++ h :: back)) st locks =
      .blocked { st with calls := st.calls ++ (front ++ [h]).map (fun x => (i, x)) } locks' := by
  rw [exec_callHooks_plain body i front (h :: back) hplain, callHooks, exec, exec_bind, hbody]
  simp only [Outcome.andThen, HookState.call, List.map_append, List.append_assoc, List.map_cons,
    List.map_nil]

/-- A hook that registers another one, on a list that is written under the lock its own list is
read under, is never done: the event it is called for ends there, and nobody who needs the lock
later gets it. -/
theorem registering_hook_jams (i : ℕ) (r r' : HookRegistry) (st : HookState) (front back : List ℕ)
    (h h' : ℕ) (hlock : r'.registerMutex = r.informMutex)
    (hhooks : st.hooks r = front ++ h :: back) (hplain : ∀ x ∈ front, body x = .ret ())
    (hbody : body h = registerHook r' h') :
    ∃ st' locks, exec (informOf body i r) st (fun _ => .free) = .blocked st' locks ∧
      st'.hooks = st.hooks ∧
      st'.calls = st.calls ++ (front ++ [h]).map (fun x => (i, x)) ∧
      (∀ j q, q.informMutex = r.informMutex →
        exec (informOf body j q) st' locks = .blocked st' locks) ∧
      ∀ q x, q.registerMutex = r.informMutex →
        exec (registerHook q x) st' locks = .blocked st' locks := by
  -- what is left in the lock, for reading as for writing
  obtain ⟨locks,hexec,hwriter⟩ : ∃ locks, exec (informOf body i r) st (fun _ => .free) =
      .blocked { st with calls := st.calls ++ (front ++ [h]).map (fun x => (i, x)) } locks ∧
      (locks r.informMutex).writer = true := by
    unfold informOf
    split_ifs
    · refine ⟨Function.update (fun _ => .free) r.informMutex ⟨true, 0⟩, ?_, ?_⟩
      · have hblocked := exec_callHooks_blocked body i front back h hplain st
          (Function.update (fun _ => .free) r.informMutex ⟨true, 0⟩) _ (fun st => by
            rw [hbody, registerHook, hlock]
            exact exec_locked_of_writer _ _ st _ (by rw [Function.update_self]))
        rw [informWriting, exec_locked r.informMutex _ st (fun _ => .free) rfl, exec_bind]
        simp [loadHooks, exec_access, Outcome.andThen, hhooks, exec_bind, hblocked]
      · rw [Function.update_self]
    · refine ⟨Function.update (fun _ => .free) r.informMutex ⟨true, 1⟩, ?_, ?_⟩
      · have hblocked := exec_callHooks_blocked body i front back h hplain st
          (Function.update (fun _ => .free) r.informMutex ⟨false, 1⟩) _ (fun st => by
            rw [hbody, registerHook, hlock]
            exact exec_locked_of_reader _ _ st _ (Function.update_self ..))
        rw [informReading, exec_rlocked r.informMutex _ st (fun _ => .free) rfl, exec_bind]
        simp [loadHooks, exec_access, Outcome.andThen, hhooks, hblocked]
      · rw [Function.update_self]
  refine ⟨_, locks, hexec, rfl, rfl, ?_, ?_⟩
  · intro j q hq
    apply exec_informOf_of_writer
    rw [hq]
    exact hwriter
  · intro q x hq
    apply exec_locked_of_writer
    rw [hq]
    exact hwriter

/-- The second hook for cloud services registers one for targets of evaluation. -/
theorem nested_registration_jams :
    ∃ st' locks, exec (informOf (fun h => if h = 2 then registerHook .toeHooks 7 else .ret ()) 0
        .cloudServiceHooks) ⟨fun _ => [1, 2, 3], []⟩ (fun _ => .free) = .blocked st' locks ∧
      st'.calls = [(0, 1), (0, 2)] ∧
      ∀ x, exec (registerHook .assessmentResultHooks x) st' locks = .blocked st' locks := by
  obtain ⟨st',locks,hexec,-,hcalls,-,hregister⟩ := registering_hook_jams
    (fun h => if h = 2 then registerHook .toeHooks 7 else .ret ()) 0 .cloudServiceHooks .toeHooks
    ⟨fun _ => [1, 2, 3], []⟩ [1] [3] 2 7 rfl rfl (by simp) rfl
  exact ⟨st', locks, hexec, hcalls, fun x => hregister .assessmentResultHooks x rfl⟩

end Alone

section Stages

/-- What is left of a registration. -/
inductive RegisterPoint where
  | announce
  | drain
  | load
  | store (hs : List ℕ)
  | unlock
  | done

/-- What is left of a goroutine that informs, and the hooks that it has called. -/
inductive InformPoint where
  | enter
  | drain
  | check
  | load
  | call (called rest : List ℕ)
  | done (called : List ℕ)

inductive HookStage where
  | register (r : HookRegistry) (h : ℕ) (point : RegisterPoint)
  | inform (i : ℕ) (r : HookRegistry) (point : InformPoint)

/-- Hooks that do not take any of the locks themselves. -/
def plainBody (_ : ℕ) : HookProg Unit := .ret ()

def storeHook (r : HookRegistry) (h : ℕ) (hs : List ℕ) : HookProg Unit :=
  .bind (.access (fun st => ((), st.setHooks r (hs ++ [h])))) fun a =>
    .lock .unlock r.registerMutex (.ret a)

def leaveHooks (r : HookRegistry) (a : Unit) : HookProg Unit :=
  .lock (if r.exclusive then .unlock else .runlock) r.informMutex (.ret a)

def checkHooks (i : ℕ) (r : HookRegistry) : HookProg Unit :=
  .bind (.bind (loadHooks r) fun hs =>
    if hs.isEmpty then .ret () else .bind (loadHooks r) (callHooks plainBody i)) (leaveHooks r)

def HookStage.prog : HookStage → HookProg Unit
  | .register r h .announce => registerHook r h
  | .register r h .drain => .lock .drain r.registerMutex (.bind (loadHooks r) (storeHook r h))
  | .register r h .load => .bind (loadHooks r) (storeHook r h)
  | .register r h (.store hs) => storeHook r h hs
  | .register r _ .unlock => .lock .unlock r.registerMutex (.ret ())
  | .register _ _ .done => .ret ()
  | .inform i r .enter => informOf plainBody i r
  -- only those who write get to these two
  | .inform i r .drain =>
    if r.exclusive then .lock .drain r.informMutex (checkHooks i r) else .ret ()
  | .inform i r .check => if r.exclusive then checkHooks i r else .ret ()
  | .inform i r .load => .bind (.bind (loadHooks r) (callHooks plainBody i)) (leaveHooks r)
  | .inform i r (.call _ rest) => .bind (callHooks plainBody i rest) (leaveHooks r)
  | .inform _ _ (.done _) => .ret ()

def HookStage.hold : HookStage → HookMutex → Hold
  | .register _ _ .announce => noHold
  | .register r _ .drain => Function.update noHold r.registerMutex .waiting
  | .register r _ .load => Function.update noHold r.registerMutex .writing
  | .register r _ (.store _) => Function.update noHold r.registerMutex .writing
  | .register r _ .unlock => Function.update noHold r.registerMutex .writing
  | .register _ _ .done => noHold
  | .inform _ _ .enter => noHold
  | .inform _ r .drain => Function.update noHold r.informMutex .waiting
  | .inform _ r .check => Function.update noHold r.informMutex .writing
  | .inform _ r .load => Function.update noHold r.informMutex
      (if r.exclusive then .writing else .reading)
  | .inform _ r (.call _ _) => Function.update noHold r.informMutex
      (if r.exclusive then .writing else .reading)
  | .inform _ _ (.done _) => noHold

def HookStage.next (g : HookStage) (st : HookState) : HookStage :=
  match g with
  | .register r h .announce => .register r h .drain
  | .register r h .drain => .register r h .load
  | .register r h .load => .register r h (.store (st.hooks r))
  | .register r h (.store _) => .register r h .unlock
  | .register r h .unlock => .register r h .done
  | .register r h .done => .register r h .done
  | .inform i r .enter => .inform i r (if r.exclusive then .drain else .load)
  | .inform i r .drain => .inform i r .check
  | .inform i r .check => .inform i r (if (st.hooks r).isEmpty then .call [] [] else .load)
  | .inform i r .load => .inform i r (.call [] (st.hooks r))
  | .inform i r (.call called []) => .inform i r (.done called)
  | .inform i r (.call called (h :: rest)) => .inform i r (.call (called ++ [h]) rest)
  | .inform i r (.done called) => .inform i r (.done called)

theorem update_noHold (l : HookMutex) (h h' : Hold) :
    Function.update noHold l h' = Function.update (Function.update noHold l h) l h' :=
  (Function.update_idem ..).symm

theorem noHold_eq (l : HookMutex) (h : Hold) :
    noHold = Function.update (Function.update noHold l h) l .out := by
  rw [Function.update_idem]
  exact (Function.update_eq_self l noHold).symm

theorem HookStage.lock_next (g : HookStage) (op : LockOp) (l : HookMutex) (p : HookProg Unit)
    (hg : g.prog = .lock op l p) (st : HookState) : (g.next st).prog = p ∧
      ∃ h, op.move (g.hold l) = some h ∧ (g.next st).hold = Function.update g.hold l h := by
  obtain ⟨r,h,point⟩ | ⟨i,r,point⟩ := g
  · cases point with
    | announce =>
      cases hg
      exact ⟨rfl, .waiting, rfl, rfl⟩
    | drain =>
      cases hg
      refine ⟨rfl, .writing, ?_, update_noHold ..⟩
      rw [HookStage.hold, Function.update_self]
      rfl
    | load => cases hg
    | store hs => cases hg
    | unlock =>
      cases hg
      refine ⟨rfl, .out, ?_, noHold_eq ..⟩
      rw [HookStage.hold, Function.update_self]
      rfl
    | done => cases hg
  · cases point with
    | enter =>
      -- for writing with an announcement first, for reading at once
      cases r <;> cases hg <;> exact ⟨rfl, _, rfl, rfl⟩
    | drain =>
      cases r <;> cases hg <;> exact ⟨rfl, .writing, rfl, update_noHold ..⟩
    | check => cases r <;> cases hg
    | load => cases hg
    | call called rest =>
      cases rest with
      | nil =>
        cases hg
        refine ⟨rfl, .out, ?_, noHold_eq ..⟩
        rw [HookStage.hold, Function.update_self]
        cases r <;> rfl
      | cons h rest => cases hg
    | done called => cases hg

theorem check_next (i : ℕ) (r : HookRegistry) (hr : r.exclusive = true) (st : HookState) :
    ((HookStage.inform i r .check).next st).prog = Prog.bind (if (st.hooks r).isEmpty then .ret ()
        else .bind (loadHooks r) (callHooks plainBody i)) (leaveHooks r) ∧
      ((HookStage.inform i r .check).next st).hold = (HookStage.inform i r .check).hold := by
  have hinside : Function.update noHold r.informMutex (if r.exclusive then Hold.writing
      else .reading) = Function.update noHold r.informMutex .writing := by rw [if_pos hr]
  rw [HookStage.next]
  cases st.hooks r with
  | nil => exact ⟨rfl, hinside⟩
  | cons h hs => exact ⟨rfl, hinside⟩

theorem HookStage.act_next (g : HookStage) (f : HookState → HookState)
    (k : HookState → HookProg Unit) (hg : g.prog = .act f k) (st : HookState) :
    (g.next st).prog = k st ∧ (g.next st).hold = g.hold := by
  obtain ⟨r,h,point⟩ | ⟨i,r,point⟩ := g
  · cases point with
    | announce => cases hg
    | drain => cases hg
    | load =>
      cases hg
      exact ⟨rfl, rfl⟩
    | store hs =>
      cases hg
      exact ⟨rfl, rfl⟩
    | unlock => cases hg
    | done => cases hg
  · cases point with
    | enter => cases r <;> cases hg
    | drain => cases r <;> cases hg
    | check =>
      have hwrites : r.exclusive = true := by
        cases r <;> cases hg <;> rfl
      rw [HookStage.prog, if_pos hwrites] at hg
      cases hg
      exact check_next i r hwrites st
    | load =>
      cases hg
      exact ⟨rfl, rfl⟩
    | call called rest =>
      cases rest with
      | nil => cases hg
      | cons h rest =>
        cases hg
        exact ⟨rfl, rfl⟩
    | done called => cases hg

def hookStaging : Staging HookMutex HookState Unit HookStage where
  prog := HookStage.prog
  hold := HookStage.hold
  next := HookStage.next
  lock := HookStage.lock_next
  act := HookStage.act_next

end Stages

section Together
variable {init : HookRegistry → List ℕ} {gs : List HookStage} {st st' : HookState} {i j : ℕ}
  {g : HookStage}

/-- The hooks that a thread has put into a list. -/
def HookStage.written (r : HookRegistry) : HookStage → List ℕ
  | .register r' h .unlock => if r' = r then [h] else []
  | .register r' h .done => if r' = r then [h] else []
  | _ => []

/-- Thread `j` is right about the list it has read, and has called hooks as it says. -/
def HookStage.Fine (init : HookRegistry → List ℕ) (st : HookState) (j : ℕ) : HookStage → Prop
  | .register r _ (.store hs) => hs = st.hooks r
  | .register _ _ _ => True
  | .inform i r (.call called rest) => i = j ∧ st.informed j = called ∧
      init r <+: called ++ rest ∧ called ++ rest <+: st.hooks r
  | .inform i r (.done called) => i = j ∧ st.informed j = called ∧ init r <+: called ∧
      called <+: st.hooks r
  | .inform i r .drain => i = j ∧ st.informed j = [] ∧ r.exclusive = true
  | .inform i r .check => i = j ∧ st.informed j = [] ∧ r.exclusive = true
  | .inform i _ _ => i = j ∧ st.informed j = []

/-- The lists have what they had at the start, and then what was registered since. -/
structure HooksFine (init : HookRegistry → List ℕ) (gs : List HookStage) (st : HookState) :
    Prop where
  hooks : ∀ r, st.hooks r ~ init r ++ gs.flatMap (HookStage.written r)
  grown : ∀ r, init r <+: st.hooks r
  fine : ∀ (j : ℕ) (g : HookStage), gs[j]? = some g → g.Fine init st j

/-- What another thread does is of no concern, as long as lists only grow and the one that is
about to be written stays. -/
theorem HookStage.Fine.frame (h : g.Fine init st j) (hgrow : ∀ r, st.hooks r <+: st'.hooks r)
    (hinformed : st'.informed j = st.informed j)
    (hstore : ∀ r h hs, g = .register r h (.store hs) → st'.hooks r = st.hooks r) :
    g.Fine init st' j := by
  obtain ⟨r,h,point⟩ | ⟨i,r,point⟩ := g
  · cases point with
    | store hs =>
      have hread : hs = st.hooks r := h
      exact hread.trans (hstore r _ hs rfl).symm
    | _ => trivial
  · cases point with
    | call called rest =>
      obtain ⟨hi,hcalled,hinit,hread⟩ := h
      exact ⟨hi, hinformed.trans hcalled, hinit, hread.trans (hgrow r)⟩
    | done called =>
      obtain ⟨hi,hcalled,hinit,hread⟩ := h
      exact ⟨hi, hinformed.trans hcalled, hinit, hread.trans (hgrow r)⟩
    | drain => exact ⟨h.1, hinformed.trans h.2.1, h.2.2⟩
    | check => exact ⟨h.1, hinformed.trans h.2.1, h.2.2⟩
    | enter => exact ⟨h.1, hinformed.trans h.2⟩
    | load => exact ⟨h.1, hinformed.trans h.2⟩

theorem HooksFine.set (h : HooksFine init gs st) (hg : gs[i]? = some g) {g' : HookStage}
    (hhooks : ∀ r, ∃ new, st'.hooks r = st.hooks r ++ new ∧
      g'.written r ~ g.written r ++ new)
    (hfine : g'.Fine init st' i)
    (hothers : ∀ (j : ℕ) (g : HookStage), j ≠ i → gs[j]? = some g → g.Fine init st' j) :
    HooksFine init (gs.set i g') st' where
  hooks r := by
    obtain ⟨new,hnew,hwritten⟩ := hhooks r
    have hset := ErrorGroups.perm_flatMap_set (HookStage.written r) hg hwritten
    calc st'.hooks r = st.hooks r ++ new := hnew
      _ ~ init r ++ gs.flatMap (HookStage.written r) ++ new := (h.hooks r).append_right new
      _ = init r ++ (gs.flatMap (HookStage.written r) ++ new) := List.append_assoc ..
      _ ~ init r ++ (gs.set i g').flatMap (HookStage.written r) := hset.symm.append_left _
  grown r := by
    obtain ⟨new,hnew,_⟩ := hhooks r
    rw [hnew]
    exact (h.grown r).trans (List.prefix_append _ _)
  fine j g₀ hj := by
    by_cases hji : j = i
    · subst hji
      rw [List.getElem?_set_self (List.getElem?_eq_some_iff.mp hg).1] at hj
      cases hj
      exact hfine
    · rw [List.getElem?_set_ne (Ne.symm hji)] at hj
      exact hothers j g₀ hji hj

/-- A thread goes on without touching anything. -/
theorem HooksFine.set_same (h : HooksFine init gs st) (hg : gs[i]? = some g) {g' : HookStage}
    (hwritten : ∀ r, g'.written r = g.written r) (hfine : g'.Fine init st i) :
    HooksFine init (gs.set i g') st := by
  refine h.set hg (fun r => ⟨[], ?_, ?_⟩) hfine
    (fun j g₀ _ hj => h.fine j g₀ hj)
  · rw [List.append_nil]
  · rw [List.append_nil, hwritten]

/-- Nobody else writes a list that was read under its lock, so no hook is lost. -/
theorem HooksFine.store (h : HooksFine init gs st) (hex : hookStaging.Exclusive gs)
    {r : HookRegistry} {x : ℕ} {hs : List ℕ}
    (hg : gs[i]? = some (.register r x (.store hs))) :
    HooksFine init (gs.set i (.register r x .unlock)) (st.setHooks r (hs ++ [x])) := by
  have hread : hs = st.hooks r := h.fine i _ hg
  have hself : (st.setHooks r (hs ++ [x])).hooks r = st.hooks r ++ [x] := by
    rw [hread]
    exact Function.update_self ..
  have hother (q : HookRegistry) (hq : q ≠ r) :
      (st.setHooks r (hs ++ [x])).hooks q = st.hooks q := Function.update_of_ne hq ..
  apply h.set hg
  · intro q
    by_cases hq : q = r
    · refine ⟨[x], ?_, ?_⟩
      · rw [hq, hself]
      · rw [hq]
        simp [HookStage.written]
    · refine ⟨[], ?_, ?_⟩
      · rw [hother q hq, List.append_nil]
      · simp [HookStage.written, Ne.symm hq]
  · trivial
  · intro j g₀ hji hj
    apply (h.fine j g₀ hj).frame
    · intro q
      by_cases hq : q = r
      · rw [hq, hself]
        exact List.prefix_append _ _
      · rw [hother q hq]
    · rfl
    · rintro q y hs' rfl
      by_cases hq : q = r
      · -- both would write under the lock of the list
        subst hq
        exact absurd (Function.update_self ..) (hex i j _ _ q.registerMutex (Ne.symm hji) hg hj
          (Function.update_self ..))
      · exact hother q hq

theorem informed_call (st : HookState) (i j x : ℕ) :
    (st.call i x).informed j = if i = j then st.informed j ++ [x] else st.informed j := by
  unfold HookState.informed HookState.call
  split_ifs with hij
  · simp [hij]
  · simp [hij]

theorem HooksFine.call (h : HooksFine init gs st) {k x : ℕ} {r : HookRegistry}
    {called rest : List ℕ} (hg : gs[i]? = some (.inform k r (.call called (x :: rest)))) :
    HooksFine init (gs.set i (.inform k r (.call (called ++ [x]) rest))) (st.call k x) := by
  obtain ⟨hk,hcalled,hinit,hread⟩ := h.fine i _ hg
  subst hk
  have happend : called ++ [x] ++ rest = called ++ x :: rest := by
    rw [List.append_assoc, List.singleton_append]
  apply h.set hg
  · intro q
    exact ⟨[], (List.append_nil _).symm, .refl _⟩
  · refine ⟨rfl, ?_, ?_, ?_⟩
    · rw [informed_call, if_pos rfl, hcalled]
    · rw [happend]
      exact hinit
    · rw [happend]
      exact hread
  · intro j g₀ hji hj
    apply (h.fine j g₀ hj).frame
    · intro q
      exact List.prefix_rfl
    · rw [informed_call, if_neg (Ne.symm hji)]
    · intro _ _ _ _
      rfl

theorem hooksFine_step (h : HooksFine init gs st) (hex : hookStaging.Exclusive gs)
    (hg : gs[i]? = some g) :
    HooksFine init (gs.set i (hookStaging.next g st)) ((hookStaging.prog g).effect st) := by
  have hfine := h.fine i g hg
  obtain ⟨r,x,point⟩ | ⟨k,r,point⟩ := g
  · cases point with
    | announce => exact h.set_same hg (fun _ => rfl) trivial
    | drain => exact h.set_same hg (fun _ => rfl) trivial
    | load => exact h.set_same hg (fun _ => rfl) rfl
    | store hs => exact h.store hex hg
    | unlock => exact h.set_same hg (fun _ => rfl) trivial
    | done => exact h.set_same hg (fun _ => rfl) trivial
  · cases point with
    | enter =>
      have heffect : (hookStaging.prog (.inform k r .enter)).effect st = st := by cases r <;> rfl
      rw [heffect]
      apply h.set_same hg
      · intro q
        cases r <;> rfl
      · show HookStage.Fine init st i (.inform k r (if r.exclusive then .drain else .load))
        split_ifs with hwrites
        · exact ⟨hfine.1, hfine.2, hwrites⟩
        · exact hfine
    | drain =>
      have heffect : (hookStaging.prog (.inform k r .drain)).effect st = st := by cases r <;> rfl
      rw [heffect]
      exact h.set_same hg (fun _ => rfl) hfine
    | check =>
      have heffect : (hookStaging.prog (.inform k r .check)).effect st = st := by cases r <;> rfl
      rw [heffect]
      refine h.set_same hg (fun _ => rfl) ?_
      show HookStage.Fine init st i (.inform k r
        (if (st.hooks r).isEmpty then .call [] [] else .load))
      split_ifs with hempty
      · -- there was none at the start either
        have hgrown := h.grown r
        rw [List.isEmpty_iff.mp hempty] at hgrown
        exact ⟨hfine.1, hfine.2.1, hgrown, List.nil_prefix⟩
      · exact ⟨hfine.1, hfine.2.1⟩
    | load =>
      refine h.set_same hg (fun _ => rfl) ⟨hfine.1, hfine.2, ?_, ?_⟩
      · exact h.grown r
      · exact List.prefix_rfl
    | call called rest =>
      cases rest with
      | nil =>
        obtain ⟨hk,hcalled,hinit,hread⟩ := hfine
        rw [List.append_nil] at hinit hread
        exact h.set_same hg (fun _ => rfl) ⟨hk, hcalled, hinit, hread⟩
      | cons y rest => exact h.call hg
    | done called => exact h.set_same hg (fun _ => rfl) hfine

inductive HookTask where
  | register (r : HookRegistry) (h : ℕ)
  | inform (r : HookRegistry)

/-- The goroutine with number `i`, which is also the number of its event. -/
def HookTask.prog (i : ℕ) : HookTask → HookProg Unit
  | .register r h => registerHook r h
  | .inform r => informOf plainBody i r

def HookTask.registered (r : HookRegistry) : HookTask → List ℕ
  | .register r' h => if r' = r then [h] else []
  | .inform _ => []

def HookTask.stage (i : ℕ) : HookTask → HookStage
  | .register r h => .register r h .announce
  | .inform r => .inform i r .enter

def HookStage.task : HookStage → HookTask
  | .register r h _ => .register r h
  | .inform _ r _ => .inform r

theorem task_next (g : HookStage) (st : HookState) : (hookStaging.next g st).task = g.task := by
  obtain ⟨r,x,point⟩ | ⟨k,r,point⟩ := g
  · cases point <;> rfl
  · cases point with
    | call called rest => cases rest <;> rfl
    | _ => rfl

/-- A thread that has returned is at its end. -/
theorem done_of_ret (h : g.Fine init st j) (hret : hookStaging.prog g = .ret ()) :
    (∃ r x, g = .register r x .done) ∨ ∃ r called, g = .inform j r (.done called) := by
  obtain ⟨r,x,point⟩ | ⟨k,r,point⟩ := g
  · cases point with
    | done => exact .inl ⟨r, x, rfl⟩
    | _ => cases hret
  · cases point with
    | enter => cases r <;> cases hret
    | drain =>
      have hprog : hookStaging.prog (.inform k r .drain) =
          .lock .drain r.informMutex (checkHooks k r) := if_pos h.2.2
      rw [hprog] at hret
      cases hret
    | check =>
      have hprog : hookStaging.prog (.inform k r .check) = checkHooks k r := if_pos h.2.2
      rw [hprog] at hret
      cases hret
    | load => cases hret
    | call called rest => cases rest <;> cases hret
    | done called =>
      obtain ⟨rfl,_⟩ := h
      exact .inr ⟨r, called, rfl⟩

theorem disciplined_callHooks (held : HookMutex → Hold) (i : ℕ) (hs : List ℕ) :
    Disciplined (fun _ => 0) held held (callHooks plainBody i hs) := by
  induction hs with
  | nil => rfl
  | cons h hs ih => exact fun _ => ih

/-- Nobody takes a lock while holding another one. -/
theorem disciplined_task (i : ℕ) (task : HookTask) :
    Disciplined (fun _ => 0) noHold noHold (task.prog i) := by
  have hload (held : HookMutex → Hold) (r : HookRegistry) :
      Disciplined (fun _ => 0) held held (loadHooks r) := disciplined_access _
  have hfree (l l' : HookMutex) (_ : l' ≠ l) (hl' : noHold l' ≠ Hold.out) : 0 < 0 :=
    absurd rfl hl'
  cases task with
  | register r h =>
    exact disciplined_locked rfl (hfree _) ((hload _ r).bind fun _ => disciplined_access _)
  | inform r =>
    rw [HookTask.prog, informOf]
    split_ifs
    · refine disciplined_locked rfl (hfree _) ((hload _ r).bind fun hs => ?_)
      split_ifs
      · rfl
      · exact (hload _ r).bind (disciplined_callHooks _ i)
    · exact disciplined_rlocked rfl (hfree _) ((hload _ r).bind (disciplined_callHooks _ i))

theorem hooksFine_start (st : HookState) (hcalls : st.calls = []) (tasks : List HookTask) :
    HooksFine st.hooks (tasks.mapIdx HookTask.stage) st where
  hooks r := by
    have hnone : (tasks.mapIdx HookTask.stage).flatMap (HookStage.written r) = [] := by
      rw [List.flatMap_eq_nil_iff]
      intro g hg
      obtain ⟨i,hi,rfl⟩ := List.mem_mapIdx.mp hg
      cases tasks[i] <;> rfl
    rw [hnone, List.append_nil]
  grown r := List.prefix_rfl
  fine j g hg := by
    rw [List.getElem?_mapIdx] at hg
    obtain ⟨task,_,rfl⟩ := Option.map_eq_some_iff.mp hg
    have hinformed : st.informed j = [] := by rw [HookState.informed, hcalls]; rfl
    cases task with
    | register r h => trivial
    | inform r => exact ⟨rfl, hinformed⟩

/-- The stages of a run: the tasks stay what they are, and what has been called is right. -/
theorem exists_stages (st : HookState) (hcalls : st.calls = []) (tasks : List HookTask)
    (is : List ℕ) (w : World HookMutex HookState Unit)
    (hrun : Transitions.run step ⟨st, fun _ => .free, tasks.mapIdx HookTask.prog⟩ is = some w) :
    ∃ gs, hookStaging.Stands w gs ∧ gs.map HookStage.task = tasks ∧
      HooksFine st.hooks gs w.shared := by
  have hprogs : tasks.mapIdx HookTask.prog =
      (tasks.mapIdx HookTask.stage).map hookStaging.prog := by
    apply List.ext_getElem (by simp)
    intro i hi _
    rw [List.getElem_map, List.getElem_mapIdx, List.getElem_mapIdx]
    rw [List.length_mapIdx] at hi
    cases tasks[i] <;> rfl
  have htasks : (tasks.mapIdx HookTask.stage).map HookStage.task = tasks := by
    apply List.ext_getElem (by simp)
    intro i _ _
    rw [List.getElem_map, List.getElem_mapIdx]
    cases tasks[i] <;> rfl
  have hout (g : HookStage) (hg : g ∈ tasks.mapIdx HookTask.stage) (l : HookMutex) :
      hookStaging.hold g l = .out := by
    obtain ⟨i,hi,rfl⟩ := List.mem_mapIdx.mp hg
    cases tasks[i] <;> rfl
  have hstart := Staging.stands_start st (tasks.mapIdx HookTask.stage) hout
  rw [hprogs] at hrun
  have hstep (gs : List HookStage) (s : HookState) (i : ℕ) (g : HookStage)
      (hex : hookStaging.Exclusive gs)
      (h : gs.map HookStage.task = tasks ∧ HooksFine st.hooks gs s) (hg : gs[i]? = some g) :
      (gs.set i (hookStaging.next g s)).map HookStage.task = tasks ∧
        HooksFine st.hooks (gs.set i (hookStaging.next g s))
          ((hookStaging.prog g).effect s) := by
    refine ⟨?_, hooksFine_step h.2 hex hg⟩
    obtain ⟨hi,rfl⟩ := List.getElem?_eq_some_iff.mp hg
    calc (gs.set i (hookStaging.next gs[i] s)).map HookStage.task
      _ = (gs.map HookStage.task).set i gs[i].task := by rw [List.map_set, task_next]
      _ = (gs.set i gs[i]).map HookStage.task := List.map_set.symm
      _ = tasks := by rw [List.set_getElem_self, h.1]
  exact Staging.invariant_run hstep hstart ⟨htasks, hooksFine_start st hcalls tasks⟩ is hrun

end Together
end Clouditor
