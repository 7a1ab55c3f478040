import Clouditor.Transitions
import Mathlib.Data.List.Perm.Basic

/-! Error groups inside an error group. Functions end in any order, the first error of a group
cancels the context of all of them, and a group waits for each of its functions. -/
namespace ErrorGroups
open scoped List
set_option autoImplicit false

section Sets
variable {α β : Type}

theorem mem_set_of_ne {l : List α} {i : ℕ} {a b x : α} (h : l[i]? = some a) (hx : x ≠ a) :
    x ∈ l.set i b ↔ x = b ∨ x ∈ l := by
  obtain ⟨front,back,_,hl,hset,_⟩ := Transitions.exists_around h
  rw [hset b, hl]
  simp only [List.mem_append, List.mem_cons, hx, false_or]
  exact or_left_comm

theorem perm_flatMap_set (f : α → List β) {l : List α} {i : ℕ} {a b : α} {xs : List β}
    (h : l[i]? = some a) (hab : (f b).Perm (f a ++ xs)) :
    ((l.set i b).flatMap f).Perm (l.flatMap f ++ xs) := by
  obtain ⟨front,back,_,hl,hset,_⟩ := Transitions.exists_around h
  rw [hset b, hl]
  simp only [List.flatMap_append, List.flatMap_cons, List.append_assoc]
  apply List.Perm.append_left
  calc f b ++ back.flatMap f
    _ ~ (f a ++ xs) ++ back.flatMap f := hab.append_right _
    _ ~ f a ++ (back.flatMap f ++ xs) := by
      rw [List.append_assoc]
      exact List.perm_append_comm.append_left _

theorem flatMap_of_single (f : α → List β) {l : List α} {i : ℕ} {a : α} (h : l[i]? = some a)
    (hothers : ∀ (k : ℕ) x, k ≠ i → l[k]? = some x → f x = []) : l.flatMap f = f a := by
  obtain ⟨front,back,hlength,hl,_⟩ := Transitions.exists_around h
  have hfront : front.flatMap f = [] := by
    rw [List.flatMap_eq_nil_iff]
    intro x hx
    obtain ⟨k,hk,rfl⟩ := List.mem_iff_getElem.mp hx
    apply hothers k _ (by omega)
    rw [hl, List.getElem?_append_left hk, List.getElem?_eq_getElem hk]
  have hback : back.flatMap f = [] := by
    rw [List.flatMap_eq_nil_iff]
    intro x hx
    obtain ⟨k,hk⟩ := List.mem_iff_getElem?.mp hx
    apply hothers (i + (k + 1)) x (by omega)
    rw [hl, List.getElem?_append_right (by omega), hlength, Nat.add_sub_cancel_left]
    exact hk
  rw [hl, List.flatMap_append, List.flatMap_cons, hfront, hback, List.append_nil, List.nil_append]

end Sets

section Model
variable {α ρ ε : Type}

/-- A function of the outer group. It runs `parts` in a group of its own and finishes with
their rows if none of them fails. A part sees whether its context is cancelled, and each
function gets an answer from outside. -/
structure Task (α ρ ε : Type) where
  parts : List (Bool → α → Except ε ρ)
  finish : List ρ → α → Except ε ρ

/-- How far a task has got: the outcomes of its parts, the first error among them, and what
the task itself ended with. -/
structure Progress (ρ ε : Type) where
  parts : List (Option (Except ε ρ))
  failure : Option ε
  result : Option (Except ε ρ)

structure State (ρ ε : Type) where
  tasks : List (Progress ρ ε)
  stored : List ρ
  err : Option ε

def errorOf : Except ε ρ → Option ε
  | .error e => some e
  | .ok _ => none

def rowOf : Option (Except ε ρ) → List ρ
  | some (.ok r) => [r]
  | _ => []

/-- There is at most one row, so the order does not matter. -/
theorem eq_of_perm_rowOf {l : List ρ} {o : Option (Except ε ρ)} (h : l ~ rowOf o) :
    l = rowOf o := by
  rcases o with _ | _ | r
  · exact List.perm_nil.mp h
  · exact List.perm_nil.mp h
  · exact List.perm_singleton.mp h

def Progress.rows (t : Progress ρ ε) : List ρ := t.parts.flatMap rowOf

/-- All that a task has stored. -/
def Progress.written (t : Progress ρ ε) : List ρ := t.rows ++ rowOf t.result

def Progress.record (t : Progress ρ ε) (i : ℕ) (o : Except ε ρ) : Progress ρ ε :=
  { t with parts := t.parts.set i (some o), failure := t.failure.or (errorOf o) }

/-- What a task does after waiting for its parts. -/
def Progress.outcome (t : Progress ρ ε) (task : Task α ρ ε) (answer : α) : Except ε ρ :=
  match t.failure with
  | some e => .error e
  | none => task.finish t.rows answer

def Progress.close (t : Progress ρ ε) (o : Except ε ρ) : Progress ρ ε :=
  { t with result := some o }

/-- The deadline of the outer context may have passed when a part runs. -/
inductive Op (α : Type) where
  | part (j i : ℕ) (expired : Bool) (answer : α)
  | finish (j : ℕ) (answer : α)

def Op.answer : Op α → α
  | .part _ _ _ answer => answer
  | .finish _ answer => answer

variable (T : List (Task α ρ ε))

def step (st : State ρ ε) : Op α → Option (State ρ ε)
  -- an error of a part does not keep the others from running
  | .part j i expired answer =>
    match T[j]?, st.tasks[j]? with
    | some task, some t =>
      match task.parts[i]?, t.parts[i]? with
      | some f, some none =>
        let o := f (expired || st.err.isSome || t.failure.isSome) answer
        some ⟨st.tasks.set j (t.record i o), st.stored ++ rowOf (some o), st.err⟩
      | _, _ => none
    | _, _ => none
  -- the inner group has to be through, also if it has failed long ago
  | .finish j answer =>
    match T[j]?, st.tasks[j]? with
    | some task, some t =>
      if t.parts.all Option.isSome && t.result.isNone then
        let o := t.outcome task answer
        some ⟨st.tasks.set j (t.close o), st.stored ++ rowOf (some o), st.err.or (errorOf o)⟩
      else none
    | _, _ => none

def Task.start (task : Task α ρ ε) : Progress ρ ε :=
  ⟨List.replicate task.parts.length none, none, none⟩

def start : State ρ ε := ⟨T.map Task.start, [], none⟩

/-- The outer group has waited for all of its functions. -/
def State.Done (st : State ρ ε) : Prop := ∀ t ∈ st.tasks, t.result.isSome

variable {T}

/-- The two kinds of steps. -/
theorem step_cases {st st' : State ρ ε} {op : Op α} (h : step T st op = some st') :
    (∃ j i expired task t f, op = .part j i expired op.answer ∧ T[j]? = some task ∧
      st.tasks[j]? = some t ∧ task.parts[i]? = some f ∧ t.parts[i]? = some none ∧
      ∃ o, f (expired || st.err.isSome || t.failure.isSome) op.answer = o ∧
        st' = ⟨st.tasks.set j (t.record i o), st.stored ++ rowOf (some o), st.err⟩) ∨
    ∃ j task t, op = .finish j op.answer ∧ T[j]? = some task ∧ st.tasks[j]? = some t ∧
      none ∉ t.parts ∧ t.result = none ∧
      ∃ o, t.outcome task op.answer = o ∧
        st' = ⟨st.tasks.set j (t.close o), st.stored ++ rowOf (some o), st.err.or (errorOf o)⟩ := by
  cases op with
  | part j i expired answer =>
    simp only [step] at h
    split at h
    · rename_i task t htask ht
      split at h
      · rename_i f hf hi
        exact .inl ⟨j, i, expired, task, t, f, rfl, htask, ht, hf, hi, _, rfl,
          (Option.some.inj h).symm⟩
      · cases h
    · cases h
  | finish j answer =>
    simp only [step] at h
    split at h
    · rename_i task t htask ht
      split at h
      · rename_i hdone
        simp only [Bool.and_eq_true, List.all_eq_true, Option.isNone_iff_eq_none] at hdone
        refine .inr ⟨j, task, t, rfl, htask, ht, fun hnone => ?_, hdone.2, _, rfl,
          (Option.some.inj h).symm⟩
        simpa using hdone.1 none hnone
      · cases h
    · cases h

theorem isSome_or_errorOf (failure : Option ε) (o : Except ε ρ) :
    (failure.or (errorOf o)).isSome ↔ failure.isSome ∨ ∃ e, o = .error e := by
  cases failure <;> cases o <;> simp [errorOf]

end Model

section Invariant
variable {α ρ ε : Type} {P : α → Prop} {T : List (Task α ρ ε)} {task : Task α ρ ε}
  {t : Progress ρ ε}

/-- The recorded outcomes are those of the functions of the task, on answers in `P`. -/
structure Sound (P : α → Prop) (task : Task α ρ ε) (t : Progress ρ ε) : Prop where
  length : t.parts.length = task.parts.length
  outcome : ∀ (i : ℕ) (o : Except ε ρ), t.parts[i]? = some (some o) →
    ∃ (f : Bool → α → Except ε ρ) (c : Bool) (answer : α),
      task.parts[i]? = some f ∧ P answer ∧ f c answer = o
  failure : t.failure.isSome ↔ ∃ e, some (.error e) ∈ t.parts
  result : ∀ o, t.result = some o →
    none ∉ t.parts ∧ ∃ answer, P answer ∧ t.outcome task answer = o

theorem sound_start (task : Task α ρ ε) : Sound P task task.start := by
  refine ⟨by simp [Task.start], fun i o h => ?_, by simp [Task.start], fun o h => by cases h⟩
  have hmem := List.mem_of_getElem? h
  simp [Task.start] at hmem

theorem Sound.record (h : Sound P task t) {i : ℕ} {f : Bool → α → Except ε ρ} {c : Bool}
    {answer : α} (hf : task.parts[i]? = some f) (hi : t.parts[i]? = some none)
    (hP : P answer) : Sound P task (t.record i (f c answer)) := by
  refine ⟨by simpa [Progress.record] using h.length, fun k o hk => ?_, ?_, fun o hr => ?_⟩
  · by_cases hki : i = k
    · subst hki
      have hlt : i < t.parts.length := (List.getElem?_eq_some_iff.mp hi).1
      simp only [Progress.record, List.getElem?_set_self hlt, Option.some.injEq] at hk
      exact ⟨f, c, answer, hf, hP, hk⟩
    · simp only [Progress.record, List.getElem?_set_ne hki] at hk
      exact h.outcome k o hk
  · simp only [Progress.record]
    rw [isSome_or_errorOf, h.failure, ← exists_or]
    refine exists_congr (fun e => ?_)
    rw [mem_set_of_ne hi (by simp), Option.some.injEq, or_comm, eq_comm]
  · -- a task that is through has no part left to run
    exact absurd (List.mem_of_getElem? hi) (h.result o hr).1

theorem Sound.close (h : Sound P task t) {answer : α} (hdone : none ∉ t.parts)
    (hP : P answer) : Sound P task (t.close (t.outcome task answer)) := by
  refine ⟨h.length, h.outcome, h.failure, fun o ho => ⟨hdone, answer, hP, ?_⟩⟩
  exact Option.some.inj ho

theorem written_record {i : ℕ} {o : Except ε ρ} (hi : t.parts[i]? = some none) :
    (t.record i o).written ~ t.written ++ rowOf (some o) := by
  have hrows : (t.record i o).rows ~ t.rows ++ rowOf (some o) :=
    perm_flatMap_set rowOf hi (List.Perm.refl _)
  calc (t.record i o).written
    _ ~ (t.rows ++ rowOf (some o)) ++ rowOf t.result := hrows.append_right _
    _ ~ (t.rows ++ rowOf t.result) ++ rowOf (some o) := by
      rw [List.append_assoc, List.append_assoc]
      exact List.perm_append_comm.append_left _

theorem written_close {o : Except ε ρ} (hr : t.result = none) :
    (t.close o).written ~ t.written ++ rowOf (some o) := by
  simp [Progress.written, Progress.close, Progress.rows, hr, rowOf]

structure Consistent (P : α → Prop) (T : List (Task α ρ ε)) (st : State ρ ε) : Prop where
  length : st.tasks.length = T.length
  sound : ∀ (j : ℕ) task t, T[j]? = some task → st.tasks[j]? = some t → Sound P task t
  stored : st.stored ~ st.tasks.flatMap Progress.written
  err : st.err.isSome ↔ ∃ e, some (.error e) ∈ st.tasks.map Progress.result

theorem consistent_start : Consistent P T (start T) := by
  refine ⟨by simp [start], fun j task t hj ht => ?_, ?_, ?_⟩
  · simp only [start, List.getElem?_map, hj, Option.map_some, Option.some.injEq] at ht
    subst ht
    exact sound_start task
  · have hnil : (start T).tasks.flatMap Progress.written = [] := by
      rw [List.flatMap_eq_nil_iff]
      intro t ht
      obtain ⟨task,_,rfl⟩ := List.mem_map.mp ht
      simp [Progress.written, Progress.rows, Task.start, rowOf]
    rw [hnil]
    exact List.Perm.refl _
  · simp [start, Task.start]

/-- Replacing the progress of one task leaves all the others sound. -/
theorem sound_set {st : State ρ ε} {j : ℕ} {t' : Progress ρ ε}
    (h : ∀ (j : ℕ) task t, T[j]? = some task → st.tasks[j]? = some t → Sound P task t)
    (htask : T[j]? = some task) (ht : st.tasks[j]? = some t) (h' : Sound P task t')
    (k : ℕ) (task' : Task α ρ ε) (u : Progress ρ ε) (hk : T[k]? = some task')
    (hu : (st.tasks.set j t')[k]? = some u) : Sound P task' u := by
  by_cases hjk : j = k
  · subst hjk
    have hlt : j < st.tasks.length := (List.getElem?_eq_some_iff.mp ht).1
    rw [List.getElem?_set_self hlt, Option.some.injEq] at hu
    rw [htask, Option.some.injEq] at hk
    rwa [← hk, ← hu]
  · rw [List.getElem?_set_ne hjk] at hu
    exact h k task' u hk hu

theorem consistent_step (st : State ρ ε) (op : Op α) (st' : State ρ ε)
    (h : Consistent P T st) (hP : P op.answer) (hstep : step T st op = some st') :
    Consistent P T st' := by
  rcases step_cases hstep with ⟨j,i,expired,task,t,f,_,htask,ht,hf,hi,o,ho,rfl⟩ |
    ⟨j,task,t,_,htask,ht,hdone,hr,o,ho,rfl⟩
  · have hrecord : Sound P task (t.record i o) := by
      rw [← ho]
      exact (h.sound j task t htask ht).record hf hi hP
    refine ⟨by simpa using h.length, sound_set h.sound htask ht hrecord, ?_, ?_⟩
    · exact (h.stored.append_right _).trans (perm_flatMap_set _ ht (written_record hi)).symm
    · -- a part does not end its task
      have hsame : (st.tasks.set j (t.record i o)).map Progress.result =
          st.tasks.map Progress.result := by
        have hget : (st.tasks.map Progress.result)[j]? = some t.result := by simp [ht]
        obtain ⟨hlt,hval⟩ := List.getElem?_eq_some_iff.mp hget
        rw [List.map_set, Progress.record, ← hval, List.set_getElem_self]
      rw [hsame]
      exact h.err
  · have hclose : Sound P task (t.close o) := by
      rw [← ho]
      exact (h.sound j task t htask ht).close hdone hP
    refine ⟨by simpa using h.length, sound_set h.sound htask ht hclose, ?_, ?_⟩
    · exact (h.stored.append_right _).trans (perm_flatMap_set _ ht (written_close hr)).symm
    · have hnone : (st.tasks.map Progress.result)[j]? = some none := by simp [ht, hr]
      rw [isSome_or_errorOf, h.err, ← exists_or]
      refine exists_congr (fun e => ?_)
      rw [List.map_set, mem_set_of_ne hnone (by simp)]
      simp [Progress.close, or_comm, eq_comm]

theorem consistent_run (ops : List (Op α)) (st : State ρ ε) (hP : ∀ op ∈ ops, P op.answer)
    (hrun : Transitions.run (step T) (start T) ops = some st) : Consistent P T st :=
  Transitions.invariant_run consistent_step ops _ st consistent_start
    (Transitions.allowed_of_forall ops _ (fun op hop _ => hP op hop)) hrun

end Invariant

section Completion
variable {α ρ ε : Type} {P : α → Prop} {T : List (Task α ρ ε)} {task : Task α ρ ε}
  {t : Progress ρ ε}

/-- The functions of a task that have not ended, with the task itself. -/
def Progress.remaining (t : Progress ρ ε) : ℕ :=
  (t.parts.map (fun o => o.isNone.toNat)).sum + t.result.isNone.toNat

def State.remaining (st : State ρ ε) : ℕ := (st.tasks.map Progress.remaining).sum

theorem remaining_record {i : ℕ} {o : Except ε ρ} (hi : t.parts[i]? = some none) :
    (t.record i o).remaining + 1 = t.remaining := by
  have h := Transitions.sum_set (fun o : Option (Except ε ρ) => o.isNone.toNat)
    t.parts i none (some o) hi
  simp only [Option.isNone_none, Option.isNone_some, Bool.toNat_true, Bool.toNat_false] at h
  simp only [Progress.remaining, Progress.record]
  omega

theorem remaining_close {o : Except ε ρ} (hr : t.result = none) :
    (t.close o).remaining + 1 = t.remaining := by
  simp [Progress.remaining, Progress.close, hr]

/-- Each step ends one function. -/
theorem remaining_step {st st' : State ρ ε} {op : Op α} (h : step T st op = some st') :
    st'.remaining + 1 = st.remaining := by
  have hset (j : ℕ) (t t' : Progress ρ ε) (ht : st.tasks[j]? = some t)
      (h' : t'.remaining + 1 = t.remaining) :
      ((st.tasks.set j t').map Progress.remaining).sum + 1 = st.remaining := by
    have hsum := Transitions.sum_set Progress.remaining st.tasks j t t' ht
    simp only [State.remaining]
    omega
  rcases step_cases h with ⟨j,i,_,_,t,_,_,_,ht,_,hi,o,_,rfl⟩ | ⟨j,_,t,_,_,ht,_,hr,o,_,rfl⟩
  · exact hset j t _ ht (remaining_record hi)
  · exact hset j t _ ht (remaining_close hr)

theorem remaining_run (ops : List (Op α)) (st st' : State ρ ε)
    (hrun : Transitions.run (step T) st ops = some st') :
    st'.remaining + ops.length = st.remaining := by
  induction ops generalizing st with
  | nil =>
    cases hrun
    rfl
  | cons op ops ih =>
    obtain ⟨u,hu,hrest⟩ := (Transitions.run_cons_eq_some _ _ _ _ _).mp hrun
    have hstep := remaining_step hu
    have htail := ih u hrest
    simp only [List.length_cons]
    omega

/-- Until the outer group is through there is a function that can end next, whatever answer
it gets. -/
theorem exists_next {st : State ρ ε} (h : Consistent P T st) (hdone : ¬ st.Done) :
    ∃ next : α → Op α, ∀ answer, (next answer).answer = answer ∧
      (step T st (next answer)).isSome := by
  obtain ⟨t,hmem,hr⟩ : ∃ t ∈ st.tasks, t.result = none := by
    simpa [State.Done] using hdone
  obtain ⟨j,ht⟩ := List.mem_iff_getElem?.mp hmem
  have hj : j < T.length := by
    rw [← h.length]
    exact (List.getElem?_eq_some_iff.mp ht).1
  have htask : T[j]? = some T[j] := List.getElem?_eq_getElem hj
  by_cases hnone : none ∈ t.parts
  · obtain ⟨i,hi⟩ := List.mem_iff_getElem?.mp hnone
    have hlt : i < T[j].parts.length := by
      rw [← (h.sound j _ t htask ht).length]
      exact (List.getElem?_eq_some_iff.mp hi).1
    refine ⟨fun answer => .part j i false answer, fun answer => ⟨rfl, ?_⟩⟩
    simp [step, htask, ht, hi, List.getElem?_eq_getElem hlt]
  · refine ⟨fun answer => .finish j answer, fun answer => ⟨rfl, ?_⟩⟩
    have hall : t.parts.all Option.isSome = true := by
      rw [List.all_eq_true]
      intro o ho
      cases o with
      | none => exact absurd ho hnone
      | some _ => rfl
    simp [step, htask, ht, hall, hr]

/-- A task that ends well has all of its parts, and they have all ended well. -/
theorem Sound.of_ok (h : Sound P task t) {r : ρ} (hr : t.result = some (.ok r)) :
    (∀ o ∈ t.parts, ∃ x, o = some (.ok x)) ∧ ∃ answer, task.finish t.rows answer = .ok r := by
  obtain ⟨hdone,answer,_,hout⟩ := h.result _ hr
  cases hfail : t.failure with
  | some e => simp [Progress.outcome, hfail] at hout
  | none =>
    have hno : ¬ ∃ e, some (.error e) ∈ t.parts := by
      rw [← h.failure, hfail]
      simp
    refine ⟨fun o ho => ?_, answer, by simpa [Progress.outcome, hfail] using hout⟩
    cases o with
    | none => exact absurd ho hdone
    | some o =>
      cases o with
      | error e => exact absurd ⟨e, ho⟩ hno
      | ok x => exact ⟨x, rfl⟩

/-- Where two tasks both succeed they give the same rows, whatever they are answered and
whether or not they are cancelled. -/
structure Agree (task task' : Task α ρ ε) : Prop where
  length : task.parts.length = task'.parts.length
  parts : ∀ (i : ℕ) f f', task.parts[i]? = some f → task'.parts[i]? = some f' →
    ∀ c answer x c' answer' x', f c answer = .ok x → f' c' answer' = .ok x' → x = x'
  finish : ∀ rows answer r answer' r', task.finish rows answer = .ok r →
    task'.finish rows answer' = .ok r' → r = r'

theorem Agree.result_eq {P' : α → Prop} {task' : Task α ρ ε} {t' : Progress ρ ε} {r r' : ρ}
    (hagree : Agree task task') (h : Sound P task t) (h' : Sound P' task' t')
    (hr : t.result = some (.ok r)) (hr' : t'.result = some (.ok r')) : r = r' := by
  obtain ⟨hall,answer,hfin⟩ := h.of_ok hr
  obtain ⟨hall',answer',hfin'⟩ := h'.of_ok hr'
  have hlen : t.parts.length = t'.parts.length := by
    rw [h.length, h'.length, hagree.length]
  have hparts : t.parts = t'.parts := by
    apply List.ext_getElem hlen
    intro i hi hi'
    obtain ⟨x,hx⟩ := hall _ (List.getElem_mem hi)
    obtain ⟨x',hx'⟩ := hall' _ (List.getElem_mem hi')
    obtain ⟨f,c,a,hf,_,hfx⟩ := h.outcome i (.ok x) (by rw [List.getElem?_eq_getElem hi, hx])
    obtain ⟨f',c',a',hf',_,hfx'⟩ := h'.outcome i (.ok x')
      (by rw [List.getElem?_eq_getElem hi', hx'])
    rw [hx, hx', hagree.parts i f f' hf hf' c a x c' a' x' hfx hfx']
  have hrows : t.rows = t'.rows := by rw [Progress.rows, Progress.rows, hparts]
  rw [← hrows] at hfin'
  exact hagree.finish _ _ _ _ _ hfin hfin'

/-- With one fixed answer and parts that do not look at their context, the outcomes do not
depend on the order of the steps. -/
theorem Sound.parts_eq {answer : α} (h : Sound (· = answer) task t) (hdone : none ∉ t.parts)
    (hcontext : ∀ f ∈ task.parts, ∀ c, f c answer = f false answer) :
    t.parts = task.parts.map (fun f => some (f false answer)) := by
  apply List.ext_getElem (by simpa using h.length)
  intro i hi hi'
  cases hx : t.parts[i] with
  | none =>
    rw [← hx] at hdone
    exact absurd (List.getElem_mem hi) hdone
  | some o =>
    obtain ⟨f,c,_,hf,rfl,ho⟩ := h.outcome i o (by rw [List.getElem?_eq_getElem hi, hx])
    obtain ⟨_,hget⟩ := List.getElem?_eq_some_iff.mp hf
    rw [List.getElem_map, hget, ← ho, hcontext f (List.mem_of_getElem? hf) c]

end Completion
end ErrorGroups
