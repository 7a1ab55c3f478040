import Clouditor.ErrorGroups
import Mathlib.Data.Set.List

/-! The functions of one error group, step by step. Each writes its result into a slot of its
own before it returns, and the rest of the slots is filled after the group has been waited
for. -/
namespace ResultSlots
open scoped List
set_option autoImplicit false

section Model
variable {α ρ ε : Type}

/-- How far a function of the group has got. -/
inductive Worker (ρ ε : Type) where
  | pending
  | evaluated (o : Except ε ρ)
  | written (r : ρ)
  | returned (o : Except ε ρ)

/-- What the function has found out, as soon as it has. -/
def Worker.outcome : Worker ρ ε → Option (Except ε ρ)
  | .pending => none
  | .evaluated o => some o
  | .written r => some (.ok r)
  | .returned o => some o

/-- What stands in the slot of the function. -/
def Worker.slot : Worker ρ ε → Option ρ
  | .written r => some r
  | .returned (.ok r) => some r
  | _ => none

def Worker.hasReturned : Worker ρ ε → Bool
  | .returned _ => true
  | _ => false

/-- A function that starts a group of `parts`, waits for it and finishes with what is in the
slots. Behind the slots of the parts there is room for `tail`. -/
structure Job (α ρ ε : Type) where
  parts : List (α → Except ε ρ)
  tail : List ρ
  finish : List ρ → α → Except ε ρ

/-- In `ended` is what the job has come to, where `some none` is a fault. -/
structure State (ρ ε : Type) where
  workers : List (Worker ρ ε)
  slots : List (Option ρ)
  failure : Option ε
  stored : List ρ
  ended : Option (Option (Except ε ρ))

inductive Op (α : Type) where
  | evaluate (i : ℕ) (answer : α)
  | write (i : ℕ)
  | leave (i : ℕ)
  | finish (answer : α)

/-- The answer that a step gets from outside, if it asks for one. -/
def Op.Meets (P : α → Prop) : Op α → Prop
  | .evaluate _ answer => P answer
  | .finish answer => P answer
  | _ => True

/-- `copy` for slices: as many elements as both have. -/
def sliceCopy {β : Type} (dst src : List β) : List β := src.take dst.length ++ dst.drop src.length

variable (job : Job α ρ ε)

def Job.fill (slots : List (Option ρ)) : List (Option ρ) :=
  slots.take job.parts.length ++ sliceCopy (slots.drop job.parts.length) (job.tail.map some)

/-- What the job comes to with these slots. To read an empty slot is a fault. -/
def Job.result (slots : List (Option ρ)) (answer : α) : Option (Except ε ρ) :=
  (slots.mapM id).map (fun rows => job.finish rows answer)

def step (st : State ρ ε) : Op α → Option (State ρ ε)
  | .evaluate i answer =>
    match job.parts[i]?, st.workers[i]? with
    | some f, some .pending => some { st with
        workers := st.workers.set i (.evaluated (f answer))
        stored := st.stored ++ ErrorGroups.rowOf (some (f answer)) }
    | _, _ => none
  | .write i =>
    match st.workers[i]? with
    | some (.evaluated (.ok r)) => some { st with
        workers := st.workers.set i (.written r)
        slots := st.slots.set i (some r) }
    | _ => none
  | .leave i =>
    match st.workers[i]? with
    | some (.written r) => some { st with workers := st.workers.set i (.returned (.ok r)) }
    -- only the first error of a group is kept
    | some (.evaluated (.error e)) => some { st with
        workers := st.workers.set i (.returned (.error e))
        failure := st.failure.or (some e) }
    | _ => none
  | .finish answer =>
    if st.workers.all Worker.hasReturned && st.ended.isNone then
      match st.failure with
      | some e => some { st with ended := some (some (.error e)) }
      | none =>
        let slots := job.fill st.slots
        let result := job.result slots answer
        some { st with
          slots := slots
          stored := st.stored ++ ErrorGroups.rowOf result
          ended := some result }
    else none

def start : State ρ ε where
  workers := List.replicate job.parts.length .pending
  slots := List.replicate (job.parts.length + job.tail.length) none
  failure := none
  stored := []
  ended := none

variable {job}

/-- The six kinds of steps. -/
theorem step_cases {st st' : State ρ ε} {op : Op α} (h : step job st op = some st') :
    (∃ i f answer, op = .evaluate i answer ∧ job.parts[i]? = some f ∧
      st.workers[i]? = some .pending ∧
      st' = { st with
        workers := st.workers.set i (.evaluated (f answer))
        stored := st.stored ++ ErrorGroups.rowOf (some (f answer)) }) ∨
    (∃ i r, op = .write i ∧ st.workers[i]? = some (.evaluated (.ok r)) ∧
      st' = { st with
        workers := st.workers.set i (.written r)
        slots := st.slots.set i (some r) }) ∨
    (∃ i r, op = .leave i ∧ st.workers[i]? = some (.written r) ∧
      st' = { st with workers := st.workers.set i (.returned (.ok r)) }) ∨
    (∃ i e, op = .leave i ∧ st.workers[i]? = some (.evaluated (.error e)) ∧
      st' = { st with
        workers := st.workers.set i (.returned (.error e))
        failure := st.failure.or (some e) }) ∨
    (∃ answer e, op = .finish answer ∧ (∀ w ∈ st.workers, w.hasReturned = true) ∧
      st.ended = none ∧ st.failure = some e ∧
      st' = { st with ended := some (some (.error e)) }) ∨
    ∃ answer, op = .finish answer ∧ (∀ w ∈ st.workers, w.hasReturned = true) ∧
      st.ended = none ∧ st.failure = none ∧
      st' = { st with
        slots := job.fill st.slots
        stored := st.stored ++ ErrorGroups.rowOf (job.result (job.fill st.slots) answer)
        ended := some (job.result (job.fill st.slots) answer) } := by
  cases op with
  | evaluate i answer =>
    simp only [step] at h
    split at h
    · rename_i f hf hw
      exact .inl ⟨i, f, answer, rfl, hf, hw, (Option.some.inj h).symm⟩
    · cases h
  | write i =>
    simp only [step] at h
    split at h
    · rename_i r hw
      exact .inr (.inl ⟨i, r, rfl, hw, (Option.some.inj h).symm⟩)
    · cases h
  | leave i =>
    simp only [step] at h
    split at h
    · rename_i r hw
      exact .inr (.inr (.inl ⟨i, r, rfl, hw, (Option.some.inj h).symm⟩))
    · rename_i e hw
      exact .inr (.inr (.inr (.inl ⟨i, e, rfl, hw, (Option.some.inj h).symm⟩)))
    · cases h
  | finish answer =>
    simp only [step] at h
    split at h
    · rename_i hdone
      simp only [Bool.and_eq_true, List.all_eq_true, Option.isNone_iff_eq_none] at hdone
      split at h
      · rename_i e he
        exact .inr (.inr (.inr (.inr (.inl
          ⟨answer, e, rfl, hdone.1, hdone.2, he, (Option.some.inj h).symm⟩))))
      · rename_i he
        exact .inr (.inr (.inr (.inr (.inr
          ⟨answer, rfl, hdone.1, hdone.2, he, (Option.some.inj h).symm⟩))))
    · cases h

end Model

section Invariant
variable {α ρ ε : Type} {P : α → Prop} {job : Job α ρ ε} {st : State ρ ε}

/-- Every function has found out what it does on an answer in `P`, and its slot holds the
result from its write on. -/
structure Consistent (P : α → Prop) (job : Job α ρ ε) (st : State ρ ε) : Prop where
  workers_length : st.workers.length = job.parts.length
  slots_length : st.slots.length = job.parts.length + job.tail.length
  outcome : ∀ (i : ℕ) (w : Worker ρ ε) (o : Except ε ρ), st.workers[i]? = some w →
    w.outcome = some o → ∃ (f : α → Except ε ρ) (answer : α),
      job.parts[i]? = some f ∧ P answer ∧ f answer = o
  slot : ∀ (i : ℕ) (w : Worker ρ ε), st.workers[i]? = some w → st.slots[i]? = some w.slot
  failure : st.failure.isSome ↔ ∃ e, .returned (.error e) ∈ st.workers
  stored : st.stored ~ st.workers.flatMap (fun w => ErrorGroups.rowOf w.outcome) ++
    ErrorGroups.rowOf (st.ended.bind id)
  ended : ∀ o, st.ended = some o → (∀ w ∈ st.workers, w.hasReturned = true) ∧
    ∃ answer, P answer ∧ ((∃ e, st.failure = some e ∧ o = some (.error e)) ∨
      st.failure = none ∧ st.slots.drop job.parts.length = job.tail.map some ∧
        o = job.result st.slots answer)

theorem getElem?_set_cases {β : Type} {l : List β} {i k : ℕ} {b x : β}
    (h : (l.set i b)[k]? = some x) : k = i ∧ x = b ∨ k ≠ i ∧ l[k]? = some x := by
  by_cases hik : k = i
  · subst hik
    rw [List.getElem?_set_self'] at h
    obtain ⟨_,_,rfl⟩ := Option.map_eq_some_iff.mp h
    exact .inl ⟨rfl, rfl⟩
  · rw [List.getElem?_set_ne (Ne.symm hik)] at h
    exact .inr ⟨hik, h⟩

theorem consistent_start : Consistent P job (start job) := by
  refine ⟨by simp [start], by simp [start], fun i w o hw ho => ?_, fun i w hw => ?_, ?_, ?_,
    fun o ho => by cases ho⟩
  · obtain rfl := List.eq_of_mem_replicate (List.mem_of_getElem? hw)
    cases ho
  · have hmem := List.mem_of_getElem? hw
    obtain rfl := List.eq_of_mem_replicate hmem
    have hlt : i < job.parts.length := by
      simpa [start] using (List.getElem?_eq_some_iff.mp hw).1
    have hslot : i < job.parts.length + job.tail.length := by omega
    simp [start, hslot, Worker.slot]
  · simp [start]
  · have hnil : (start job).workers.flatMap (fun w => ErrorGroups.rowOf w.outcome) = [] := by
      rw [List.flatMap_eq_nil_iff]
      intro w hw
      obtain rfl := List.eq_of_mem_replicate hw
      rfl
    rw [hnil]
    exact List.Perm.refl _

/-- One function gets a step further, and only its own slot changes. -/
theorem Consistent.move (h : Consistent P job st) {i : ℕ} {w : Worker ρ ε} (w' : Worker ρ ε)
    (slots : List (Option ρ)) (failure : Option ε) (xs : List ρ)
    (hi : st.workers[i]? = some w) (hw : w.hasReturned = false)
    (hout : ∀ o, w'.outcome = some o → ∃ (f : α → Except ε ρ) (answer : α),
      job.parts[i]? = some f ∧ P answer ∧ f answer = o)
    (hlen : slots.length = st.slots.length) (hslot : slots[i]? = some w'.slot)
    (hothers : ∀ k, k ≠ i → slots[k]? = st.slots[k]?)
    (hfail : failure.isSome ↔ st.failure.isSome ∨ ∃ e, .returned (.error e) = w')
    (hrows : ErrorGroups.rowOf w'.outcome ~ ErrorGroups.rowOf w.outcome ++ xs) :
    Consistent P job ⟨st.workers.set i w', slots, failure, st.stored ++ xs, st.ended⟩ := by
  -- nothing has ended before the last function has returned
  have hended (o : Option (Except ε ρ)) : st.ended ≠ some o := by
    intro ho
    have hret := (h.ended o ho).1 w (List.mem_of_getElem? hi)
    rw [hw] at hret
    cases hret
  refine ⟨by simpa using h.workers_length, hlen.trans h.slots_length, fun k u o hu ho => ?_,
    fun k u hu => ?_, ?_, ?_, fun o ho => absurd ho (hended o)⟩
  · rcases getElem?_set_cases hu with ⟨rfl,rfl⟩ | ⟨_,hu⟩
    · exact hout o ho
    · exact h.outcome k u o hu ho
  · rcases getElem?_set_cases hu with ⟨rfl,rfl⟩ | ⟨hk,hu⟩
    · exact hslot
    · exact (hothers k hk).trans (h.slot k u hu)
  · have hne (e : ε) : Worker.returned (.error e) ≠ w := by
      rintro rfl
      cases hw
    rw [hfail, h.failure, ← exists_or]
    refine exists_congr (fun e => ?_)
    rw [ErrorGroups.mem_set_of_ne hi (hne e)]
    exact or_comm
  · have hset := ErrorGroups.perm_flatMap_set
      (fun w : Worker ρ ε => ErrorGroups.rowOf w.outcome) hi hrows
    calc st.stored ++ xs
      _ ~ (st.workers.flatMap (fun w => ErrorGroups.rowOf w.outcome) ++
            ErrorGroups.rowOf (st.ended.bind id)) ++ xs := h.stored.append_right _
      _ ~ (st.workers.flatMap (fun w => ErrorGroups.rowOf w.outcome) ++ xs) ++
            ErrorGroups.rowOf (st.ended.bind id) := by
          rw [List.append_assoc, List.append_assoc]
          exact List.perm_append_comm.append_left _
      _ ~ _ := hset.symm.append_right _

theorem fill_eq {slots : List (Option ρ)}
    (hlen : slots.length = job.parts.length + job.tail.length) :
    job.fill slots = slots.take job.parts.length ++ job.tail.map some := by
  have hroom : (slots.drop job.parts.length).length = job.tail.length := by
    rw [List.length_drop]
    omega
  have hall : (job.tail.map some).take (slots.drop job.parts.length).length =
      job.tail.map some := by
    rw [hroom]
    simp
  have hnone : (slots.drop job.parts.length).drop (job.tail.map some).length = [] := by
    apply List.drop_of_length_le
    rw [hroom, List.length_map]
  rw [Job.fill, sliceCopy, hall, hnone, List.append_nil]

/-- After the copy the slots of the functions are what they were. -/
theorem Consistent.finish (h : Consistent P job st)
    (hret : ∀ w ∈ st.workers, w.hasReturned = true) (hend : st.ended = none)
    (hfail : st.failure = none) {answer : α} (hP : P answer) :
    Consistent P job { st with
      slots := job.fill st.slots
      stored := st.stored ++ ErrorGroups.rowOf (job.result (job.fill st.slots) answer)
      ended := some (job.result (job.fill st.slots) answer) } := by
  have hfill := fill_eq h.slots_length
  have htake : (st.slots.take job.parts.length).length = job.parts.length := by
    rw [List.length_take, h.slots_length]
    omega
  refine ⟨h.workers_length, ?_, h.outcome, fun i w hw => ?_, h.failure, ?_, fun o ho => ?_⟩
  · simp [hfill, htake]
  · have hlt : i < job.parts.length := by
      rw [← h.workers_length]
      exact (List.getElem?_eq_some_iff.mp hw).1
    simp only [hfill]
    rw [List.getElem?_append_left (by rw [htake]; exact hlt), List.getElem?_take_of_lt hlt]
    exact h.slot i w hw
  · have hstored := h.stored
    rw [hend] at hstored
    exact (hstored.append_right _).trans (by simp [ErrorGroups.rowOf])
  · refine ⟨hret, answer, hP, .inr ⟨hfail, ?_, (Option.some.inj ho).symm⟩⟩
    simp only [hfill]
    rw [List.drop_append_of_le_length (by omega), List.drop_of_length_le (by omega),
      List.nil_append]

theorem consistent_step (st : State ρ ε) (op : Op α) (st' : State ρ ε)
    (h : Consistent P job st) (hP : op.Meets P) (hstep : step job st op = some st') :
    Consistent P job st' := by
  rcases step_cases hstep with ⟨i,f,answer,rfl,hf,hi,rfl⟩ | ⟨i,r,rfl,hi,rfl⟩ | ⟨i,r,rfl,hi,rfl⟩ |
    ⟨i,e,rfl,hi,rfl⟩ | ⟨answer,e,rfl,hret,hend,hfail,rfl⟩ | ⟨answer,rfl,hret,hend,hfail,rfl⟩
  · have hslot := h.slot i _ hi
    refine h.move _ _ _ _ hi rfl (fun o ho => ⟨f, answer, hf, hP, Option.some.inj ho⟩) rfl hslot
      (fun _ _ => rfl) (by simp) ?_
    simp [Worker.outcome, ErrorGroups.rowOf]
  -- from here on the outcome of the function is known
  · have hout (o : Except ε ρ) := h.outcome i _ o hi
    have hlt : i < st.slots.length := (List.getElem?_eq_some_iff.mp (h.slot i _ hi)).1
    have hmove := h.move (.written r) _ st.failure [] hi rfl hout (by simp)
      (List.getElem?_set_self hlt) (fun k hk => List.getElem?_set_ne (Ne.symm hk)) (by simp)
      (by simp [Worker.outcome])
    rwa [List.append_nil] at hmove
  · have hout (o : Except ε ρ) := h.outcome i _ o hi
    have hslot := h.slot i _ hi
    have hmove := h.move (.returned (.ok r)) _ st.failure [] hi rfl hout rfl hslot
      (fun _ _ => rfl) (by simp) (by simp [Worker.outcome])
    rwa [List.append_nil] at hmove
  · have hout (o : Except ε ρ) := h.outcome i _ o hi
    have hslot := h.slot i _ hi
    have hmove := h.move (.returned (.error e)) _ (st.failure.or (some e)) [] hi rfl hout rfl
      hslot (fun _ _ => rfl) (by simp) (by simp [Worker.outcome])
    rwa [List.append_nil] at hmove
  · refine ⟨h.workers_length, h.slots_length, h.outcome, h.slot, h.failure, ?_, fun o ho => ?_⟩
    · have hstored := h.stored
      rw [hend] at hstored
      simpa [ErrorGroups.rowOf] using hstored
    · exact ⟨hret, answer, hP, .inl ⟨e, hfail, (Option.some.inj ho).symm⟩⟩
  · exact h.finish hret hend hfail hP

theorem consistent_run (ops : List (Op α)) (st : State ρ ε) (hP : ∀ op ∈ ops, op.Meets P)
    (hrun : Transitions.run (step job) (start job) ops = some st) : Consistent P job st :=
  Transitions.invariant_run consistent_step ops _ st consistent_start
    (Transitions.allowed_of_forall ops _ (fun op hop _ => hP op hop)) hrun

end Invariant

section Results
variable {α ρ ε : Type} {P : α → Prop} {job : Job α ρ ε} {st : State ρ ε}

/-- The same job without its slots, as a function of an outer group. -/
def Job.task (job : Job α ρ ε) : ErrorGroups.Task α ρ ε where
  parts := job.parts.map (fun f _ answer => f answer)
  finish rows answer := job.finish (rows ++ job.tail) answer

def State.progress (st : State ρ ε) : ErrorGroups.Progress ρ ε :=
  ⟨st.workers.map Worker.outcome, st.failure, st.ended.bind id⟩

/-- A group that is through without an error has a result of every function in its slot. -/
theorem Consistent.exists_rows (h : Consistent P job st)
    (hret : ∀ w ∈ st.workers, w.hasReturned = true) (hfail : st.failure = none) :
    ∃ rows : List ρ, st.workers = rows.map (fun r => .returned (.ok r)) ∧
      st.slots.take job.parts.length = rows.map some := by
  have hok (w : Worker ρ ε) (hw : w ∈ st.workers) :
      w ∈ Set.range (fun r : ρ => Worker.returned (.ok r)) := by
    have hw' := hret w hw
    cases w with
    | returned o =>
      cases o with
      | ok r => exact ⟨r, rfl⟩
      | error e =>
        have hsome := h.failure.mpr ⟨e, hw⟩
        simp [hfail] at hsome
    | pending => cases hw'
    | evaluated o => cases hw'
    | written r => cases hw'
  have hrange : st.workers ∈ Set.range (List.map (fun r : ρ => Worker.returned (.ok r))) := by
    rw [Set.range_list_map]
    exact hok
  obtain ⟨rows,hrows⟩ := hrange
  refine ⟨rows, hrows.symm, ?_⟩
  have hlen : rows.length = job.parts.length := by
    rw [← h.workers_length, ← hrows, List.length_map]
  apply List.ext_getElem?
  intro i
  by_cases hi : i < job.parts.length
  · have hw : st.workers[i]? = some (.returned (.ok rows[i])) := by
      rw [← hrows]
      simp [hlen, hi]
    rw [List.getElem?_take_of_lt hi, h.slot i _ hw]
    simp [Worker.slot, hlen, hi]
  · rw [List.getElem?_eq_none (by simp; omega), List.getElem?_eq_none (by simp; omega)]

theorem mapM_map_some (rows : List ρ) : (rows.map some).mapM id = some rows := by
  induction rows with
  | nil => rfl
  | cons r rows ih => simp [ih]

theorem flatMap_returned (rows : List ρ) :
    (rows.map (fun r => (.returned (.ok r) : Worker ρ ε))).flatMap
      (fun w => ErrorGroups.rowOf w.outcome) = rows := by
  rw [List.flatMap_map]
  exact List.flatMap_singleton' rows

/-- The slots of a job that has ended without an error of its group. -/
theorem Consistent.slots_eq (h : Consistent P job st) {o : Option (Except ε ρ)}
    (ho : st.ended = some o) (hfail : st.failure = none) :
    ∃ rows : List ρ, st.workers = rows.map (fun r => .returned (.ok r)) ∧
      st.slots = (rows ++ job.tail).map some ∧
      ∃ answer, P answer ∧ o = some (job.finish (rows ++ job.tail) answer) := by
  obtain ⟨hret,answer,hP,⟨e,he,_⟩ | ⟨_,hdrop,hres⟩⟩ := h.ended o ho
  · rw [hfail] at he
    cases he
  · obtain ⟨rows,hworkers,htake⟩ := h.exists_rows hret hfail
    have hslots : st.slots = (rows ++ job.tail).map some := by
      rw [← List.take_append_drop job.parts.length st.slots, htake, hdrop, List.map_append]
    refine ⟨rows, hworkers, hslots, answer, hP, ?_⟩
    rw [hres, Job.result, hslots, mapM_map_some]
    rfl

/-- What is stored in the end: one row of each function, and that of the job. -/
theorem Consistent.stored_eq (h : Consistent P job st) {rows : List ρ} {r : ρ}
    (hworkers : st.workers = rows.map (fun r => .returned (.ok r)))
    (hr : st.ended = some (some (.ok r))) : st.stored ~ rows ++ [r] := by
  have hstored := h.stored
  rw [hworkers, flatMap_returned, hr] at hstored
  exact hstored

theorem Consistent.failure_of_ok (h : Consistent P job st) {r : ρ}
    (hr : st.ended = some (some (.ok r))) : st.failure = none := by
  obtain ⟨_,_,_,⟨_,_,hres⟩ | ⟨hnone,_⟩⟩ := h.ended _ hr
  · cases hres
  · exact hnone

/-- No empty slot is read. -/
theorem Consistent.no_fault (h : Consistent P job st) : st.ended ≠ some none := by
  intro ho
  cases hfail : st.failure with
  | some e =>
    obtain ⟨_,_,_,⟨_,_,hres⟩ | ⟨hnone,_⟩⟩ := h.ended none ho
    · cases hres
    · rw [hfail] at hnone
      cases hnone
  | none =>
    obtain ⟨_,_,_,_,_,hres⟩ := h.slots_eq ho hfail
    cases hres

/-- A job that has ended has done what it does as a task, whose functions take one step
each. -/
theorem Consistent.sound (h : Consistent P job st) {o : Except ε ρ}
    (ho : st.ended = some (some o)) : ErrorGroups.Sound P job.task st.progress := by
  obtain ⟨hret,_⟩ := h.ended _ ho
  refine ⟨by simp [State.progress, Job.task, h.workers_length], fun i o' hi => ?_, ?_,
    fun o' ho' => ⟨?_, ?_⟩⟩
  · simp only [State.progress, List.getElem?_map, Option.map_eq_some_iff] at hi
    obtain ⟨w,hw,hout⟩ := hi
    obtain ⟨f,answer,hf,hP,hfo⟩ := h.outcome i w o' hw hout
    exact ⟨fun _ => f, false, answer, by simp [Job.task, hf], hP, hfo⟩
  · simp only [State.progress, h.failure, List.mem_map]
    refine exists_congr (fun e => ⟨fun he => ⟨_, he, rfl⟩, ?_⟩)
    rintro ⟨w,hw,hout⟩
    have hw' := hret w hw
    cases w with
    | returned o' =>
      cases hout
      exact hw
    | pending => cases hw'
    | evaluated o' => cases hw'
    | written r => cases hw'
  · intro hnone
    obtain ⟨w,hw,hout⟩ := List.mem_map.mp hnone
    have hw' := hret w hw
    cases w with
    | pending => cases hw'
    | evaluated o' => cases hout
    | written r => cases hout
    | returned o' => cases hout
  · obtain rfl : o = o' := by simpa [State.progress, ho] using ho'
    cases hfail : st.failure with
    | some e =>
      obtain ⟨_,answer,hP,⟨e',he,hres⟩ | ⟨hnone,_⟩⟩ := h.ended _ ho
      · refine ⟨answer, hP, ?_⟩
        rw [hfail] at he
        cases he
        cases hres
        simp only [ErrorGroups.Progress.outcome, State.progress, hfail]
      · rw [hfail] at hnone
        cases hnone
    | none =>
      obtain ⟨rows,hworkers,_,answer,hP,hres⟩ := h.slots_eq ho hfail
      have hrows : st.progress.rows = rows := by
        rw [ErrorGroups.Progress.rows, State.progress, hworkers, List.flatMap_map]
        exact flatMap_returned rows
      refine ⟨answer, hP, ?_⟩
      cases hres
      simp only [ErrorGroups.Progress.outcome, hrows, Job.task]
      simp only [State.progress, hfail]

end Results

section Completion
variable {α ρ ε : Type} {P : α → Prop} {job : Job α ρ ε} {st : State ρ ε}

/-- The steps a function may still have ahead of it. -/
def Worker.ahead : Worker ρ ε → ℕ
  | .pending => 3
  | .evaluated _ => 2
  | .written _ => 1
  | .returned _ => 0

def State.remaining (st : State ρ ε) : ℕ :=
  (st.workers.map Worker.ahead).sum + st.ended.isNone.toNat

theorem remaining_start : (start job).remaining = 3 * job.parts.length + 1 := by
  simp only [State.remaining, start, List.map_replicate, List.sum_replicate_nat,
    Worker.ahead, Option.isNone_none, Bool.toNat_true]
  omega

theorem remaining_step {st st' : State ρ ε} {op : Op α} (h : step job st op = some st') :
    st'.remaining + 1 ≤ st.remaining := by
  have hset (i : ℕ) (w w' : Worker ρ ε) (hi : st.workers[i]? = some w)
      (hw : w'.ahead + 1 ≤ w.ahead) :
      ((st.workers.set i w').map Worker.ahead).sum + st.ended.isNone.toNat + 1 ≤
        st.remaining := by
    have hsum := Transitions.sum_set Worker.ahead st.workers i w w' hi
    simp only [State.remaining]
    omega
  rcases step_cases h with ⟨i,_,_,_,_,hi,rfl⟩ | ⟨i,_,_,hi,rfl⟩ | ⟨i,_,_,hi,rfl⟩ |
    ⟨i,_,_,hi,rfl⟩ | ⟨_,_,_,_,hend,_,rfl⟩ | ⟨_,_,_,hend,_,rfl⟩
  · exact hset i _ _ hi (by simp [Worker.ahead])
  · exact hset i _ _ hi (by simp [Worker.ahead])
  · exact hset i _ _ hi (by simp [Worker.ahead])
  · exact hset i _ _ hi (by simp [Worker.ahead])
  · simp [State.remaining, hend]
  · simp [State.remaining, hend]

theorem remaining_run (ops : List (Op α)) (st st' : State ρ ε)
    (hrun : Transitions.run (step job) st ops = some st') :
    st'.remaining + ops.length ≤ st.remaining := by
  induction ops generalizing st with
  | nil =>
    cases hrun
    exact le_refl _
  | cons op ops ih =>
    obtain ⟨u,hu,hrest⟩ := (Transitions.run_cons_eq_some _ _ _ _ _).mp hrun
    have hstep := remaining_step hu
    have htail := ih u hrest
    simp only [List.length_cons]
    omega

/-- Until the job has ended there is a next step, whatever answer it gets. -/
theorem exists_next (h : Consistent P job st) (hend : st.ended = none) :
    ∃ next : α → Op α, ∀ answer, (step job st (next answer)).isSome = true := by
  by_cases hret : ∀ w ∈ st.workers, w.hasReturned = true
  · refine ⟨.finish, fun answer => ?_⟩
    have hall : st.workers.all Worker.hasReturned = true := List.all_eq_true.mpr hret
    cases hfail : st.failure <;> simp [step, hall, hend, hfail]
  · push Not at hret
    obtain ⟨w,hmem,hw⟩ := hret
    obtain ⟨i,hi⟩ := List.mem_iff_getElem?.mp hmem
    have hlt : i < job.parts.length := by
      rw [← h.workers_length]
      exact (List.getElem?_eq_some_iff.mp hi).1
    cases w with
    | pending =>
      exact ⟨.evaluate i, fun answer => by simp [step, hi, List.getElem?_eq_getElem hlt]⟩
    | evaluated o =>
      cases o with
      | ok r => exact ⟨fun _ => .write i, fun answer => by simp [step, hi]⟩
      | error e => exact ⟨fun _ => .leave i, fun answer => by simp [step, hi]⟩
    | written r => exact ⟨fun _ => .leave i, fun answer => by simp [step, hi]⟩
    | returned o => exact absurd rfl hw

end Completion
end ResultSlots
