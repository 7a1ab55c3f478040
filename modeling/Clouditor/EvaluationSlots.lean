import Clouditor.EvaluationGroups
import Clouditor.ResultSlots

/-! The goroutines of `evaluateControl`, one for each sub-control, with the slice that they
write their results into. -/
namespace Clouditor
open scoped List
set_option autoImplicit false

section Job
variable (env : EvaluationEnv) (svc : EvaluationService) (toe : TargetOfEvaluation)
  (catalog : Catalog)

/-- The end of `evaluateControl`, once every slot is filled. -/
def storeResults (control : Control) (results : List EvaluationResult)
    (create : EvaluationResult → Option Err) : Except Err EvaluationResult :=
  let result := controlResult (env.newId control) (env.now control) toe control results
  match create result with
  | some e => .error e
  | none => .ok result

/-- `evaluateControl` with its slice of results. The manual results are copied behind those of
the sub-controls. -/
def controlJob (control : Control) (manual : List EvaluationResult) :
    ResultSlots.Job (EvaluationResult → Option Err) EvaluationResult Err where
  parts := (relevantSubcontrols toe catalog control manual).map (fun sub create =>
    evaluateSubcontrol { env with create := create } svc toe sub)
  tail := manual
  finish := storeResults env toe control

/-- What the sub-controls come to, each evaluated alone and stored without an error. -/
def SubcontrolResults (control : Control) (manual autos : List EvaluationResult) : Prop :=
  (relevantSubcontrols toe catalog control manual).map
    (evaluateSubcontrol { env with create := fun _ => none } svc toe) = autos.map .ok

variable {env svc toe catalog} {control : Control} {manual : List EvaluationResult}
  {P : (EvaluationResult → Option Err) → Prop} {st : ResultSlots.State EvaluationResult Err}

theorem controlJob_task :
    (controlJob env svc toe catalog control manual).task =
      controlTask env svc toe catalog (control, manual) := by
  simp only [ResultSlots.Job.task, controlJob, controlTask, List.map_map]
  rfl

/-- A sub-control that is stored has the result it would have with any other answer. -/
theorem evaluateSubcontrol_undisturbed {create : EvaluationResult → Option Err} {sub : Control}
    {r : EvaluationResult}
    (h : evaluateSubcontrol { env with create := create } svc toe sub = .ok r) :
    evaluateSubcontrol { env with create := fun _ => none } svc toe sub = .ok r := by
  obtain ⟨metrics,hmetrics,rfl⟩ := evaluateSubcontrol_eq h
  simp only [evaluateSubcontrol, hmetrics]
  rfl

theorem outcome_undisturbed
    (h : ResultSlots.Consistent P (controlJob env svc toe catalog control manual) st)
    {i : ℕ} {w : ResultSlots.Worker EvaluationResult Err} {r : EvaluationResult}
    (hw : st.workers[i]? = some w) (hr : w.outcome = some (.ok r)) :
    ∃ sub, (relevantSubcontrols toe catalog control manual)[i]? = some sub ∧
      evaluateSubcontrol { env with create := fun _ => none } svc toe sub = .ok r := by
  obtain ⟨f,create,hf,_,hfr⟩ := h.outcome i w _ hw hr
  simp only [controlJob, List.getElem?_map, Option.map_eq_some_iff] at hf
  obtain ⟨sub,hsub,rfl⟩ := hf
  exact ⟨sub, hsub, evaluateSubcontrol_undisturbed hfr⟩

/-- Only results of the sub-controls are stored along with that of the control. -/
theorem stored_of_subcontrols
    (h : ResultSlots.Consistent P (controlJob env svc toe catalog control manual) st)
    {r : EvaluationResult}
    (hr : r ∈ st.workers.flatMap (fun w => ErrorGroups.rowOf w.outcome)) :
    ∃ sub ∈ relevantSubcontrols toe catalog control manual,
      evaluateSubcontrol { env with create := fun _ => none } svc toe sub = .ok r := by
  obtain ⟨w,hw,hrow⟩ := List.mem_flatMap.mp hr
  have hout : w.outcome = some (.ok r) := by
    rcases ho : w.outcome with _ | _ | x <;> simp_all [ErrorGroups.rowOf]
  obtain ⟨i,hi⟩ := List.mem_iff_getElem?.mp hw
  obtain ⟨sub,hsub,heval⟩ := outcome_undisturbed h hi hout
  exact ⟨sub, List.mem_of_getElem? hsub, heval⟩

theorem subcontrolResults_of_workers
    (h : ResultSlots.Consistent P (controlJob env svc toe catalog control manual) st)
    {autos : List EvaluationResult}
    (hworkers : st.workers = autos.map (fun r => .returned (.ok r))) :
    SubcontrolResults env svc toe catalog control manual autos := by
  have hlen : autos.length = (relevantSubcontrols toe catalog control manual).length := by
    have hlen := h.workers_length
    simpa [hworkers, controlJob] using hlen
  apply List.ext_getElem (by simp [hlen])
  intro i hi hi'
  have hlt : i < autos.length := by simpa using hi'
  obtain ⟨sub,hsub,heval⟩ := outcome_undisturbed h (i := i) (w := .returned (.ok autos[i]))
    (by simp [hworkers, hlt]) rfl
  obtain ⟨_,rfl⟩ := List.getElem?_eq_some_iff.mp hsub
  rw [List.getElem_map, List.getElem_map, heval]

end Job

section Confluence
variable {env : EvaluationEnv} {svc : EvaluationService} {toe : TargetOfEvaluation}
  {catalog : Catalog} {control : Control} {manual : List EvaluationResult}
  {P : (EvaluationResult → Option Err) → Prop} {st : ResultSlots.State EvaluationResult Err}

/-- What a run leaves behind, in which order ever its goroutines took their steps. The result
of the control is made from the results that its sub-controls have when each is evaluated
alone. -/
structure ControlStored (env : EvaluationEnv) (svc : EvaluationService)
    (toe : TargetOfEvaluation) (catalog : Catalog) (control : Control)
    (manual : List EvaluationResult) (st : ResultSlots.State EvaluationResult Err) : Prop where
  no_fault : st.ended ≠ some none
  slots : (∀ w ∈ st.workers, w.hasReturned = true) → st.failure = none →
    none ∉ st.slots.take (relevantSubcontrols toe catalog control manual).length
  stored : ∀ r, st.ended = some (some (.ok r)) → none ∉ st.slots ∧
    ∃ autos, SubcontrolResults env svc toe catalog control manual autos ∧
      r = controlResult (env.newId control) (env.now control) toe control (autos ++ manual) ∧
      st.stored ~ autos ++ [r]
  failed : ∀ e, st.ended = some (some (.error e)) → ∀ r ∈ st.stored,
    ∃ sub ∈ relevantSubcontrols toe catalog control manual,
      evaluateSubcontrol { env with create := fun _ => none } svc toe sub = .ok r

theorem controlStored_of_consistent
    (h : ResultSlots.Consistent P (controlJob env svc toe catalog control manual) st) :
    ControlStored env svc toe catalog control manual st := by
  have hparts : (controlJob env svc toe catalog control manual).parts.length =
      (relevantSubcontrols toe catalog control manual).length := by
    simp [controlJob]
  refine ⟨h.no_fault, fun hret hfail => ?_, fun r hr => ?_, fun e he r hr => ?_⟩
  -- all goroutines have returned without an error, so each has written its slot
  · obtain ⟨autos,_,htake⟩ := h.exists_rows hret hfail
    rw [hparts] at htake
    simp [htake]
  · obtain ⟨autos,hworkers,hslots,create,_,hres⟩ := h.slots_eq hr (h.failure_of_ok hr)
    have hrow : storeControl env toe control manual autos create = .ok r :=
      (Option.some.inj hres).symm
    exact ⟨by simp [hslots], autos, subcontrolResults_of_workers h hworkers,
      storeControl_eq hrow, h.stored_eq hworkers hr⟩
  -- after an error nothing is stored for the control itself
  · have hmem := h.stored.mem_iff.mp hr
    rw [he] at hmem
    rcases List.mem_append.mp hmem with hmem | hmem
    · exact stored_of_subcontrols h hmem
    · cases hmem

/-- A run in which the database answers as `env` says stores what `evaluateControl` does, and
ends with an error in the same cases. -/
theorem stored_evaluateControl
    (h : ResultSlots.Consistent (· = env.create) (controlJob env svc toe catalog control manual)
      st) {o : Except Err EvaluationResult} (ho : st.ended = some (some o)) :
    st.stored ~ (evaluateControl env svc toe catalog control manual).stored ∧
      ((∃ e, o = .error e) ↔ (evaluateControl env svc toe catalog control manual).err.isSome) := by
  have hsound := h.sound ho
  rw [controlJob_task] at hsound
  have hresult : st.progress.result = some o := by simp [ResultSlots.State.progress, ho]
  obtain ⟨hwritten,herr⟩ := controlTask_result hsound hresult
  refine ⟨?_, herr⟩
  rw [← hwritten]
  have hstored := h.stored
  simpa [ErrorGroups.Progress.written, ErrorGroups.Progress.rows, ResultSlots.State.progress,
    List.flatMap_map] using hstored

/-- Every interleaving of the goroutines comes to an end, leaves no slot empty that it reads,
and stores one result for each sub-control that it evaluates and one for the control, which
depends on nothing but the results of the sub-controls by themselves. -/
theorem evaluateControl_confluent
    (ops : List (ResultSlots.Op (EvaluationResult → Option Err)))
    (hrun : Transitions.run (ResultSlots.step (controlJob env svc toe catalog control manual))
      (ResultSlots.start (controlJob env svc toe catalog control manual)) ops = some st) :
    ops.length ≤ 3 * (relevantSubcontrols toe catalog control manual).length + 1 ∧
    (st.ended = none → ∃ next : (EvaluationResult → Option Err) →
        ResultSlots.Op (EvaluationResult → Option Err), ∀ create,
      (ResultSlots.step (controlJob env svc toe catalog control manual) st
        (next create)).isSome = true) ∧
    ControlStored env svc toe catalog control manual st ∧
    ((∀ op ∈ ops, op.Meets (· = env.create)) → ∀ o, st.ended = some (some o) →
      st.stored ~ (evaluateControl env svc toe catalog control manual).stored ∧
      ((∃ e, o = .error e) ↔
        (evaluateControl env svc toe catalog control manual).err.isSome)) := by
  have h : ResultSlots.Consistent (fun _ => True)
      (controlJob env svc toe catalog control manual) st :=
    ResultSlots.consistent_run ops st (fun op _ => by cases op <;> trivial) hrun
  have hsteps := ResultSlots.remaining_run ops _ st hrun
  rw [ResultSlots.remaining_start] at hsteps
  have hparts : (controlJob env svc toe catalog control manual).parts.length =
      (relevantSubcontrols toe catalog control manual).length := by
    simp [controlJob]
  refine ⟨by omega, ResultSlots.exists_next h, controlStored_of_consistent h,
    fun hanswers o ho => ?_⟩
  exact stored_evaluateControl (ResultSlots.consistent_run ops st hanswers hrun) ho

end Confluence

section Samples

/-- A control with two sub-controls that are evaluated and one with a manual result. -/
def threefoldControl : Control :=
  ⟨"OPS-13", "Operations", "EUCS",
    [⟨"OPS-13.1", "Operations", "EUCS", [], [], some "OPS-13", none⟩,
      ⟨"OPS-13.2", "Operations", "EUCS", [], [], some "OPS-13", none⟩,
      ⟨"OPS-13.3", "Operations", "EUCS", [], [], some "OPS-13", none⟩], [], none, none⟩

def threefoldManual : List EvaluationResult :=
  [bareRow backupToe.cloudServiceId "EUCS" "OPS-13.3" .compliantManually (some 100)]

def threefoldJob : ResultSlots.Job (EvaluationResult → Option Err) EvaluationResult Err :=
  controlJob (backupEnv []) backupService backupToe ⟨"EUCS", []⟩ threefoldControl threefoldManual

/-- The second sub-control is evaluated first and writes its slot last. -/
def crossedOps : List (ResultSlots.Op (EvaluationResult → Option Err)) :=
  [.evaluate 1 (fun _ => none), .evaluate 0 (fun _ => none), .write 0, .leave 0, .write 1,
    .leave 1, .finish (fun _ => none)]

theorem evaluateControl_confluent_crossed :
    ∃ st r, Transitions.run (ResultSlots.step threefoldJob) (ResultSlots.start threefoldJob)
        crossedOps = some st ∧ st.ended = some (some (.ok r)) ∧ st.stored.length = 3 ∧
      ControlStored (backupEnv []) backupService backupToe ⟨"EUCS", []⟩ threefoldControl
        threefoldManual st := by
  obtain ⟨st,r,hrun,hend,hlen⟩ : ∃ st r, Transitions.run (ResultSlots.step threefoldJob)
      (ResultSlots.start threefoldJob) crossedOps = some st ∧
      st.ended = some (some (.ok r)) ∧ st.stored.length = 3 := ⟨_, _, rfl, rfl, rfl⟩
  exact ⟨st, r, hrun, hend, hlen, (evaluateControl_confluent crossedOps hrun).2.2.1⟩

end Samples
end Clouditor
