import AnalysisEngines.Proofs.Batch.Report
import AnalysisEngines.Proofs.Run.Announcement
import AnalysisEngines.Proofs.Run.Cancellation

/-!
# Cancelled batches and their jobs

A batch that is cancelled ends with the first of its jobs that ends cancelled.  It does not wait for
the others: a job that still waits for a slot ends at once, and ends the batch while other jobs are
stopping their processes.
-/

set_option autoImplicit false

namespace AnalysisEngines

namespace Batch

variable {batch : Batch} {cancelledAt : Rat}

/-- Nothing of a batch goes on after its end: each job that got a slot has settled, and each process
that was started has exited. -/
structure IsQuiet (batch : Batch) : Prop where
  settled : ∀ grant ∈ batch.schedule.granted, ∃ finish,
    grant.performance.finish? = some finish ∧ finish ≤ batch.report.finish
  exited : ∀ grant ∈ batch.schedule.granted, ∀ execution,
    grant.performance.execution = some execution → execution.HasStarted →
      execution.engine.hasExited batch.report.finish.instant = true

/-- Every job settles before the first one that ends cancelled has ended the batch. -/
def EndsTogether (batch : Batch) : Prop :=
  ∀ first, Moment.earliest? (batch.cancellations batch.schedule) = some first →
    ∀ grant ∈ batch.schedule.granted, ∃ finish,
      grant.performance.finish? = some finish ∧ finish ≤ first.pass unwindTurns

/-- A cancellation cuts no stop of a process short. -/
def IsUncut (batch : Batch) (cancelledAt : Rat) : Prop :=
  ∀ grant ∈ batch.schedule.granted, ∀ execution,
    grant.performance.execution = some execution → execution.HasStarted →
      ¬ (batch.request grant.job).IsCutShort grant.moment.instant cancelledAt

/-- A job that was run, with what is known of its run. -/
structure IsRun (batch : Batch) (grant : Grant) (execution : Execution) : Prop where
  begun : execution = Execution.run (batch.request grant.job) grant.moment
  settled : ∃ place closing slot, batch.Closes place grant.job execution.result closing slot ∧
    grant.performance.settled = slot.map fun slot => (execution.finish, slot)
  ordered : grant.job ∈ batch.jobs

theorem isRun_of_execution {grant : Grant} (member : grant ∈ batch.schedule.granted)
    {execution : Execution} (runs : grant.performance.execution = some execution) :
    batch.IsRun grant execution := by
  obtain ⟨ordered, place, performs⟩ := performs_of_mem member
  obtain ⟨same, settled⟩ := performs.of_execution runs
  exact ⟨same, ⟨place, settled⟩, ordered⟩

theorem IsRun.finish_eq {grant : Grant} {execution : Execution} (run : batch.IsRun grant execution)
    {finish : Moment} (settles : grant.performance.finish? = some finish) :
    execution.finish = finish ∧ execution.result ≠ .error .unending := by
  obtain ⟨_, _, _, closes, settled⟩ := run.settled
  unfold Performance.finish? at settles
  rw [settled, Option.map_map] at settles
  obtain ⟨slot, rfl, same⟩ := Option.map_eq_some_iff.mp settles
  refine ⟨same, fun endless => ?_⟩
  cases closes.eq_none_iff.mpr endless

/-- A run of a batch that has started is exposed to the cancellation. -/
theorem IsRun.isExposed {grant : Grant} {execution : Execution} (run : batch.IsRun grant execution)
    (hosted : batch.runtime.isHost = true) (obey : ∀ job ∈ batch.jobs, job.launch.process.Obeys)
    (started : execution.HasStarted) :
    Execution.IsExposed (batch.request grant.job) grant.moment := by
  rw [run.begun] at started
  obtain ⟨starts, undisturbed⟩ := Execution.hasStarted_iff.mp started
  exact ⟨hosted, starts, obey _ run.ordered, undisturbed⟩

theorem mem_cancellations {grant : Grant} (member : grant ∈ batch.schedule.granted) {finish : Moment}
    {slot : Slot} (settles : grant.performance.settled = some (finish, slot))
    (cancelled : slot.isCancelled = true) :
    finish ∈ batch.cancellations batch.schedule := by
  refine List.mem_append_left _ (List.mem_filterMap.mpr ⟨grant, member, ?_⟩)
  simp [settles, cancelled]

theorem exists_earliest {moment : Moment} (ends : moment ∈ batch.cancellations batch.schedule) :
    ∃ first, Moment.earliest? (batch.cancellations batch.schedule) = some first := by
  apply Option.ne_none_iff_exists'.mp
  intro nothing
  rw [Moment.earliest?_eq_none_iff.mp nothing] at ends
  cases ends

/-- A batch is not quiet if the stop of one of its processes is cut short. -/
theorem isUncut_of_isQuiet (quiet : batch.IsQuiet) (pending : batch.cancelAt = some cancelledAt)
    (hosted : batch.runtime.isHost = true) (obey : ∀ job ∈ batch.jobs, job.launch.process.Obeys) :
    batch.IsUncut cancelledAt := by
  intro grant member execution runs started cut
  have run := isRun_of_execution member runs
  obtain ⟨cancelled, alive⟩ :=
    Execution.cancelled_of_isCutShort (run.isExposed hosted obey started) pending cut
  rw [← run.begun] at cancelled alive
  obtain ⟨_, _, _, closes, settles⟩ := run.settled
  rw [cancelled] at closes
  have ends : execution.finish ∈ batch.cancellations batch.schedule := by
    cases closes with
    | cancelled => exact mem_cancellations member settles rfl
    | failed _ _ other => exact absurd rfl other
  obtain ⟨first, earliest⟩ := exists_earliest ends
  obtain ⟨finish, settled, inTime⟩ := quiet.settled grant member
  rw [(report_of_cancellation earliest).2, ← (run.finish_eq settled).1] at inTime
  have same : batch.report.finish.instant = execution.finish.instant := by
    have before : first.instant ≤ execution.finish.instant :=
      Moment.instant_le (Moment.earliest?_le earliest ends)
    have after := Moment.instant_le inTime
    rw [Moment.pass_instant] at after
    rw [(report_of_cancellation earliest).2, Moment.pass_instant]
    exact le_antisymm before after
  have exited := quiet.exited grant member execution runs started
  rw [same, alive] at exited
  cases exited

/-- A cancelled batch leaves nothing behind, exactly if its jobs end together and the cancellation
strikes while none of their processes is being stopped. -/
theorem isQuiet_iff (batch : Batch) {cancelledAt : Rat} (pending : batch.cancelAt = some cancelledAt)
    (hosted : batch.runtime.isHost = true) (obey : ∀ job ∈ batch.jobs, job.launch.process.Obeys)
    (cancelled : batch.report.result = .error .cancelled) :
    batch.IsQuiet ↔ batch.EndsTogether ∧ batch.IsUncut cancelledAt := by
  constructor
  · intro quiet
    refine ⟨fun first earliest => ?_, isUncut_of_isQuiet quiet pending hosted obey⟩
    rw [← (report_of_cancellation earliest).2]
    exact quiet.settled
  rintro ⟨together, uncut⟩
  have settled : ∀ grant ∈ batch.schedule.granted, ∃ finish,
      grant.performance.finish? = some finish ∧ finish ≤ batch.report.finish := by
    cases earliest : Moment.earliest? (batch.cancellations batch.schedule) with
    | some first =>
        rw [(report_of_cancellation earliest).2]
        exact together first earliest
    | none =>
        obtain ⟨all, last⟩ := report_of_overrun cancelled earliest
        intro grant member
        obtain ⟨settlement, settles⟩ :=
          Option.isSome_iff_exists.mp ((settled_of_filled all).2 grant member)
        refine ⟨settlement.1, by rw [Performance.finish?, settles, Option.map_some], ?_⟩
        rw [last]
        refine le_latest (List.mem_map_of_mem (List.mem_filterMap.mpr ⟨_, ?_, settles⟩))
        exact List.mem_map_of_mem member
  refine ⟨settled, fun grant member execution runs started => ?_⟩
  have run := isRun_of_execution member runs
  obtain ⟨finish, settles, inTime⟩ := settled grant member
  obtain ⟨same, ends⟩ := run.finish_eq settles
  have exited := Execution.hasExited_of_settled (run.isExposed hosted obey started)
    (run.begun ▸ ends) fun other found => by
      cases pending.symm.trans found
      exact uncut grant member execution runs started
  rw [← run.begun, same] at exited
  exact Process.hasExited_mono (Moment.instant_le inTime) exited

/-- A batch that is cancelled while a job waits for a slot ends at once, and leaves behind whatever
job goes on. -/
theorem not_isQuiet_of_waiting (pending : batch.cancelAt = some cancelledAt)
    (waits : batch.schedule.waiting ≠ []) {grant : Grant} (member : grant ∈ batch.schedule.granted)
    (late : ∀ finish, grant.performance.finish? = some finish → cancelledAt < finish.instant) :
    ¬ batch.IsQuiet := by
  intro quiet
  have ends : ⟨cancelledAt, 1⟩ ∈ batch.cancellations batch.schedule := by
    apply List.mem_append_right _
    simp [pending, waits]
  obtain ⟨first, earliest⟩ := exists_earliest ends
  obtain ⟨finish, settles, inTime⟩ := quiet.settled grant member
  rw [(report_of_cancellation earliest).2] at inTime
  have struck : finish.instant ≤ cancelledAt := by
    calc
      finish.instant ≤ (first.pass unwindTurns).instant := Moment.instant_le inTime
      _ = first.instant := Moment.pass_instant _ _
      _ ≤ cancelledAt := Moment.instant_le (Moment.earliest?_le earliest ends)
  exact absurd (late finish settles) (not_lt.mpr struck)

/-- Two jobs that have to be killed two seconds after the batch has been cancelled. -/
def stubborn (slots : Nat) : Batch :=
  let job : Job :=
    { engine := { name := "tool" }
      image := "image"
      spec := { name := "tool", command := some ["tool"] }
      launch := { process := { name := "tool", onTerminate := .ignores } } }
  { runtime := .host false []
    limits := { timeout := .int 1 }
    grace := .int 2
    slots
    jobs := [job, job]
    cancelAt := some (1 / 2) }

theorem stubborn_request {slots : Nat} {job : Job} (member : job ∈ (stubborn slots).jobs) :
    (stubborn slots).request job = Execution.stubborn (1 / 2) := by
  rcases List.mem_pair.mp member with rfl | rfl <;> rfl

theorem stubborn_obey (slots : Nat) : ∀ job ∈ (stubborn slots).jobs, job.launch.process.Obeys := by
  intro job member
  rcases List.mem_pair.mp member with rfl | rfl <;> exact ⟨by simp, 0, -9, rfl⟩

/-- With a slot for each, both jobs are killed before the batch ends. -/
theorem stubborn_isQuiet : (stubborn 2).IsQuiet := by
  have earliest : Moment.earliest? ((stubborn 2).cancellations (stubborn 2).schedule) =
      some ⟨5 / 2, 6⟩ := by decide +kernel
  have finishes : ∀ grant ∈ (stubborn 2).schedule.granted,
      grant.performance.finish? = some ⟨5 / 2, 6⟩ := by decide +kernel
  have starts : ∀ grant ∈ (stubborn 2).schedule.granted, grant.moment = .start := by
    decide +kernel
  refine (isQuiet_iff (stubborn 2) rfl rfl (stubborn_obey 2)
    (report_of_cancellation earliest).1).mpr ⟨fun first same grant member => ?_, ?_⟩
  · cases earliest.symm.trans same
    exact ⟨_, finishes grant member, Moment.le_pass _ _⟩
  · intro grant member execution runs _
    rw [stubborn_request (isRun_of_execution member runs).ordered, starts grant member]
    exact Execution.stubborn_not_isCutShort

/-- With one slot, the job that waits for it ends the batch while the other one is being stopped. -/
theorem stubborn_not_isQuiet :
    ¬ ((stubborn 1).report.result = .error .cancelled → (stubborn 1).IsQuiet) := by
  have earliest : Moment.earliest? ((stubborn 1).cancellations (stubborn 1).schedule) =
      some ⟨1 / 2, 1⟩ := by decide +kernel
  have waits : (stubborn 1).schedule.waiting.length = 1 := by decide +kernel
  have finishes : ∃ grant ∈ (stubborn 1).schedule.granted,
      grant.performance.finish? = some ⟨5 / 2, 6⟩ := by decide +kernel
  obtain ⟨grant, member, settles⟩ := finishes
  intro quiet
  refine not_isQuiet_of_waiting rfl (List.ne_nil_of_length_pos (by omega)) member
    (fun finish same => ?_) (quiet (report_of_cancellation earliest).1)
  cases settles.symm.trans same
  decide +kernel

end Batch

end AnalysisEngines
