import AnalysisEngines.Proofs.Batch.Bookkeeping
import AnalysisEngines.Proofs.Run.Lockstep

/-!
# Jobs that do not influence each other

A job of a batch that nobody cancels or aborts fills its slot with what it would fill alone,
whatever the other jobs are, however long it waits for its turn and however many slots there are.
-/

set_option autoImplicit false

namespace AnalysisEngines

namespace Batch

variable {batch : Batch}

/-- What a job settles with if it is run alone and at once, if it ever settles. -/
def alone? (batch : Batch) (job : Job) : Option Slot :=
  (batch.runJob 0 job .start).settled.map (·.2)

theorem slot_single (batch : Batch) (job : Job) :
    (batch.single job).slot = (batch.alone? job).getD (.problem (.run .unending)) := by
  unfold single alone?
  generalize batch.runJob 0 job .start = performance
  cases settled : performance.settled <;> simp [settled]

/-- What the end of its run makes of the slot of a job. -/
def slotOf? (batch : Batch) : Except RunProblem RunResult → Option Slot
  | .error .unending => none
  | .error problem => some (.problem (.run problem))
  | .ok result => some (match batch.listener.raises? .finished with
      | some problem => .problem (.listener problem)
      | none => .result result)

theorem slot_runJob (batch : Batch) (place : Nat) (job : Job) (origin : Moment) :
    (batch.runJob place job origin).settled.map (·.2) =
      match batch.listener.raises? .started with
      | some problem => some (.problem (.listener problem))
      | none => batch.slotOf? (Execution.run (batch.request job) origin).result := by
  unfold runJob
  cases batch.listener.raises? .started with
  | some problem => rfl
  | none =>
      dsimp only
      generalize Execution.run (batch.request job) origin = execution
      obtain ⟨result, notes, finish, engine⟩ := execution
      cases result with
      | ok result => rfl
      | error problem => cases problem <;> rfl

/-- A job settles with the same at every place and at every time. -/
theorem settled_runJob (uncancelled : batch.cancelAt = none) (unaborted : batch.abortAt = none)
    (place : Nat) (job : Job) (origin : Moment) :
    (batch.runJob place job origin).settled.map (·.2) = batch.alone? job := by
  have same := Execution.result_run (batch.request job) uncancelled unaborted origin
  rw [alone?, slot_runJob, slot_runJob, same]

theorem settled_perform (unaborted : batch.abortAt = none) (place : Nat) (job : Job)
    (origin : Moment) :
    (batch.perform place job origin).settled = (batch.runJob place job origin).settled := by
  have inTime : batch.isAbortedBy origin.instant = false := by simp [isAbortedBy, unaborted]
  unfold perform
  simp only [inTime, Bool.false_eq_true, if_false]
  split <;> rfl

theorem settled_granted (uncancelled : batch.cancelAt = none) (unaborted : batch.abortAt = none)
    {grant : Grant} (member : grant ∈ batch.schedule.granted) :
    grant.performance.settled.map (·.2) = batch.alone? grant.job := by
  obtain ⟨place, found⟩ := List.mem_iff_getElem?.mp member
  rw [batch.isOf_schedule.performed place grant found, settled_perform unaborted,
    settled_runJob uncancelled unaborted]

/-- A batch that returns has filled each slot with what the job fills alone. -/
theorem filled_of_result (uncancelled : batch.cancelAt = none) (unaborted : batch.abortAt = none)
    {filled : List Slot} (returned : batch.report.result = .ok filled) :
    filled.map some = batch.jobs.map batch.alone? := by
  obtain ⟨jobs, slots⟩ := granted_of_result returned
  calc
    filled.map some = batch.schedule.granted.map fun grant =>
        grant.performance.settled.map (·.2) := slots
    _ = batch.schedule.granted.map fun grant => batch.alone? grant.job :=
        List.map_congr_left fun grant member => settled_granted uncancelled unaborted member
    _ = batch.jobs.map batch.alone? := by
        rw [← jobs, List.map_map]
        rfl

/-- A batch that nobody cancels returns or never ends. -/
theorem result_of_uncancelled (uncancelled : batch.cancelAt = none) :
    batch.report.result = .error .unending ∨ ∃ filled, batch.report.result = .ok filled := by
  have inTime : ∀ finishes, batch.isOverrun finishes = false := fun finishes => by
    simp [isOverrun, uncancelled]
  unfold report
  simp only [cancellations_eq_nil uncancelled, Moment.earliest?, inTime, Bool.false_eq_true,
    if_false]
  split
  · exact .inl rfl
  · exact .inr ⟨_, rfl⟩

/-- A batch returns exactly if each of its jobs settles alone. -/
theorem returns_iff_alone (slots : 1 ≤ batch.slots) (uncancelled : batch.cancelAt = none)
    (unaborted : batch.abortAt = none) :
    (∃ filled, batch.report.result = .ok filled) ↔
      ∀ job ∈ batch.jobs, (batch.alone? job).isSome = true := by
  constructor
  · rintro ⟨filled, returned⟩ job member
    have filledAlone := filled_of_result uncancelled unaborted returned
    have isFilled : batch.alone? job ∈ filled.map some := by
      rw [filledAlone]
      exact List.mem_map_of_mem member
    obtain ⟨slot, -, same⟩ := List.mem_map.mp isFilled
    rw [← same]
    rfl
  · intro alone
    refine result_of_settles slots uncancelled (fun grant member endless => ?_)
      fun grant member _ _ => isCancelled_eq_false uncancelled member
    have settled := alone grant.job (performs_of_mem member).1
    rw [← settled_granted uncancelled unaborted member, endless] at settled
    cases settled

theorem slots_of_result (uncancelled : batch.cancelAt = none) (unaborted : batch.abortAt = none)
    {filled : List Slot} (returned : batch.report.result = .ok filled) :
    filled = batch.jobs.map fun job => (batch.single job).slot := by
  have alone := congrArg (List.map (·.getD (.problem (.run .unending))))
    (filled_of_result uncancelled unaborted returned)
  simpa only [List.map_map, Function.comp_def, Option.getD_some, List.map_id', slot_single]
    using alone

/-- The slots of a batch are those of its jobs alone; so a slot is the same in every batch that runs
the job under the same limits. -/
theorem report_isIndependent (batch : Batch) (slots : 1 ≤ batch.slots)
    (uncancelled : batch.cancelAt = none) (unaborted : batch.abortAt = none) :
    batch.report.result =
      (if batch.jobs.all fun job => (batch.alone? job).isSome then
        .ok (batch.jobs.map fun job => (batch.single job).slot)
      else .error .unending) ∧
    ∀ (jobs : List Job) (count : Nat) (filled others : List Slot),
      batch.report.result = .ok filled →
      ({ batch with jobs, slots := count } : Batch).report.result = .ok others →
        ∀ place elsewhere : Nat, batch.jobs[place]? = jobs[elsewhere]? →
          filled[place]? = others[elsewhere]? := by
  constructor
  · have returns := returns_iff_alone slots uncancelled unaborted
    rw [← List.all_eq_true] at returns
    split
    · rename_i alone
      obtain ⟨filled, returned⟩ := returns.mpr alone
      rw [returned, slots_of_result uncancelled unaborted returned]
    · rename_i endless
      exact (result_of_uncancelled uncancelled).resolve_right (mt returns.mp endless)
  · intro jobs count filled others returned returned' place elsewhere same
    rw [slots_of_result uncancelled unaborted returned]
    have elsewhere_slots := @slots_of_result { batch with jobs, slots := count } uncancelled unaborted
      others returned'
    rw [elsewhere_slots, List.getElem?_map, List.getElem?_map, same]
    rfl

/-- One slot for a job that takes two seconds, one that cannot be started, and one that runs into the
time limit. -/
def mixed : Batch where
  runtime := .host false []
  limits := { timeout := .int 5 }
  slots := 1
  jobs :=
    [("patient", { process := { name := "patient", timeline := .ofEvents [(2, .exit 0)] } }),
      ("missing", { process := { name := "missing" }, fault := some .notFound }),
      ("endless", { process := { name := "endless" } })].map fun plan =>
        { engine := { name := plan.1 }
          image := "image"
          spec := { name := plan.1, command := some [plan.1] }
          launch := plan.2 }

/-- Each job of such a batch fills its slot as it would alone. -/
theorem mixed_isIndependent :
    mixed.report.result = .ok (mixed.jobs.map fun job => (mixed.single job).slot) ∧
      (mixed.jobs.map fun job => (mixed.single job).slot.isProblem) = [false, true, false] := by
  obtain ⟨equal, -⟩ := report_isIndependent mixed (le_refl 1) rfl rfl
  rw [if_pos (by decide +kernel)] at equal
  exact ⟨equal, by decide +kernel⟩

end Batch

end AnalysisEngines
