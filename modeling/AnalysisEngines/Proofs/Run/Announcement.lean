import AnalysisEngines.Proofs.Run.Execution

/-!
# Runs whose process has started

A run notes that its process has started exactly if the process can be started and no cancellation
comes before.
-/

set_option autoImplicit false

namespace AnalysisEngines

/-- Whether a note says that the process of a run has started. -/
def Note.isStart : Note → Bool
  | .notice (.started ..) => true
  | _ => false

/-- A run whose process has started. -/
def Execution.HasStarted (execution : Execution) : Prop :=
  ∃ entry ∈ execution.notes, entry.2.isStart = true

namespace Execution

variable {request : Request} {origin : Moment}

/-- What has been noted stays noted to the end of a run. -/
theorem mem_notes_run {scene : Scene} {container : Option String} {began : Rat}
    {deadline : Option Rat}
    (executes : Activity.execute request (opening request origin) =
      Activity.supervise request container began deadline scene)
    {entry : Moment × Note} (member : entry ∈ scene.notes) :
    entry ∈ (run request origin).notes := by
  have leads := Activity.leads_supervise request container began deadline
  unfold run
  rw [executes]
  cases outcome : Activity.supervise request container began deadline scene with
  | ok result last =>
      obtain ⟨added, same, -⟩ := (leads.ok outcome).notes
      show entry ∈ last.notes
      rw [same]
      exact List.mem_append_left added member
  | error problem last =>
      obtain ⟨added, same, -⟩ := (leads.error outcome).notes
      show entry ∈ last.notes
      rw [same]
      exact List.mem_append_left added member

theorem hasStarted_iff :
    (run request origin).HasStarted ↔
      request.Starts ∧ request.launch.IsUndisturbed origin.instant request.cancelAt := by
  have same : (opening request origin).clientFound = request.clientFound := rfl
  constructor
  · rintro ⟨entry, member, starts⟩
    cases begins : Activity.start request (opening request origin) with
    | ok container started =>
        obtain ⟨able, -, has⟩ := Activity.start_ok same begins
        exact ⟨able, has.undisturbed⟩
    | error problem last =>
        have raises : Activity.execute request (opening request origin) = .error problem last := by
          unfold Activity.execute
          rw [bind_of_ok (get_apply _), bind_of_error begins]
        rw [run_of_error raises] at member
        have before := (Activity.keepsSilent_start request (fun _ _ _ => rfl)
          fun _ => rfl).error begins entry member starts
        cases before
  · rintro ⟨able, undisturbed⟩
    obtain ⟨container, started, begins⟩ := Activity.start_of_starts able same undisturbed
    exact ⟨_, mem_notes_run (Activity.execute_of_start begins)
      (List.mem_append_right _ (List.mem_singleton_self _)), rfl⟩

end Execution

end AnalysisEngines
