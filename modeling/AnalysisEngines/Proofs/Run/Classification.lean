import AnalysisEngines.Proofs.Run.Execution

/-!
# How runs are classified

The earliest of the events that may end a run decides how its result is classified, whatever order
they come in and however they coincide.
-/

set_option autoImplicit false

namespace AnalysisEngines

namespace Request

/-- The same request with an abort that is possible but never comes. -/
def withSilentAbort (request : Request) : Request :=
  { request with canAbort := true, abortAt := none }

/-- The same request without an abort. -/
def withoutAbort (request : Request) : Request := { request with canAbort := false }

end Request

namespace Activity

theorem race_withSilentAbort (request : Request) (deadline : Option Rat) :
    race request.withSilentAbort deadline = race request.withoutAbort deadline := by
  have agrees : ∀ scene, (raceOf request.withSilentAbort deadline scene).Agrees
      (raceOf request.withoutAbort deadline scene) := fun scene =>
    (field request scene.engine).run_withSilentAbort deadline scene.now.instant
  unfold race
  simp only [(agrees _).finish, (agrees _).isEmpty_waits, (agrees _).turns]

end Activity

/-- An abort that is possible but never comes changes nothing about a run. -/
theorem Execution.run_withSilentAbort (request : Request) (origin : Moment) :
    run request.withSilentAbort origin = run request.withoutAbort origin := by
  have guarded : ∀ container deadline,
      Activity.guardedRace request.withSilentAbort container deadline =
        Activity.guardedRace request.withoutAbort container deadline := by
    intro container deadline
    unfold Activity.guardedRace
    rw [Activity.race_withSilentAbort]
    rfl
  have supervised : ∀ container began deadline,
      Activity.supervise request.withSilentAbort container began deadline =
        Activity.supervise request.withoutAbort container began deadline := by
    intro container began deadline
    unfold Activity.supervise
    rw [guarded]
    rfl
  unfold run Activity.execute
  simp only [supervised]
  rfl

namespace Execution

variable {request : Request} {origin : Moment}

/-- A run returns a result if any milestone ever comes, and its processes come to an end where they
are stopped. -/
theorem run_returns (uncancelled : request.cancelAt = none) (starts : request.Starts)
    (steady : request.consumer.IsSteady)
    (stoppable : (request.milestones origin.instant).verdict ≠ .exited → request.IsStoppable)
    (comes : (request.milestones origin.instant).limit < ⊤ ∨
      (request.milestones origin.instant).first < ⊤) :
    ∃ result, (run request origin).result = .ok result := by
  obtain ⟨scene, underWay, unset, executes⟩ :=
    @Activity.execute_of_uncancelled request origin starts uncancelled
  have ends := underWay.decides steady
  cases finishes : (Activity.raceOf request (request.deadline origin.instant) scene).finish with
  | none =>
      rw [finishes] at ends
      obtain ⟨limit, first⟩ := ends
      rw [limit, first] at comes
      simp at comes
  | some finish =>
      rw [finishes] at ends
      obtain ⟨instant, ending⟩ := finish
      have verdict : ending = .verdict (request.milestones origin.instant).verdict := ends
      have unexited : ending ≠ .verdict .exited → request.IsStoppable := by
        rw [verdict]
        intro other
        exact stoppable (by simpa using other)
      rcases Activity.supervise_returns request.container origin.instant unset finishes
          (fun other => underWay.isStoppable (unexited other) uncancelled)
          (fun other => (unexited other).grace) with ⟨failed, -⟩ | ⟨_, -, result, last, returns⟩
      · rw [failed] at verdict
        cases verdict
      · exact ⟨result, by rw [run_of_ok (executes.trans returns)]⟩

/-- A result is classified by the verdict of the milestones. -/
theorem result_of_run (uncancelled : request.cancelAt = none)
    (steady : request.consumer.IsSteady) {result : RunResult}
    (returned : (run request origin).result = .ok result) :
    ∃ final,
      result = Activity.resultOf request request.container origin.instant
        (request.milestones origin.instant).verdict result.exitStatus final ∧
      (∃ exit, (run request origin).engine.exit? = some (exit, result.exitStatus) ∧
        exit ≤ (run request origin).finish.instant) ∧
      ((request.milestones origin.instant).verdict = .exited →
        (run request origin).engine =
          request.processAt (request.launch.startInstant origin.instant)) := by
  obtain ⟨scene, last, underWay, -, returns, runs⟩ := supervise_of_result uncancelled returned
  obtain ⟨instant, verdict, concluded⟩ := Activity.supervise_ok returns
  have ends := underWay.decides steady
  rw [concluded.finishes] at ends
  cases ends
  rw [runs]
  exact ⟨last, concluded.reported, concluded.exits,
    fun exited => (concluded.kept exited).trans underWay.engine⟩

/-- The earliest event decides: a run is timed out if its time limit passes before it starts or
before every other event; otherwise it has exceeded its ceiling, been aborted or exited, in this
order where events coincide. -/
theorem run_classified (request : Request) (origin : Moment) (uncancelled : request.cancelAt = none)
    (starts : request.Starts) (steady : request.consumer.IsSteady) :
    let milestones := request.milestones origin.instant
    let execution := run request origin
    ((milestones.verdict ≠ .exited → request.IsStoppable) →
      milestones.limit < ⊤ ∨ milestones.first < ⊤ → ∃ result, execution.result = .ok result) ∧
    (∀ fault, execution.result ≠ .error (.impossibleResult fault)) ∧
    (∀ result, execution.result = .ok result →
      result.check = .ok result ∧
      (result.timedOut, result.outputExceeded, result.aborted) =
        (if milestones.limit ≤ milestones.start ∨
            milestones.limit <
              min milestones.exit (min milestones.overflow milestones.abort) then
          (true, false, false)
        else if milestones.overflow ≤ min milestones.exit milestones.abort then
          (false, true, false)
        else if milestones.abort ≤ min milestones.exit milestones.overflow then
          (true, false, true)
        else (false, false, false)) ∧
      (∃ exit, execution.engine.exit? = some (exit, result.exitStatus) ∧
        exit ≤ execution.finish.instant) ∧
      (result.timedOut = false → result.outputExceeded = false →
        execution.engine = request.processAt milestones.start)) ∧
    run request.withSilentAbort origin = run request.withoutAbort origin := by
  intro milestones execution
  refine ⟨run_returns uncancelled starts steady, result_ne_impossible request origin,
    fun result returned => ?_, run_withSilentAbort request origin⟩
  obtain ⟨final, reported, exits, kept⟩ := result_of_run uncancelled steady returned
  refine ⟨?_, ?_, exits, ?_⟩
  · rw [reported]
    cases (request.milestones origin.instant).verdict <;> rfl
  · rw [reported]
    unfold Activity.resultOf Milestones.verdict Milestones.first
    split_ifs <;> rfl
  · intro untimed unexceeded
    apply kept
    have timed : result.timedOut = ((request.milestones origin.instant).verdict == .timeout ||
        (request.milestones origin.instant).verdict == .aborted) := by
      rw [reported]
      rfl
    have exceeded : result.outputExceeded =
        ((request.milestones origin.instant).verdict == .outputExceeded) := by
      rw [reported]
      rfl
    rw [timed] at untimed
    rw [exceeded] at unexceeded
    generalize (request.milestones origin.instant).verdict = verdict at untimed unexceeded ⊢
    cases verdict with
    | exited => rfl
    | timeout => cases untimed
    | aborted => cases untimed
    | outputExceeded => cases unexceeded

/-- A run whose exit, abort and one byte too many all come at one instant. -/
def coincident : Request where
  runtime := .host false []
  image := "image"
  spec := { name := "tool", command := some ["tool"] }
  limits := { timeout := .int 5, ceiling := 2 }
  launch :=
    { process :=
        { name := "tool"
          timeline :=
            { events := [(1, .write .stdout [1, 2, 3]), (1, .exit 0)], ordered := by simp } } }
  canAbort := true
  abortAt := some 1

theorem coincident_classified :
    ∃ result, (run coincident).result = .ok result ∧
      (result.timedOut, result.outputExceeded, result.aborted) = (false, true, false) := by
  obtain ⟨returns, -, classified, -⟩ :=
    run_classified coincident .start rfl ⟨rfl, List.cons_ne_nil _ _⟩ fun _ => rfl
  have stoppable : coincident.IsStoppable :=
    ⟨.inr ⟨by simp [coincident], 0, -9, rfl⟩, ⟨10, rfl⟩, by simp [coincident, Runtime.isHost]⟩
  obtain ⟨result, returned⟩ := returns (fun _ => stoppable) (.inl (by decide +kernel))
  obtain ⟨-, flags, -⟩ := classified result returned
  rw [if_neg (by decide +kernel), if_pos (by decide +kernel)] at flags
  exact ⟨result, returned, flags⟩

end Execution

end AnalysisEngines
