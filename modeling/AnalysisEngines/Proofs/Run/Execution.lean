import AnalysisEngines.Proofs.Run.Milestones
import AnalysisEngines.Proofs.Run.Termination

/-!
# From a request to the end of its run

A run whose process starts is the supervision of that process.  What it returns is the verdict of
its race and the status with which its process exits.
-/

set_option autoImplicit false

namespace AnalysisEngines

namespace Activity

variable {request : Request} {scene last : Scene}

/-- A run whose process starts is the supervision of that process. -/
theorem execute_of_start {container : Option String} {started : Scene}
    (starts : start request scene = .ok container started) :
    execute request scene =
      supervise request container scene.now.instant (request.deadline scene.now.instant)
        { started with notes := started.notes ++
          [(started.now, .notice (.started request.image container))] } := by
  unfold execute
  rw [bind_of_ok (get_apply scene), bind_of_ok starts, bind_of_ok (log_apply _ started)]

/-- A run that has returned a result, after a race that ended at an instant with a verdict. -/
structure IsConcluded (request : Request) (container : Option String) (began : Rat)
    (deadline : Option Rat) (scene : Scene) (result : RunResult) (last : Scene) (instant : Rat)
    (verdict : Verdict) : Prop where
  finishes : (raceOf request deadline scene).finish = some (instant, .verdict verdict)
  reached : instant ≤ last.now.instant
  reported : result = resultOf request container began verdict result.exitStatus last
  exits : ∃ exit, last.engine.exit? = some (exit, result.exitStatus) ∧ exit ≤ last.now.instant
  kept : verdict = .exited → last.engine = scene.engine

/-- A run that returns a result reports the verdict of its race and the status of its process. -/
theorem supervise_ok {container : Option String} {began : Rat} {deadline : Option Rat}
    {result : RunResult}
    (returns : supervise request container began deadline scene = .ok result last) :
    ∃ instant verdict,
      IsConcluded request container began deadline scene result last instant verdict := by
  obtain ⟨verdict, middle, guarded, rest⟩ := bind_eq_ok.mp returns
  obtain ⟨instant, decided, leads⟩ := race_ok (guardedRace_ok guarded)
  have settled : ∀ {begun : Scene}, middle.now ≤ begun.now →
      settle request container began verdict begun = .ok result last →
        instant ≤ last.now.instant ∧ last.engine = begun.engine ∧
          (∃ exit, last.engine.exit? = some (exit, result.exitStatus) ∧
            exit ≤ last.now.instant) ∧
          result = resultOf request container began verdict result.exitStatus last := by
    intro begun order settles
    obtain ⟨engine, exits, reported⟩ := settle_ok settles
    have later := order.trans ((isStepwise_leads.settle _ _ _ _).ok settles).now
    exact ⟨leads.reached ▸ Moment.instant_le later, engine, engine ▸ exits, reported⟩
  by_cases exited : verdict = .exited
  · rw [if_neg (not_not.mpr exited)] at rest
    obtain ⟨reached, engine, exits, reported⟩ := settled (le_refl _) rest
    exact ⟨instant, verdict, decided.finishes, reached, reported, exits,
      fun _ => engine.trans leads.engine_eq⟩
  · rw [if_pos exited, bind_of_ok (log_apply _ middle)] at rest
    obtain ⟨_, stopped, stops, settles⟩ := bind_eq_ok.mp rest
    obtain ⟨reached, -, exits, reported⟩ :=
      settled ((isStepwise_leads.stop _ _ _).ok stops).now settles
    exact ⟨instant, verdict, decided.finishes, reached, reported, exits,
      fun same => absurd same exited⟩

variable {origin : Moment}

/-- The scene in which a process that has started is supervised. -/
structure IsUnderWay (request : Request) (origin : Moment) (scene : Scene) : Prop where
  instant : scene.now.instant = request.launch.startInstant origin.instant
  engine : scene.engine = request.processAt (request.launch.startInstant origin.instant)
  cancelAt : scene.cancelAt = request.cancelAt
  helper : scene.helper = request.helper
  client : scene.clientFound = request.runtime.answersLeft request.clientFound
  unsignalled : ∀ entry ∈ scene.notes, entry.2.isSignal = false

theorem IsUnderWay.raceOf_eq {scene : Scene} (underWay : IsUnderWay request origin scene)
    (deadline : Option Rat) :
    raceOf request deadline scene =
      (field request (request.processAt (request.launch.startInstant origin.instant))).run deadline
        (request.launch.startInstant origin.instant) := by
  rw [raceOf, underWay.engine, underWay.instant]

theorem IsUnderWay.decides {scene : Scene} (underWay : IsUnderWay request origin scene)
    (steady : request.consumer.IsSteady) :
    (request.milestones origin.instant).Decides
      (raceOf request (request.deadline origin.instant) scene).finish := by
  rw [underWay.raceOf_eq]
  exact Request.decides_of_ends steady (Field.run_ends _ _ _)

theorem IsUnderWay.isStoppable {scene : Scene} (underWay : IsUnderWay request origin scene)
    (stoppable : request.IsStoppable) (uncancelled : request.cancelAt = none) :
    scene.IsStoppable request.runtime where
  engine := by
    rw [underWay.engine]
    exact stoppable.engine.startedAt _
  helper contained := by
    obtain ⟨found, kills⟩ := stoppable.helper contained
    exact ⟨underWay.client ▸ request.runtime.answersLeft_found found, underWay.helper ▸ kills⟩
  uncancelled := underWay.cancelAt.trans uncancelled

/-- A run that starts undisturbed goes on with the supervision of its process. -/
theorem execute_of_starts (starts : request.Starts)
    (undisturbed : request.launch.IsUndisturbed origin.instant request.cancelAt) :
    ∃ scene, IsUnderWay request origin scene ∧
      execute request (Execution.opening request origin) =
        supervise request request.container origin.instant (request.deadline origin.instant)
          scene := by
  have same : (Execution.opening request origin).clientFound = request.clientFound := rfl
  obtain ⟨container, started, begins⟩ := start_of_starts starts same undisturbed
  obtain ⟨-, rfl, has⟩ := start_ok same begins
  let scene : Scene := { started with notes := started.notes ++
    [(started.now, .notice (.started request.image request.container))] }
  have engine : scene.engine =
      request.processAt (request.launch.startInstant origin.instant) := by
    show started.engine = _
    rw [has.engine, has.instant]
    rfl
  have unsignalled : ∀ entry ∈ scene.notes, entry.2.isSignal = false := by
    have starts : Follows (Scene.KeepsSilent Note.isSignal) (start request) :=
      keepsSilent_start request (fun _ _ _ => rfl) fun _ => rfl
    have noted : (Execution.opening request origin).KeepsSilent Note.isSignal none scene :=
      IsPassage.trans (starts.ok begins) ((keepsSilent_note rfl).ok (log_apply _ started))
    intro entry member
    by_contra signals
    exact List.not_mem_nil (noted entry member (by simpa using signals))
  exact ⟨scene, ⟨has.instant, engine, has.cancelAt, has.helper, has.client, unsignalled⟩,
    execute_of_start begins⟩

theorem execute_of_uncancelled (starts : request.Starts) (uncancelled : request.cancelAt = none) :
    ∃ scene, IsUnderWay request origin scene ∧ scene.cancelAt = none ∧
      execute request (Execution.opening request origin) =
        supervise request request.container origin.instant (request.deadline origin.instant)
          scene := by
  have undisturbed : request.launch.IsUndisturbed origin.instant request.cancelAt := by
    simp [uncancelled, Launch.IsUndisturbed]
  obtain ⟨scene, underWay, executes⟩ := execute_of_starts starts undisturbed
  exact ⟨scene, underWay, underWay.cancelAt.trans uncancelled, executes⟩

end Activity

namespace Execution

variable {request : Request} {origin : Moment}

theorem run_of_ok {result : RunResult} {last : Scene}
    (returns : Activity.execute request (opening request origin) = .ok result last) :
    run request origin = ⟨.ok result, last.notes, last.now, last.engine⟩ := by
  rw [run, returns, ofOutcome]

theorem run_of_error {problem : RunProblem} {last : Scene}
    (raises : Activity.execute request (opening request origin) = .error problem last) :
    run request origin = ⟨.error problem, last.notes, last.now, last.engine⟩ := by
  rw [run, raises, ofOutcome]

theorem execute_of_result {result : RunResult} (returned : (run request origin).result = .ok result) :
    ∃ last, Activity.execute request (opening request origin) = .ok result last := by
  cases outcome : Activity.execute request (opening request origin) with
  | ok other last =>
      rw [run_of_ok outcome] at returned
      cases returned
      exact ⟨last, rfl⟩
  | error problem last =>
      rw [run_of_error outcome] at returned
      cases returned

/-- A run that cannot start fails. -/
theorem result_of_not_starts (fails : ¬ request.Starts) :
    (run request origin).result = .error .cancelled ∨
      ∃ failure, (run request origin).result = .error (.failure failure) := by
  have same : (opening request origin).clientFound = request.clientFound := rfl
  cases begins : Activity.start request (opening request origin) with
  | ok container started => exact absurd (Activity.start_ok same begins).1 fails
  | error problem last =>
      have raises : Activity.execute request (opening request origin) = .error problem last := by
        unfold Activity.execute
        rw [bind_of_ok (get_apply _), bind_of_error begins]
      rw [run_of_error raises]
      rcases Activity.start_error same begins with ⟨rfl, -⟩ | ⟨⟨failure, rfl⟩, -⟩
      · exact .inl rfl
      · exact .inr ⟨failure, rfl⟩

/-- A run that returns a result is the supervision of a process. -/
theorem supervise_of_result {result : RunResult} (uncancelled : request.cancelAt = none)
    (returned : (run request origin).result = .ok result) :
    ∃ scene last, Activity.IsUnderWay request origin scene ∧ scene.cancelAt = none ∧
      Activity.supervise request request.container origin.instant
        (request.deadline origin.instant) scene = .ok result last ∧
      run request origin = ⟨.ok result, last.notes, last.now, last.engine⟩ := by
  have starts : request.Starts := by
    by_contra fails
    rcases @result_of_not_starts request origin fails with cancelled | ⟨failure, failed⟩
    · cases returned.symm.trans cancelled
    · cases returned.symm.trans failed
  obtain ⟨scene, underWay, unset, executes⟩ := Activity.execute_of_uncancelled starts uncancelled
  obtain ⟨last, returns⟩ := execute_of_result returned
  exact ⟨scene, last, underWay, unset, executes.symm.trans returns, run_of_ok returns⟩

/-- A run with a time limit comes to an end if its processes do and nobody cancels it. -/
theorem result_ne_unending (uncancelled : request.cancelAt = none)
    (stoppable : request.IsStoppable) (limited : request.limits.timeout.IsFinite) :
    (run request origin).result ≠ .error .unending := by
  by_cases starts : request.Starts
  · obtain ⟨scene, underWay, unset, executes⟩ :=
      @Activity.execute_of_uncancelled request origin starts uncancelled
    obtain ⟨seconds, span⟩ := Number.span_of_isFinite limited
    cases finishes : (Activity.raceOf request (request.deadline origin.instant) scene).finish with
    | none =>
        have ends := Activity.raceOf_ends request (request.deadline origin.instant) scene
        rw [finishes] at ends
        cases ends with
        | never limitless _ => simp [Request.deadline, span] at limitless
    | some finish =>
        rcases Activity.supervise_returns request.container origin.instant unset finishes
            (fun _ => underWay.isStoppable stoppable uncancelled) (fun _ => stoppable.grace)
          with ⟨-, last, raises⟩ | ⟨_, -, result, last, returns⟩
        · rw [run_of_error (executes.trans raises)]
          simp
        · rw [run_of_ok (executes.trans returns)]
          simp
  · rcases @result_of_not_starts request origin starts with ended | ⟨failure, ended⟩ <;>
      simp [ended]

end Execution

end AnalysisEngines
