import AnalysisEngines.Proofs.Run.Execution

/-!
# Runs whose output is streamed

A consumer gets the output in place of the result.  If it takes every chunk, nothing else about the
run depends on it: what is done until the result is put together is the same.
-/

set_option autoImplicit false

namespace AnalysisEngines

namespace Request

/-- The same request with its output in the result. -/
def captured (request : Request) : Request := { request with consumer := .result }

/-- The same request with its output for a consumer that takes every chunk. -/
def streamed (request : Request) : Request := { request with consumer := .chunks none }

theorem captured_isSteady (request : Request) : request.captured.consumer.IsSteady := fun _ => rfl

theorem streamed_isSteady (request : Request) : request.streamed.consumer.IsSteady := fun _ => rfl

end Request

namespace Activity

/-- Two requests that report the same scene, or raise the same from the same scene. -/
inductive ReportsLike (first second : Request) :
    EStateM.Result RunProblem Scene RunResult → EStateM.Result RunProblem Scene RunResult →
      Prop where
  | ok {container began verdict exitStatus scene notes notes'} :
      ReportsLike first second
        (.ok (resultOf first container began verdict exitStatus scene) { scene with notes })
        (.ok (resultOf second container began verdict exitStatus scene)
          { scene with notes := notes' })
  | error {problem last} : ReportsLike first second (.error problem last) (.error problem last)

theorem ReportsLike.bind {α : Type} {first second : Request} {activity : Activity α}
    {next other : α → Activity RunResult}
    (continues : ∀ value scene, ReportsLike first second (next value scene) (other value scene))
    (scene : Scene) :
    ReportsLike first second ((activity >>= next) scene) ((activity >>= other) scene) := by
  cases begins : activity scene with
  | ok value middle =>
      rw [bind_of_ok begins, bind_of_ok begins]
      exact continues value middle
  | error problem last =>
      rw [bind_of_error begins, bind_of_error begins]
      exact .error

variable (request : Request)

theorem output_field_streamed (process : Process) :
    (field request.streamed process).output = (field request.captured process).output :=
  (Request.output_field request.streamed_isSteady process).trans
    (Request.output_field request.captured_isSteady process).symm

theorem raceOf_streamed (deadline : Option Rat) (scene : Scene) :
    raceOf request.streamed deadline scene = raceOf request.captured deadline scene :=
  congrArg (fun output =>
    Field.run { field request.captured scene.engine with output } deadline scene.now.instant)
    (output_field_streamed request scene.engine)

theorem guardedRace_streamed (container : Option String) (deadline : Option Rat) :
    guardedRace request.streamed container deadline =
      guardedRace request.captured container deadline := by
  unfold guardedRace race
  simp only [raceOf_streamed]
  rfl

theorem readers_streamed (process : Process) :
    readers request.streamed process = readers request.captured process :=
  congrArg (fun output => [Option.map Prod.fst output, (process.pipe .stderr).closedAt])
    (output_field_streamed request process)

theorem drain_streamed : drain request.streamed = drain request.captured := by
  unfold drain
  simp only [readers_streamed]

theorem settle_streamed (container : Option String) (began : Rat) (verdict : Verdict)
    (scene : Scene) :
    ReportsLike request.captured request.streamed
      (settle request.captured container began verdict scene)
      (settle request.streamed container began verdict scene) := by
  unfold settle
  rw [drain_streamed]
  refine .bind (fun exitStatus => .bind fun _ last => ?_) scene
  rw [finish_apply, finish_apply]
  exact .ok

theorem supervise_streamed (container : Option String) (began : Rat) (deadline : Option Rat)
    (scene : Scene) :
    ReportsLike request.captured request.streamed
      (supervise request.captured container began deadline scene)
      (supervise request.streamed container began deadline scene) := by
  unfold supervise
  rw [guardedRace_streamed]
  refine .bind (fun verdict middle => ?_) scene
  have settles := settle_streamed request container began verdict
  by_cases other : verdict ≠ .exited
  · rw [if_pos other, if_pos other]
    exact .bind (fun _ => .bind fun _ => settles) middle
  · rw [if_neg other, if_neg other]
    exact settles middle

theorem execute_streamed (scene : Scene) :
    ReportsLike request.captured request.streamed (execute request.captured scene)
      (execute request.streamed scene) := by
  have starts : start request.streamed = start request.captured := rfl
  unfold execute
  rw [starts]
  refine .bind (fun opened => .bind fun container => .bind fun _ => ?_) scene
  exact supervise_streamed request container _ _

end Activity

/-- A run whose output is streamed does the same, and reports the same without the output. -/
theorem Execution.run_streamed (request : Request) (origin : Moment) :
    (run request.streamed origin).engine = (run request.captured origin).engine ∧
      (run request.streamed origin).finish = (run request.captured origin).finish ∧
      (run request.streamed origin).result =
        (run request.captured origin).result.map fun result => { result with output := [] } := by
  have reports := Activity.execute_streamed request (opening request.captured origin)
  have opens : opening request.streamed origin = opening request.captured origin := rfl
  unfold run
  rw [opens]
  generalize Activity.execute request.captured (opening request.captured origin) = outcome at reports
  generalize Activity.execute request.streamed (opening request.captured origin) = outcome' at reports
  cases reports with
  | ok => exact ⟨rfl, rfl, rfl⟩
  | error => exact ⟨rfl, rfl, rfl⟩

end AnalysisEngines
