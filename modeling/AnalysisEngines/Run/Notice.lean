import AnalysisEngines.Container.Client
import AnalysisEngines.Run.Limits
import AnalysisEngines.Run.Race
import AnalysisEngines.Run.Result

/-!
What a run reports about itself: log notices, signals and started processes.
-/

set_option autoImplicit false

namespace AnalysisEngines

inductive Notice where
  | clientCalled (command : List String)
  | started (image : String) (container : Option String)
  | terminated (verdict : Verdict) (limits : Limits)
  | stopTimedOut (container : String)
  | killEscalated (pid : Int) (grace : Number)
  | finished (result : RunResult)

namespace Notice

def executorLogger : String := "analyzer.execution.executor"

def entry : Notice → Log.Entry
  | .clientCalled command => Container.callEntry command
  | .started image container =>
      ⟨.debug, executorLogger, "engine_process_started",
        [("image", .text image), ("container", Value.ofText? container)]⟩
  | .terminated verdict limits =>
      ⟨.warning, executorLogger, "engine_terminated",
        [("reason", .text verdict.name), ("timeout_seconds", .number limits.timeout),
          ("max_output_bytes", .int limits.ceiling)]⟩
  | .stopTimedOut container =>
      ⟨.warning, Container.logger, "docker_stop_timeout", [("container", .text container)]⟩
  | .killEscalated pid grace =>
      ⟨.warning, Container.logger, "process_kill_escalated",
        [("pid", .int pid), ("grace_seconds", .number grace)]⟩
  | .finished result =>
      ⟨.debug, executorLogger, "engine_process_finished", result.summary⟩

end Notice

inductive Note where
  | notice (notice : Notice)
  | signal (target : String) (signal : Signal)
  | spawned (command : List String) (environment : Option (List (String × String)))
      (directory : Option String)
  | helperSpawned (command : List String)

/-- Why a run has no result. -/
inductive RunProblem where
  | failure (failure : Failure)
  | consumerFailed
  | cancelled
  /-- A grace period that has no whole number of seconds. -/
  | graceNotWhole (grace : Number)
  /-- The helper that is to stop the container cannot be started. -/
  | helperFailed (fault : SpawnFault)
  | impossibleResult (fault : ResultFault)
  /-- Nothing would ever let the run go on. -/
  | unending
  deriving Inhabited

end AnalysisEngines
