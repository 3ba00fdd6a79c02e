import AnalysisEngines.Listener
import AnalysisEngines.Run.Execution

/-!
Jobs, batches of jobs, and what a batch notes about its jobs.
-/

set_option autoImplicit false

namespace AnalysisEngines

structure Job where
  engine : EngineLabel
  image : String
  details : List (Value × Value) := []
  spec : Spec
  launch : Launch
  helper : Helper := {}
  consumer : Consumer := .result

structure Batch where
  runtime : Runtime
  limits : Limits
  grace : Number := .float (.finite 10)
  slots : Nat := 2
  listener : Listener := .dispatcher []
  jobs : List Job
  canAbort : Bool := false
  abortAt : Option Rat := none
  cancelAt : Option Rat := none

/-- A batch cannot run fewer than one job at a time. -/
structure WidthFault where
  width : Int

def WidthFault.message (fault : WidthFault) : String :=
  "max_concurrency must be at least 1, got " ++ toString fault.width

/-- A batch that runs a number of jobs at a time. -/
def Batch.withWidth (width : Int) (batch : Batch) : Except WidthFault Batch :=
  if width < 1 then .error ⟨width⟩ else .ok { batch with slots := width.toNat }

inductive JobProblem where
  | run (problem : RunProblem)
  | listener (problem : ListenerProblem)
  deriving Inhabited

inductive Slot where
  | result (result : RunResult)
  | problem (problem : JobProblem)
  | skipped
  deriving Inhabited

namespace Slot

def isProblem : Slot → Bool
  | .problem _ => true
  | _ => false

def isSkipped : Slot → Bool
  | .skipped => true
  | _ => false

end Slot

/-- What a batch notes; a note about one job carries the job's place in the batch. -/
inductive BatchNote where
  | run (job : Nat) (engine : String) (note : Note)
  | happening (job : Nat) (happening : Happening)
  | skipped (job : Nat) (engine : EngineLabel)
  | failed (job : Nat) (engine : EngineLabel) (message : String)
  | complete (jobs failed skipped : Nat)

namespace BatchNote

/-- The place of the job that a note is about. -/
def job? : BatchNote → Option Nat
  | .run job .. | .happening job .. | .skipped job .. | .failed job .. => some job
  | .complete .. => none

def happening? : BatchNote → Option Happening
  | .happening _ what => some what
  | _ => none

def runnerLogger : String := "analyzer.execution.runner"

/-- The log entry of a note, other than what listeners make of it. -/
def entry? : BatchNote → Option Log.Entry
  | .run _ engine (.notice notice) => some (notice.entry.under [("engine", .text engine)])
  | .run .. => none
  | .happening .. => none
  | .skipped _ engine =>
      some ⟨.info, runnerLogger, "engine_skipped",
        [("engine", .text engine.name), ("reason", .text "aborted")]⟩
  | .failed _ engine message =>
      some ⟨.warning, runnerLogger, "engine_failed",
        [("engine", .text engine.name), ("channel", engine.channel), ("error", .text message)]⟩
  | .complete jobCount failureCount skipCount =>
      some ⟨.info, runnerLogger, "engine_batch_complete",
        [("jobs", .ofNat jobCount), ("failed", .ofNat failureCount),
          ("skipped", .ofNat skipCount)]⟩

end BatchNote

def RunProblem.message : RunProblem → String
  | .failure reported => reported.message
  | .consumerFailed => "consumer failed"
  | .cancelled => ""
  | .graceNotWhole (.float .nan) => "cannot convert float NaN to integer"
  | .graceNotWhole _ => "cannot convert float infinity to integer"
  | .helperFailed fault => fault.message
  | .impossibleResult fault => fault.message
  | .unending => ""

def JobProblem.message : JobProblem → String
  | .run problem => problem.message
  | .listener problem => problem.message

def Slot.isCancelled : Slot → Bool
  | .problem (.run .cancelled) => true
  | _ => false

end AnalysisEngines
