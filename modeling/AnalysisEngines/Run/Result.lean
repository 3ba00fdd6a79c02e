import AnalysisEngines.Text.Utf8
import AnalysisEngines.Value.Basic

/-!
The result of one run, and its one classification.
-/

set_option autoImplicit false

namespace AnalysisEngines

inductive Outcome where
  | timeout
  | outputExceeded
  | error
  | success
  deriving DecidableEq, Inhabited

def Outcome.name : Outcome → String
  | .timeout => "timeout"
  | .outputExceeded => "output_exceeded"
  | .error => "error"
  | .success => "success"

structure RunResult where
  exitStatus : Int
  duration : Number
  timedOut : Bool := false
  outputExceeded : Bool := false
  aborted : Bool := false
  output : Bytes := []
  stderr : String := ""
  containerName : Option String := none
  deriving Inhabited

inductive ResultFault where
  | twoLimits
  | abortedNotTimedOut
  deriving DecidableEq

def ResultFault.message : ResultFault → String
  | .twoLimits =>
      "A run is terminated by one limit; timed_out and maximum_output_exceeded are exclusive"
  | .abortedNotTimedOut => "An aborted run is reported as timed out"

namespace RunResult

def check (result : RunResult) : Except ResultFault RunResult :=
  if result.timedOut && result.outputExceeded then .error .twoLimits
  else if result.aborted && !result.timedOut then .error .abortedNotTimedOut
  else .ok result

def outcome (result : RunResult) : Outcome :=
  if result.timedOut then .timeout
  else if result.outputExceeded then .outputExceeded
  else if result.exitStatus ≠ 0 then .error
  else .success

def succeeded (result : RunResult) : Bool := result.outcome == .success

def seconds (result : RunResult) : Binary64 := result.duration.toBinary64?.getD .nan

def milliseconds (result : RunResult) : Binary64 := result.seconds.mul (.finite 1000)

/-- The result as log fields; of the output the size only. -/
def summary (result : RunResult) : List (String × Value) :=
  [("exit_status", .int result.exitStatus),
    ("duration_ms", .float (result.milliseconds.roundPlaces 3)),
    ("timed_out", .bool result.timedOut),
    ("maximum_output_exceeded", .bool result.outputExceeded),
    ("aborted", .bool result.aborted),
    ("outcome", .text result.outcome.name),
    ("output_bytes", .ofNat result.output.length),
    ("container_name", Value.ofText? result.containerName)]

end RunResult

end AnalysisEngines
