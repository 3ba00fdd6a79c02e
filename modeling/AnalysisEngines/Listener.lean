import AnalysisEngines.Log.Entry
import AnalysisEngines.Metrics.Store
import AnalysisEngines.Run.Result

/-!
Listeners of engine runs.

A listener is told that a run started and that it finished.  A dispatcher tells each of its
listeners in order; what one of them raises is logged and does not reach the others.
-/

set_option autoImplicit false

namespace AnalysisEngines

/-- An engine as listeners see it; one without a channel has `null`. -/
structure EngineLabel where
  name : String
  channel : Value := .null

inductive Hook where
  | started
  | finished
  deriving DecidableEq

def Hook.name : Hook → String
  | .started => "started"
  | .finished => "finished"

inductive Happening where
  | started (engine : EngineLabel) (details : List (Value × Value))
  | finished (engine : EngineLabel) (details : List (Value × Value)) (result : RunResult)

namespace Happening

def engine : Happening → EngineLabel
  | .started engine _ | .finished engine _ _ => engine

def hook : Happening → Hook
  | .started .. => .started
  | .finished .. => .finished

end Happening

inductive Listener where
  | recording (id : String)
  | failing (hooks : List Hook) (message : String)
  | logging
  /-- Counts and times runs: for a client of that name, or in the shared store. -/
  | measuring (client : Option String) (repository : Option String) (timesTwice : Bool)
  | dispatcher (listeners : List Listener)
  deriving Inhabited

inductive Call where
  | heard (id : String) (happening : Happening)
  | increment (id : String) (metric : String) (tags : List String)
  | timing (id : String) (metric : String) (millis : Binary64) (tags : List String)

/-- What listeners have left behind. -/
structure Audience where
  calls : List Call := []
  logs : List Log.Entry := []
  store : Metrics.Store Binary64 := {}

/-- What a listener raised: a hook and a message, or a fault of the metrics. -/
inductive ListenerProblem where
  | raised (hook : Hook) (message : String)
  | metrics (fault : Metrics.MetricFault)

namespace ListenerProblem

def message : ListenerProblem → String
  | .raised _ message => message
  | .metrics fault => fault.message

def kindName : ListenerProblem → String
  | .raised .started _ => "RuntimeError"
  | .raised .finished _ => "ValueError"
  | .metrics _ => "TypeError"

/-- The last line of a problem's report. -/
def lastLine (problem : ListenerProblem) : String :=
  let report :=
    if problem.message = "" then problem.kindName
    else problem.kindName ++ ": " ++ problem.message
  (report.splitOn "\n").getLast?.getD report

end ListenerProblem

namespace Listener

def kindName : Listener → String
  | .recording _ => "RecordingListener"
  | .failing .. => "ExplodingListener"
  | .logging => "LoggingContainerListener"
  | .measuring .. => "StatsdContainerListener"
  | .dispatcher _ => "ListenerDispatcher"

def logger : String := "analyzer.listeners.base"

def tags (engine : EngineLabel) (repository : Option String) : List String :=
  ["engine:" ++ engine.name] ++
    (if engine.channel.isGiven then ["channel:" ++ engine.channel.display] else []) ++
    (match given? repository with
      | some id => ["repo_id:" ++ id]
      | none => [])

inductive Measurement where
  | count (action : String)
  | time (action : String)

/-- What is measured of one happening, in order. -/
def measurements (timesTwice : Bool) : Happening → List Measurement
  | .started .. => [.count "started"]
  | .finished _ _ result =>
      [.time "time", .count "finished"] ++
        (if result.timedOut then
          (if timesTwice then [.time "time"] else []) ++
            [.count "result.error", .count "result.error.timeout"]
        else if result.outputExceeded then
          [.count "result.error", .count "result.error.output_exceeded"]
        else if result.exitStatus ≠ 0 then [.count "result.error"]
        else [.count "result.success"])

def millis : Happening → Binary64
  | .started .. => .zero
  | .finished _ _ result => result.milliseconds

abbrev Reaction := EStateM ListenerProblem Audience

def call (call : Call) : Reaction Unit :=
  modify fun audience => { audience with calls := audience.calls ++ [call] }

def log (entry : Log.Entry) : Reaction Unit :=
  modify fun audience => { audience with logs := audience.logs ++ [entry] }

def record (recording : Metrics.Recording Binary64 Unit) : Reaction Unit := fun audience =>
  match recording audience.store with
  | .ok _ store => .ok () { audience with store }
  | .error fault store => .error (.metrics fault) { audience with store }

def measure (client : Option String) (tags : List String) (happening : Happening)
    (measurement : Measurement) : Reaction Unit :=
  match client, measurement with
  | some id, .count action => call (.increment id ("engines." ++ action) tags)
  | some id, .time action => call (.timing id ("engines." ++ action) (millis happening) tags)
  | none, .count action => record (Metrics.increment ("engines." ++ action) tags)
  | none, .time action =>
      record (Metrics.timing ("engines." ++ action) (.float (millis happening)) tags)

def logEntry : Happening → Log.Entry
  | .started engine details =>
      ⟨.info, logger, "engine_started",
        [("engine", .text engine.name), ("channel", engine.channel), ("details", .map details)]⟩
  | .finished engine details result =>
      ⟨if result.succeeded then .info else .warning, logger, "engine_finished",
        [("engine", .text engine.name), ("channel", engine.channel),
          ("outcome", .text result.outcome.name), ("exit_status", .int result.exitStatus),
          ("duration_ms", .float (result.milliseconds.roundPlaces 3)),
          ("details", .map details)]⟩

def problemEntry (listener : Listener) (happening : Happening) (problem : ListenerProblem) :
    Log.Entry :=
  ⟨.warning, logger, "listener_error",
    [("listener", .text listener.kindName), ("hook", .text happening.hook.name),
      ("engine", .text happening.engine.name), ("error", .text problem.message),
      ("exception", .text problem.lastLine)]⟩

mutual

def notify (happening : Happening) : Listener → Reaction Unit
  | .recording id => call (.heard id happening)
  | .failing hooks message =>
      if hooks.contains happening.hook then throw (.raised happening.hook message) else return
  | .logging => log (logEntry happening)
  | .measuring client repository timesTwice =>
      (measurements timesTwice happening).forM
        (measure client (tags happening.engine repository) happening)
  | .dispatcher listeners => notifyAll happening listeners

def notifyAll (happening : Happening) : List Listener → Reaction Unit
  | [] => return
  | listener :: rest => do
      tryCatch (notify happening listener) fun problem =>
        log (problemEntry listener happening problem)
      notifyAll happening rest

end

/-- What a listener always raises on a hook, if it does. -/
def raises? (hook : Hook) : Listener → Option ListenerProblem
  | .failing hooks message => if hooks.contains hook then some (.raised hook message) else none
  | _ => none

/-- A dispatcher with one more listener, told last. -/
def add (target listener : Listener) : Listener :=
  match target with
  | .dispatcher listeners => .dispatcher (listeners ++ [listener])
  | other => other

def children : Listener → List Listener
  | .dispatcher listeners => listeners
  | _ => []

end Listener

end AnalysisEngines
