import AnalysisEngines.Container.Name
import AnalysisEngines.Run.Stopping

/-!
One engine run: start the process, race its exit against the limits, stop it if the exit did not
win, let the readers finish, and report.

`Execution.run` tells a run afterwards.  The time limit and the duration count from the moment at
which the run is asked for; the abort and the cancellation are instants of the common clock.
-/

set_option autoImplicit false

namespace AnalysisEngines

/-- A process to be started: its script counts from the start. -/
structure Launch where
  process : Process
  startDelay : Rat := 0
  fault : Option SpawnFault := none

structure Request where
  runtime : Runtime
  image : String
  spec : Spec
  limits : Limits
  grace : Number := .float (.finite 10)
  consumer : Consumer := .result
  launch : Launch
  helper : Helper := {}
  clientFound : List Bool := [true]
  /-- The random part of a generated container name. -/
  token : String := "01234567"
  canAbort : Bool := false
  abortAt : Option Rat := none
  cancelAt : Option Rat := none

namespace Request

def engineText (request : Request) : Value := .text request.spec.name

/-- The environment of a host process: inherited variables, then the spec's, then the run's own. -/
def environment (spec : Spec) (inherits : Bool) (surroundings : List (String × String)) :
    List (String × String) :=
  let own := [("ANALYZER_RUNTIME", "local"), ("ANALYZER_ENGINE_NAME", spec.name)]
  let all := (if inherits then surroundings else []) ++ spec.environment ++ own
  sortedByName (all.foldl (fun known entry =>
    (known.filter fun other => other.1 != entry.1) ++ [entry]) [])

def hostFault (request : Request) (program : String) (fault : SpawnFault) : Failure :=
  let text := match fault with
    | .notFound => "Command not found: " ++ program
    | other => "Failed to start process: " ++ other.message
  ((Failure.runtimeUnavailable text).withCause (some fault.message)).withContext
    [("engine", request.engineText)]

def containerFault (request : Request) (fault : SpawnFault) : Failure :=
  ((Failure.runtimeUnavailable
    ("Failed to start container for " ++ request.spec.name ++ ": " ++ fault.message)).withCause
      (some fault.message)).withContext
    [("engine", request.engineText), ("image", .text request.image)]

def noCommand (request : Request) : Failure :=
  (Failure.runtimeUnavailable
    ("No command specified for local engine " ++ request.spec.name)).withContext
    [("engine", request.engineText), ("image", .text request.image)]

/-- The end of the time limit of a run that began at an instant, if there is one. -/
def deadline (request : Request) (began : Rat) : Option Rat :=
  request.limits.timeout.span.map (began + ·)

def containerName (request : Request) : String :=
  (given? request.spec.containerName).getD (Container.nameFor request.spec.name request.token)

end Request

namespace Activity

/-- Starts the process and its script. -/
def launch (request : Request) (command : List String)
    (environment : Option (List (String × String))) (directory : Option String)
    (failure : SpawnFault → Failure) : Activity Unit := do
  delay request.launch.startDelay
  note (.spawned command environment directory)
  match request.launch.fault with
  | some fault => throw (.failure (failure fault))
  | none =>
      modify fun scene =>
        { scene with engine := request.launch.process.startedAt scene.now.instant }

/-- Starts the engine and answers the name of its container, if it has one. -/
def start (request : Request) : Activity (Option String) := do
  let spec := request.spec
  match request.runtime with
  | .host inherits surroundings =>
      match spec.givenCommand with
      | [] => throw (.failure request.noCommand)
      | program :: _ =>
          launch request spec.givenCommand
            (some (Request.environment spec inherits surroundings)) spec.workingDirectory
            (request.hostFault program)
          return spec.containerName
  | .container client =>
      let name := request.containerName
      let path ← locateClient client
      let command := Container.runCommand path request.image spec name
      log (.clientCalled command)
      launch request command none none request.containerFault
      return some name

def ceiling (request : Request) : Nat := request.limits.ceiling.toNat

/-- When the tasks of a run complete, as its process behaves when no signal is sent. -/
def field (request : Request) (process : Process) : Field where
  output := (process.capture (ceiling request) request.consumer none).finish
  exit := process.exit?.map (·.1)
  canAbort := request.canAbort
  abort := request.abortAt

/-- The race of a run whose scene is a given one. -/
def raceOf (request : Request) (deadline : Option Rat) (scene : Scene) : Race :=
  (field request scene.engine).run deadline scene.now.instant

/-- Answers the verdict of a race, or raises what ended it. -/
def conclude : RaceEnd → Activity Verdict
  | .verdict verdict => return verdict
  | .consumerFailed => throw .consumerFailed

/-- Races the exit against the limits. -/
def race (request : Request) (deadline : Option Rat) : Activity Verdict := do
  let outcome := raceOf request deadline (← get)
  match outcome.finish with
  | some (instant, ending) =>
      if !outcome.waits.isEmpty then pause instant outcome.turns
      conclude ending
  | none => waitForever

/-- The race; when an exception leaves it, the process is stopped first. -/
def guardedRace (request : Request) (container : Option String) (deadline : Option Rat) :
    Activity Verdict :=
  tryCatch (race request deadline) fun
    | .unending => throw .unending
    | problem => do
        stop request.runtime container request.grace
        throw problem

def drainSpan : Rat := 1

/-- The last of several instants from `now` on, unless one of them never comes. -/
def lastOf (now : Rat) (instants : List (Option Rat)) : Option Rat :=
  instants.foldl (fun latest instant => match latest, instant with
    | some known, some next => some (Instant.later known next)
    | _, _ => none) (some now)

/-- When the readers of the two pipes are done, if ever. -/
def readers (request : Request) (process : Process) : List (Option Rat) :=
  [(process.capture (ceiling request) request.consumer none).finish.map (·.1),
    (process.pipe .stderr).closedAt]

/-- Whether what is done at an instant, or never, is not done yet. -/
def isPending (now : Rat) (reader : Option Rat) : Bool :=
  match reader with
  | some instant => now < instant
  | none => true

/-- Gives the readers a moment to reach the end of their pipes. -/
def drain (request : Request) : Activity Unit := do
  let scene ← get
  let now := scene.now.instant
  let limit := now + drainSpan
  let pending := (readers request scene.engine).filter (isPending now)
  if pending.isEmpty then return
  match lastOf now pending with
  | some instant => if instant ≤ limit then pause instant 3 else pause limit 1
  | none => pause limit 1

def capturedOutput (request : Request) (scene : Scene) : Bytes :=
  match request.consumer with
  | .chunks _ => []
  | .result =>
      (scene.engine.capture (ceiling request) .result (some scene.now.instant)).chunks.flatten

/-- The result of a run that began at an instant. -/
def resultOf (request : Request) (container : Option String) (began : Rat) (verdict : Verdict)
    (exitStatus : Int) (scene : Scene) : RunResult where
  exitStatus := exitStatus
  duration := .float (.ofRat (scene.now.instant - began))
  timedOut := verdict == .timeout || verdict == .aborted
  outputExceeded := verdict == .outputExceeded
  aborted := verdict == .aborted
  output := capturedOutput request scene
  stderr := Utf8.decodeLossy (scene.engine.stderrTail scene.now.instant)
  containerName := container

def finish (request : Request) (container : Option String) (began : Rat) (verdict : Verdict)
    (exitStatus : Int) : Activity RunResult := do
  match (resultOf request container began verdict exitStatus (← get)).check with
  | .ok result =>
      log (.finished result)
      return result
  | .error fault => throw (.impossibleResult fault)

/-- Waits for the exit and the readers, and reports. -/
def settle (request : Request) (container : Option String) (began : Rat) (verdict : Verdict) :
    Activity RunResult := do
  let exitStatus ← awaitExit .engine 2
  drain request
  finish request container began verdict exitStatus

/-- Conducts the run of a started process to its end. -/
def supervise (request : Request) (container : Option String) (began : Rat)
    (deadline : Option Rat) : Activity RunResult := do
  let verdict ← guardedRace request container deadline
  if verdict ≠ .exited then
    log (.terminated verdict request.limits)
    stop request.runtime container request.grace
  settle request container began verdict

def execute (request : Request) : Activity RunResult := do
  let began := (← get).now.instant
  let container ← start request
  log (.started request.image container)
  supervise request container began (request.deadline began)

end Activity

/-- A run as told afterwards. -/
structure Execution where
  result : Except RunProblem RunResult
  notes : List (Moment × Note)
  finish : Moment
  /-- The engine's process as it behaved. -/
  engine : Process

namespace Execution

/-- The scene in which a run begins. -/
def opening (request : Request) (origin : Moment) : Scene where
  now := origin
  engine := { name := request.spec.name }
  helper := request.helper
  clientFound := request.clientFound
  cancelAt := request.cancelAt

def ofOutcome : EStateM.Result RunProblem Scene RunResult → Execution
  | .ok result last => ⟨.ok result, last.notes, last.now, last.engine⟩
  | .error problem last => ⟨.error problem, last.notes, last.now, last.engine⟩

/-- A run that is asked for at a moment. -/
def run (request : Request) (origin : Moment := .start) : Execution :=
  ofOutcome (Activity.execute request (opening request origin))

/-- The chunks a consumer has received by a horizon. -/
def chunksBy (request : Request) (horizon : Rat) (execution : Execution) : List Bytes :=
  (execution.engine.capture (Activity.ceiling request) request.consumer (some horizon)).chunks

def chunks (request : Request) (execution : Execution) : List Bytes :=
  execution.chunksBy request execution.finish.instant

end Execution

end AnalysisEngines
