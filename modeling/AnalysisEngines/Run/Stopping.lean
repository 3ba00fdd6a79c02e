import AnalysisEngines.Container.Client
import AnalysisEngines.Run.Scene

/-!
Stopping a process: a request to terminate, a grace period, then a kill.

A container is first asked to stop through the client; whatever comes of that, the client's own
process is stopped too.
-/

set_option autoImplicit false

namespace AnalysisEngines

/-- Where engines run: as processes of the host, or in containers. -/
inductive Runtime where
  | host (inheritsEnvironment : Bool) (surroundings : List (String × String))
  | container (client : String)

def Runtime.name : Runtime → String
  | .host .. => "local"
  | .container _ => "docker"

def Runtime.isHost : Runtime → Bool
  | .host .. => true
  | .container _ => false

namespace Activity

/-- Kills a process that has outlived its grace period, and waits for its exit. -/
def kill (role : Role) (grace : Number) : Activity Unit := do
  log (.killEscalated ((← get).process role).pid grace)
  if ← send role .kill then
    if ← hasExited role then pass 2
  discard (awaitExit role 1)

/-- Terminates a process, and kills it when the grace period ends.  Does nothing to a process that
has exited, and gives up on one that cannot be reached. -/
def terminate (role : Role) (grace : Number) : Activity Unit := do
  if ← hasExited role then return
  if !(← send role .terminate) then return
  if ← exitsWithin role grace.span then return
  kill role grace

/-- Looks the client up. -/
def locateClient (client : String) : Activity String := do
  let (found, later) := Container.lookUp (← get).clientFound
  modify fun scene => { scene with clientFound := later }
  if found then return Container.clientPath client
  else throw (.failure (Container.clientMissing client))

/-- A grace period in whole seconds, for the client. -/
def wholeSeconds (grace : Number) : Activity Nat :=
  match grace with
  | .int seconds => return seconds.toNat
  | .float seconds =>
      match seconds.toRat? with
      | some value => return value.floor.toNat
      | none => throw (.graceNotWhole grace)

def startHelper (command : List String) : Activity Unit := do
  let helper := (← get).helper
  delay helper.startDelay
  note (.helperSpawned command)
  match helper.fault with
  | some fault => throw (.helperFailed fault)
  | none =>
      modify fun scene =>
        { scene with
          helperProcess := helper.processAt scene.now.instant ("stop " ++ scene.engine.name)
          engine := helper.actOn scene.now.instant scene.engine }

/-- What the client gets beyond the grace period. -/
def clientAllowance : Rat := 5

def stopContainer (client container : String) (grace : Number) : Activity Unit := do
  let path ← locateClient client
  let command := Container.stopCommand path (← wholeSeconds grace) container
  log (.clientCalled command)
  startHelper command
  if ← exitsWithin .helper (grace.span.map (· + clientAllowance)) then return
  log (.stopTimedOut container)
  terminate .helper (.int 0)

def stop (runtime : Runtime) (container : Option String) (grace : Number) : Activity Unit := do
  match runtime with
  | .host .. => terminate .engine grace
  | .container client =>
      if ← hasExited .engine then return
      if let some name := given? container then stopContainer client name grace
      terminate .engine grace

/-- One of several requests to stop the same process, and how it ended. -/
structure StopRecord where
  finish : Moment
  status : Option Int
  problem : Option RunProblem

/-- Waits for an instant that may have passed, then stops the process. -/
def stopAt (request : Activity Unit) (instant : Rat) : Activity Unit := do
  if (← get).now.instant < instant then pause instant 1
  request

/-- Stops a process again and again, each time from an instant on, whatever came of it before. -/
def stopRepeatedly (scene : Scene) : List (Rat × Activity Unit) → List StopRecord × Scene
  | [] => ([], scene)
  | (instant, request) :: rest =>
      let (problem, last) := match stopAt request instant scene with
        | .ok _ last => (none, last)
        | .error problem last => (some problem, last)
      let record : StopRecord :=
        { finish := last.now, status := last.engine.status? last.now.instant, problem }
      let (records, final) := stopRepeatedly last rest
      (record :: records, final)

end Activity

end AnalysisEngines
