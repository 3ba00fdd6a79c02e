import AnalysisEngines.Run.Notice

/-!
The scene of one run, and activities in it.

An activity changes the scene and may be interrupted.  Every wait is a `pause`: it moves the clock,
and it is where a pending cancellation strikes.
-/

set_option autoImplicit false

namespace AnalysisEngines

/-- A helper process that is asked to stop the engine's container. -/
structure Helper where
  startDelay : Rat := 0
  fault : Option SpawnFault := none
  exitAfter : Option Rat := none
  exitStatus : Int := 0
  /-- What starting the helper makes the engine's process do. -/
  containerExit : Option (Rat × Int) := none
  onTerminate : Reaction := .exits 0 (-15)
  onKill : Reaction := .exits 0 (-9)

namespace Helper

/-- The process of a helper that is started at an instant. -/
def processAt (helper : Helper) (now : Rat) (name : String) : Process where
  name := name
  onTerminate := helper.onTerminate
  onKill := helper.onKill
  timeline := match helper.exitAfter with
    | some span => Timeline.empty.schedule (now + span) (.exit helper.exitStatus)
    | none => .empty

/-- The engine's process once the helper has been started. -/
def actOn (helper : Helper) (now : Rat) (engine : Process) : Process :=
  match helper.containerExit with
  | some (span, status) => engine.schedule (now + span) (.exit status)
  | none => engine

end Helper

structure Scene where
  now : Moment := .start
  /-- When the caller cancels the run. -/
  cancelAt : Option Rat := none
  engine : Process
  helper : Helper := {}
  helperProcess : Process := { name := "" }
  /-- Whether the client is found at each look-up; the last answer repeats. -/
  clientFound : List Bool := [true]
  notes : List (Moment × Note) := []

abbrev Activity := EStateM RunProblem Scene

inductive Role where
  | engine
  | helper
  deriving DecidableEq

namespace Scene

def process (scene : Scene) : Role → Process
  | .engine => scene.engine
  | .helper => scene.helperProcess

def setProcess (role : Role) (process : Process) (scene : Scene) : Scene :=
  match role with
  | .engine => { scene with engine := process }
  | .helper => { scene with helperProcess := process }

def waitFor (instant : Rat) (turns : Nat) (scene : Scene) : Scene :=
  { scene with now := scene.now.waitFor instant turns }

/-- The scene in which a cancellation takes effect.  It does so once. -/
def struckAt (instant : Rat) (scene : Scene) : Scene :=
  { scene.waitFor instant 1 with cancelAt := none }

end Scene

namespace Activity

def note (note : Note) : Activity Unit :=
  modify fun scene => { scene with notes := scene.notes ++ [(scene.now, note)] }

def log (notice : Notice) : Activity Unit := note (.notice notice)

def pass (turns : Nat) : Activity Unit :=
  modify fun scene => { scene with now := scene.now.pass turns }

/-- Waits for an instant; what follows has its turn `turns` turns later.  A cancellation at or
before that instant interrupts the wait. -/
def pause (target : Rat) (turns : Nat) : Activity Unit := fun scene =>
  match scene.cancelAt with
  | some instant =>
      if instant ≤ target then .error .cancelled (scene.struckAt instant)
      else .ok () (scene.waitFor target turns)
  | none => .ok () (scene.waitFor target turns)

/-- Waits for what never happens: only a cancellation ends the wait. -/
def waitForever {α : Type} : Activity α := fun scene =>
  match scene.cancelAt with
  | some instant => .error .cancelled (scene.struckAt instant)
  | none => .error .unending scene

/-- Waits unless there is nothing to wait for. -/
def delay (span : Rat) : Activity Unit := do
  if span ≤ 0 then return
  pause ((← get).now.instant + span) 1

def hasExited (role : Role) : Activity Bool := do
  let scene ← get
  return (scene.process role).hasExited scene.now.instant

/-- Sends a signal; false if it did not reach a living process. -/
def send (role : Role) (signal : Signal) : Activity Bool := do
  let scene ← get
  let process := scene.process role
  if process.hasExited scene.now.instant then return false
  note (.signal process.name signal)
  match process.reaction signal with
  | .vanished => return false
  | _ =>
      modify fun current =>
        current.setProcess role (process.react signal scene.now.instant)
      return true

/-- Waits for an exit, at most for a span; false if the span passed.  A span of zero or less is
over before anything can exit. -/
def exitsWithin (role : Role) (span : Option Rat) : Activity Bool := do
  let scene ← get
  let exit := (scene.process role).exit?.map (·.1)
  match span with
  | none =>
      match exit with
      | some instant => pause instant 3; return true
      | none => waitForever
  | some length =>
      let limit := scene.now.instant + length
      if length ≤ 0 then
        pass 3
        return false
      match exit with
      | some instant =>
          if instant ≤ limit then
            pause instant 3
            return true
          else
            pause limit 4
            return false
      | none =>
          pause limit 4
          return false

/-- Waits for an exit as long as it takes and answers its status; `turns` later if that is not
now. -/
def awaitExit (role : Role) (turns : Nat) : Activity Int := do
  let scene ← get
  match (scene.process role).exit? with
  | some (instant, status) =>
      if scene.now.instant < instant then pause instant turns
      return status
  | none => waitForever

end Activity

end AnalysisEngines
