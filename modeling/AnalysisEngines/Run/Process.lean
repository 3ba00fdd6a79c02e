import AnalysisEngines.Text.Utf8
import AnalysisEngines.Run.Clock

/-!
Processes by their visible behaviour.

A timeline says what a process does and when, in order of time.  A signal adds the process's
reaction to its timeline.  A pipe is what one stream of the timeline carries until it is closed.
-/

set_option autoImplicit false

namespace AnalysisEngines

inductive Stream where
  | stdout
  | stderr
  deriving DecidableEq

inductive Effect where
  | write (stream : Stream) (bytes : Bytes)
  | close (stream : Stream)
  | exit (status : Int)

/-- The status of an exit. -/
def Effect.status? : Effect → Option Int
  | .exit status => some status
  | _ => none

inductive Signal where
  | terminate
  | kill
  deriving DecidableEq

/-- What a living process does on a signal.  `vanished` is a process that cannot be reached. -/
inductive Reaction where
  | exits (delay : Rat) (status : Int)
  | ignores
  | vanished

/-- Why a process cannot be started. -/
inductive SpawnFault where
  | notFound
  | denied
  | inputOutput
  deriving DecidableEq

def SpawnFault.message : SpawnFault → String
  | .notFound => "[Errno 2] No such file or directory"
  | .denied => "[Errno 13] Permission denied"
  | .inputOutput => "[Errno 5] Input/output error"

/-- Events in order of time; those of one instant stand in the order in which they happen. -/
structure Timeline where
  events : List (Rat × Effect)
  ordered : events.Pairwise fun earlier later => earlier.1 ≤ later.1

namespace Timeline

def empty : Timeline := ⟨[], .nil⟩

/-- Events of a script, put in order. -/
def ofEvents (events : List (Rat × Effect)) : Timeline where
  events := events.mergeSort fun left right => left.1 ≤ right.1
  ordered := by
    have sorted := @List.pairwise_mergeSort _
      (fun (left right : Rat × Effect) => decide (left.1 ≤ right.1))
      (fun _ _ _ first second => by
        simp only [decide_eq_true_eq] at *
        exact Rat.le_trans first second)
      (fun left right => by simpa using @Rat.le_total left.1 right.1) events
    simpa using sorted

/-- Puts an event behind all that happen no later. -/
def insertEvent (instant : Rat) (effect : Effect) : List (Rat × Effect) → List (Rat × Effect)
  | [] => [(instant, effect)]
  | event :: rest =>
      if event.1 ≤ instant then event :: insertEvent instant effect rest
      else (instant, effect) :: event :: rest

theorem mem_insertEvent {instant : Rat} {effect : Effect} {events : List (Rat × Effect)}
    {event : Rat × Effect} :
    event ∈ insertEvent instant effect events ↔ event = (instant, effect) ∨ event ∈ events := by
  induction events with
  | nil => simp [insertEvent]
  | cons first rest ih =>
      by_cases before : first.1 ≤ instant
      · simp [insertEvent, before, ih, or_left_comm]
      · simp [insertEvent, before]

theorem pairwise_insertEvent {instant : Rat} {effect : Effect} {events : List (Rat × Effect)}
    (ordered : events.Pairwise fun earlier later => earlier.1 ≤ later.1) :
    (insertEvent instant effect events).Pairwise fun earlier later => earlier.1 ≤ later.1 := by
  induction events with
  | nil => simp [insertEvent]
  | cons first rest ih =>
      obtain ⟨bounds, tail⟩ := List.pairwise_cons.mp ordered
      by_cases before : first.1 ≤ instant
      · simp only [insertEvent, before, if_true, List.pairwise_cons]
        refine ⟨fun event member => ?_, ih tail⟩
        rcases mem_insertEvent.mp member with rfl | inRest
        · exact before
        · exact bounds event inRest
      · have later : instant ≤ first.1 := Rat.le_of_lt (Rat.not_le.mp before)
        simp only [insertEvent, before, if_false, List.pairwise_cons]
        refine ⟨fun event member => ?_, bounds, tail⟩
        rcases List.mem_cons.mp member with rfl | inRest
        · exact later
        · exact Rat.le_trans later (bounds event inRest)

def schedule (instant : Rat) (effect : Effect) (timeline : Timeline) : Timeline where
  events := insertEvent instant effect timeline.events
  ordered := pairwise_insertEvent timeline.ordered

/-- A timeline counted from its start, on the clock of `origin`. -/
def startedAt (origin : Rat) (timeline : Timeline) : Timeline where
  events := timeline.events.map fun event => (origin + event.1, event.2)
  ordered := by
    refine List.pairwise_map.mpr (timeline.ordered.imp ?_)
    intro earlier later before
    exact Rat.add_le_add_left.mpr before

/-- Instant and status of the exit: the first one counts. -/
def exit? (timeline : Timeline) : Option (Rat × Int) :=
  timeline.events.findSome? fun event => event.2.status?.map fun status => (event.1, status)

end Timeline

structure Process where
  name : String
  pid : Int := 4242
  /-- Whether the pipes stay open after the exit. -/
  holdsPipes : Bool := false
  onTerminate : Reaction := .exits 0 (-15)
  onKill : Reaction := .exits 0 (-9)
  timeline : Timeline := .empty

namespace Process

def exit? (process : Process) : Option (Rat × Int) := process.timeline.exit?

/-- The status of a process that has exited by an instant. -/
def status? (process : Process) (now : Rat) : Option Int :=
  match process.exit? with
  | some (instant, status) => if instant ≤ now then some status else none
  | none => none

def hasExited (process : Process) (now : Rat) : Bool := (process.status? now).isSome

def schedule (instant : Rat) (effect : Effect) (process : Process) : Process :=
  { process with timeline := process.timeline.schedule instant effect }

def reaction (process : Process) : Signal → Reaction
  | .terminate => process.onTerminate
  | .kill => process.onKill

/-- A process after a signal that reached it alive. -/
def react (signal : Signal) (now : Rat) (process : Process) : Process :=
  match process.reaction signal with
  | .exits delay status => process.schedule (now + delay) (.exit status)
  | .ignores | .vanished => process

/-- A script counted from its start, on the clock of `origin`. -/
def startedAt (origin : Rat) (process : Process) : Process :=
  { process with timeline := process.timeline.startedAt origin }

end Process

/-- What one stream carries: pieces in order, and when it is closed. -/
structure Pipe where
  pieces : List (Rat × Bytes)
  closedAt : Option Rat

namespace Pipe

/-- The pipe of one stream of a timeline. -/
def ofEvents (stream : Stream) (holdsPipes : Bool) : List (Rat × Effect) → Pipe
  | [] => ⟨[], none⟩
  | (instant, .write target bytes) :: rest =>
      let later := ofEvents stream holdsPipes rest
      if target = stream then { later with pieces := (instant, bytes) :: later.pieces } else later
  | (instant, .close target) :: rest =>
      if target = stream then ⟨[], some instant⟩ else ofEvents stream holdsPipes rest
  | (instant, .exit _) :: rest =>
      if holdsPipes then ofEvents stream holdsPipes rest else ⟨[], some instant⟩

/-- Joins pieces of one instant. -/
def joinPieces : List (Rat × Bytes) → List (Rat × Bytes)
  | [] => []
  | (instant, bytes) :: rest =>
      match joinPieces rest with
      | (next, more) :: others =>
          if next = instant then (instant, bytes ++ more) :: others
          else (instant, bytes) :: (next, more) :: others
      | [] => [(instant, bytes)]

/-- Cuts bytes into pieces of a size, the last one possibly shorter. -/
def cut (size : Nat) (bytes : Bytes) : List Bytes :=
  if size = 0 ∨ bytes.length ≤ size then (if bytes.isEmpty then [] else [bytes])
  else bytes.take size :: cut size (bytes.drop size)
termination_by bytes.length
decreasing_by
  simp only [List.length_drop]
  omega

def readSize : Nat := 65536

/-- What successive reads return: all that arrived at one instant, at most `readSize` a read. -/
def reads (pipe : Pipe) : List (Rat × Bytes) :=
  (joinPieces pipe.pieces).flatMap fun piece =>
    (cut readSize piece.2).map fun bytes => (piece.1, bytes)

end Pipe

def Process.pipe (stream : Stream) (process : Process) : Pipe :=
  Pipe.ofEvents stream process.holdsPipes process.timeline.events

end AnalysisEngines
