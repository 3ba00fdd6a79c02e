import AnalysisEngines.Run.Capture

/-!
The race that ends a run: exit, output ceiling, abort and time limit.

The racer waits until one of the pending tasks completes or the time limit is reached, then looks
at what has completed.  `Race.waits` records every wait, and `Race.finish` what ended the race.
-/

set_option autoImplicit false

namespace AnalysisEngines

inductive Racer where
  | output
  | exit
  | abort
  deriving DecidableEq

inductive Verdict where
  | exited
  | timeout
  | outputExceeded
  | aborted
  deriving DecidableEq, Inhabited

def Verdict.name : Verdict → String
  | .exited => "exited"
  | .timeout => "timeout"
  | .outputExceeded => "output_exceeded"
  | .aborted => "aborted"

/-- How a race ends: with a verdict, or because the consumer of the output failed. -/
inductive RaceEnd where
  | verdict (verdict : Verdict)
  | consumerFailed
  deriving DecidableEq

/-- When each task completes, if ever; a task that fails completes too, and only the output is asked
how it ended.  There is no abort task where no abort is possible. -/
structure Field where
  output : Option (Rat × CaptureEnd)
  exit : Option Rat
  canAbort : Bool
  abort : Option Rat

structure Wait where
  pending : List Racer
  allowance : Option Rat
  done : List Racer

structure Race where
  waits : List Wait
  /-- When and how the race ends; `none` if nothing ever ends it. -/
  finish : Option (Rat × RaceEnd)

namespace Field

def completion? (field : Field) : Racer → Option Rat
  | .output => field.output.map (·.1)
  | .exit => field.exit
  | .abort => field.abort

def racers (field : Field) : List Racer :=
  [.output, .exit] ++ (if field.canAbort then [.abort] else [])

def isDone (field : Field) (now : Rat) (racer : Racer) : Bool :=
  match field.completion? racer with
  | some instant => instant ≤ now
  | none => false

/-- The first instant from `now` on at which a pending task has completed. -/
def nextCompletion? (field : Field) (now : Rat) : List Racer → Option Rat
  | [] => none
  | racer :: rest =>
      match field.completion? racer, nextCompletion? field now rest with
      | some instant, some other => some (Instant.earlier (Instant.later now instant) other)
      | some instant, none => some (Instant.later now instant)
      | none, other => other

/-- What the tasks that a wait reports done mean for the run. -/
def judge? (field : Field) (now : Rat) (done : List Racer) : Option RaceEnd :=
  let ending := field.output.map (·.2)
  if done.contains .output && ending == some .consumerFailed then some .consumerFailed
  else if done.contains .output && ending == some .exceeded then some (.verdict .outputExceeded)
  else if done.contains .abort then some (.verdict .aborted)
  else if field.isDone now .exit && field.isDone now .output then some (.verdict .exited)
  else none

def isSpent (allowance : Option Rat) : Bool :=
  match allowance with
  | some remaining => remaining ≤ 0
  | none => false

/-- Waits at most `rounds` times; a wait that settles nothing has taken at least one task out of
the pending ones. -/
def race (field : Field) (deadline : Option Rat) : (rounds : Nat) → List Racer → Rat → Race
  | 0, _, _ => { waits := [], finish := none }
  | rounds + 1, pending, now =>
      let allowance := deadline.map (· - now)
      if isSpent allowance then
        { waits := [], finish := some (now, .verdict .timeout) }
      else
        let next := (nextCompletion? field now pending).filter fun instant =>
          deadline.all (instant ≤ ·)
        match next with
        | none =>
            { waits := [⟨pending, allowance, []⟩]
              finish := deadline.map fun last => (last, .verdict .timeout) }
        | some instant =>
            let done := pending.filter fun racer => field.isDone instant racer
            let wait : Wait := ⟨pending, allowance, done⟩
            match judge? field instant done with
            | some ending => { waits := [wait], finish := some (instant, ending) }
            | none =>
                let rest := race field deadline rounds
                  (pending.filter fun racer => !field.isDone instant racer) instant
                { rest with waits := wait :: rest.waits }

end Field

/-- Turns between what ended the last wait and the code behind it. -/
def Race.turns (race : Race) : Nat :=
  match race.waits.getLast? with
  | none => 0
  | some wait => if wait.done.isEmpty then 1 else 3

def Field.run (field : Field) (deadline : Option Rat) (now : Rat) : Race :=
  field.race deadline (field.racers.length + 1) field.racers now

end AnalysisEngines
