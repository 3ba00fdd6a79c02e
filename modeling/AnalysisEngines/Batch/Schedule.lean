import AnalysisEngines.Batch.Basic

/-!
The schedule of a batch.

At most `slots` jobs hold a slot at a time.  Jobs wait in the order of the batch, and the first one
gets the slot that becomes free.  A job whose turn comes after the abort is skipped, and a job that
fails does not disturb the others.  `Batch.step?` is one step of a schedule: a grant, or else the
next job that settles.
-/

set_option autoImplicit false

namespace AnalysisEngines

/-- A job with its slot, as told afterwards. -/
structure Performance where
  notes : List (Moment × BatchNote)
  /-- When and how the job settles, if it ever does. -/
  settled : Option (Moment × Slot)
  /-- The job's run, if it was begun. -/
  execution : Option Execution := none

def Performance.finish? (performance : Performance) : Option Moment :=
  performance.settled.map (·.1)

namespace Batch

def request (batch : Batch) (job : Job) : Request where
  runtime := batch.runtime
  image := job.image
  spec := job.spec
  limits := batch.limits
  grace := batch.grace
  consumer := job.consumer
  launch := job.launch
  helper := job.helper
  canAbort := batch.canAbort
  abortAt := batch.abortAt
  cancelAt := batch.cancelAt

/-- Runs the job at a place from a moment on, with its listener told before and after. -/
def runJob (batch : Batch) (place : Nat) (job : Job) (origin : Moment) : Performance :=
  let begun : Moment × BatchNote := (origin, .happening place (.started job.engine job.details))
  match batch.listener.raises? .started with
  | some problem => { notes := [begun], settled := some (origin, .problem (.listener problem)) }
  | none =>
      let execution := Execution.run (batch.request job) origin
      let notes := begun :: execution.notes.map fun entry =>
        (entry.1, BatchNote.run place job.spec.name entry.2)
      match execution.result with
      | .error .unending => { notes, settled := none, execution := some execution }
      | .error problem =>
          { notes
            settled := some (execution.finish, .problem (.run problem))
            execution := some execution }
      | .ok result =>
          let slot := match batch.listener.raises? .finished with
            | some problem => Slot.problem (.listener problem)
            | none => .result result
          { notes := notes ++
              [(execution.finish, .happening place (.finished job.engine job.details result))]
            settled := some (execution.finish, slot)
            execution := some execution }

def isAbortedBy (batch : Batch) (now : Rat) : Bool :=
  match batch.abortAt with
  | some instant => instant ≤ now
  | none => false

/-- A job with its slot: skipped after the abort, and a failure noted. -/
def perform (batch : Batch) (place : Nat) (job : Job) (origin : Moment) : Performance :=
  if batch.isAbortedBy origin.instant then
    { notes := [(origin, .skipped place job.engine)], settled := some (origin, .skipped) }
  else
    let performance := batch.runJob place job origin
    match performance.settled with
    | some (_, .problem (.run .cancelled)) => performance
    | some (finish, .problem problem) =>
        { performance with
          notes := performance.notes ++ [(finish, .failed place job.engine problem.message)] }
    | _ => performance

end Batch

/-- A job that got a slot at a moment. -/
structure Grant where
  job : Job
  moment : Moment
  performance : Performance
  /-- Whether the job has not settled yet. -/
  holdsSlot : Bool := true

namespace Grant

def isDue (finish : Moment) (grant : Grant) : Bool :=
  grant.holdsSlot && grant.performance.finish? == some finish

/-- When a job gives its slot back, if it still holds one. -/
def pending? (grant : Grant) : Option Moment :=
  if grant.holdsSlot then grant.performance.finish? else none

/-- The first job that settles at a moment gives its slot back. -/
def release (finish : Moment) : List Grant → List Grant
  | [] => []
  | grant :: rest =>
      if grant.isDue finish then { grant with holdsSlot := false } :: rest
      else grant :: release finish rest

end Grant

structure Schedule where
  now : Moment := .start
  waiting : List Job
  /-- In the order of their grants. -/
  granted : List Grant := []

namespace Schedule

/-- How many jobs hold a slot. -/
def busy (schedule : Schedule) : Nat := schedule.granted.countP (·.holdsSlot)

/-- The next job that settles gives its slot back. -/
def settleNext? (schedule : Schedule) : Option Schedule :=
  (Moment.earliest? (schedule.granted.filterMap (·.pending?))).map fun finish =>
    { schedule with
      now := finish.pass 1
      granted := Grant.release finish schedule.granted }

end Schedule

namespace Batch

/-- No job gets a slot once the batch has been cancelled. -/
def admits (batch : Batch) (now : Moment) : Bool :=
  match batch.cancelAt with
  | some instant => now.instant < instant
  | none => true

/-- The first waiting job gets a free slot. -/
def grantNext? (batch : Batch) (schedule : Schedule) : Option Schedule :=
  match schedule.waiting with
  | [] => none
  | job :: rest =>
      if schedule.busy < batch.slots && batch.admits schedule.now then
        some { schedule with
          waiting := rest
          granted := schedule.granted ++
            [{ job
               moment := schedule.now
               performance := batch.perform schedule.granted.length job schedule.now }] }
      else none

def step? (batch : Batch) (schedule : Schedule) : Option Schedule :=
  match batch.grantNext? schedule with
  | some next => some next
  | none => schedule.settleNext?

/-- Takes at most a number of steps. -/
def advance (batch : Batch) : Nat → Schedule → Schedule
  | 0, schedule => schedule
  | steps + 1, schedule =>
      match batch.step? schedule with
      | some next => batch.advance steps next
      | none => schedule

def initial (batch : Batch) : Schedule := { waiting := batch.jobs }

/-- The schedule in the end: every job is granted a slot once and settles once at most. -/
def schedule (batch : Batch) : Schedule := batch.advance (2 * batch.jobs.length) batch.initial

end Batch

end AnalysisEngines
