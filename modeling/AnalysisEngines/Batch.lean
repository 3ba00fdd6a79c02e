import AnalysisEngines.Batch.Schedule

/-!
Batches as told afterwards: the slots of all jobs, the notes in order of time, and what listeners
and the log make of them.
-/

set_option autoImplicit false

namespace AnalysisEngines

structure BatchReport where
  /-- One slot per job, unless the batch is cancelled or never ends. -/
  result : Except RunProblem (List Slot)
  notes : List (Moment × BatchNote)
  /-- When the batch returns or raises. -/
  finish : Moment
  chunks : List (String × List Bytes)

namespace Batch

/-- Entries in order of time; those of one moment stay in job order. -/
def inOrder (notes : List (Moment × BatchNote)) : List (Moment × BatchNote) :=
  notes.mergeSort fun left right => left.1.le right.1

def latest (moments : List Moment) : Moment := moments.foldl Moment.later .start

/-- Turns between the first job that ends cancelled and the end of the batch. -/
def unwindTurns : Nat := 3

/-- The chunks that the consumers of jobs have received, by a horizon or in the end. -/
def chunksOf (batch : Batch) (performances : List Performance) (horizon : Option Rat) :
    List Job → List (String × List Bytes)
  | [] => []
  | job :: rest =>
      let chunks := match performances.head?.bind (·.execution) with
        | some execution =>
            let last := execution.finish.instant
            execution.chunksBy (batch.request job)
              (horizon.elim last fun instant => Instant.earlier instant last)
        | none => []
      let later := batch.chunksOf (performances.drop 1) horizon rest
      match job.consumer with
      | .chunks _ => (job.spec.name, chunks) :: later
      | .result => later

/-- When each cancelled job ends.  One that still waits for a slot ends at once. -/
def cancellations (batch : Batch) (schedule : Schedule) : List Moment :=
  (schedule.granted.filterMap fun grant => match grant.performance.settled with
    | some (finish, slot) => if slot.isCancelled then some finish else none
    | none => none) ++
  (match batch.cancelAt with
    | some instant => if schedule.waiting.isEmpty then [] else [⟨instant, 1⟩]
    | none => [])

/-- Whether the cancellation finds a batch whose jobs have not all settled. -/
def isOverrun (batch : Batch) (finishes : List Moment) : Bool :=
  match batch.cancelAt with
  | some instant => finishes.any fun finish => instant ≤ finish.instant
  | none => false

/-- A batch ends when all its jobs have settled, or with the first one that ends cancelled. -/
def report (batch : Batch) : BatchReport :=
  let schedule := batch.schedule
  let performances := schedule.granted.map (·.performance)
  let notes := performances.flatMap (·.notes)
  let settled := performances.filterMap (·.settled)
  let finishes := settled.map (·.1)
  let chunks := batch.chunksOf performances none batch.jobs
  match Moment.earliest? (batch.cancellations schedule) with
  | some first =>
      let finish := first.pass unwindTurns
      { result := .error .cancelled
        notes := inOrder (notes.filter fun entry => entry.1.le finish)
        finish
        chunks := batch.chunksOf performances (some finish.instant) batch.jobs }
  | none =>
      let finish := latest finishes
      if settled.length < batch.jobs.length then
        { result := .error .unending, notes := inOrder notes, finish, chunks }
      else if batch.isOverrun finishes then
        { result := .error .cancelled, notes := inOrder notes, finish, chunks }
      else
        let slots := settled.map (·.2)
        let failed := slots.countP (·.isProblem)
        let skipped := slots.countP (·.isSkipped)
        { result := .ok slots
          notes := inOrder notes ++ [(finish, .complete slots.length failed skipped)]
          finish
          chunks }

end Batch

/-- One job alone, without a slot of its own. -/
structure SingleReport where
  slot : Slot
  notes : List (Moment × BatchNote)
  chunks : List (String × List Bytes)

def Batch.single (batch : Batch) (job : Job) : SingleReport :=
  let performance := batch.runJob 0 job .start
  { slot := performance.settled.elim (.problem (.run .unending)) (·.2)
    notes := performance.notes
    chunks := batch.chunksOf [performance] none [job] }

/-- What a batch leaves behind: calls with their instants, log entries and measurements. -/
structure Aftermath where
  calls : List (Rat × Call) := []
  logs : List Log.Entry := []
  store : Metrics.Store Binary64 := {}

namespace Aftermath

/-- Tells one note to the listener and the log. -/
def hear (listener : Listener) (past : Aftermath) (entry : Moment × BatchNote) : Aftermath :=
  match entry.2 with
  | .happening _ happening =>
      let audience := match listener.notify happening { store := past.store } with
        | .ok _ audience => audience
        | .error _ audience => audience
      { calls := past.calls ++ audience.calls.map fun call => (entry.1.instant, call)
        logs := past.logs ++ audience.logs
        store := audience.store }
  | other => { past with logs := past.logs ++ other.entry?.toList }

def ofNotes (listener : Listener) (notes : List (Moment × BatchNote)) : Aftermath :=
  notes.foldl (hear listener) {}

end Aftermath

end AnalysisEngines
