import AnalysisEngines.Batch
import AnalysisEngines.Run.Scope

/-!
The log of a batch whose caller has variables bound.

Every job is a task of its own.  It begins with the journal that its caller has when the batch is
asked for, and enters the scope of its run in its own journal only.
-/

set_option autoImplicit false

namespace AnalysisEngines

open Log

/-- One step of a task at a moment: of the job at a place, or of the caller of the batch. -/
abbrev TaskStep := Moment × Option Nat × Step BatchNote

/-- What the job at a place does with its journal.  Its run comes after its first note. -/
def Grant.steps (batch : Batch) (place : Nat) (grant : Grant) : List (Moment × Step BatchNote) :=
  let notes := grant.performance.notes
  match grant.performance.execution with
  | none => Step.ofNotes notes
  | some execution =>
      let run := (execution.steps (batch.request grant.job) grant.moment).map fun entry =>
        (entry.1, entry.2.map (BatchNote.run place grant.job.spec.name))
      Step.ofNotes (notes.take 1) ++ run ++
        Step.ofNotes (notes.drop (1 + execution.notes.length))

namespace Batch

/-- Whether a batch is still under way at a moment, or ends with it. -/
def lastsUntil (batch : Batch) (moment : Moment) : Bool :=
  match Moment.earliest? (batch.cancellations batch.schedule) with
  | some first => moment.le (first.pass unwindTurns)
  | none => true

/-- The steps of all jobs, job by job. -/
def jobSteps (batch : Batch) : List TaskStep :=
  batch.schedule.granted.zipIdx.flatMap fun (grant, place) =>
    (grant.steps batch place).map fun entry => (entry.1, some place, entry.2)

/-- What the caller itself notes, behind all jobs. -/
def ownSteps (batch : Batch) : List TaskStep :=
  (batch.report.notes.filter fun entry => entry.2.job?.isNone).map fun entry =>
    (entry.1, none, .note entry.2)

/-- The steps of a batch in order of time; those of one moment stay in job order. -/
def trace (batch : Batch) : List TaskStep :=
  (batch.jobSteps.filter fun step => batch.lastsUntil step.1).mergeSort
    (fun left right => left.1.le right.1) ++ batch.ownSteps

/-- The steps of a batch as its tasks take them. -/
def tasks (batch : Batch) : List (Option Nat × Step (Moment × BatchNote)) :=
  batch.trace.map fun step => (step.2.1, Step.keyed (step.1, step.2.2))

/-- What is noted in a batch, by which task and with which variables bound. -/
def notesUnder (batch : Batch) (caller : Journal) :
    List (Option Nat × (Moment × BatchNote) × Fields) :=
  Journals.notesUnder batch.tasks fun _ => caller

/-- The journal of the caller after the batch. -/
def callerAfter (batch : Batch) (caller : Journal) : Journal :=
  Journals.follow batch.tasks (fun _ => caller) none

end Batch

/-- The log entry of a note as it is written, without any variables. -/
def BatchNote.written? : BatchNote → Option Entry
  | .run _ _ (.notice notice) => some notice.entry
  | note => note.entry?

namespace Aftermath

/-- Tells one note to the listener and the log, with variables bound. -/
def hearUnder (listener : Listener) (past : Aftermath) (entry : Moment × BatchNote)
    (bound : Fields) : Aftermath :=
  match entry.2 with
  | .happening _ happening =>
      let audience := match listener.notify happening { store := past.store } with
        | .ok _ audience => audience
        | .error _ audience => audience
      { calls := past.calls ++ audience.calls.map fun call => (entry.1.instant, call)
        logs := past.logs ++ audience.logs.map (·.under bound)
        store := audience.store }
  | other => { past with logs := past.logs ++ (other.written?.map (·.under bound)).toList }

end Aftermath

/-- What a batch leaves behind whose caller has a journal. -/
def Batch.aftermath (batch : Batch) (caller : Journal) : Aftermath :=
  (batch.notesUnder caller).foldl (fun past noted =>
    past.hearUnder batch.listener noted.2.1 noted.2.2) {}

end AnalysisEngines
