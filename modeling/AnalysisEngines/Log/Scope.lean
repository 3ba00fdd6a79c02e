import AnalysisEngines.Log.Journal

/-!
What code does with the journal that it logs to.

A step enters a scope, leaves the innermost one, or notes something under the variables that are
bound then.  Each task has a journal of its own: what one binds, no other one sees.
-/

set_option autoImplicit false

namespace AnalysisEngines.Log

inductive Step (α : Type) where
  | enter (fields : Fields)
  | leave
  | note (what : α)

namespace Step

variable {α β : Type}

def noted? : Step α → Option α
  | .note what => some what
  | _ => none

def map (change : α → β) : Step α → Step β
  | .enter fields => .enter fields
  | .leave => .leave
  | .note what => .note (change what)

/-- Notes with their keys as steps with their keys. -/
def ofNotes (notes : List (β × α)) : List (β × Step α) :=
  notes.map fun entry => (entry.1, .note entry.2)

/-- A step with its key kept in what it notes. -/
def keyed (step : β × Step α) : Step (β × α) := step.2.map fun what => (step.1, what)

end Step

namespace Journal

variable {α : Type}

def take (step : Step α) (journal : Journal) : Journal :=
  match step with
  | .enter fields => journal.enter fields
  | .leave => journal.leave
  | .note _ => journal

/-- The journal after some steps. -/
def follow (steps : List (Step α)) (journal : Journal) : Journal :=
  steps.foldl (fun known step => known.take step) journal

/-- What is noted, each with the variables that are bound then. -/
def notesUnder : List (Step α) → Journal → List (α × Fields)
  | [], _ => []
  | step :: rest, journal =>
      (step.noted?.map fun what => (what, journal.bound)).toList ++
        notesUnder rest (journal.take step)

end Journal

/-- The journal of each task. -/
abbrev Journals (ι : Type) := ι → Journal

namespace Journals

variable {ι α : Type} [DecidableEq ι]

def take (step : ι × Step α) (journals : Journals ι) : Journals ι := fun task =>
  if task = step.1 then (journals task).take step.2 else journals task

def follow (trace : List (ι × Step α)) (journals : Journals ι) : Journals ι :=
  trace.foldl (fun known step => known.take step) journals

/-- What each task notes, with the variables that are bound in its own journal then. -/
def notesUnder : List (ι × Step α) → Journals ι → List (ι × α × Fields)
  | [], _ => []
  | step :: rest, journals =>
      (step.2.noted?.map fun what => (step.1, what, (journals step.1).bound)).toList ++
        notesUnder rest (journals.take step)

end Journals

end AnalysisEngines.Log
