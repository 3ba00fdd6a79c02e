import AnalysisEngines.Log.Scope
import AnalysisEngines.Run.Execution

/-!
The scope of a run: as long as it lasts, its engine is bound in the journal of its caller.
-/

set_option autoImplicit false

namespace AnalysisEngines

/-- The variables that a run binds. -/
def Request.bindings (request : Request) : Log.Fields := [("engine", request.engineText)]

namespace Execution

open Log

/-- What a run that began at a moment does with the journal of its caller.  A run that never ends
stays in its scope. -/
def steps (request : Request) (origin : Moment) (execution : Execution) :
    List (Moment × Step Note) :=
  let left := match execution.result with
    | .error .unending => []
    | _ => [(execution.finish, Step.leave)]
  (origin, .enter request.bindings) :: Step.ofNotes execution.notes ++ left

/-- The log of a run whose caller has a journal. -/
def log (request : Request) (origin : Moment) (caller : Journal) (execution : Execution) :
    List Entry :=
  (caller.notesUnder ((execution.steps request origin).map (·.2))).filterMap fun
    | (.notice notice, bound) => some (notice.entry.under bound)
    | _ => none

end Execution

end AnalysisEngines
