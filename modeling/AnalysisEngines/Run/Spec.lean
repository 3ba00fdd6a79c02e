import AnalysisEngines.Text.Blank
import AnalysisEngines.Value.Basic

/-!
What one engine run is asked to do: command, environment, mounts and container options.
-/

set_option autoImplicit false

namespace AnalysisEngines

structure Volume where
  host : String
  mount : String
  readOnly : Bool := true

structure Spec where
  name : String
  /-- Replaces the image's own command. -/
  command : Option (List String) := none
  environment : List (String × String) := []
  volumes : List Volume := []
  workingDirectory : Option String := none
  /-- A name for the container in place of a generated one. -/
  containerName : Option String := none
  networkDisabled : Bool := true
  memory : Option String := some "1024m"
  labels : List (String × String) := []

def sortedByName {α : Type} (entries : List (String × α)) : List (String × α) :=
  entries.mergeSort fun left right => !decide (right.1 < left.1)

namespace Spec

def givenCommand (spec : Spec) : List String := spec.command.getD []

def field (name : String) (value : Option String) : List (String × Value) :=
  match given? value with
  | some text => [(name, .text text)]
  | none => []

/-- The spec as log fields: of the environment the names only. -/
def summary (spec : Spec) : List (String × Value) :=
  [("name", .text spec.name)] ++
    (if spec.givenCommand.isEmpty then []
      else [("command", .list (spec.givenCommand.map Value.text))]) ++
    (if spec.environment.isEmpty then []
      else [("env", .list ((sortedByName spec.environment).map fun entry => .text entry.1))]) ++
    (if spec.volumes.isEmpty then []
      else [("volumes", .list (spec.volumes.map fun volume =>
        .text (volume.host ++ ":" ++ volume.mount)))]) ++
    field "working_dir" spec.workingDirectory ++
    field "container_name" spec.containerName ++
    [("network_disabled", .bool spec.networkDisabled)] ++
    field "memory" spec.memory

end Spec

end AnalysisEngines
