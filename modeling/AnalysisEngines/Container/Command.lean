import AnalysisEngines.Run.Spec

/-!
Command lines of the container client.
-/

set_option autoImplicit false

namespace AnalysisEngines.Container

def option (name : String) (value : Option String) : List String :=
  match given? value with
  | some text => [name, text]
  | none => []

def volumeText (volume : Volume) : String :=
  volume.host ++ ":" ++ volume.mount ++ (if volume.readOnly then ":ro" else "")

def assignments (name : String) (entries : List (String × String)) : List String :=
  (sortedByName entries).flatMap fun entry => [name, entry.1 ++ "=" ++ entry.2]

/-- Options of `run`, before the image: names in ascending order, mounts in the spec's order. -/
def runOptions (spec : Spec) (container : String) : List String :=
  ["--name", container, "--cap-drop", "all", "--security-opt", "no-new-privileges"] ++
    (if spec.networkDisabled then ["--net", "none"] else []) ++
    (match given? spec.memory with
      | some memory => ["--memory", memory, "--memory-swap", "-1"]
      | none => []) ++
    assignments "--label" spec.labels ++
    spec.volumes.flatMap (fun volume => ["--volume", volumeText volume]) ++
    assignments "--env" spec.environment ++
    option "--workdir" spec.workingDirectory

def runCommand (client image : String) (spec : Spec) (container : String) : List String :=
  [client, "run", "--rm"] ++ runOptions spec container ++ [image] ++ spec.givenCommand

def stopCommand (client : String) (seconds : Nat) (container : String) : List String :=
  [client, "stop", "--time", toString seconds, container]

def pullCommand (client image : String) : List String := [client, "pull", image]

end AnalysisEngines.Container
