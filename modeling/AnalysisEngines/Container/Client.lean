import AnalysisEngines.Container.Command
import AnalysisEngines.Failure
import AnalysisEngines.Log.Entry

/-!
The container client: looking it up, and pulling images with it.

The client may come and go, so that every look-up has an answer of its own; the last one repeats.
-/

set_option autoImplicit false

namespace AnalysisEngines.Container

/-- The next answer, and the answers from then on. -/
def lookUp : List Bool → Bool × List Bool
  | [] => (true, [])
  | [found] => (found, [found])
  | found :: rest => (found, rest)

def clientPath (client : String) : String := "/usr/bin/" ++ client

def clientMissing (client : String) : Failure :=
  .runtimeUnavailable ("Container runtime '" ++ client ++ "' not found on PATH")

def logger : String := "analyzer.execution.runtime"

def callEntry (command : List String) : Log.Entry :=
  ⟨.debug, logger, "docker_exec", [("cmd", .text (" ".intercalate command))]⟩

/-- How a pull ends. -/
inductive PullEnd where
  | exit (status : Int)
  | timeout

/-- One attempt to pull: whether it succeeded, the command if one was run, and the log. -/
structure PullAttempt where
  succeeded : Bool
  command : Option (List String) := none
  logs : List Log.Entry

/-- An attempt with a client that is there or not. -/
def pull (client : String) (timeLimit : Value) (finish : String → PullEnd) (found : Bool)
    (image : String) : PullAttempt :=
  if found then
    let command := pullCommand (clientPath client) image
    match finish image with
    | .exit status =>
        { succeeded := status == 0, command := some command, logs := [callEntry command] }
    | .timeout =>
        { succeeded := false
          command := some command
          logs := [callEntry command,
            ⟨.error, logger, "docker_pull_timeout",
              [("image", .text image), ("timeout", timeLimit)]⟩] }
  else
    { succeeded := false
      logs := [⟨.error, logger, "docker_pull_unavailable",
        [("image", .text image), ("error", .text (clientMissing client).message)]⟩] }

/-- On the host there is nothing to pull. -/
def skipPull (image : String) : PullAttempt :=
  { succeeded := true
    logs := [⟨.debug, logger, "local_pull_skipped", [("image", .text image)]⟩] }

end AnalysisEngines.Container
