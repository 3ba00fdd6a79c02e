import AnalysisEngines.CommandLine.Program
import Std.Time.Format

/-!
The program at a real terminal.

It reads the environment and the files that a run needs, and writes what the session says.  No
client can be started from here, so that none is ever found.
-/

set_option autoImplicit false

namespace AnalysisEngines.CommandLine

/-- A variable from its text with the name in front. -/
def assignment? (content : Bytes) : Option (String × String) :=
  match Utf8.decode content with
  | .error _ => none
  | .ok text =>
      let (name, rest) := text.toList.span (· != '=')
      if rest.isEmpty then none else some (String.ofList name, String.ofList (rest.drop 1))

/-- The environment that the program was started with. -/
def readEnvironment : IO (List (String × String)) := do
  try
    let content ← IO.FS.readBinFile "/proc/self/environ"
    return (content.toList.splitOn 0).filterMap assignment?
  catch _ => return []

/-- The number of the error that a directory is no file. -/
def directoryCode : UInt32 := 21

/-- The entries of a directory tree for a path: under its own name, and where it leads. -/
def readEntries (path : String) : IO (List (String × Option Bytes)) := do
  let content ← try
      pure (some (some (← IO.FS.readBinFile path).toList))
    catch
      | .inappropriateType _ code _ => pure (if code = directoryCode then some none else none)
      | _ => pure none
  return content.toList.flatMap fun content => [(path, content), (Files.destination path, content)]

/-- The time in the world, to the microsecond. -/
def readTime : IO String := do
  let now ← Std.Time.Timestamp.now
  let time := Std.Time.DateTime.ofTimestamp now Std.Time.TimeZone.ZoneRules.UTC
  return time.format "uuuu-MM-dd'T'HH:mm:ss.SSSSSS'Z'"

def absentClient (client : String) : Puller Unit := fun image state =>
  (Container.pull client .null (fun _ => .timeout) false image, state)

def readWorld (arguments : List String) : IO (World Unit) := do
  let environment ← readEnvironment
  let named ← readEntries Settings.filePath
  let world : World Unit :=
    { environment, files := .ofList named, time := ← readTime, client := absentClient }
  let documents ← (world.paths arguments).mapM fun path => readEntries (Path.normalize path)
  return { world with files := .ofList (named ++ documents.flatten) }

/-- What a breakdown says. -/
def Breakdown.message : Breakdown → String
  | .settings (.invalid problems) | .configuration (.invalid problems) =>
      "; ".intercalate (problems.map fun problem => problem.issue.message)
  | .settings problem => problem.message
  | .level fault => fault.message
  | .manifest (.fault fault) => fault.message
  | .manifest (.scalar fault) | .configuration (.scalar fault) => fault.message
  | .manifest (.text fault) | .configuration (.text fault) | .text fault => fault.message
  | .configuration (.fault fault) => fault.failure.message
  | .configuration (.noSections kindName) => Text.quoted kindName ++ " has no sections"
  | .markup fault => fault.message

/-- What is told of an ending beside the session. -/
def Ending.remarks : Ending → List String
  | .misused => usage
  | .broken breakdown => [breakdown.message]
  | .done | .failed => []

end AnalysisEngines.CommandLine

open AnalysisEngines.CommandLine in
def main (arguments : List String) : IO UInt32 := do
  let world ← readWorld arguments
  let (ending, session) := world.run () arguments
  session.output.forM IO.println
  (session.messages ++ ending.remarks).forM IO.eprintln
  return UInt32.ofNat ending.status
