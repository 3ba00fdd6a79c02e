import AnalysisEngines.Batch
import AnalysisEngines.Files.Basic
import AnalysisEngines.Json.Reading
import AnalysisEngines.Settings.EnvFile
import AnalysisEngines.Text.LetterCase
import AnalysisEngines.Validation

/-!
Settings of an analyzer.

A field takes its value from the first of these that has one: the given fields, the environment,
the file `.env`, and the field's default.  In the environment and in the file the name of a field
has `ANALYZER_` in front, in any letter case.  The default engines are a mapping, written there as
JSON; the mappings of several sources are united.
-/

set_option autoImplicit false

namespace AnalysisEngines

structure Settings where
  manifestPath : String := "config/engines.yml"
  configPath : String := ".analyzer.yml"
  defaultChannel : String := "stable"
  defaultEngines : List (String × String) := [("structure", "stable"), ("duplication", "cronopio")]
  timeout : Binary64 := .finite 900
  ceiling : Int := 500000000
  grace : Binary64 := .finite 10
  concurrency : Int := 2
  clientName : String := "docker"
  repository : Option String := none
  logLevel : String := "INFO"
  logsAsJson : Option Bool := none

inductive SettingsSource where
  | environment
  | file

def SettingsSource.name : SettingsSource → String
  | .environment => "EnvSettingsSource"
  | .file => "DotEnvSettingsSource"

inductive SettingsProblem where
  /-- The default engines of a source are not JSON. -/
  | unreadable (source : SettingsSource)
  | text (fault : TextFault)
  | invalid (problems : List Validation.Problem)

def SettingsProblem.message : SettingsProblem → String
  | .unreadable source =>
      "error parsing value for field \"default_engines\" from source \"" ++ source.name ++ "\""
  | .text fault => fault.message
  | .invalid _ => ""

namespace Settings

def fieldNames : List String :=
  ["manifest_path", "config_path", "default_channel", "default_engines", "timeout_seconds",
    "max_output_bytes", "kill_grace_seconds", "max_concurrency", "docker_binary", "repo_id",
    "log_level", "log_json"]

/-- The settings as named fields. -/
def fields (settings : Settings) : Log.Fields :=
  [("manifest_path", .text settings.manifestPath), ("config_path", .text settings.configPath),
    ("default_channel", .text settings.defaultChannel),
    ("default_engines", .list (settings.defaultEngines.map fun (name, channel) =>
      .list [.text name, .text channel])),
    ("timeout_seconds", .float settings.timeout), ("max_output_bytes", .int settings.ceiling),
    ("kill_grace_seconds", .float settings.grace),
    ("max_concurrency", .int settings.concurrency), ("docker_binary", .text settings.clientName),
    ("repo_id", Value.ofText? settings.repository), ("log_level", .text settings.logLevel),
    ("log_json", settings.logsAsJson.elim .null .bool)]

/-- A number within a limit, as it was given. -/
def bounded {α : Type} (check : Validation.Checked Number → Validation.Checked Number)
    (number : α → Number) (given : Validation.Checked α) : Validation.Checked α := do
  let value ← given
  let _ ← check (.ok (number value))
  return value

open Validation in
/-- Settings from named fields; other names are ignored. -/
def ofFields (given : Log.Fields) : Checked Settings :=
  let standard : Settings := {}
  let field {α : Type} (name : String) (default : α) (check : String → Value → Checked α) :
      Checked α :=
    (given.lookup name).elim (.ok default) (check name)
  let place (name : String) (default : String) : Checked String :=
    field name default fun name value => (path name value).map Path.normalize
  let seconds (name : String) (default : Binary64)
      (check : Checked Number → Checked Number) : Checked Binary64 :=
    field name default fun name value => bounded check Number.float (number name value)
  let count (name : String) (default : Int)
      (check : Checked Number → Checked Number) : Checked Int :=
    field name default fun name value => bounded check Number.int (integer name value)
  .ok Settings.mk
    |> taking (place "manifest_path" standard.manifestPath)
    |> taking (place "config_path" standard.configPath)
    |> taking (field "default_channel" standard.defaultChannel text)
    |> taking (field "default_engines" standard.defaultEngines textMap)
    |> taking (seconds "timeout_seconds" standard.timeout (above "timeout_seconds" 0))
    |> taking (count "max_output_bytes" standard.ceiling (above "max_output_bytes" 0))
    |> taking (seconds "kill_grace_seconds" standard.grace (atLeast "kill_grace_seconds" 0))
    |> taking (count "max_concurrency" standard.concurrency (atLeast "max_concurrency" 1))
    |> taking (field "docker_binary" standard.clientName text)
    |> taking (field "repo_id" standard.repository optionalText)
    |> taking (field "log_level" standard.logLevel text)
    |> taking (field "log_json" standard.logsAsJson optionalTruth)

/-- Fields over others: a mapping over a mapping is united with it, anything else wins. -/
def overlay (upper lower : Log.Fields) : Log.Fields :=
  upper.foldl (fun known (name, value) =>
    let value := match value, known.lookup name with
      | .map entries, some (.map old) =>
          .map (entries.foldl (fun all entry => Value.assign entry.1 entry.2 all) old)
      | _, _ => value
    Log.assignField name value known) lower

def variablePrefix : String := "analyzer_"

/-- The default engines as a source gives them; nothing stands for no value. -/
def enginesOf (source : SettingsSource) (text : String) : Except SettingsProblem (Option Value) :=
  match Json.read? text with
  | none => .error (.unreadable source)
  | some .null => .ok none
  | some value => .ok (some value)

/-- The fields that variables give.  Of names that differ in letter case only, the last counts. -/
def fieldsOf (source : SettingsSource) (named : EnvFile.Variables) :
    Except SettingsProblem Log.Fields := do
  let folded := named.reverse.map fun (name, value) => (Text.lower name, value)
  let given (name : String) : Option String := (folded.lookup (variablePrefix ++ name)).join
  let parts ← fieldNames.mapM fun name => do
    match given name with
    | none => return none
    | some text =>
        if name = "default_engines" then
          return (← enginesOf source text).map fun value => (name, value)
        else return some (name, .text text)
  return parts.filterMap id

def filePath : String := ".env"

/-- The text of the file of variables, if it is there. -/
def fileText? (files : Files) : Except TextFault (Option String) :=
  match files.lookup filePath with
  | .ok (.file _) => (files.readText filePath).map some
  | _ => .ok none

/-- The lines of the file of variables that are skipped. -/
def skippedLines (files : Files) : List Nat :=
  match fileText? files with
  | .ok (some text) => EnvFile.faultyLines text
  | _ => []

def load (given : Log.Fields) (environment : List (String × String)) (files : Files) :
    Except SettingsProblem Settings := do
  let content ← (fileText? files).mapError .text
  let outer ← fieldsOf .environment (environment.map fun (name, value) => (name, some value))
  let inner ← fieldsOf .file (content.elim [] (EnvFile.read environment))
  (ofFields (overlay given (overlay outer inner))).mapError .invalid

def limits (settings : Settings) : Limits :=
  { timeout := .float settings.timeout, ceiling := settings.ceiling }

/-- Listeners in order: logging, measuring for the repository, and others. -/
def listener (settings : Settings) (others : List Listener) : Listener :=
  .dispatcher ([.logging, .measuring none settings.repository false] ++ others)

/-- A batch that runs under the settings. -/
def batch (settings : Settings) (runtime : Runtime) (others : List Listener) (jobs : List Job) :
    Batch :=
  { runtime
    limits := settings.limits
    grace := .float settings.grace
    slots := settings.concurrency.toNat
    listener := settings.listener others
    jobs }

end Settings

end AnalysisEngines
