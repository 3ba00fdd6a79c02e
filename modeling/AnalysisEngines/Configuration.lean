import AnalysisEngines.Registry.Manifest
import AnalysisEngines.Validation

/-!
Which engines a project has enabled, and on which channels.

A project lists its engines under `engines`, then under `plugins`.  Default engines come before
them; a project's entry for a default engine takes its place.
-/

set_option autoImplicit false

namespace AnalysisEngines

structure EngineEntry where
  name : String
  /-- No channel, like an empty one, stands for the default channel. -/
  channel : Option String := none
  enabled : Bool := true
  deriving DecidableEq

def EngineEntry.effectiveChannel (default : String) (entry : EngineEntry) : String :=
  (given? entry.channel).getD default

/-- An entry as one mapping, with the channel that it stands for. -/
def EngineEntry.record (default : String) (entry : EngineEntry) : Value :=
  .textMap [("name", .text entry.name), ("channel", Value.ofText? entry.channel),
    ("enabled", .bool entry.enabled), ("effective", .text (entry.effectiveChannel default))]

def EngineEntry.check (entry : EngineEntry) : Validation.Checked EngineEntry :=
  if entry.name = "" then Validation.fault "name" .emptyText else .ok entry

/-- An entry from named fields; other names are ignored. -/
def EngineEntry.ofFields (fields : Log.Fields) : Validation.Checked EngineEntry :=
  .ok EngineEntry.mk
    |> Validation.taking ((fields.lookup "name").elim (Validation.fault "name" .missing)
      (Validation.nonEmptyText "name"))
    |> Validation.taking ((fields.lookup "channel").elim (.ok none)
      (Validation.optionalText "channel"))
    |> Validation.taking ((fields.lookup "enabled").elim (.ok true)
      (Validation.truth "enabled"))

inductive ConfigurationFault where
  | sectionNotAMap (key : String) (given : Value)
  | channelNotText (engine : String) (given : Value)
  | enabledNotTruth (engine : String) (given : Value)
  | badEntry (engine : String) (given : Value)
  | fileMalformed (path : String)
  | fileNotAMap (path : String) (given : Value)

namespace ConfigurationFault

/-- The section, engine or file at fault. -/
def key : ConfigurationFault → String
  | .sectionNotAMap key _ => key
  | .channelNotText engine _ | .enabledNotTruth engine _ | .badEntry engine _ => engine
  | .fileMalformed path | .fileNotAMap path _ => path

def given : ConfigurationFault → Value
  | .sectionNotAMap _ given | .channelNotText _ given | .enabledNotTruth _ given
  | .badEntry _ given | .fileNotAMap _ given => given
  | .fileMalformed _ => .null

def message : ConfigurationFault → Option String
  | .sectionNotAMap key _ => some ("'" ++ key ++ "' must be a mapping of engine names")
  | .channelNotText engine _ => some ("Channel for engine '" ++ engine ++ "' must be a string")
  | .enabledNotTruth engine _ =>
      some ("'enabled' for engine '" ++ engine ++ "' must be a boolean")
  | .badEntry .. => none
  | .fileMalformed path =>
      some ("Configuration " ++ path ++ " is not valid YAML: " ++
        Yaml.Fault.malformed.message)
  | .fileNotAMap path _ => some ("Configuration " ++ path ++ " must be a mapping")

def failure (fault : ConfigurationFault) : Failure :=
  .invalidConfiguration (.text fault.key) fault.given fault.message

end ConfigurationFault

inductive ConfigurationProblem where
  | fault (fault : ConfigurationFault)
  | invalid (problems : List Validation.Problem)
  /-- A configuration of this kind has no sections. -/
  | noSections (kindName : String)
  | scalar (fault : Yaml.Fault)
  | text (fault : TextFault)

namespace Configuration

def sections : List String := ["engines", "plugins"]

def checked {α : Type} (given : Validation.Checked α) : Except ConfigurationProblem α :=
  given.mapError .invalid

def entryOf (name : String) (given : Value) : Except ConfigurationProblem EngineEntry :=
  match given with
  | .bool enabled => checked { name, enabled : EngineEntry }.check
  | .map fields => do
      let channel ← match Value.member "channel" fields with
        | .null => pure none
        | .text channel => pure (some channel)
        | _ => throw (.fault (.channelNotText name given))
      let enabled ← match Value.lookup "enabled" fields with
        | none => pure true
        | some (.bool enabled) => pure enabled
        | some _ => throw (.fault (.enabledNotTruth name given))
      checked { name, channel, enabled : EngineEntry }.check
  | _ => .error (.fault (.badEntry name given))

def entriesOfSection (key : String) (content : Value) :
    Except ConfigurationProblem (List EngineEntry) :=
  match content with
  | .null => .ok []
  | .map engines => engines.mapM fun engine => entryOf engine.1.display engine.2
  | _ => .error (.fault (.sectionNotAMap key content))

/-- The engines of a project, section by section. -/
def entriesOf (configuration : Value) : Except ConfigurationProblem (List EngineEntry) :=
  match configuration.isGiven, configuration with
  | false, _ => .ok []
  | true, .map content => do
      let parts ← sections.mapM fun key => entriesOfSection key (Value.member key content)
      return parts.flatten
  | true, other => .error (.noSections other.kindName)

/-- Gives an engine an entry: in place of the one it has, else at the end. -/
def place (entry : EngineEntry) : List EngineEntry → List EngineEntry
  | [] => [entry]
  | known :: rest => if known.name = entry.name then entry :: rest else known :: place entry rest

/-- An entry for a default engine keeps the default channel when it names none. -/
def withDefaultChannel (defaults : List (String × String)) (entry : EngineEntry) : EngineEntry :=
  match entry.channel with
  | some _ => entry
  | none => { entry with channel := defaults.lookup entry.name }

/-- Default engines in their order, then the others in order of first appearance. -/
def merge (entries : List EngineEntry) (defaults : List (String × String)) : List EngineEntry :=
  entries.foldl (fun known entry => place (withDefaultChannel defaults entry) known)
    (defaults.map fun (name, channel) => { name, channel := some channel })

/-- Merging with default engines that have names. -/
def mergeChecked (entries : List EngineEntry) (defaults : List (String × String)) :
    Except ConfigurationProblem (List EngineEntry) := do
  let _ ← checked (defaults.mapM fun default => EngineEntry.check { name := default.1 })
  return merge entries defaults

/-- The engines of a project, behind the default ones. -/
def ofValue (configuration : Value) (defaults : List (String × String)) :
    Except ConfigurationProblem (List EngineEntry) := do
  let entries ← entriesOf configuration
  if defaults.isEmpty then return entries else mergeChecked entries defaults

/-- A file that is not there enables the default engines only. -/
def ofFile (files : Files) (path : String) (defaults : List (String × String)) :
    Except ConfigurationProblem (List EngineEntry) := do
  let path := Path.normalize path
  let isThere ← (files.exists? path).mapError fun fault => .text (.file fault)
  if !isThere then ofValue .null defaults
  else
    let text ← (files.readText path).mapError .text
    match Yaml.load text with
    | .error .malformed => throw (.fault (.fileMalformed path))
    | .error fault => throw (.scalar fault)
    | .ok .null => ofValue .null defaults
    | .ok (.map content) => ofValue (.map content) defaults
    | .ok other => throw (.fault (.fileNotAMap path other))

def enabled (entries : List EngineEntry) : List EngineEntry := entries.filter (·.enabled)

end Configuration

end AnalysisEngines
