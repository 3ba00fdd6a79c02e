import AnalysisEngines.Files.Basic
import AnalysisEngines.Log.Entry
import AnalysisEngines.Registry.Basic
import AnalysisEngines.Text.Blank
import AnalysisEngines.Yaml.Load

/-!
Manifests: from a document to a registry.

A manifest maps the names of engines to mappings with a description and channels.  Keys that are
no text count by how they read, so that two of them may name one engine; the later one wins.
-/

set_option autoImplicit false

namespace AnalysisEngines

inductive ManifestFault where
  | notAMap (given : Value)
  | entryNotAMap (engine : Value)
  | noChannels (engine : Value)
  | noImage (engine channel : Value)
  | malformed
  | unreadable (fault : FileFault)

namespace ManifestFault

def message : ManifestFault → String
  | .notAMap given => "Engine manifest must be a mapping, got " ++ given.kindName
  | .entryNotAMap engine => "Manifest entry '" ++ engine.display ++ "' must be a mapping"
  | .noChannels engine => "Manifest entry '" ++ engine.display ++ "' has no channels mapping"
  | .noImage engine channel =>
      "Manifest entry '" ++ engine.display ++ "' channel '" ++ channel.display ++
        "' has no image"
  | .malformed => "Engine manifest is not valid YAML: " ++ Yaml.Fault.malformed.message
  | .unreadable fault =>
      "Unable to read engine manifest " ++ fault.path ++ ": " ++ fault.message

def context : ManifestFault → Failure.Context
  | .notAMap _ | .malformed => {}
  | .entryNotAMap engine | .noChannels engine => { engine := .text engine.display }
  | .noImage engine channel =>
      { engine := .text engine.display, channel := .text channel.display }
  | .unreadable fault => { path := .text fault.path }

def cause : ManifestFault → Option String
  | .malformed => some Yaml.Fault.malformed.message
  | .unreadable fault => some fault.message
  | _ => none

def failure (fault : ManifestFault) : Failure :=
  (Failure.ofKind .invalidManifest fault.message fault.context).withCause fault.cause

end ManifestFault

/-- Why a document was not read: its own fault, or one that lies below it. -/
inductive DocumentProblem (α : Type) where
  | fault (fault : α)
  | scalar (fault : Yaml.Fault)
  | text (fault : TextFault)

namespace Registry

/-- Gives a channel an image, in place of the one it has. -/
def assignImage (channel image : String) : List (String × String) → List (String × String)
  | [] => [(channel, image)]
  | (known, old) :: rest =>
      if known = channel then (known, image) :: rest
      else (known, old) :: assignImage channel image rest

/-- An image is a text that is not blank. -/
def imageOf? : Value → Option String
  | .text image => if Text.isBlankText image then none else some image
  | _ => none

def channelsOf (engine : Value) (channels : List (Value × Value)) :
    Except ManifestFault (List (String × String)) :=
  channels.foldlM (fun known (channel, given) =>
    match imageOf? given with
    | some image => .ok (assignImage channel.display image known)
    | none => .error (.noImage engine channel)) []

def descriptionOf (metadata : List (Value × Value)) : String :=
  let given := Value.member "description" metadata
  if given.isGiven then given.display else ""

def entryOf (engine metadata : Value) : Except ManifestFault RegistryEntry :=
  match metadata with
  | .map fields =>
      match Value.member "channels" fields with
      | .map channels =>
          (channelsOf engine channels).map fun channels =>
            { name := engine.display, description := descriptionOf fields, channels }
      | _ => .error (.noChannels engine)
  | _ => .error (.entryNotAMap engine)

def ofValue (manifest : Value) : Except ManifestFault Registry :=
  match manifest with
  | .map engines => do
      let content ← engines.foldlM (fun known (engine, metadata) => do
        return insert (← entryOf engine metadata) known) []
      return { content }
  | other => .error (.notAMap other)

/-- A document that holds nothing is an empty manifest. -/
def ofText (text : String) : Except (DocumentProblem ManifestFault) Registry :=
  match Yaml.load text with
  | .error .malformed => .error (.fault .malformed)
  | .error fault => .error (.scalar fault)
  | .ok manifest =>
      (ofValue (if manifest.isGiven then manifest else .map [])).mapError .fault

def ofFile (files : Files) (path : String) :
    Except (DocumentProblem ManifestFault) Registry :=
  match files.readText (Path.normalize path) with
  | .error (.file fault) => .error (.fault (.unreadable fault))
  | .error fault => .error (.text fault)
  | .ok text => ofText text

/-- What is logged of a manifest that was read. -/
def loadedEntry (registry : Registry) : Log.Entry :=
  ⟨.debug, "analyzer.engines.registry", "engine_manifest_loaded",
    [("engines", .ofNat registry.size)]⟩

end Registry

end AnalysisEngines
