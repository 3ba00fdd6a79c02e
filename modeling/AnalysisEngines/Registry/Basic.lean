import AnalysisEngines.Failure

/-!
The registry of engines: which image an engine has on each of its channels.

An engine has one entry, and a channel one image.  Listings are in ascending order of names.
-/

set_option autoImplicit false

namespace AnalysisEngines

structure RegistryEntry where
  name : String
  description : String := ""
  /-- Images by channel, in the order of the manifest. -/
  channels : List (String × String) := []
  deriving DecidableEq

/-- An engine on one of its channels. -/
structure ResolvedEngine where
  name : String
  channel : String
  image : String
  deriving DecidableEq

def ResolvedEngine.label (engine : ResolvedEngine) : String := engine.name ++ ":" ++ engine.channel

/-- An engine on one of its channels, as one mapping. -/
def ResolvedEngine.record (engine : ResolvedEngine) : Value :=
  .textMap [("name", .text engine.name), ("channel", .text engine.channel),
    ("image", .text engine.image), ("label", .text engine.label)]

/-- An entry as one mapping. -/
def RegistryEntry.record (entry : RegistryEntry) : Value :=
  .textMap [("name", .text entry.name), ("description", .text entry.description),
    ("channels", .list (entry.channels.map fun (channel, image) =>
      .list [.text channel, .text image]))]

def RegistryEntry.image? (channel : String) (entry : RegistryEntry) : Option String :=
  (entry.channels.find? fun known => known.1 == channel).map (·.2)

structure Registry where
  /-- One entry for each name. -/
  content : List RegistryEntry := []

namespace Registry

/-- Gives an engine an entry, in place of the one it has. -/
def insert (entry : RegistryEntry) : List RegistryEntry → List RegistryEntry
  | [] => [entry]
  | known :: rest => if known.name = entry.name then entry :: rest else known :: insert entry rest

def size (registry : Registry) : Nat := registry.content.length

def get? (name : String) (registry : Registry) : Option RegistryEntry :=
  registry.content.find? fun entry => entry.name == name

def contains (name : String) (registry : Registry) : Bool := (registry.get? name).isSome

def entries (registry : Registry) : List RegistryEntry :=
  registry.content.mergeSort fun left right => left.name ≤ right.name

/-- What going through a registry meets. -/
def toList (registry : Registry) : List RegistryEntry := registry.entries

def names (registry : Registry) : List String := registry.entries.map (·.name)

def find? (name channel : String) (registry : Registry) : Option ResolvedEngine := do
  let entry ← registry.get? name
  let image ← entry.image? channel
  return { name, channel, image }

def resolve (name channel : String) (registry : Registry) : Except Failure ResolvedEngine :=
  match registry.find? name channel with
  | some engine => .ok engine
  | none => .error (.engineNotFound (.text name) (.text channel))

end Registry

end AnalysisEngines
