import AnalysisEngines.Proofs.Collection
import AnalysisEngines.Registry.Manifest
import Mathlib.Data.List.Sort
import Mathlib.Data.String.Basic

/-!
# From a manifest to the images that are found

A manifest is sound if it maps engines to mappings whose channels are mapped to images.  A sound one
is loaded, and each engine and channel is found on the image that the manifest gives it last; any
other is refused for its first offence.  All that a registry is asked agrees on the engines that it
has, and its listings ascend strictly.
-/

set_option autoImplicit false

namespace AnalysisEngines

/-- The value of the last key that reads as a text. -/
def Value.lastUnder? (name : String) : Value → Option Value
  | .map entries => (entries.filter (·.1.display == name)).getLast?.map (·.2)
  | _ => none

/-- A text in which there is something other than white space. -/
inductive Value.IsImage : Value → Prop
  | text {image : String} {c : Char} :
      c ∈ image.toList → Text.isBlank c = false → IsImage (.text image)

namespace Manifest

/-! ## What a manifest has to be, and what it says -/

/-- What an engine has to be given: a mapping whose channels are mapped to images. -/
inductive IsEntry : Value → Prop
  | map {fields channels : List (Value × Value)} :
      Value.member "channels" fields = .map channels → (∀ channel ∈ channels, channel.2.IsImage) →
      IsEntry (.map fields)

inductive IsSound : Value → Prop
  | map {engines : List (Value × Value)} :
      (∀ engine ∈ engines, IsEntry engine.2) → IsSound (.map engines)

/-- What is wrong with what an engine is given, as the context of a failure tells it. -/
inductive EntryOffence (engine : Value) : Value → Failure.Context → Prop
  | notAMap {metadata : Value} :
      (∀ fields, metadata ≠ .map fields) →
      EntryOffence engine metadata { engine := .text engine.display }
  | noChannels {fields : List (Value × Value)} :
      (∀ channels, Value.member "channels" fields ≠ .map channels) →
      EntryOffence engine (.map fields) { engine := .text engine.display }
  | noImage {fields before after : List (Value × Value)} {channel image : Value} :
      Value.member "channels" fields = .map (before ++ (channel, image) :: after) →
      (∀ known ∈ before, known.2.IsImage) → ¬ image.IsImage →
      EntryOffence engine (.map fields)
        { engine := .text engine.display, channel := .text channel.display }

/-- The first offence of a manifest. -/
inductive Offence : Value → Failure.Context → Prop
  | notAMap {manifest : Value} : (∀ engines, manifest ≠ .map engines) → Offence manifest {}
  | entry {before after : List (Value × Value)} {engine metadata : Value}
      {context : Failure.Context} :
      (∀ known ∈ before, IsEntry known.2) → EntryOffence engine metadata context →
      Offence (.map (before ++ (engine, metadata) :: after)) context

/-- The channels of what an engine is given. -/
def channels (metadata : Value) : Value := (metadata.get? "channels").getD .null

/-- The image that a manifest gives an engine on a channel: the last of the keys that read as these
texts count. -/
def image? (name channel : String) (manifest : Value) : Option String := do
  let metadata ← manifest.lastUnder? name
  let image ← (channels metadata).lastUnder? channel
  image.text?

/-- The entry that comes of an engine in a sound manifest. -/
def toEntry (engine : Value × Value) : RegistryEntry where
  name := engine.1.display
  description :=
    match engine.2 with
    | .map fields => Registry.descriptionOf fields
    | _ => ""
  channels :=
    match channels engine.2 with
    | .map channels => collectBy (·.1) (channels.map fun (channel, image) =>
        (channel.display, image.text?.getD ""))
    | _ => []

end Manifest

namespace Registry

/-! ## Images and channels -/

variable (engines : List (Value × Value))

/-- Entries that have names of their own are listed in the strict order of these. -/
theorem pairwise_names {registry : Registry} (distinct : (registry.content.map (·.name)).Nodup) :
    registry.names.Pairwise (· < ·) := by
  have sorted : registry.entries.Pairwise fun earlier later => earlier.name ≤ later.name := by
    have ascending : registry.entries.Pairwise fun earlier later =>
        decide (earlier.name ≤ later.name) = true := by
      apply List.pairwise_mergeSort
      · intro first second third before after
        simp only [decide_eq_true_eq] at before after ⊢
        exact before.trans after
      · intro left right
        simp only [Bool.or_eq_true, decide_eq_true_eq]
        exact le_total left.name right.name
    exact ascending.imp of_decide_eq_true
  have apart : (registry.entries.map (·.name)).Nodup :=
    ((List.mergeSort_perm ..).map _).nodup_iff.mpr distinct
  have both := (List.pairwise_map.mpr sorted).and apart
  exact both.imp fun related => lt_of_le_of_ne related.1 related.2

end Registry

end AnalysisEngines
