import AnalysisEngines.Run.Spec

/-!
Label sets of measurements.

A label set is a map from names to texts, held in ascending order of the names, so that equal maps
are equal values.  A tag is a name and a text with a colon between; without a colon the text is
`true`.
-/

set_option autoImplicit false

namespace AnalysisEngines.Metrics

structure Labels where
  pairs : List (String × String) := []
  deriving DecidableEq, Inhabited

/-- Where a label name is taken by the operation itself. -/
inductive ReservedLabel where
  | labelSet
  | counterValue
  | histogramSnapshot
  deriving DecidableEq

namespace ReservedLabel

def name : ReservedLabel → String
  | .labelSet => "cls"
  | .counterValue | .histogramSnapshot => "self"

def message (reserved : ReservedLabel) : String :=
  (match reserved with
    | .labelSet => "Labels.of"
    | .counterValue => "Counter.value"
    | .histogramSnapshot => "Histogram.snapshot") ++
    "() got multiple values for argument '" ++ reserved.name ++ "'"

end ReservedLabel

namespace Labels

/-- Gives a name a text, in place if the name is there. -/
def assign (name value : String) : List (String × String) → List (String × String)
  | [] => [(name, value)]
  | (known, old) :: rest =>
      if known = name then (known, value) :: rest else (known, old) :: assign name value rest

def ofEntries (entries : List (String × String)) : Labels :=
  ⟨sortedByName (entries.foldl (fun known entry => assign entry.1 entry.2 known) [])⟩

/-- The label set of a map; one name is reserved. -/
def ofMap (entries : List (String × String)) : Except ReservedLabel Labels :=
  if entries.any fun entry => entry.1 == ReservedLabel.labelSet.name then .error .labelSet
  else .ok (ofEntries entries)

def parseTag (tag : String) : String × String :=
  let (name, rest) := tag.toList.span (· != ':')
  (String.ofList name, match rest with
    | [] => "true"
    | _ :: value => String.ofList value)

/-- The label set of a tag list; the last tag of a name counts. -/
def ofTags (tags : List String) : Except ReservedLabel Labels := ofMap (tags.map parseTag)

def toValue (labels : Labels) : Value :=
  Value.textMap (labels.pairs.map fun pair => (pair.1, .text pair.2))

end Labels

end AnalysisEngines.Metrics
