import AnalysisEngines.Yaml.Fault

/-!
Nodes of a document: scalars, lists and mappings, each with a tag that says what it means.
-/

set_option autoImplicit false

namespace AnalysisEngines.Yaml

inductive Tag where
  | null
  | bool
  | int
  | float
  | binary
  | timestamp
  | orderedMap
  | pairs
  | set
  | text
  | list
  | map
  /-- A key that takes over the entries of other mappings. -/
  | merge
  /-- A key whose value stands for its mapping. -/
  | value
  | unknown
  deriving DecidableEq

namespace Tag

def commonStart : String := "tag:yaml.org,2002:"

def ofUri (uri : String) : Tag :=
  if uri = commonStart ++ "null" then .null
  else if uri = commonStart ++ "bool" then .bool
  else if uri = commonStart ++ "int" then .int
  else if uri = commonStart ++ "float" then .float
  else if uri = commonStart ++ "binary" then .binary
  else if uri = commonStart ++ "timestamp" then .timestamp
  else if uri = commonStart ++ "omap" then .orderedMap
  else if uri = commonStart ++ "pairs" then .pairs
  else if uri = commonStart ++ "set" then .set
  else if uri = commonStart ++ "str" then .text
  else if uri = commonStart ++ "seq" then .list
  else if uri = commonStart ++ "map" then .map
  else if uri = commonStart ++ "merge" then .merge
  else if uri = commonStart ++ "value" then .value
  else .unknown

end Tag

inductive Node where
  | scalar (tag : Tag) (text : String)
  | list (tag : Tag) (items : List Node)
  | map (tag : Tag) (entries : List (Node × Node))

namespace Node

def empty : Node := .scalar .null ""

def tag : Node → Tag
  | .scalar tag _ | .list tag _ | .map tag _ => tag

end Node

end AnalysisEngines.Yaml
