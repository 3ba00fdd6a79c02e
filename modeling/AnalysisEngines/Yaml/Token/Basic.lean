/-!
The tokens of a document.

Indentation and the keys of mappings that no mark announces show as tokens of their own, so that
the grammar of documents can be said without columns.
-/

set_option autoImplicit false

namespace AnalysisEngines.Yaml

inductive Directive where
  | version (major minor : Nat)
  | handle (name expansion : String)
  | reserved
  deriving DecidableEq

inductive Token where
  | directive (directive : Directive)
  | documentStart
  | documentEnd
  | textEnd
  | blockListStart
  | blockMapStart
  | blockEnd
  | flowListStart
  | flowListEnd
  | flowMapStart
  | flowMapEnd
  | blockEntry
  | flowEntry
  | key
  | value
  | reference (name : String)
  | anchor (name : String)
  /-- A tag as it is written: a handle and a suffix, or a whole tag. -/
  | tag (handle : Option String) (suffix : String)
  | scalar (text : String) (isPlain : Bool)
  deriving DecidableEq

end AnalysisEngines.Yaml
