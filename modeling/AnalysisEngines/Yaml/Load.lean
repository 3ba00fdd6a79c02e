import AnalysisEngines.Yaml.Node.Grammar
import AnalysisEngines.Yaml.Node.Meaning

/-!
Reading a document: from text to the value that it holds.
-/

set_option autoImplicit false

namespace AnalysisEngines.Yaml

/-- The value of a text with one document; a text without any holds nothing. -/
def load (text : String) : Except Fault Value := do
  let chars := text.toList
  if !chars.all isAllowed then throw .malformed
  match ← Node.ofText chars with
  | none => return .null
  | some root => root.value

end AnalysisEngines.Yaml
