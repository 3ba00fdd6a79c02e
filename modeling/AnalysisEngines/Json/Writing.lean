import AnalysisEngines.Value.Display

/-!
A value as the text of a JSON document.

The text has ASCII characters only, on one line.  Values that JSON has no form for are written as
texts that show them.
-/

set_option autoImplicit false

namespace AnalysisEngines.Json

def unicodeEscape (code : Nat) : String := "\\u" ++ Text.hexDigits 4 code

/-- Characters beyond four hexadecimal digits are written as two halves. -/
def escapeChar (c : Char) : String :=
  let code := c.toNat
  if c = '"' then "\\\""
  else if c = '\\' then "\\\\"
  else if c = '\n' then "\\n"
  else if c = '\r' then "\\r"
  else if c = '\t' then "\\t"
  else if c = '\x08' then "\\b"
  else if c = '\x0c' then "\\f"
  else if 0x20 ≤ code ∧ code < 0x7f then String.singleton c
  else if code < 0x10000 then unicodeEscape code
  else
    unicodeEscape (0xd800 + (code - 0x10000) / 0x400) ++
      unicodeEscape (0xdc00 + (code - 0x10000) % 0x400)

def quoted (text : String) : String :=
  "\"" ++ String.join (text.toList.map escapeChar) ++ "\""

def floatText : Binary64 → String
  | .nan => "NaN"
  | .infinite negative => if negative then "-Infinity" else "Infinity"
  | finite => finite.text

def numberText : Number → String
  | .int number => toString number
  | .float number => floatText number

/-- The name of a member with a key. -/
def memberName : Value → String
  | .null => "null"
  | .bool value => if value then "true" else "false"
  | .number number => numberText number
  | .text text => text
  | other => other.quoted

mutual

def write : Value → String
  | .null => "null"
  | .bool value => if value then "true" else "false"
  | .number number => numberText number
  | .text text => quoted text
  | .list items => "[" ++ ", ".intercalate (writeItems items) ++ "]"
  | .pair left right => "[" ++ write left ++ ", " ++ write right ++ "]"
  | .map entries => "\x7b" ++ ", ".intercalate (writeMembers entries) ++ "\x7d"
  | other => quoted other.quoted

def writeItems : List Value → List String
  | [] => []
  | item :: rest => write item :: writeItems rest

def writeMembers : List (Value × Value) → List String
  | [] => []
  | (key, value) :: rest =>
      (quoted (memberName key) ++ ": " ++ write value) :: writeMembers rest

end

end AnalysisEngines.Json
