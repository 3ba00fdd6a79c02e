import AnalysisEngines.Text.Printable

/-!
Quoted text as messages show it.

Single quotes delimit unless the text holds one and no double quote.  Characters that are not
printable are written as the shortest hexadecimal escape that fits.
-/

set_option autoImplicit false

namespace AnalysisEngines.Text

def hexDigits (width : Nat) (code : Nat) : String :=
  let digits := String.ofList (Nat.toDigits 16 code)
  String.ofList (List.replicate (width - digits.length) '0') ++ digits

def escapeChar (quote : Char) (c : Char) : String :=
  if c = quote ∨ c = '\\' then "\\" ++ String.singleton c
  else if c = '\n' then "\\n"
  else if c = '\r' then "\\r"
  else if c = '\t' then "\\t"
  else if isPrintable c then String.singleton c
  else if c.toNat < 0x100 then "\\x" ++ hexDigits 2 c.toNat
  else if c.toNat < 0x10000 then "\\u" ++ hexDigits 4 c.toNat
  else "\\U" ++ hexDigits 8 c.toNat

def quoteFor (text : String) : Char :=
  if text.toList.contains '\'' && !text.toList.contains '"' then '"' else '\''

def quoted (text : String) : String :=
  let quote := quoteFor text
  String.singleton quote ++ String.join (text.toList.map (escapeChar quote)) ++
    String.singleton quote

end AnalysisEngines.Text
