import AnalysisEngines.Value.Basic
import AnalysisEngines.Yaml.Cursor

/-!
Reading a JSON document as a value.

Besides numerals, `NaN`, `Infinity` and `-Infinity` are numbers.  A name that an object repeats
keeps its first place and gets the last value.
-/

set_option autoImplicit false

namespace AnalysisEngines.Json

def isSpace (c : Char) : Bool := c == ' ' || c == '\t' || c == '\n' || c == '\r'

def skipSpace (text : List Char) : List Char := text.dropWhile isSpace

/-- What follows a word, if the text starts with it. -/
def after? (word : String) (text : List Char) : Option (List Char) :=
  if word.toList.isPrefixOf text then some (text.drop word.length) else none

def simpleEscape? : Char → Option Char
  | '"' => some '"'
  | '\\' => some '\\'
  | '/' => some '/'
  | 'b' => some '\x08'
  | 'f' => some '\x0c'
  | 'n' => some '\n'
  | 'r' => some '\r'
  | 't' => some '\t'
  | _ => none

/-- The number of four hexadecimal digits, and what follows them. -/
def fourDigits? (text : List Char) : Option (Nat × List Char) :=
  let digits := text.take 4
  if digits.length = 4 && digits.all Yaml.isHexDigit then
    some (Yaml.ofHexDigits digits, text.drop 4)
  else none

def isHighHalf (code : Nat) : Bool := 0xd800 ≤ code && code < 0xdc00

def isLowHalf (code : Nat) : Bool := 0xdc00 ≤ code && code < 0xe000

/-- The character of a numeric escape; a pair of halves is one character, and a half alone is
none. -/
def numericEscape? (text : List Char) : Option (Char × List Char) := do
  let (code, rest) ← fourDigits? text
  if isHighHalf code then
    let (low, rest) ← fourDigits? (← after? "\\u" rest)
    if isLowHalf low then
      return (Char.ofNat (0x10000 + (code - 0xd800) * 0x400 + (low - 0xdc00)), rest)
    else none
  else if isLowHalf code then none
  else return (Char.ofNat code, rest)

def escape? : List Char → Option (Char × List Char)
  | 'u' :: rest => numericEscape? rest
  | c :: rest => (simpleEscape? c).map fun meant => (meant, rest)
  | [] => none

/-- The rest of a string behind its opening quote. -/
def string? : Nat → List Char → Option (List Char × List Char)
  | 0, _ => none
  | _ + 1, [] => none
  | _ + 1, '"' :: rest => some ([], rest)
  | fuel + 1, '\\' :: rest => do
      let (c, rest) ← escape? rest
      let (later, rest) ← string? fuel rest
      return (c :: later, rest)
  | fuel + 1, c :: rest =>
      if c.toNat < 0x20 then none
      else (string? fuel rest).map fun (later, rest) => (c :: later, rest)

/-- The longest integer that is read. -/
def longestInteger : Nat := 4300

/-- A point with digits behind it; without digits the point is no part of the numeral. -/
def fraction (text : List Char) : List Char × List Char :=
  match text with
  | '.' :: rest =>
      let (digits, rest) := Numeral.spanDigits rest
      if digits.isEmpty then ([], text) else (digits, rest)
  | _ => ([], text)

def exponent? (text : List Char) : Option (Int × List Char) :=
  match text with
  | mark :: rest =>
      if mark = 'e' ∨ mark = 'E' then
        let (negative, rest) := Numeral.sign rest
        let (digits, rest) := Numeral.spanDigits rest
        let size : Int := Numeral.natOfDigits digits
        if digits.isEmpty then none else some (if negative then -size else size, rest)
      else none
  | [] => none

/-- An unsigned numeral has no zeros in front.  With a fraction or an exponent it is a
double-precision number. -/
def unsigned? (negative : Bool) (text : List Char) : Option (Number × List Char) :=
  let (whole, rest) : List Char × List Char := match text with
    | '0' :: rest => (['0'], rest)
    | _ => Numeral.spanDigits text
  if whole.isEmpty then none
  else
    let (decimals, rest) := fraction rest
    match decimals.isEmpty, exponent? rest with
    | true, none =>
        if longestInteger < whole.length then none
        else
          let size : Int := Numeral.natOfDigits whole
          some (.int (if negative then -size else size), rest)
    | _, power =>
        let (exponent, rest) := power.getD (0, rest)
        let numeral : Numeral :=
          { negative, coefficient := Numeral.natOfDigits (whole ++ decimals)
            exponent := exponent - (decimals.length : Int) }
        some (.float numeral.toBinary64, rest)

def words : List (String × Value) :=
  [("null", .null), ("true", .bool true), ("false", .bool false), ("NaN", .float .nan),
    ("Infinity", .float (.infinite false)), ("-Infinity", .float (.infinite true))]

def word? (text : List Char) : Option (Value × List Char) :=
  words.findSome? fun (word, value) => (after? word text).map fun rest => (value, rest)

def number? (text : List Char) : Option (Number × List Char) :=
  match text with
  | '-' :: rest => unsigned? true rest
  | _ => unsigned? false text

mutual

/-- A value at the start of a text, and what follows it. -/
def value? : Nat → List Char → Option (Value × List Char)
  | 0, _ => none
  | fuel + 1, text =>
      match text with
      | '"' :: rest =>
          (string? (rest.length + 1) rest).map fun (content, rest) =>
            (.text (String.ofList content), rest)
      | '[' :: rest =>
          match skipSpace rest with
          | ']' :: rest => some (.list [], rest)
          | rest => (items? fuel rest).map fun (items, rest) => (.list items, rest)
      | '\x7b' :: rest =>
          match skipSpace rest with
          | '\x7d' :: rest => some (.map [], rest)
          | rest => (members? fuel rest).map fun (members, rest) =>
              (Value.mapOfList members, rest)
      | _ => (word? text).or ((number? text).map fun (number, rest) => (.number number, rest))

/-- The items of an array up to its end. -/
def items? : Nat → List Char → Option (List Value × List Char)
  | 0, _ => none
  | fuel + 1, text => do
      let (item, rest) ← value? fuel text
      match skipSpace rest with
      | ']' :: rest => return ([item], rest)
      | ',' :: rest =>
          let (later, rest) ← items? fuel (skipSpace rest)
          return (item :: later, rest)
      | _ => none

/-- The members of an object up to its end. -/
def members? : Nat → List Char → Option (List (Value × Value) × List Char)
  | 0, _ => none
  | fuel + 1, text => do
      let (name, rest) ← string? text.length (← after? "\"" text)
      let (value, rest) ← value? fuel (skipSpace (← after? ":" (skipSpace rest)))
      let member : Value × Value := (.text (String.ofList name), value)
      match skipSpace rest with
      | '\x7d' :: rest => return ([member], rest)
      | ',' :: rest =>
          let (later, rest) ← members? fuel (skipSpace rest)
          return (member :: later, rest)
      | _ => none

end

/-- The value of a document with white space around it. -/
def read? (text : String) : Option Value := do
  let chars := text.toList
  let (value, rest) ← value? (chars.length + 1) (skipSpace chars)
  if (skipSpace rest).isEmpty then return value else none

end AnalysisEngines.Json
