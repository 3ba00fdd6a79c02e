import AnalysisEngines.Text.Quoted
import AnalysisEngines.Value.Basic

/-!
How values read in messages: `Value.quoted` shows a value so that its kind is plain, and
`Value.display` shows a text as itself.
-/

set_option autoImplicit false

namespace AnalysisEngines

def CalendarDate.iso (day : CalendarDate) : String :=
  padLeft 4 '0' (toString day.year) ++ "-" ++ padLeft 2 '0' (toString day.month) ++ "-" ++
    padLeft 2 '0' (toString day.day)

def TimeOfDay.iso (time : TimeOfDay) : String :=
  padLeft 2 '0' (toString time.hour) ++ ":" ++ padLeft 2 '0' (toString time.minute) ++ ":" ++
    padLeft 2 '0' (toString time.second) ++
    (if time.microsecond = 0 then "" else "." ++ padLeft 6 '0' (toString time.microsecond))

namespace Value

/-- The name of a value's kind in messages. -/
def kindName : Value → String
  | .null => "NoneType"
  | .bool _ => "bool"
  | .number (.int _) => "int"
  | .number (.float _) => "float"
  | .text _ => "str"
  | .bytes _ => "bytes"
  | .date _ => "date"
  | .timestamp .. => "datetime"
  | .list _ => "list"
  | .pair .. => "tuple"
  | .set _ => "set"
  | .map _ => "dict"

def boolText (value : Bool) : String := if value then "True" else "False"

def quotedByte (quote : Char) (byte : UInt8) : String :=
  let c := Char.ofNat byte.toNat
  if c = quote ∨ c = '\\' then "\\" ++ String.singleton c
  else if c = '\n' then "\\n"
  else if c = '\r' then "\\r"
  else if c = '\t' then "\\t"
  else if 0x20 ≤ byte.toNat ∧ byte.toNat < 0x7f then String.singleton c
  else "\\x" ++ Text.hexDigits 2 byte.toNat

def quotedBytes (bytes : Bytes) : String :=
  let quote := if bytes.contains 0x27 && !bytes.contains 0x22 then '"' else '\''
  "b" ++ String.singleton quote ++ String.join (bytes.map (quotedByte quote)) ++
    String.singleton quote

/-- An offset from universal time as hours and minutes, with seconds only if there are any. -/
def offsetText (offset : Int) : String :=
  let size := offset.natAbs
  (if offset < 0 then "-" else "+") ++ padLeft 2 '0' (toString (size / 3600)) ++ ":" ++
    padLeft 2 '0' (toString (size / 60 % 60)) ++
    (if size % 60 = 0 then "" else ":" ++ padLeft 2 '0' (toString (size % 60)))

def quotedOffset (offset : Int) : String :=
  if offset = 0 then "datetime.timezone.utc"
  else
    let days := offset.fdiv 86400
    let seconds := offset.fmod 86400
    let parts := (if days = 0 then [] else ["days=" ++ toString days]) ++
      (if seconds = 0 then [] else ["seconds=" ++ toString seconds])
    "datetime.timezone(datetime.timedelta(" ++ ", ".intercalate parts ++ "))"

def quotedTimestamp (day : CalendarDate) (time : TimeOfDay) (offset : Option Int) : String :=
  let clock := [toString time.hour, toString time.minute] ++
    (if time.second = 0 ∧ time.microsecond = 0 then [] else [toString time.second]) ++
    (if time.microsecond = 0 then [] else [toString time.microsecond])
  let zone := match offset with
    | none => []
    | some seconds => ["tzinfo=" ++ quotedOffset seconds]
  "datetime.datetime(" ++
    ", ".intercalate ([toString day.year, toString day.month, toString day.day] ++ clock ++ zone)
    ++ ")"

mutual

def quoted : Value → String
  | .null => "None"
  | .bool value => boolText value
  | .number value => value.text
  | .text value => Text.quoted value
  | .bytes value => quotedBytes value
  | .date day =>
      "datetime.date(" ++ toString day.year ++ ", " ++ toString day.month ++ ", " ++
        toString day.day ++ ")"
  | .timestamp day time offset => quotedTimestamp day time offset
  | .list items => "[" ++ ", ".intercalate (quotedItems items) ++ "]"
  | .pair left right => "(" ++ quoted left ++ ", " ++ quoted right ++ ")"
  | .set [] => "set()"
  | .set items => "\x7b" ++ ", ".intercalate (quotedItems items) ++ "\x7d"
  | .map entries => "\x7b" ++ ", ".intercalate (quotedEntries entries) ++ "\x7d"

def quotedItems : List Value → List String
  | [] => []
  | item :: rest => quoted item :: quotedItems rest

def quotedEntries : List (Value × Value) → List String
  | [] => []
  | (key, value) :: rest => (quoted key ++ ": " ++ quoted value) :: quotedEntries rest

end

def display : Value → String
  | .text value => value
  | .date day => day.iso
  | .timestamp day time offset =>
      day.iso ++ " " ++ time.iso ++ (match offset with
        | none => ""
        | some seconds => offsetText seconds)
  | other => quoted other

end Value

end AnalysisEngines
