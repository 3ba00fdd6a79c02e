import AnalysisEngines.Number.Reading
import AnalysisEngines.Value.Basic
import AnalysisEngines.Yaml.Cursor
import AnalysisEngines.Yaml.Node.Basic

/-!
What a plain scalar means by its looks.

`Tag.ofPlain` tells numbers, truth values, dates and nothing from text.  A line feed at the end of
a scalar does not change its looks.
-/

set_option autoImplicit false

namespace AnalysisEngines.Yaml

/-- A day and a time as they are written, before anyone asks whether they exist. -/
structure WrittenTime where
  hour : Nat
  minute : Nat
  second : Nat
  microsecond : Nat
  /-- The offset from universal time in seconds, if there is one. -/
  offset : Option Int

structure WrittenDate where
  year : Nat
  month : Nat
  day : Nat
  /-- Month and day have two digits each. -/
  isPadded : Bool
  time : Option WrittenTime

namespace WrittenDate

abbrev Reader : Type → Type := StateT (List Char) Option

def natOfDigits (digits : List Char) : Nat := Numeral.natOfDigits digits

/-- At least one and at most two digits. -/
def oneOrTwoDigits : Reader (List Char) := fun text =>
  match text with
  | first :: second :: rest =>
      if !first.isDigit then none
      else if second.isDigit then some ([first, second], rest)
      else some ([first], second :: rest)
  | [first] => if first.isDigit then some ([first], []) else none
  | [] => none

def digits (count : Nat) : Reader (List Char) := fun text =>
  let run := text.take count
  if run.length = count ∧ run.all Char.isDigit then some (run, text.drop count) else none

def char (c : Char) : Reader Unit := fun text =>
  match text with
  | first :: rest => if first = c then some ((), rest) else none
  | [] => none

def blanks : Reader (List Char) := fun text => some (text.span isTabOrSpace)

/-- Digits of a fraction of a second, cut to millionths. -/
def microseconds (fraction : List Char) : Nat :=
  natOfDigits ((fraction ++ List.replicate 6 '0').take 6)

def fraction : Reader Nat := fun text =>
  match text with
  | '.' :: rest =>
      let (run, rest) := rest.span Char.isDigit
      some (microseconds run, rest)
  | _ => some (0, text)

/-- The minutes of an offset, if a colon announces them. -/
def offsetMinutes : Reader Nat := fun text =>
  match text with
  | ':' :: _ => (do char ':'; return natOfDigits (← digits 2)).run text
  | _ => some (0, text)

def zone : Reader (Option Int) := fun text =>
  match text.span isTabOrSpace with
  | (_, 'Z' :: rest) => some (some 0, rest)
  | (_, '+' :: rest) => (amount 1).run rest
  | (_, '-' :: rest) => (amount (-1)).run rest
  | _ => some (none, text)
where
  amount (sign : Int) : Reader (Option Int) := do
    let hours := natOfDigits (← oneOrTwoDigits)
    let minutes ← offsetMinutes
    return some (sign * ((hours * 3600 + minutes * 60 : Nat) : Int))

/-- A letter or blanks between the day and the time. -/
def joint : Reader Unit := fun text =>
  match text with
  | 'T' :: rest | 't' :: rest => some ((), rest)
  | _ =>
      match text.span isTabOrSpace with
      | ([], _) => none
      | (_, rest) => some ((), rest)

def timePart : Reader WrittenTime := do
  joint
  let hour := natOfDigits (← oneOrTwoDigits)
  char ':'
  let minute := natOfDigits (← digits 2)
  char ':'
  let second := natOfDigits (← digits 2)
  let microsecond ← fraction
  let offset ← zone
  return { hour, minute, second, microsecond, offset }

def datePart : Reader WrittenDate := do
  let year := natOfDigits (← digits 4)
  char '-'
  let month ← oneOrTwoDigits
  char '-'
  let day ← oneOrTwoDigits
  let known : WrittenDate :=
    { year
      month := natOfDigits month
      day := natOfDigits day
      isPadded := month.length == 2 && day.length == 2
      time := none }
  if (← get).isEmpty then return known
  else return { known with time := some (← timePart) }

def ofChars? (text : List Char) : Option WrittenDate :=
  match datePart.run text with
  | some (date, []) => some date
  | _ => none

end WrittenDate

namespace Looks

def isDigitOrUnderscore (c : Char) : Bool := c.isDigit || c == '_'

/-- Digits with underscores after the first one. -/
def isGrouped : List Char → Bool
  | first :: rest => first.isDigit && rest.all isDigitOrUnderscore
  | [] => false

/-- A part in base sixty: one digit, or two of which the first is below six. -/
def isSixtieth : List Char → Bool
  | [digit] => digit.isDigit
  | [high, low] => '0' ≤ high && high ≤ '5' && low.isDigit
  | _ => false

/-- The parts of a text between colons. -/
def parts (text : List Char) : List (List Char) :=
  text.foldr (fun c (known : List (List Char)) =>
    match known with
    | part :: rest => if c == ':' then [] :: part :: rest else (c :: part) :: rest
    | [] => []) [[]]

def isInteger (text : List Char) : Bool :=
  match (Numeral.sign text).2 with
  | '0' :: 'b' :: digits => !digits.isEmpty && digits.all fun c => c == '0' || c == '1' || c == '_'
  | '0' :: 'x' :: digits => !digits.isEmpty && digits.all fun c => isHexDigit c || c == '_'
  | '0' :: digits => digits.all fun c => ('0' ≤ c && c ≤ '7') || c == '_'
  | body =>
      match parts body with
      | whole :: sixtieths => isGrouped whole && sixtieths.all isSixtieth
      | [] => false

/-- An exponent with a sign, or nothing. -/
def isExponent : List Char → Bool
  | [] => true
  | mark :: sign :: digits =>
      (mark == 'e' || mark == 'E') && (sign == '-' || sign == '+') && !digits.isEmpty &&
        digits.all Char.isDigit
  | _ => false

def isFraction (text : List Char) : Bool := isExponent (text.dropWhile isDigitOrUnderscore)

def isDecimal (text : List Char) : Bool :=
  let (whole, rest) := ((Numeral.sign text).2).span (· != '.')
  match rest with
  | [] => false
  | _ :: fraction =>
      match whole with
      | [] =>
          let name := String.ofList fraction
          (name == "inf" || name == "Inf" || name == "INF") ||
            (text.head? == some '.' &&
              ((name == "nan" || name == "NaN" || name == "NAN") ||
                ((fraction.head?.any Char.isDigit) && isFraction fraction)))
      | _ =>
          match parts whole with
          | [digits] => isGrouped digits && isFraction fraction
          | digits :: sixtieths =>
              isGrouped digits && sixtieths.all isSixtieth && fraction.all isDigitOrUnderscore
          | [] => false

def isTimestamp (text : List Char) : Bool :=
  (WrittenDate.ofChars? text).any fun date => date.isPadded || date.time.isSome

def nullWords : List String := ["", "~", "null", "Null", "NULL"]

def trueWords : List String := ["yes", "true", "on"]

def falseWords : List String := ["no", "false", "off"]

/-- In lower case, in upper case, or with one capital. -/
def casings (word : String) : List String :=
  [word, String.ofList (word.toList.map Char.toUpper), word.capitalize]

def boolWords : List String := (trueWords ++ falseWords).flatMap casings

def withoutLineFeed (text : List Char) : List Char :=
  if text.getLast? == some '\n' then text.dropLast else text

end Looks

open Looks in
def Tag.ofPlain (given : String) : Tag :=
  let chars := withoutLineFeed given.toList
  let text := String.ofList chars
  if boolWords.contains text then .bool
  else if isDecimal chars then .float
  else if isInteger chars then .int
  else if text == "<<" then .merge
  else if given == "" || (text != "" && nullWords.contains text) then .null
  else if isTimestamp chars then .timestamp
  else if text == "=" then .value
  else if text == "!" || text == "&" || text == "*" then .unknown
  else .text

end AnalysisEngines.Yaml
