import AnalysisEngines.Text.Blank
import AnalysisEngines.Text.LetterCase
import AnalysisEngines.Value.Display
import AnalysisEngines.Yaml.Node.Implicit

/-!
The value of a scalar under its tag.

Underscores in numbers count for nothing.  Numbers with colons are in base sixty.
-/

set_option autoImplicit false

namespace AnalysisEngines.Yaml.Scalar

def withoutUnderscores (text : String) : List Char := text.toList.filter (· != '_')

def digitValue? (base : Nat) (c : Char) : Option Nat :=
  if isHexDigit c || c.isAlpha then
    let value := if c.isDigit then c.toNat - '0'.toNat
      else if 'a' ≤ c then c.toNat - 'a'.toNat + 10
      else c.toNat - 'A'.toNat + 10
    if value < base then some value else none
  else none

/-- The mark behind a zero that may announce a base. -/
def baseMark? : Nat → Option Char
  | 2 => some 'b'
  | 8 => some 'o'
  | 16 => some 'x'
  | _ => none

/-- An integer with blanks around it and a sign in front, in a base that may be announced. -/
def integerIn (base : Nat) (text : List Char) : Except Fault Int :=
  let (negative, body) := Numeral.sign (Text.stripChars Text.isBlank text)
  let digits := match body with
    | '0' :: mark :: rest => if some mark.toLower = baseMark? base then rest else body
    | _ => body
  match digits.mapM (digitValue? base) with
  | some (first :: rest) =>
      let size := rest.foldl (fun total digit => total * base + digit) first
      .ok (if negative then -size else size)
  | _ => .error (.integer base (String.ofList text))

def inBaseSixty {α : Type} (add : α → α → α) (times : α → Nat → α) (zero : α)
    (digits : List α) : α :=
  (digits.reverse.foldl (fun (known : α × Nat) digit =>
    (add known.1 (times digit known.2), known.2 * 60)) (zero, 1)).1

/-- A sign and what follows it; nothing at all is no number. -/
def signed (text : List Char) : Except Fault (Bool × List Char) :=
  if text.isEmpty then .error .emptyNumber else .ok (Numeral.sign text)

def integer (text : String) : Except Fault Int := do
  let (negative, body) ← signed (withoutUnderscores text)
  let size ← match body with
    | [] => throw .emptyNumber
    | '0' :: 'b' :: digits => integerIn 2 digits
    | '0' :: 'x' :: digits => integerIn 16 digits
    | '0' :: _ :: _ => integerIn 8 body
    | _ =>
        if body.contains ':' then do
          let digits ← (Looks.parts body).mapM (integerIn 10)
          pure (inBaseSixty (· + ·) (fun digit base => digit * base) 0 digits)
        else integerIn 10 body
  return if negative then -size else size

def decimalOf (text : List Char) : Except Fault Binary64 :=
  match Binary64.ofText? (Text.strip (String.ofList text)) with
  | some value => .ok value
  | none => .error (.decimal (String.ofList text))

def decimal (text : String) : Except Fault Binary64 := do
  let lowered := (Text.lower (String.ofList (withoutUnderscores text))).toList
  let (negative, body) ← signed lowered
  let size ←
    if body == ".inf".toList then pure (.infinite false)
    else if body == ".nan".toList then pure .nan
    else if body.contains ':' then do
      let digits ← (Looks.parts body).mapM decimalOf
      pure (inBaseSixty Binary64.add (fun digit base => digit.mul (Binary64.ofInt base))
        .zero digits)
    else decimalOf body
  return if negative then size.neg else size

def boolean (text : String) : Except Fault Bool :=
  let word := Text.lower text
  if Looks.trueWords.contains word then .ok true
  else if Looks.falseWords.contains word then .ok false
  else .error (.boolean word)

def isLeapYear (year : Nat) : Bool := year % 4 == 0 && (year % 100 != 0 || year % 400 == 0)

def daysInMonth (year month : Nat) : Nat :=
  if month = 2 then (if isLeapYear year then 29 else 28)
  else if month = 4 ∨ month = 6 ∨ month = 9 ∨ month = 11 then 30
  else 31

def day (written : WrittenDate) : Except Fault CalendarDate :=
  if written.year = 0 then .error (.date (.year written.year))
  else if written.month = 0 ∨ 12 < written.month then .error (.date .month)
  else if written.day = 0 ∨ daysInMonth written.year written.month < written.day then
    .error (.date .day)
  else .ok ⟨written.year, written.month, written.day⟩

/-- An offset has to be less than a day. -/
def offset (written : Option Int) : Except Fault (Option Int) :=
  match written with
  | none => .ok none
  | some seconds =>
      if 86400 ≤ seconds.natAbs then .error (.date (.offset seconds)) else .ok (some seconds)

def clock (written : WrittenTime) : Except Fault TimeOfDay :=
  if 23 < written.hour then .error (.date .hour)
  else if 59 < written.minute then .error (.date .minute)
  else if 59 < written.second then .error (.date .second)
  else .ok ⟨written.hour, written.minute, written.second, written.microsecond⟩

def timestamp (text : String) : Except Fault Value :=
  match WrittenDate.ofChars? (Looks.withoutLineFeed text.toList) with
  | none => .error .notATimestamp
  | some written =>
      match written.time with
      | none => (day written).map .date
      | some time => do
          let offset ← offset time.offset
          let day ← day written
          let clock ← clock time
          return .timestamp day clock offset

/-- A sixth of three bytes. -/
def sextet? (c : Char) : Option Nat :=
  if 'A' ≤ c ∧ c ≤ 'Z' then some (c.toNat - 'A'.toNat)
  else if 'a' ≤ c ∧ c ≤ 'z' then some (c.toNat - 'a'.toNat + 26)
  else if c.isDigit then some (c.toNat - '0'.toNat + 52)
  else if c = '+' then some 62
  else if c = '/' then some 63
  else none

/-- Bytes from groups of four characters, with other characters in between.  `held` are the
sextets of the group so far, and `pads` the padding right before. -/
def bytes : List Char → List Nat → Nat → Option Bytes
  | [], held, _ => if held.isEmpty then some [] else none
  | c :: rest, held, pads =>
      if c = '=' then
        if 2 ≤ held.length ∧ 4 ≤ held.length + pads + 1 then some []
        else bytes rest held (if 2 ≤ held.length then pads + 1 else pads)
      else
        match sextet? c with
        | none => bytes rest held pads
        | some low =>
            let byte (value : Nat) : UInt8 := UInt8.ofNat (value % 256)
            match held with
            | [] => bytes rest [low] 0
            | [first] => (bytes rest [first, low] 0).map (byte (first * 4 + low / 16) :: ·)
            | [first, second] =>
                (bytes rest [first, second, low] 0).map (byte (second * 16 + low / 4) :: ·)
            | _ => (bytes rest [] 0).map (byte (held.getLastD 0 * 64 + low) :: ·)

def binary (text : String) : Except Fault Bytes :=
  if text.toList.any fun c => 127 < c.toNat then .error .malformed
  else match bytes text.toList [] 0 with
    | some content => .ok content
    | none => .error .malformed

def value (tag : Tag) (text : String) : Except Fault Value :=
  match tag with
  | .null => .ok .null
  | .bool => (boolean text).map .bool
  | .int => (integer text).map .int
  | .float => (decimal text).map .float
  | .binary => (binary text).map .bytes
  | .timestamp => timestamp text
  | .text => .ok (.text text)
  | _ => .error .malformed

end AnalysisEngines.Yaml.Scalar
