import AnalysisEngines.Number.Binary64

/-!
The shortest decimal text of a double-precision number.

`shortestDigits` finds the fewest significant digits that read back as the same number and, among
those, the nearest.  `Layout` holds every choice a written form makes beyond the digits.
-/

set_option autoImplicit false

namespace AnalysisEngines

/-- A positive decimal: the digit string read as an integer, times a power of ten. -/
structure Digits where
  coefficient : Nat
  exponent : Int
  deriving DecidableEq, Inhabited

namespace Binary64

def powerOfTen (exponent : Int) : Rat :=
  if 0 ≤ exponent then (Nat.pow 10 exponent.toNat : Rat)
  else 1 / (Nat.pow 10 (-exponent).toNat : Rat)

/-- The rationals that round to a given positive number. -/
structure Neighbourhood where
  low : Rat
  high : Rat
  closed : Bool

def Neighbourhood.contains (range : Neighbourhood) (value : Rat) : Bool :=
  if range.closed then range.low ≤ value && value ≤ range.high
  else range.low < value && value < range.high

def neighbourhood (value : Rat) : Neighbourhood :=
  let unit := spacing value
  let significand := (value / unit).floor
  let lowerUnit :=
    if significand = Int.pow 2 52 ∧ powerOfTwo (-1074) < unit then unit / 2 else unit
  { low := value - lowerUnit / 2
    high := value + unit / 2
    closed := significand % 2 = 0 }

/-- The decimal order of a positive rational: `10 ^ order ≤ value < 10 ^ (order + 1)`. -/
def decimalOrder (value : Rat) : Int :=
  let guess : Int := (binaryOrder value * 30103) / 100000
  if value < powerOfTen guess then guess - 1
  else if powerOfTen (guess + 1) ≤ value then guess + 1
  else guess

/-- The best decimal with `count` significant digits inside the neighbourhood, if there is one. -/
def digitsOfLength? (value : Rat) (range : Neighbourhood) (order : Int) (count : Nat) :
    Option Digits :=
  let exponent := order + 1 - (count : Int)
  let unit := powerOfTen exponent
  let below := (value / unit).floor
  let lowFits := range.contains ((below : Rat) * unit)
  let highFits := range.contains (((below + 1 : Int) : Rat) * unit)
  let pick (coefficient : Int) : Option Digits := some ⟨coefficient.toNat, exponent⟩
  if lowFits && highFits then pick (nearestInt (value / unit))
  else if lowFits && decide (0 < below) then pick below
  else if highFits then pick (below + 1)
  else none

def shortestDigits (value : Rat) : Digits :=
  let range := neighbourhood value
  let order := decimalOrder value
  ((List.range 17).findSome? fun index =>
    digitsOfLength? value range order (index + 1)).getD ⟨0, 0⟩

end Binary64

/-- Drops trailing zeros of the coefficient. -/
def Digits.trim (digits : Digits) : Digits :=
  go (digits.coefficient.log2 + 1) digits
where
  go : Nat → Digits → Digits
    | 0, current => current
    | fuel + 1, current =>
        if current.coefficient ≠ 0 ∧ current.coefficient % 10 = 0 then
          go fuel ⟨current.coefficient / 10, current.exponent + 1⟩
        else current

/-- The choices of a written form: which decimal orders are written without an exponent, and how
the special values read. -/
structure Layout where
  positionalFrom : Int
  positionalBelow : Int
  exponentWidth : Nat
  infinity : String
  undefined : String

/-- Numbers in reports and messages: positional from `0.0001` to below `10 ^ 16`, at least one
decimal place, otherwise a two-digit signed exponent. -/
def Layout.report : Layout :=
  { positionalFrom := -4, positionalBelow := 16, exponentWidth := 2
    infinity := "inf", undefined := "nan" }

def padLeft (width : Nat) (filler : Char) (text : String) : String :=
  String.ofList (List.replicate (width - text.length) filler) ++ text

def Layout.positional (digits : String) (point : Int) : String :=
  if point ≤ 0 then
    "0." ++ String.ofList (List.replicate (-point).toNat '0') ++ digits
  else if (digits.length : Int) ≤ point then
    digits ++ String.ofList (List.replicate (point.toNat - digits.length) '0') ++ ".0"
  else
    String.ofList (digits.toList.take point.toNat) ++ "." ++
      String.ofList (digits.toList.drop point.toNat)

def Layout.scientific (layout : Layout) (digits : String) (order : Int) : String :=
  let mantissa := match digits.toList with
    | [] => "0"
    | [first] => String.singleton first
    | first :: rest => String.singleton first ++ "." ++ String.ofList rest
  let sign := if order < 0 then "-" else "+"
  mantissa ++ "e" ++ sign ++ padLeft layout.exponentWidth '0' (toString order.natAbs)

def Layout.write (layout : Layout) (number : Binary64) : String :=
  let magnitude (value : Rat) : String :=
    let digits := (Binary64.shortestDigits value).trim
    let text := toString digits.coefficient
    let order := digits.exponent + (text.length : Int) - 1
    if layout.positionalFrom ≤ order ∧ order < layout.positionalBelow then
      Layout.positional text (order + 1)
    else layout.scientific text order
  match number with
  | .nan => layout.undefined
  | .infinite negative => (if negative then "-" else "") ++ layout.infinity
  | .negativeZero => "-0.0"
  | .finite value =>
      if value = 0 then "0.0"
      else if value < 0 then "-" ++ magnitude (-value)
      else magnitude value

def Binary64.text (number : Binary64) : String := Layout.report.write number

end AnalysisEngines
