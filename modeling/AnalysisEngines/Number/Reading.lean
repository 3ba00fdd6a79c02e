import AnalysisEngines.Number.Binary64

/-!
Reading decimal numerals.

`Numeral` is a signed decimal with an optional fraction and exponent, read from characters;
`Numeral.toBinary64` is its nearest double-precision number.
-/

set_option autoImplicit false

namespace AnalysisEngines

structure Numeral where
  negative : Bool
  coefficient : Nat
  exponent : Int
  deriving DecidableEq

namespace Numeral

def digit? (c : Char) : Option Nat :=
  if '0' ≤ c ∧ c ≤ '9' then some (c.toNat - '0'.toNat) else none

def isDigit (c : Char) : Bool := (digit? c).isSome

def natOfDigits (digits : List Char) : Nat :=
  digits.foldl (fun total c => total * 10 + (digit? c).getD 0) 0

/-- The longest leading run of digits and what follows it. -/
def spanDigits (text : List Char) : List Char × List Char := text.span isDigit

/-- Splits a leading sign off. -/
def sign : List Char → Bool × List Char
  | '-' :: rest => (true, rest)
  | '+' :: rest => (false, rest)
  | text => (false, text)

/-- Digits in groups: single underscores may stand between digits. -/
def dropUnderscores? (text : List Char) : Option (List Char) :=
  go none text
where
  go (previous : Option Char) : List Char → Option (List Char)
    | [] => some []
    | '_' :: rest =>
        match previous, rest with
        | some before, after :: _ =>
            if isDigit before && isDigit after then go (some '_') rest else none
        | _, _ => none
    | c :: rest => (go (some c) rest).map (c :: ·)

/-- An exponent mark, an optional sign and at least one digit; nothing at all is exponent zero. -/
def exponent? : List Char → Option Int
  | [] => some 0
  | mark :: rest =>
      if mark = 'e' ∨ mark = 'E' then
        let (negative, digits) := sign rest
        if digits.isEmpty || !digits.all isDigit then none
        else
          let size : Int := natOfDigits digits
          some (if negative then -size else size)
      else none

/-- An unsigned decimal with at least one digit before or after the point. -/
def unsigned? (negative : Bool) (text : List Char) : Option Numeral :=
  let (whole, rest) := spanDigits text
  let (fraction, rest) := match rest with
    | '.' :: tail => spanDigits tail
    | other => ([], other)
  if whole.isEmpty && fraction.isEmpty then none
  else (exponent? rest).map fun exponent =>
    { negative, coefficient := natOfDigits (whole ++ fraction)
      exponent := exponent - (fraction.length : Int) }

def ofChars? (text : List Char) : Option Numeral :=
  let (negative, rest) := sign text
  unsigned? negative rest

/-- The nearest double-precision number.  Orders far outside the representable range are settled
without computing the power of ten. -/
def toBinary64 (numeral : Numeral) : Binary64 :=
  if numeral.coefficient = 0 then (if numeral.negative then .negativeZero else .finite 0)
  else
    let order : Int := numeral.exponent + (Nat.log2 numeral.coefficient : Int)
    if 2000 < numeral.exponent then .infinite numeral.negative
    else if order < -2000 then (if numeral.negative then .negativeZero else .finite 0)
    else
      let size : Rat :=
        if 0 ≤ numeral.exponent then
          ((numeral.coefficient * Nat.pow 10 numeral.exponent.toNat : Nat) : Rat)
        else (numeral.coefficient : Rat) / (Nat.pow 10 (-numeral.exponent).toNat : Rat)
      Binary64.ofRat (if numeral.negative then -size else size)

end Numeral

/-- The names of the values that no numeral denotes, in any letter case. -/
def Binary64.named? (text : List Char) : Option Binary64 :=
  let (negative, rest) := Numeral.sign text
  let name := String.ofList (rest.map Char.toLower)
  if name = "inf" ∨ name = "infinity" then some (.infinite negative)
  else if name = "nan" then some .nan
  else none

/-- Reads a number as a person would type it: named values, and numerals whose digits may be
grouped by underscores. -/
def Binary64.ofText? (text : String) : Option Binary64 :=
  match Binary64.named? text.toList with
  | some value => some value
  | none => do
      let digits ← Numeral.dropUnderscores? text.toList
      let numeral ← Numeral.ofChars? digits
      return numeral.toBinary64

/-- Reads a signed integer whose digits may be grouped by underscores. -/
def Numeral.int? (text : String) : Option Int := do
  let (negative, rest) := Numeral.sign text.toList
  let digits ← Numeral.dropUnderscores? rest
  if digits.isEmpty || !digits.all Numeral.isDigit then none
  else
    let size : Int := Numeral.natOfDigits digits
    some (if negative then -size else size)

end AnalysisEngines
