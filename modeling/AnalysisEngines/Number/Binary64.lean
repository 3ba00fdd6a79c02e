/-!
Double-precision numbers with exact rational values.

Every finite number is held as the rational it stands for, so comparison is comparison of
rationals and an operation is the exact operation followed by one rounding.  `ofRat` rounds to
the nearest representable value; of two equally near ones it takes the even significand.
-/

set_option autoImplicit false

namespace AnalysisEngines

/-- A double-precision number.  Zero has two forms; `finite 0` is the positive one. -/
inductive Binary64 where
  | finite (value : Rat)
  | negativeZero
  | infinite (negative : Bool)
  | nan
  deriving DecidableEq, Inhabited

namespace Binary64

/-- Integers nearest to a rational; a half goes to the even neighbour. -/
def nearestInt (value : Rat) : Int :=
  let below := value.floor
  let rest := value - below
  if rest < 1 / 2 then below
  else if 1 / 2 < rest then below + 1
  else if below % 2 = 0 then below else below + 1

def powerOfTwo (exponent : Int) : Rat :=
  if 0 ≤ exponent then (Nat.pow 2 exponent.toNat : Rat)
  else 1 / (Nat.pow 2 (-exponent).toNat : Rat)

/-- The binary order of a positive rational: `2 ^ order ≤ value < 2 ^ (order + 1)`. -/
def binaryOrder (value : Rat) : Int :=
  let guess : Int := (value.num.natAbs.log2 : Int) - (value.den.log2 : Int)
  if value < powerOfTwo guess then guess - 1 else guess

/-- The distance between representable values around a positive rational. -/
def spacing (value : Rat) : Rat :=
  powerOfTwo (max (binaryOrder value - 52) (-1074))

def largestOrder : Nat := 1024

/-- The representable value nearest to a rational. -/
def ofRat (value : Rat) : Binary64 :=
  if value = 0 then .finite 0
  else
    let magnitude := if value < 0 then -value else value
    let unit := spacing magnitude
    let rounded := (nearestInt (magnitude / unit) : Rat) * unit
    if rounded = 0 then (if value < 0 then .negativeZero else .finite 0)
    else if (Nat.pow 2 largestOrder : Rat) ≤ rounded then .infinite (value < 0)
    else .finite (if value < 0 then -rounded else rounded)

def ofInt (value : Int) : Binary64 := ofRat value

def zero : Binary64 := .finite 0

/-- The exact value; infinities and the undefined value have none. -/
def toRat? : Binary64 → Option Rat
  | .finite value => some value
  | .negativeZero => some 0
  | .infinite _ => none
  | .nan => none

def isNegative : Binary64 → Bool
  | .finite value => value < 0
  | .negativeZero => true
  | .infinite negative => negative
  | .nan => false

/-- Numerical order, false when either side is undefined. -/
def lt : Binary64 → Binary64 → Bool
  | .nan, _ => false
  | _, .nan => false
  | .infinite left, .infinite right => left && !right
  | .infinite left, _ => left
  | _, .infinite right => !right
  | left, right =>
      match left.toRat?, right.toRat? with
      | some leftValue, some rightValue => leftValue < rightValue
      | _, _ => false

/-- Numerical equality: both zeros are equal and an undefined value equals nothing. -/
def numericallyEqual : Binary64 → Binary64 → Bool
  | .nan, _ => false
  | _, .nan => false
  | .infinite left, .infinite right => left == right
  | left, right =>
      match left.toRat?, right.toRat? with
      | some leftValue, some rightValue => leftValue == rightValue
      | _, _ => false

def le (left right : Binary64) : Bool :=
  left.lt right || left.numericallyEqual right

def neg : Binary64 → Binary64
  | .finite value => if value = 0 then .negativeZero else .finite (-value)
  | .negativeZero => .finite 0
  | .infinite negative => .infinite (!negative)
  | .nan => .nan

def add : Binary64 → Binary64 → Binary64
  | .nan, _ => .nan
  | _, .nan => .nan
  | .infinite left, .infinite right => if left == right then .infinite left else .nan
  | .infinite left, _ => .infinite left
  | _, .infinite right => .infinite right
  | .negativeZero, .negativeZero => .negativeZero
  | left, right =>
      match left.toRat?, right.toRat? with
      | some leftValue, some rightValue => ofRat (leftValue + rightValue)
      | _, _ => .nan

def sub (left right : Binary64) : Binary64 := left.add right.neg

def mul (left right : Binary64) : Binary64 :=
  let negative := left.isNegative != right.isNegative
  match left, right with
  | .nan, _ => .nan
  | _, .nan => .nan
  | .infinite _, other => if other.toRat? == some 0 then .nan else .infinite negative
  | other, .infinite _ => if other.toRat? == some 0 then .nan else .infinite negative
  | _, _ =>
      match left.toRat?, right.toRat? with
      | some leftValue, some rightValue =>
          if leftValue = 0 ∨ rightValue = 0 then
            (if negative then .negativeZero else .finite 0)
          else ofRat (leftValue * rightValue)
      | _, _ => .nan

/-- The value with at most `places` decimal places nearest to a number, a half going to the even
neighbour, as a number again. -/
def roundPlaces (places : Nat) (number : Binary64) : Binary64 :=
  match number with
  | .finite value =>
      let scale : Rat := (Nat.pow 10 places : Rat)
      let scaled := nearestInt (value * scale)
      if scaled = 0 then (if value < 0 then .negativeZero else .finite 0)
      else ofRat ((scaled : Rat) / scale)
  | other => other

instance : LT Binary64 := ⟨fun left right => left.lt right = true⟩
instance : LE Binary64 := ⟨fun left right => left.le right = true⟩
instance : Add Binary64 := ⟨add⟩
instance (left right : Binary64) : Decidable (left < right) :=
  inferInstanceAs (Decidable (left.lt right = true))
instance (left right : Binary64) : Decidable (left ≤ right) :=
  inferInstanceAs (Decidable (left.le right = true))

end Binary64

end AnalysisEngines
