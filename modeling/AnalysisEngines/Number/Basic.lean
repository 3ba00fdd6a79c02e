import AnalysisEngines.Number.Reading
import AnalysisEngines.Number.Shortest

/-!
Numbers as configuration and measurements give them: integers of any size, or double-precision
numbers.  The two kinds compare by exact value.
-/

set_option autoImplicit false

namespace AnalysisEngines

inductive Number where
  | int (value : Int)
  | float (value : Binary64)
  deriving DecidableEq, Inhabited

namespace Number

/-- The double-precision number nearest to a number; integers beyond the largest have none. -/
def toBinary64? : Number → Option Binary64
  | .int value =>
      match Binary64.ofInt value with
      | .infinite _ => none
      | rounded => some rounded
  | .float value => some value

/-- The exact value as an extended number, for comparisons. -/
def exact : Number → Binary64
  | .int value => .finite value
  | .float value => value

def lt (left right : Number) : Bool := left.exact.lt right.exact
def le (left right : Number) : Bool := left.exact.le right.exact
def numericallyEqual (left right : Number) : Bool := left.exact.numericallyEqual right.exact

instance : LT Number := ⟨fun left right => left.lt right = true⟩
instance : LE Number := ⟨fun left right => left.le right = true⟩
instance (left right : Number) : Decidable (left < right) :=
  inferInstanceAs (Decidable (left.lt right = true))
instance (left right : Number) : Decidable (left ≤ right) :=
  inferInstanceAs (Decidable (left.le right = true))

def text : Number → String
  | .int value => toString value
  | .float value => value.text

def isZero (number : Number) : Bool := number.exact.numericallyEqual .zero

end Number

end AnalysisEngines
