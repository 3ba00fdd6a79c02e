import AnalysisEngines.Number.Basic
import Mathlib.Algebra.Order.Ring.Rat
import Mathlib.Order.WithBot

/-!
# The order of numbers

Numbers are compared by their points on the rational line closed by both infinities.  An undefined
number has no point, so that it is neither below, nor above, nor the same as any number.
-/

set_option autoImplicit false

namespace AnalysisEngines

namespace Binary64

/-- A rational on the closed line. -/
def onLine (value : Rat) : WithBot (WithTop Rat) := ((value : WithTop Rat) : WithBot (WithTop Rat))

section Line

variable {left right value : Rat}

@[simp]
theorem onLine_lt_onLine : onLine left < onLine right ↔ left < right :=
  WithBot.coe_lt_coe.trans WithTop.coe_lt_coe

@[simp]
theorem onLine_inj : onLine left = onLine right ↔ left = right :=
  WithBot.coe_inj.trans WithTop.coe_inj

@[simp]
theorem onLine_lt_top : onLine value < ⊤ := WithBot.coe_lt_coe.mpr (WithTop.coe_lt_top value)

@[simp]
theorem bot_lt_onLine : ⊥ < onLine value := WithBot.bot_lt_coe _

@[simp]
theorem not_top_lt_onLine : ¬⊤ < onLine value := not_lt_of_gt onLine_lt_top

@[simp]
theorem not_onLine_lt_bot : ¬onLine value < ⊥ := not_lt_of_gt bot_lt_onLine

end Line

/-- The point of a number on the closed line. -/
def point? : Binary64 → Option (WithBot (WithTop Rat))
  | .finite value => some (onLine value)
  | .negativeZero => some (onLine 0)
  | .infinite true => some ⊥
  | .infinite false => some ⊤
  | .nan => none

variable {left right : Binary64}

theorem lt_eq_true_iff :
    left.lt right = true ↔ ∃ low ∈ left.point?, ∃ high ∈ right.point?, low < high := by
  rcases left with _ | _ | (_ | _) | _ <;> rcases right with _ | _ | (_ | _) | _ <;>
    simp [lt, point?, toRat?]

theorem numericallyEqual_eq_true_iff :
    left.numericallyEqual right = true ↔ ∃ low ∈ left.point?, ∃ high ∈ right.point?, low = high := by
  rcases left with _ | _ | (_ | _) | _ <;> rcases right with _ | _ | (_ | _) | _ <;>
    simp [numericallyEqual, point?, toRat?, onLine_lt_top.ne, onLine_lt_top.ne', bot_lt_onLine.ne,
      bot_lt_onLine.ne'] <;> exact eq_comm

theorem le_eq_true_iff :
    left.le right = true ↔ ∃ low ∈ left.point?, ∃ high ∈ right.point?, low ≤ high := by
  rw [le, Bool.or_eq_true, lt_eq_true_iff, numericallyEqual_eq_true_iff]
  simp only [le_iff_lt_or_eq, exists_or, and_or_left]

end Binary64

namespace Number

/-- The point of a number on the closed line. -/
def point? (number : Number) : Option (WithBot (WithTop Rat)) := number.exact.point?

variable {left middle right : Number}

theorem le_iff : left ≤ right ↔ ∃ low ∈ left.point?, ∃ high ∈ right.point?, low ≤ high :=
  Binary64.le_eq_true_iff

theorem numericallyEqual_iff :
    left.numericallyEqual right = true ↔ ∃ point ∈ left.point?, point ∈ right.point? := by
  rw [numericallyEqual, Binary64.numericallyEqual_eq_true_iff]
  simp only [exists_eq_right', point?]

theorem point?_eq_none_iff : left.point? = none ↔ left.exact = .nan := by
  unfold point?
  rcases left.exact with _ | _ | (_ | _) | _ <;> simp [Binary64.point?]

theorem numericallyEqual_comm : left.numericallyEqual right = right.numericallyEqual left := by
  rw [Bool.eq_iff_iff, numericallyEqual_iff, numericallyEqual_iff]
  exact exists_congr fun point => and_comm

theorem numericallyEqual_trans (first : left.numericallyEqual middle = true)
    (second : middle.numericallyEqual right = true) : left.numericallyEqual right = true := by
  rw [numericallyEqual_iff] at *
  obtain ⟨point, atLeft, atMiddle⟩ := first
  obtain ⟨other, atMiddle', atRight⟩ := second
  obtain rfl := Option.mem_unique atMiddle atMiddle'
  exact ⟨point, atLeft, atRight⟩

/-- Numbers at one point have the same numbers below them. -/
theorem le_congr_right (same : middle.numericallyEqual right = true) :
    left ≤ middle ↔ left ≤ right := by
  obtain ⟨point, atMiddle, atRight⟩ := numericallyEqual_iff.mp same
  rw [le_iff, le_iff, Option.mem_def.mp atMiddle, Option.mem_def.mp atRight]

theorem le_trans (first : left ≤ middle) (second : middle ≤ right) : left ≤ right := by
  rw [le_iff] at *
  obtain ⟨low, atLeft, point, atMiddle, le⟩ := first
  obtain ⟨other, atMiddle', high, atRight, le'⟩ := second
  obtain rfl := Option.mem_unique atMiddle atMiddle'
  exact ⟨low, atLeft, high, atRight, le.trans le'⟩

/-- Every number that has a point is up to infinity. -/
theorem le_of_infinite (defined : left.exact ≠ .nan) (unbounded : right.exact = .infinite false) :
    left ≤ right := by
  obtain ⟨point, atLeft⟩ := Option.ne_none_iff_exists'.mp (point?_eq_none_iff.not.mpr defined)
  have atRight : right.point? = some ⊤ := congrArg Binary64.point? unbounded
  exact le_iff.mpr ⟨point, atLeft, ⊤, atRight, le_top⟩

end Number

end AnalysisEngines
