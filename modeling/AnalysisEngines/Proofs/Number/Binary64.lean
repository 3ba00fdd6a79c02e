import AnalysisEngines.Number.Binary64
import Mathlib.Algebra.Order.Floor.Ring
import Mathlib.Data.Nat.Log
import Mathlib.Data.Rat.Floor
import Mathlib.Tactic.FieldSimp
import Mathlib.Tactic.NormNum

/-!
# Whole numbers that are kept exactly

A whole number below `2 ^ 53` is a multiple of the spacing around it, so that rounding keeps it.
-/

set_option autoImplicit false

namespace AnalysisEngines.Binary64

theorem nearestInt_intCast (value : Int) : nearestInt value = value := by
  simp only [nearestInt, Rat.floor_intCast, sub_self]
  norm_num

/-- The order of a whole number is that of its binary digits. -/
theorem binaryOrder_natCast {value : Nat} (positive : 0 < value) :
    binaryOrder value = (value.log2 : Int) := by
  have below : ¬(value : Rat) < powerOfTwo (value.log2 : Int) := by
    rw [powerOfTwo, if_pos (Int.natCast_nonneg _), Int.toNat_natCast, not_lt]
    exact_mod_cast Nat.log2_self_le positive.ne'
  have one : Nat.log2 1 = 0 := by decide
  simp only [binaryOrder, Rat.num_natCast, Rat.den_natCast, Int.natAbs_natCast, one,
    Int.natCast_zero, sub_zero, if_neg below]

/-- The spacing around a whole number below `2 ^ 53` is a whole part of one. -/
theorem spacing_natCast {value : Nat} (positive : 0 < value) (small : value < 2 ^ 53) :
    ∃ parts : Nat, 0 < parts ∧ spacing value = 1 / (parts : Rat) := by
  have digits : value.log2 < 53 := (Nat.log2_lt positive.ne').mpr small
  have exponent : max ((value.log2 : Int) - 52) (-1074) = -((52 - value.log2 : Nat) : Int) := by
    omega
  refine ⟨2 ^ (52 - value.log2), by positivity, ?_⟩
  rw [spacing, binaryOrder_natCast positive, exponent, powerOfTwo]
  split
  case isTrue whole =>
    have none : 52 - value.log2 = 0 := by omega
    rw [none]
    norm_num
  case isFalse =>
    rw [neg_neg, Int.toNat_natCast]
    rfl

/-- A whole number below `2 ^ 53` is its own rounding. -/
theorem ofRat_natCast {value : Nat} (small : value < 2 ^ 53) :
    ofRat value = .finite value := by
  rcases Nat.eq_zero_or_pos value with rfl | positive
  · rfl
  · obtain ⟨parts, some, spaced⟩ := spacing_natCast positive small
    have positive' : (0 : Rat) < value := by exact_mod_cast positive
    have largest : ¬((Nat.pow 2 largestOrder : Nat) : Rat) ≤ value := by
      have below (order : Nat) (large : 53 < order) : 2 ^ 53 < Nat.pow 2 order :=
        Nat.pow_lt_pow_right (by decide) large
      exact not_le.mpr (Nat.cast_lt.mpr (small.trans (below largestOrder (by decide))))
    have whole : (value : Rat) / (1 / (parts : Rat)) = ((value * parts : Nat) : Int) := by
      push_cast
      field_simp
    have back : (((value * parts : Nat) : Int) : Rat) * (1 / (parts : Rat)) = value := by
      push_cast
      field_simp
    simp only [ofRat, if_neg positive'.ne', if_neg positive'.not_gt, spaced, whole,
      nearestInt_intCast, back, if_neg largest]

/-- Counting up from zero is exact below `2 ^ 53`. -/
theorem add_one {value : Nat} (small : value + 1 < 2 ^ 53) :
    (Binary64.finite value).add (.finite 1) = .finite (value + 1 : Nat) := by
  rw [← ofRat_natCast small, Nat.cast_add, Nat.cast_one]
  rfl

end AnalysisEngines.Binary64
