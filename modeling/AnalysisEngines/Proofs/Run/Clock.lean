import AnalysisEngines.Run.Clock
import Mathlib.Algebra.Order.Field.Rat
import Mathlib.Order.Lattice

/-!
# The order of moments

Moments are ordered by their instants, and within an instant by their turns.
-/

set_option autoImplicit false

namespace AnalysisEngines

namespace Instant

theorem later_eq_max (left right : Rat) : later left right = max left right := by
  unfold later
  split
  · exact (max_eq_right ‹_›).symm
  · exact (max_eq_left (le_of_not_ge ‹_›)).symm

theorem earlier_eq_min (left right : Rat) : earlier left right = min left right := by
  unfold earlier
  split
  · exact (min_eq_left ‹_›).symm
  · exact (min_eq_right (le_of_not_ge ‹_›)).symm

end Instant

namespace Moment

theorem le_iff {left right : Moment} :
    left.le right = true ↔
      left.instant < right.instant ∨ left.instant = right.instant ∧ left.turn ≤ right.turn := by
  simp [le]

instance : LinearOrder Moment where
  le left right := left.le right = true
  le_refl moment := by simp [le_iff]
  le_trans first second third := by
    simp only [le_iff]
    grind
  le_antisymm left right := by
    rcases left with ⟨instant, turn⟩
    rcases right with ⟨other, place⟩
    simp only [le_iff, mk.injEq]
    grind
  le_total left right := by
    simp only [le_iff]
    grind
  toDecidableLE left right := inferInstanceAs (Decidable (left.le right = true))

theorem le_def {left right : Moment} : left ≤ right ↔ left.le right = true := Iff.rfl

theorem instant_le {left right : Moment} (before : left ≤ right) : left.instant ≤ right.instant := by
  rcases le_iff.mp before with earlier | ⟨same, -⟩
  · exact earlier.le
  · exact same.le

@[simp]
theorem pass_instant (turns : Nat) (now : Moment) : (now.pass turns).instant = now.instant := rfl

theorem le_pass (turns : Nat) (now : Moment) : now ≤ now.pass turns :=
  le_iff.mpr (.inr ⟨rfl, Nat.le_add_right _ _⟩)

theorem lt_pass_one (now : Moment) : now < now.pass 1 := by
  apply lt_of_not_ge
  intro back
  rcases le_iff.mp back with earlier | ⟨-, turns⟩
  · exact lt_irrefl _ earlier
  · exact absurd turns (Nat.not_succ_le_self _)

theorem pass_le_pass {earlier later : Moment} (order : earlier ≤ later) (turns : Nat) :
    earlier.pass turns ≤ later.pass turns := by
  apply le_iff.mpr
  rcases le_iff.mp order with before | ⟨same, turn⟩
  · exact .inl before
  · exact .inr ⟨same, Nat.add_le_add_right turn turns⟩

@[simp]
theorem waitFor_instant (instant : Rat) (turns : Nat) (now : Moment) :
    (now.waitFor instant turns).instant = max now.instant instant := by
  unfold waitFor
  split
  · exact (max_eq_right (le_of_lt ‹_›)).symm
  · exact (max_eq_left (not_lt.mp ‹_›)).symm

theorem le_waitFor (instant : Rat) (turns : Nat) (now : Moment) :
    now ≤ now.waitFor instant turns := by
  unfold waitFor
  split
  · exact le_iff.mpr (.inl ‹_›)
  · exact le_pass turns now

theorem later_eq_max (left right : Moment) : left.later right = max left right := by
  unfold later
  split
  · exact (max_eq_right (le_def.mpr ‹_›)).symm
  · exact (max_eq_left ((le_total left right).resolve_left ‹_›)).symm

theorem earliest?_eq_none_iff {moments : List Moment} : earliest? moments = none ↔ moments = [] := by
  cases moments with
  | nil => simp [earliest?]
  | cons moment rest => cases rested : earliest? rest <;> simp [earliest?, rested]

theorem earliest?_mem {moments : List Moment} {least : Moment}
    (found : earliest? moments = some least) : least ∈ moments := by
  induction moments generalizing least with
  | nil => simp [earliest?] at found
  | cons moment rest ih =>
      cases rested : earliest? rest with
      | none => simp_all [earliest?]
      | some other =>
          have member := ih rested
          by_cases before : moment.le other
          · simp_all [earliest?]
          · simp_all [earliest?]

theorem earliest?_le {moments : List Moment} {least moment : Moment}
    (found : earliest? moments = some least) (member : moment ∈ moments) : least ≤ moment := by
  induction moments generalizing least with
  | nil => simp at member
  | cons first rest ih =>
      cases rested : earliest? rest with
      | none =>
          rw [earliest?_eq_none_iff.mp rested] at member
          simp_all [earliest?]
      | some other =>
          rcases List.mem_cons.mp member with rfl | inRest
          · by_cases before : moment.le other
            · simp_all [earliest?]
            · have after : other ≤ moment := (le_total moment other).resolve_left before
              simp_all [earliest?]
          · have bound := ih rested inRest
            by_cases before : first.le other
            · simp only [earliest?, rested, before, if_true, Option.some.injEq] at found
              exact found ▸ le_trans (le_def.mpr before) bound
            · simp_all [earliest?]

end Moment

end AnalysisEngines
