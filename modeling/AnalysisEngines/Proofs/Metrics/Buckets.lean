import AnalysisEngines.Metrics.Store
import AnalysisEngines.Proofs.Number.Order
import Mathlib.Data.List.Induction

/-!
# How buckets count

There is one bucket for each bound that differs from those listed before it.  It counts the
observations up to its bound, each as often as the bound is listed.
-/

set_option autoImplicit false

namespace AnalysisEngines.Metrics

/-! ## Bounds -/

section Bounds

variable {bounds : List Number}

/-- How often a bound is listed. -/
def times (bounds : List Number) (bound : Number) : Nat :=
  bounds.countP fun other => bound.numericallyEqual other

theorem times_cons (bound : Number) (rest : List Number) (key : Number) :
    times (bound :: rest) key =
      times rest key + if key.numericallyEqual bound then 1 else 0 := by
  rw [times, List.countP_cons, ← times]

theorem times_congr {left right : Number} (same : left.numericallyEqual right = true) :
    times bounds left = times bounds right := by
  refine List.countP_congr fun other _ => ?_
  constructor
  · intro atLeft
    rw [Number.numericallyEqual_comm] at same
    exact Number.numericallyEqual_trans same atLeft
  · exact Number.numericallyEqual_trans same

/-- A bound that something is up to is listed as the same as itself. -/
theorem one_le_times {bound amount : Number} (listed : bound ∈ bounds) (within : amount ≤ bound) :
    1 ≤ times bounds bound := by
  obtain ⟨-, -, point, atBound, -⟩ := Number.le_iff.mp within
  exact List.countP_pos_iff.mpr
    ⟨bound, listed, Number.numericallyEqual_iff.mpr ⟨point, atBound, atBound⟩⟩

/-- The bounds in order, but for those that are the same as an earlier one. -/
def distinctBounds (bounds : List Number) : List Number :=
  bounds.foldl (fun known bound =>
    if known.any fun other => other.numericallyEqual bound then known else known ++ [bound]) []

theorem distinctBounds_append_singleton (bounds : List Number) (bound : Number) :
    distinctBounds (bounds ++ [bound]) =
      if (distinctBounds bounds).any fun other => other.numericallyEqual bound
      then distinctBounds bounds else distinctBounds bounds ++ [bound] := by
  rw [distinctBounds, List.foldl_append]
  rfl

theorem emptyBuckets_eq (bounds : List Number) :
    emptyBuckets bounds = (distinctBounds bounds).map fun bound => (bound, 0) := by
  induction bounds using List.reverseRecOn with
  | nil => rfl
  | append_singleton bounds bound ih =>
      rw [distinctBounds_append_singleton, emptyBuckets, List.foldl_append, ← emptyBuckets, ih,
        List.foldl_cons, List.foldl_nil, List.any_map, apply_ite (List.map _), List.map_append]
      rfl

/-- No two buckets have the same bound. -/
def AreApart (keys : List Number) : Prop :=
  keys.Pairwise fun earlier later => earlier.numericallyEqual later = false

theorem areApart_distinctBounds (bounds : List Number) : AreApart (distinctBounds bounds) := by
  induction bounds using List.reverseRecOn with
  | nil => exact List.Pairwise.nil
  | append_singleton bounds bound ih =>
      rw [distinctBounds_append_singleton]
      split
      case isTrue => exact ih
      case isFalse fresh =>
        refine List.pairwise_append.mpr ⟨ih, List.pairwise_singleton _ _, ?_⟩
        simpa using fresh

/-- Each bound that is listed has a bucket. -/
theorem exists_mem_distinctBounds {bound : Number} (listed : bound ∈ bounds) :
    ∃ key ∈ distinctBounds bounds, key = bound ∨ key.numericallyEqual bound = true := by
  induction bounds using List.reverseRecOn with
  | nil => cases listed
  | append_singleton bounds last ih =>
      rw [distinctBounds_append_singleton]
      rcases List.mem_append.mp listed with earlier | isLast
      · obtain ⟨key, member, same⟩ := ih earlier
        refine ⟨key, ?_, same⟩
        split
        case isTrue => exact member
        case isFalse => exact List.mem_append_left _ member
      · obtain rfl := List.mem_singleton.mp isLast
        split
        case isTrue known =>
          obtain ⟨key, member, same⟩ := List.any_eq_true.mp known
          exact ⟨key, member, .inr same⟩
        case isFalse => exact ⟨bound, List.mem_append_right _ (List.mem_singleton_self _), .inl rfl⟩

end Bounds

/-! ## Counting -/

section Counting

variable {bounds keys : List Number}

/-- A bound raises the count of its bucket alone. -/
theorem bump_map (apart : AreApart keys) (bound : Number) (counts : Number → Nat) :
    bump bound (keys.map fun key => (key, counts key)) =
      keys.map fun key => (key, counts key + if key.numericallyEqual bound then 1 else 0) := by
  induction keys with
  | nil => rfl
  | cons key rest ih =>
      obtain ⟨before, apart⟩ := List.pairwise_cons.mp apart
      rw [List.map_cons, bump, List.map_cons]
      by_cases own : key.numericallyEqual bound = true
      · have others : ∀ other ∈ rest, other.numericallyEqual bound = false := by
          intro other member
          rw [← Bool.not_eq_true]
          intro same
          rw [Number.numericallyEqual_comm] at same
          have twice := Number.numericallyEqual_trans own same
          rw [before other member] at twice
          cases twice
        rw [if_pos own, if_pos own]
        congr 1
        refine List.map_congr_left fun other member => ?_
        rw [others other member]
        rfl
      · rw [if_neg own, if_neg own, ih apart, Nat.add_zero]

/-- An observation counts in the bucket of each bound that it does not exceed, as often as that is
listed. -/
theorem countIn_map (apart : AreApart keys) (bounds : List Number) (observed : Number)
    (counts : Number → Nat) :
    countIn bounds observed (keys.map fun key => (key, counts key)) =
      keys.map fun key => (key, counts key + if observed ≤ key then times bounds key else 0) := by
  unfold countIn
  induction bounds generalizing counts with
  | nil => simp [times]
  | cons bound rest ih =>
      -- the buckets behind the first bound
      have first : (if observed ≤ bound then bump bound (keys.map fun key => (key, counts key))
          else keys.map fun key => (key, counts key)) =
          keys.map fun key => (key, counts key +
            if observed ≤ key then if key.numericallyEqual bound then 1 else 0 else 0) := by
        by_cases within : observed ≤ bound
        · rw [if_pos within, bump_map apart]
          refine List.map_congr_left fun key _ => ?_
          by_cases same : key.numericallyEqual bound = true
          · rw [if_pos ((Number.le_congr_right same).mpr within)]
          · rw [if_neg same, ite_self]
        · rw [if_neg within]
          refine List.map_congr_left fun key _ => ?_
          by_cases same : key.numericallyEqual bound = true
          · rw [if_neg ((Number.le_congr_right same).not.mpr within), Nat.add_zero]
          · rw [if_neg same, ite_self, Nat.add_zero]
      rw [List.foldl_cons, first, ih]
      refine List.map_congr_left fun key _ => ?_
      rw [times_cons]
      by_cases within : observed ≤ key
      · rw [if_pos within, if_pos within, if_pos within, Nat.add_assoc, Nat.add_comm (times rest key)]
      · rw [if_neg within, if_neg within, if_neg within, Nat.add_zero]

end Counting

end AnalysisEngines.Metrics
