import AnalysisEngines.Run.Spec
import Mathlib.Data.List.Sort
import Mathlib.Data.String.Basic

/-!
# Entries in order of their names
-/

set_option autoImplicit false

namespace AnalysisEngines

variable {α : Type}

theorem mem_sortedByName {entries : List (String × α)} {entry : String × α} :
    entry ∈ sortedByName entries ↔ entry ∈ entries := List.mem_mergeSort

theorem sortedByName_perm (entries : List (String × α)) :
    (sortedByName entries).Perm entries := List.mergeSort_perm ..

theorem pairwise_le_sortedByName (entries : List (String × α)) :
    (sortedByName entries).Pairwise fun earlier later => earlier.1 ≤ later.1 := by
  have ascending : (sortedByName entries).Pairwise fun earlier later =>
      (!decide (later.1 < earlier.1)) = true := by
    refine List.pairwise_mergeSort (fun first second third before after => ?_)
      (fun left right => ?_) _
    · simp only [Bool.not_eq_true', decide_eq_false_iff_not, not_lt] at before after ⊢
      exact before.trans after
    · simp only [Bool.or_eq_true, Bool.not_eq_true', decide_eq_false_iff_not, not_lt]
      exact le_total left.1 right.1
  refine ascending.imp fun before => ?_
  simpa only [Bool.not_eq_true', decide_eq_false_iff_not, not_lt] using before

/-- Entries with names of their own are sorted strictly. -/
theorem pairwise_sortedByName {entries : List (String × α)}
    (distinct : (entries.map (·.1)).Nodup) :
    (sortedByName entries).Pairwise fun earlier later => earlier.1 < later.1 := by
  have apart : (sortedByName entries).Pairwise fun earlier later => earlier.1 ≠ later.1 :=
    List.pairwise_map.mp (((sortedByName_perm entries).map _).nodup_iff.mpr distinct)
  exact ((pairwise_le_sortedByName entries).and apart).imp fun both => lt_of_le_of_ne both.1 both.2

/-- Entries that are sorted strictly are told by their members. -/
theorem eq_of_mem_iff_of_pairwise {left right : List (String × α)}
    (ordered : left.Pairwise fun earlier later => earlier.1 < later.1)
    (ordered' : right.Pairwise fun earlier later => earlier.1 < later.1)
    (same : ∀ entry, entry ∈ left ↔ entry ∈ right) : left = right := by
  have : Std.Antisymm fun earlier later : String × α => earlier.1 < later.1 :=
    ⟨fun _ _ before after => absurd (before.trans after) (lt_irrefl _)⟩
  have : Std.Irrefl fun earlier later : String × α => earlier.1 < later.1 :=
    ⟨fun entry => lt_irrefl entry.1⟩
  exact List.Pairwise.eq_of_mem_iff ordered ordered' same

end AnalysisEngines
