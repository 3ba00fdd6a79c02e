import Mathlib.Data.List.Induction
import Mathlib.Data.List.Nodup
import Mathlib.Tactic.Common

/-!
# Collecting what is read

A list is read item by item, up to the first item that cannot be read.  What is read is collected by
key: an item takes the place of the one with its key, so that under each key there is what was read
last.
-/

set_option autoImplicit false

namespace AnalysisEngines

/-! ## Reading item by item -/

section Reading

variable {ε α β γ : Type} (read : α → Except ε β)

theorem mapM_of_forall {result : α → β} {items : List α}
    (reads : ∀ item ∈ items, read item = .ok (result item)) :
    items.mapM read = .ok (items.map result) := by
  induction items with
  | nil => rfl
  | cons item rest ih =>
      rw [List.mapM_cons, reads item List.mem_cons_self,
        ih fun other member => reads other (List.mem_cons_of_mem _ member)]
      rfl

theorem mapM_of_first {before after : List α} {item : α} {fault : ε}
    (reads : ∀ known ∈ before, ∃ result, read known = .ok result)
    (fails : read item = .error fault) :
    (before ++ item :: after).mapM read = .error fault := by
  induction before with
  | nil =>
      rw [List.nil_append, List.mapM_cons, fails]
      rfl
  | cons known rest ih =>
      obtain ⟨result, isRead⟩ := reads known List.mem_cons_self
      rw [List.cons_append, List.mapM_cons, isRead,
        ih fun other member => reads other (List.mem_cons_of_mem _ member)]
      rfl

/-- Of items that are not all sound, one is the first that is not. -/
theorem forall_or_first (isSound : α → Prop) (items : List α) :
    (∀ item ∈ items, isSound item) ∨
      ∃ before item after, items = before ++ item :: after ∧
        (∀ known ∈ before, isSound known) ∧ ¬ isSound item := by
  induction items with
  | nil => exact .inl fun _ member => absurd member List.not_mem_nil
  | cons item rest ih =>
      by_cases sound : isSound item
      · rcases ih with others | ⟨before, other, after, rfl, sounds, unsound⟩
        · exact .inl (List.forall_mem_cons.mpr ⟨sound, others⟩)
        · exact .inr ⟨item :: before, other, after, rfl,
            List.forall_mem_cons.mpr ⟨sound, sounds⟩, unsound⟩
      · exact .inr ⟨[], item, rest, rfl, fun _ member => absurd member List.not_mem_nil, sound⟩

end Reading

/-! ## Placing by key -/

section Placing

variable {κ α : Type} [DecidableEq κ] (keyOf : α → κ)

/-- Puts an item in place of the one with its key, or else at the end. -/
def placeBy (item : α) : List α → List α
  | [] => [item]
  | known :: rest => if keyOf known = keyOf item then item :: rest else known :: placeBy item rest

/-- Places items one after the other. -/
def collectBy (items : List α) : List α :=
  items.foldl (fun known item => placeBy keyOf item known) []

theorem map_placeBy (item : α) (items : List α) :
    (placeBy keyOf item items).map keyOf =
      if keyOf item ∈ items.map keyOf then items.map keyOf
      else items.map keyOf ++ [keyOf item] := by
  induction items with
  | nil => rfl
  | cons known rest ih =>
      by_cases same : keyOf known = keyOf item
      · simp [placeBy, same]
      · rw [placeBy, if_neg same, List.map_cons, ih, List.map_cons]
        by_cases member : keyOf item ∈ rest.map keyOf
        · rw [if_pos member, if_pos (List.mem_cons_of_mem _ member)]
        · have absent : keyOf item ∉ keyOf known :: rest.map keyOf :=
            List.not_mem_cons_of_ne_of_not_mem (Ne.symm same) member
          rw [if_neg member, if_neg absent, List.cons_append]

theorem nodup_placeBy {items : List α} (item : α) (distinct : (items.map keyOf).Nodup) :
    ((placeBy keyOf item items).map keyOf).Nodup := by
  rw [map_placeBy]
  by_cases member : keyOf item ∈ items.map keyOf
  · rwa [if_pos member]
  · rw [if_neg member, ← List.concat_eq_append]
    exact distinct.concat member

theorem find?_placeBy (key : κ) (item : α) (items : List α) :
    (placeBy keyOf item items).find? (keyOf · == key) =
      if keyOf item = key then some item else items.find? (keyOf · == key) := by
  induction items with
  | nil => by_cases same : keyOf item = key <;> simp [placeBy, same]
  | cons known rest ih =>
      by_cases replaced : keyOf known = keyOf item
      · by_cases same : keyOf item = key <;> simp [placeBy, replaced, same]
      · rw [placeBy, if_neg replaced, List.find?_cons, ih]
        by_cases same : keyOf item = key
        · have passed : (keyOf known == key) = false :=
            beq_false_of_ne fun equal => replaced (equal.trans same.symm)
          rw [passed, if_pos same, if_pos same]
        · rw [if_neg same, if_neg same, List.find?_cons]

variable {keyOf}

end Placing

end AnalysisEngines
