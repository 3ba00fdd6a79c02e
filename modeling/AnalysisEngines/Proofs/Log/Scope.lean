import AnalysisEngines.Log.Scope
import Mathlib.Data.List.Basic

/-!
# Scopes of bound variables

A scope is left by dropping the names that it bound, whatever they stood for before.  So a
well-nested sequence of scopes leaves the variables of its beginning, less every name entered in it
(`follow_of_isNested`), and a scope is left with the variables it was entered with exactly if none
of the names entered in it was bound then.
-/

set_option autoImplicit false

namespace AnalysisEngines.Log

/-! ## Fields by name -/

theorem lookup_cons (name : String) (field : String × Value) (rest : Fields) :
    List.lookup name (field :: rest) =
      if name = field.1 then some field.2 else rest.lookup name := by
  rw [List.lookup_cons]
  by_cases same : name = field.1
  · rw [if_pos same, beq_iff_eq.mpr same]
  · rw [if_neg same, beq_false_of_ne same]

theorem lookup_assignField (name other : String) (value : Value) (fields : Fields) :
    (assignField name value fields).lookup other =
      if other = name then some value else fields.lookup other := by
  induction fields with
  | nil => exact lookup_cons other (name, value) []
  | cons field rest ih =>
      by_cases known : field.1 = name
      · simp only [assignField, known, if_true, lookup_cons]
        split <;> rfl
      · simp only [assignField, known, if_false, lookup_cons, ih]
        by_cases same : other = name
        · simp [same, Ne.symm known]
        · simp [same]

theorem lookup_assignFields {fields : Fields} {name : String} (known : Fields)
    (unassigned : name ∉ fields.map (·.1)) :
    (assignFields fields known).lookup name = known.lookup name := by
  induction fields generalizing known with
  | nil => rfl
  | cons field rest ih =>
      rw [List.map_cons, List.mem_cons, not_or] at unassigned
      have rests := ih (assignField field.1 field.2 known) unassigned.2
      rw [lookup_assignField, if_neg unassigned.1] at rests
      exact rests

theorem lookup_dropFields (names : List String) (fields : Fields) (name : String) :
    (dropFields names fields).lookup name =
      if name ∈ names then none else fields.lookup name := by
  induction fields with
  | nil => simp [dropFields]
  | cons field rest ih =>
      rw [lookup_cons]
      by_cases dropped : field.1 ∈ names
      · have drops : dropFields names (field :: rest) = dropFields names rest := by
          simp [dropFields, dropped]
        rw [drops, ih]
        by_cases same : name = field.1 <;> simp [same, dropped]
      · have keeps : dropFields names (field :: rest) = field :: dropFields names rest := by
          simp [dropFields, dropped]
        rw [keeps, lookup_cons, ih]
        by_cases same : name = field.1 <;> simp [same, dropped]

theorem dropFields_assignField {names : List String} {name : String} (dropped : name ∈ names)
    (value : Value) (fields : Fields) :
    dropFields names (assignField name value fields) = dropFields names fields := by
  induction fields with
  | nil => simp [assignField, dropFields, dropped]
  | cons field rest ih =>
      unfold dropFields at ih ⊢
      by_cases known : field.1 = name
      · simp [assignField, known, dropped]
      · simp only [assignField, known, if_false, List.filter_cons, ih]

theorem dropFields_assignFields {names : List String} {fields : Fields} (known : Fields)
    (dropped : ∀ field ∈ fields, field.1 ∈ names) :
    dropFields names (assignFields fields known) = dropFields names known := by
  induction fields generalizing known with
  | nil => rfl
  | cons field rest ih =>
      obtain ⟨first, others⟩ := List.forall_mem_cons.mp dropped
      have rests := ih (assignField field.1 field.2 known) others
      rw [dropFields_assignField first] at rests
      exact rests

theorem dropFields_dropFields (outer inner : List String) (fields : Fields) :
    dropFields outer (dropFields inner fields) = dropFields (outer ++ inner) fields := by
  unfold dropFields
  rw [List.filter_filter]
  apply List.filter_congr
  intro field _
  simp

theorem dropFields_congr {names others : List String} (same : ∀ name, name ∈ names ↔ name ∈ others)
    (fields : Fields) : dropFields names fields = dropFields others fields := by
  apply List.filter_congr
  intro field _
  simp [same]

/-! ## Journals -/

namespace Step

variable {α : Type}

/-- The names that a step binds. -/
def names : Step α → List String
  | .enter fields => fields.map (·.1)
  | _ => []

/-- The names of all scopes that are entered in a sequence of steps. -/
def entered (steps : List (Step α)) : List String := steps.flatMap names

/-- Every scope is left that is entered, the innermost first, and no other one. -/
inductive IsNested : List (Step α) → Prop where
  | nil : IsNested []
  | note (what : α) {rest : List (Step α)} : IsNested rest → IsNested (.note what :: rest)
  | scope (fields : Fields) {inner rest : List (Step α)} : IsNested inner → IsNested rest →
      IsNested (.enter fields :: (inner ++ .leave :: rest))

/-- Steps that neither enter nor leave are well nested. -/
theorem isNested_map_note (notes : List α) : IsNested (notes.map Step.note) := by
  induction notes with
  | nil => exact .nil
  | cons what rest ih => exact .note what ih

theorem map_ofNotes {β : Type} (notes : List (β × α)) :
    (ofNotes notes).map (·.2) = (notes.map (·.2)).map Step.note := by
  simp only [ofNotes, List.map_map, Function.comp_def]

theorem keyed_ofNotes {β : Type} (notes : List (β × α)) :
    (ofNotes notes).map keyed = notes.map Step.note := by
  simp only [ofNotes, List.map_map, Function.comp_def, keyed, Step.map]

/-- Every exit of a well-nested sequence has its entry. -/
theorem IsNested.exists_entry {steps before after : List (Step α)} (nested : IsNested steps)
    (exits : steps = before ++ .leave :: after) :
    ∃ earlier fields inner, before = earlier ++ .enter fields :: inner ∧ IsNested inner := by
  induction nested generalizing before after with
  | nil => simp at exits
  | note what _ ih =>
      cases before with
      | nil => cases exits
      | cons first others =>
          obtain ⟨same, exits⟩ := List.cons_eq_cons.mp exits
          obtain ⟨earlier, fields, inner, rfl, nested⟩ := ih exits
          exact ⟨first :: earlier, fields, inner, rfl, nested⟩
  | @scope fields inner rest nestedInner _ ihInner ihRest =>
      cases before with
      | nil => cases exits
      | cons first others =>
          obtain ⟨rfl, rests⟩ := List.cons_eq_cons.mp exits
          rcases List.append_eq_append_iff.mp rests with ⟨behind, rfl, tail⟩ | ⟨behind, rfl, tail⟩
          · cases behind with
            | nil => exact ⟨[], fields, inner, by simp, nestedInner⟩
            | cons second behind =>
                obtain ⟨rfl, later⟩ := List.cons_eq_cons.mp tail
                obtain ⟨earlier, fields', inner', rfl, nested⟩ := ihRest later
                exact ⟨.enter fields :: (inner ++ .leave :: earlier), fields', inner', by simp,
                  nested⟩
          · cases behind with
            | nil => exact ⟨[], fields, others, by simp, by simpa using nestedInner⟩
            | cons second behind =>
                obtain ⟨rfl, -⟩ := List.cons_eq_cons.mp tail
                obtain ⟨earlier, fields', inner', rfl, nested⟩ := ihInner rfl
                exact ⟨.enter fields :: earlier, fields', inner', rfl, nested⟩

end Step

namespace Journal

open Step

variable {α : Type} {journal : Journal}

theorem follow_append (earlier later : List (Step α)) (journal : Journal) :
    journal.follow (earlier ++ later) = (journal.follow earlier).follow later :=
  List.foldl_append

theorem unbind_nil (journal : Journal) : journal.unbind [] = journal := by
  simp [unbind, dropFields]

theorem unbind_unbind (names others : List String) (journal : Journal) :
    (journal.unbind names).unbind others = journal.unbind (others ++ names) := by
  simp only [unbind, dropFields_dropFields]

theorem unbind_congr {names others : List String}
    (same : ∀ name, name ∈ names ↔ name ∈ others) (journal : Journal) :
    journal.unbind names = journal.unbind others := by
  unfold unbind
  rw [dropFields_congr same]

/-- Leaving a scope drops its names besides those that have been dropped inside. -/
theorem leave_unbind_enter (fields : Fields) (names : List String) (journal : Journal) :
    ((journal.enter fields).unbind names).leave =
      journal.unbind (fields.map (·.1) ++ names) := by
  have drops : dropFields (fields.map (·.1) ++ names) (assignFields fields journal.bound) =
      dropFields (fields.map (·.1) ++ names) journal.bound := by
    apply dropFields_assignFields
    intro field member
    exact List.mem_append_left _ (List.mem_map_of_mem member)
  simp only [enter, bind, unbind, leave, dropFields_dropFields, drops]

/-- A well-nested sequence of scopes drops every name that is entered in it, and changes nothing
else. -/
theorem follow_of_isNested {steps : List (Step α)} (nested : IsNested steps) (journal : Journal) :
    journal.follow steps = journal.unbind (entered steps) := by
  induction nested generalizing journal with
  | nil => exact (unbind_nil journal).symm
  | note what _ ih => exact ih journal
  | @scope fields inner rest _ _ ihInner ihRest =>
      have follows : journal.follow (.enter fields :: (inner ++ .leave :: rest)) =
          (((journal.enter fields).follow inner).leave).follow rest :=
        follow_append inner (.leave :: rest) (journal.enter fields)
      rw [follows, ihInner, leave_unbind_enter, ihRest, unbind_unbind]
      apply unbind_congr
      intro name
      simp only [entered, names, List.flatMap_cons, List.flatMap_append, List.mem_append,
        List.not_mem_nil, false_or]
      exact or_rotate

/-- The same variables are bound to the same values. -/
def SameVariables (first second : Journal) : Prop :=
  ∀ name, first.bound.lookup name = second.bound.lookup name

/-- Of the variables of one journal, those of some names are gone in another one, and no others. -/
structure Sheds (names : List String) (before after : Journal) : Prop where
  gone : ∀ name ∈ names, after.bound.lookup name = none
  kept : ∀ name, name ∉ names → after.bound.lookup name = before.bound.lookup name

theorem sheds_unbind (names : List String) (journal : Journal) :
    journal.Sheds names (journal.unbind names) where
  gone name member := by simp [unbind, lookup_dropFields, member]
  kept _ other := by simp [unbind, lookup_dropFields, other]

/-- What sheds some names is as before exactly if none of them was bound. -/
theorem Sheds.sameVariables_iff {names : List String} {before after : Journal}
    (sheds : before.Sheds names after) :
    before.SameVariables after ↔ ∀ name ∈ names, before.bound.lookup name = none := by
  constructor
  · intro same name member
    exact (same name).trans (sheds.gone name member)
  · intro unbound name
    by_cases member : name ∈ names
    · rw [unbound name member, sheds.gone name member]
    · exact (sheds.kept name member).symm

/-- A scope sheds every name that is entered in it, from its entry to its exit. -/
theorem sheds_scope (fields : Fields) {inner : List (Step α)} (nested : IsNested inner)
    (journal : Journal) :
    journal.Sheds (entered (.enter fields :: inner))
      (journal.follow (.enter fields :: (inner ++ [.leave]))) := by
  have follows := follow_of_isNested (.scope fields nested .nil) journal
  rw [follows]
  have names : entered (.enter fields :: (inner ++ [.leave])) = entered (.enter fields :: inner) := by
    simp [entered, Step.names]
  rw [names]
  exact sheds_unbind _ journal

end Journal

end AnalysisEngines.Log
