import AnalysisEngines.Metrics.Labels
import AnalysisEngines.Proofs.NameOrder
import Mathlib.Data.List.Induction
import Mathlib.Data.List.TakeDrop
import Mathlib.Data.List.TakeWhile

/-!
# Label sets as maps

A label set is told by the text that each name has, and this is the text that it was given last.
-/

set_option autoImplicit false

namespace AnalysisEngines.Metrics.Labels

/-- The text that a name was given last. -/
def text? (entries : List (String × String)) (name : String) : Option String :=
  entries.reverse.lookup name

/-- Entries that give every name the same text. -/
def Same (left right : List (String × String)) : Prop :=
  ∀ name, text? left name = text? right name

theorem text?_append_singleton (entries : List (String × String)) (last : String × String)
    (name : String) :
    text? (entries ++ [last]) name =
      if name = last.1 then some last.2 else text? entries name := by
  rw [text?, List.reverse_append, List.reverse_singleton, List.singleton_append,
    List.lookup_cons]
  by_cases same : name = last.1
  · rw [if_pos same, beq_iff_eq.mpr same]
  · rw [if_neg same, beq_false_of_ne same, text?]

section Assign

variable {known : List (String × String)} {name value : String}

theorem mem_names_assign {other : String} :
    other ∈ (assign name value known).map (·.1) ↔ other = name ∨ other ∈ known.map (·.1) := by
  induction known with
  | nil => simp [assign]
  | cons first rest ih =>
      obtain ⟨first, old⟩ := first
      by_cases same : first = name
      · simp [assign, same]
      · rw [assign, if_neg same, List.map_cons, List.mem_cons, ih, List.map_cons, List.mem_cons]
        tauto

theorem nodup_names_assign (distinct : (known.map (·.1)).Nodup) :
    ((assign name value known).map (·.1)).Nodup := by
  induction known with
  | nil => exact List.nodup_singleton _
  | cons first rest ih =>
      obtain ⟨first, old⟩ := first
      obtain ⟨fresh, distinct⟩ := List.nodup_cons.mp distinct
      by_cases same : first = name
      · rw [assign, if_pos same]
        exact List.nodup_cons.mpr ⟨fresh, distinct⟩
      · rw [assign, if_neg same]
        refine List.nodup_cons.mpr ⟨fun repeated => ?_, ih distinct⟩
        exact (mem_names_assign.mp repeated).elim same fresh

theorem mem_assign (distinct : (known.map (·.1)).Nodup) {entry : String × String} :
    entry ∈ assign name value known ↔ entry = (name, value) ∨ entry ∈ known ∧ entry.1 ≠ name := by
  induction known with
  | nil => simp [assign]
  | cons first rest ih =>
      obtain ⟨first, old⟩ := first
      obtain ⟨fresh, distinct⟩ := List.nodup_cons.mp distinct
      by_cases same : first = name
      · subst same
        have apart : entry ∈ rest → entry.1 ≠ first := by
          rintro member rfl
          exact fresh (List.mem_map.mpr ⟨entry, member, rfl⟩)
        rw [assign, if_pos rfl, List.mem_cons, List.mem_cons]
        constructor
        · rintro (rfl | member)
          · exact .inl rfl
          · exact .inr ⟨.inr member, apart member⟩
        · rintro (rfl | ⟨rfl | member, other⟩)
          · exact .inl rfl
          · exact absurd rfl other
          · exact .inr member
      · rw [assign, if_neg same, List.mem_cons, ih distinct, List.mem_cons]
        constructor
        · rintro (rfl | rfl | ⟨member, other⟩)
          · exact .inr ⟨.inl rfl, same⟩
          · exact .inl rfl
          · exact .inr ⟨.inr member, other⟩
        · rintro (rfl | ⟨rfl | member, other⟩)
          · exact .inr (.inl rfl)
          · exact .inl rfl
          · exact .inr (.inr ⟨member, other⟩)

end Assign

/-- What assigning entries one after the other makes of them. -/
theorem assigned (entries : List (String × String)) :
    ((entries.foldl (fun known entry => assign entry.1 entry.2 known) []).map (·.1)).Nodup ∧
      ∀ entry, entry ∈ entries.foldl (fun known entry => assign entry.1 entry.2 known) [] ↔
        text? entries entry.1 = some entry.2 := by
  induction entries using List.reverseRecOn with
  | nil => simp [text?]
  | append_singleton entries last ih =>
      obtain ⟨distinct, assigned⟩ := ih
      rw [List.foldl_append, List.foldl_cons, List.foldl_nil]
      refine ⟨nodup_names_assign distinct, fun entry => ?_⟩
      rw [mem_assign distinct, assigned, text?_append_singleton, Prod.ext_iff]
      by_cases same : entry.1 = last.1
      · rw [if_pos same, Option.some_inj]
        exact ⟨fun either => either.elim (fun equal => equal.2.symm) fun other => absurd same other.2,
          fun value => .inl ⟨same, value.symm⟩⟩
      · rw [if_neg same]
        exact ⟨fun either => either.elim (fun equal => absurd equal.1 same) And.left,
          fun found => .inr ⟨found, same⟩⟩

theorem mem_pairs_ofEntries (entries : List (String × String)) (entry : String × String) :
    entry ∈ (ofEntries entries).pairs ↔ text? entries entry.1 = some entry.2 :=
  mem_sortedByName.trans ((assigned entries).2 entry)

/-- Label sets are equal exactly if every name has the same text in them. -/
theorem ofEntries_eq_iff (left right : List (String × String)) :
    ofEntries left = ofEntries right ↔ Same left right := by
  constructor
  · intro equal name
    refine Option.ext fun value => ?_
    have sameMembers : (name, value) ∈ (ofEntries left).pairs ↔
        (name, value) ∈ (ofEntries right).pairs := by rw [equal]
    rwa [mem_pairs_ofEntries, mem_pairs_ofEntries] at sameMembers
  · intro same
    refine congrArg Labels.mk (eq_of_mem_iff_of_pairwise (pairwise_sortedByName (assigned left).1)
      (pairwise_sortedByName (assigned right).1) fun entry => ?_)
    rw [mem_sortedByName, mem_sortedByName, (assigned left).2, (assigned right).2, same]

theorem text?_eq_none {entries : List (String × String)} {name : String}
    (absent : name ∉ entries.map (·.1)) : text? entries name = none := by
  rw [text?, List.lookup_eq_none_iff]
  intro entry member
  exact bne_iff_ne.mpr fun own =>
    absent (List.mem_map.mpr ⟨entry, List.mem_reverse.mp member, own.symm⟩)

/-- Only the names that are given have to be compared. -/
theorem same_iff (left right : List (String × String)) :
    Same left right ↔
      ∀ name ∈ left.map (·.1) ++ right.map (·.1), text? left name = text? right name := by
  refine ⟨fun same name _ => same name, fun same name => ?_⟩
  by_cases given : name ∈ left.map (·.1) ++ right.map (·.1)
  · exact same name given
  · rw [List.mem_append, not_or] at given
    rw [text?_eq_none given.1, text?_eq_none given.2]

instance (left right : List (String × String)) : Decidable (Same left right) :=
  decidable_of_iff _ (same_iff left right).symm

/-- Names that a label set takes. -/
def IsFree (entries : List (String × String)) : Prop := ∀ entry ∈ entries, entry.1 ≠ "cls"

/-- Names that a reading takes. -/
def IsReadable (entries : List (String × String)) : Prop :=
  ∀ entry ∈ entries, entry.1 ≠ "cls" ∧ entry.1 ≠ "self"

theorem not_isFree_iff {entries : List (String × String)} :
    ¬IsFree entries ↔ entries.any fun entry => entry.1 == ReservedLabel.labelSet.name := by
  simp only [IsFree, List.any_eq_true, beq_iff_eq, ReservedLabel.name, not_forall, not_not,
    exists_prop]

theorem ofMap_of_free {entries : List (String × String)} (free : IsFree entries) :
    ofMap entries = .ok (ofEntries entries) := by
  rw [ofMap, if_neg fun taken => not_isFree_iff.mpr taken free]

theorem ofMap_of_not_free {entries : List (String × String)} (taken : ¬IsFree entries) :
    ofMap entries = .error .labelSet := by
  rw [ofMap, if_pos (not_isFree_iff.mp taken)]

/-- A tag without a colon is a name that is true. -/
theorem parseTag_of_bare {tag : String} (bare : ':' ∉ tag.toList) : parseTag tag = (tag, "true") := by
  have plain : ∀ char ∈ tag.toList, (char != ':') = true := fun char member =>
    bne_iff_ne.mpr fun colon => bare (colon ▸ member)
  rw [parseTag, List.span_eq_takeWhile_dropWhile, List.takeWhile_eq_self_iff.mpr plain,
    List.dropWhile_eq_nil_iff.mpr plain]
  exact Prod.ext String.ofList_toList rfl

/-- A tag is a name and a text, which may have colons of its own. -/
theorem parseTag_append {name : String} (plain : ':' ∉ name.toList) (value : String) :
    parseTag (name ++ ":" ++ value) = (name, value) := by
  have before : ∀ char ∈ name.toList, (char != ':') = true := fun char member =>
    bne_iff_ne.mpr fun colon => plain (colon ▸ member)
  have split : (name ++ ":" ++ value).toList = name.toList ++ ':' :: value.toList := by
    simp
  rw [parseTag, List.span_eq_takeWhile_dropWhile, split, List.takeWhile_append_of_pos before,
    List.dropWhile_append_of_pos before, List.takeWhile_cons_of_neg (by decide),
    List.dropWhile_cons_of_neg (by decide), List.append_nil]
  exact Prod.ext String.ofList_toList String.ofList_toList

end AnalysisEngines.Metrics.Labels
