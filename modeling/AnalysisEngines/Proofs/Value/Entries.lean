import AnalysisEngines.Value.Basic
import Mathlib.Data.List.Basic
import Mathlib.Tactic.Common

/-!
# Entries of a mapping

A name is found with the value that it has been given last, be it one by one or by entries that are
put over others.  What other names are given leaves its entries alone.
-/

set_option autoImplicit false

namespace AnalysisEngines

namespace Value

variable {name : String} {key value : Value} {entries : List (Value × Value)}

/-- Nothing but a text is the same key as that text. -/
theorem sameKey_text_iff : sameKey key (.text name) = true ↔ key = .text name := by
  cases key <;> simp [sameKey, same]

theorem text_sameKey_iff : sameKey (.text name) key = true ↔ key = .text name := by
  cases key with
  | text other => simpa [sameKey, same] using eq_comm
  | _ => simp [sameKey, same]

/-- A key that is the same as another is a text if the other is, and the same text. -/
theorem sameKey_text_congr {other : Value} (same : sameKey key other = true) :
    sameKey key (.text name) = sameKey other (.text name) := by
  rw [Bool.eq_iff_iff, sameKey_text_iff, sameKey_text_iff]
  constructor
  · rintro rfl
    exact text_sameKey_iff.mp same
  · rintro rfl
    exact sameKey_text_iff.mp same

theorem lookup_cons (name : String) (entry : Value × Value) (rest : List (Value × Value)) :
    lookup name (entry :: rest) =
      if sameKey entry.1 (.text name) then some entry.2 else lookup name rest := by
  cases same : sameKey entry.1 (.text name) <;> simp [lookup, same]

theorem lookup_append (name : String) (first second : List (Value × Value)) :
    lookup name (first ++ second) = (lookup name first).or (lookup name second) := by
  simp only [lookup, List.find?_append, Option.map_or]

theorem lookup_eq_none_iff :
    lookup name entries = none ↔ ∀ entry ∈ entries, sameKey entry.1 (.text name) = false := by
  simp [lookup]

/-- The last value that a key is given is the one that is found. -/
theorem lookup_assign (name : String) (key value : Value) (entries : List (Value × Value)) :
    lookup name (assign key value entries) =
      if sameKey key (.text name) then some value else lookup name entries := by
  induction entries with
  | nil => exact lookup_cons name (key, value) []
  | cons entry rest ih =>
      by_cases found : sameKey entry.1 key = true
      · simp only [assign, found, if_true, lookup_cons, sameKey_text_congr found]
        split <;> rfl
      · simp only [assign, found, Bool.false_eq_true, if_false, lookup_cons, ih]
        by_cases named : sameKey entry.1 (.text name) = true
        · have other : sameKey key (.text name) = false := by
            by_contra same
            rw [Bool.not_eq_false, sameKey_text_iff] at same
            exact found (same ▸ named)
          simp [named, other]
        · simp [named]

theorem lookup_assign_text (name other : String) (value : Value)
    (entries : List (Value × Value)) :
    lookup name (assign (.text other) value entries) =
      if other = name then some value else lookup name entries := by
  rw [lookup_assign]
  congr 1
  exact propext (sameKey_text_iff.trans (by rw [Value.text.injEq]))

/-- A selection by keys that treats all same keys alike does not see what other keys are given. -/
theorem filter_assign {keep : Value → Bool} (key value : Value)
    (alike : ∀ other, sameKey other key = true → keep other = keep key)
    (entries : List (Value × Value)) :
    (assign key value entries).filter (fun entry => keep entry.1) =
      if keep key then assign key value (entries.filter fun entry => keep entry.1)
      else entries.filter fun entry => keep entry.1 := by
  induction entries with
  | nil => cases kept : keep key <;> simp [assign, kept]
  | cons entry rest ih =>
      by_cases found : sameKey entry.1 key = true
      · have same := alike entry.1 found
        cases kept : keep key <;> simp [assign, found, same, kept]
      · cases kept : keep key <;> cases first : keep entry.1 <;>
          simp_all [assign]

/-- Entries in which no key stands twice. -/
def AreApart (entries : List (Value × Value)) : Prop :=
  entries.Pairwise fun earlier later => sameKey earlier.1 later.1 = false

theorem mem_assign {entry : Value × Value} (member : entry ∈ assign key value entries) :
    entry.1 = key ∨ ∃ known ∈ entries, known.1 = entry.1 := by
  induction entries with
  | nil => exact .inl (by rw [List.mem_singleton.mp member])
  | cons first rest ih =>
      rw [assign] at member
      split at member
      · rcases List.mem_cons.mp member with rfl | later
        · exact .inr ⟨first, List.mem_cons_self, rfl⟩
        · exact .inr ⟨entry, List.mem_cons_of_mem _ later, rfl⟩
      · rcases List.mem_cons.mp member with rfl | later
        · exact .inr ⟨_, List.mem_cons_self, rfl⟩
        · refine (ih later).imp_right ?_
          rintro ⟨known, inRest, same⟩
          exact ⟨known, List.mem_cons_of_mem _ inRest, same⟩

theorem AreApart.assign (apart : AreApart entries) (key value : Value) :
    AreApart (Value.assign key value entries) := by
  induction entries with
  | nil => exact List.pairwise_singleton _ _
  | cons first rest ih =>
      obtain ⟨bounds, tail⟩ := List.pairwise_cons.mp apart
      rw [Value.assign]
      split
      · exact List.pairwise_cons.mpr ⟨bounds, tail⟩
      · rename_i other
        refine List.pairwise_cons.mpr ⟨fun entry member => ?_, ih tail⟩
        rcases mem_assign member with same | ⟨known, inRest, same⟩
        · rw [same]
          exact Bool.not_eq_true _ ▸ other
        · rw [← same]
          exact bounds known inRest

/-- Entries that are put over others hide them where their keys are the same. -/
theorem lookup_foldl_assign (name : String) {entries : List (Value × Value)}
    (apart : AreApart entries) (known : List (Value × Value)) :
    lookup name (entries.foldl (fun known entry => assign entry.1 entry.2 known) known) =
      (lookup name entries).or (lookup name known) := by
  induction entries generalizing known with
  | nil => rfl
  | cons entry rest ih =>
      obtain ⟨bounds, tail⟩ := List.pairwise_cons.mp apart
      rw [List.foldl_cons, ih tail, lookup_assign, lookup_cons]
      cases named : sameKey entry.1 (.text name) with
      | false => simp
      | true =>
          have once : lookup name rest = none := by
            apply lookup_eq_none_iff.mpr
            intro other member
            have differs := bounds other member
            rw [sameKey_text_iff.mp named] at differs
            by_contra same
            rw [Bool.not_eq_false, sameKey_text_iff] at same
            rw [same, text_sameKey_iff.mpr rfl] at differs
            cases differs
          simp [once]

theorem filter_foldl_assign {keep : Value → Bool}
    (alike : ∀ key other, sameKey other key = true → keep other = keep key)
    (entries known : List (Value × Value)) :
    (entries.foldl (fun known entry => assign entry.1 entry.2 known) known).filter
        (fun entry => keep entry.1) =
      (entries.filter fun entry => keep entry.1).foldl
        (fun known entry => assign entry.1 entry.2 known)
        (known.filter fun entry => keep entry.1) := by
  induction entries generalizing known with
  | nil => rfl
  | cons entry rest ih =>
      rw [List.foldl_cons, ih, filter_assign entry.1 entry.2 (alike entry.1)]
      cases kept : keep entry.1 <;> simp [kept]

end Value

end AnalysisEngines
