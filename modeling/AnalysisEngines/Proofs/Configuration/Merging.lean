import AnalysisEngines.Configuration
import AnalysisEngines.Proofs.Collection

/-!
# Merging a project's engines with default ones

Merging keeps one entry for each engine.  What it makes of the engines that are not defaults is
what it makes of them alone; but without default engines nothing is merged, so that an engine
listed twice keeps both its entries.
-/

set_option autoImplicit false

namespace AnalysisEngines.Configuration

/-- The entries of the engines that are not among default ones. -/
def others (defaults : List (String × String)) (entries : List EngineEntry) : List EngineEntry :=
  entries.filter fun entry => entry.name ∉ defaults.map (·.1)

/-! ## Placing an entry -/

theorem place_of_fresh {entry : EngineEntry} {entries : List EngineEntry}
    (fresh : entry.name ∉ entries.map (·.name)) : place entry entries = entries ++ [entry] := by
  induction entries with
  | nil => rfl
  | cons known rest ih =>
      rw [List.map_cons, List.mem_cons, not_or] at fresh
      rw [place, if_neg (Ne.symm fresh.1), ih fresh.2, List.cons_append]

theorem place_eq (entry : EngineEntry) (entries : List EngineEntry) :
    place entry entries = placeBy (·.name) entry entries := by
  induction entries with
  | nil => rfl
  | cons known rest ih => by_cases same : known.name = entry.name <;> simp [place, placeBy, same, ih]

theorem names_place (entry : EngineEntry) (entries : List EngineEntry) :
    (place entry entries).map (·.name) =
      if entry.name ∈ entries.map (·.name) then entries.map (·.name)
      else entries.map (·.name) ++ [entry.name] := by
  rw [place_eq]
  exact map_placeBy (·.name) entry entries

theorem nodup_names_place {entries : List EngineEntry} (entry : EngineEntry)
    (distinct : (entries.map (·.name)).Nodup) : ((place entry entries).map (·.name)).Nodup := by
  rw [place_eq]
  exact nodup_placeBy (·.name) entry distinct

/-- Where an entry is placed among the engines that are not defaults depends on these alone. -/
theorem others_place (defaults : List (String × String)) (entry : EngineEntry)
    (entries : List EngineEntry) :
    others defaults (place entry entries) =
      if entry.name ∈ defaults.map (·.1) then others defaults entries
      else place entry (others defaults entries) := by
  unfold others
  induction entries with
  | nil => by_cases default : entry.name ∈ defaults.map (·.1) <;> simp [place, default]
  | cons known rest ih =>
      by_cases same : known.name = entry.name
      · by_cases default : entry.name ∈ defaults.map (·.1) <;> simp [place, same, default]
      · rw [place, if_neg same, List.filter_cons, ih, List.filter_cons]
        by_cases default : entry.name ∈ defaults.map (·.1) <;>
          by_cases known.name ∈ defaults.map (·.1) <;> simp_all [place]

/-! ## Merging -/

@[simp]
theorem name_withDefaultChannel (defaults : List (String × String)) (entry : EngineEntry) :
    (withDefaultChannel defaults entry).name = entry.name := by
  unfold withDefaultChannel
  split <;> rfl

/-- An engine that is not a default has no default channel. -/
theorem withDefaultChannel_of_not_mem {defaults : List (String × String)} {entry : EngineEntry}
    (other : entry.name ∉ defaults.map (·.1)) : withDefaultChannel defaults entry = entry := by
  unfold withDefaultChannel
  split
  · rfl
  · rename_i unnamed
    have unknown : defaults.lookup entry.name = none := by
      refine List.lookup_eq_none_iff.mpr fun default member => ?_
      rw [bne_iff_ne]
      exact fun same => other (same ▸ List.mem_map_of_mem member)
    rw [unknown, ← unnamed]

theorem merge_nil_right (entries : List EngineEntry) :
    merge entries [] = entries.foldl (fun known entry => place entry known) [] := by
  have kept : (withDefaultChannel []) = id :=
    funext fun entry => withDefaultChannel_of_not_mem List.not_mem_nil
  rw [merge, kept]
  rfl

/-- Default engines have no say in what becomes of the others. -/
theorem others_merge {all defaults : List (String × String)} (entries : List EngineEntry)
    (known : defaults.map (·.1) ⊆ all.map (·.1)) :
    others all (merge entries defaults) = merge (others all entries) [] := by
  have onward : ∀ before : List EngineEntry, others all (entries.foldl
      (fun known entry => place (withDefaultChannel defaults entry) known) before) =
        (others all entries).foldl (fun known entry => place entry known) (others all before) := by
    induction entries with
    | nil => exact fun _ => rfl
    | cons entry rest ih =>
        intro before
        rw [List.foldl_cons, ih, others_place, name_withDefaultChannel]
        by_cases default : entry.name ∈ all.map (·.1)
        · rw [if_pos default]
          simp only [others, List.filter_cons, default, not_true_eq_false, decide_false,
            Bool.false_eq_true, if_false]
        · have same : withDefaultChannel defaults entry = entry :=
            withDefaultChannel_of_not_mem fun member => default (known member)
          rw [if_neg default, same]
          simp only [others, List.filter_cons, default, not_false_eq_true, decide_true, if_true,
            List.foldl_cons]
  have start : others all (merge [] defaults) = [] := by
    refine List.filter_eq_nil_iff.mpr fun entry member => ?_
    obtain ⟨default, isDefault, rfl⟩ := List.mem_map.mp member
    simpa using known (List.mem_map_of_mem isDefault)
  rw [merge_nil_right, merge, onward]
  exact congrArg ((others all entries).foldl fun known entry => place entry known) start

theorem merge_append_singleton (entries : List EngineEntry) (defaults : List (String × String))
    (entry : EngineEntry) :
    merge (entries ++ [entry]) defaults =
      place (withDefaultChannel defaults entry) (merge entries defaults) :=
  List.foldl_append ..

theorem names_merge_nil (defaults : List (String × String)) :
    (merge [] defaults).map (·.name) = defaults.map (·.1) := by
  simp [merge]

theorem nodup_names_merge (entries : List EngineEntry) {defaults : List (String × String)}
    (distinct : (defaults.map (·.1)).Nodup) :
    ((merge entries defaults).map (·.name)).Nodup := by
  induction entries using List.reverseRecOn with
  | nil => rwa [names_merge_nil]
  | append_singleton before entry ih =>
      rw [merge_append_singleton]
      exact nodup_names_place _ ih

/-- Merging leaves entries alone exactly if each is for an engine of its own. -/
theorem merge_nil_right_eq_self_iff (entries : List EngineEntry) :
    merge entries [] = entries ↔ (entries.map (·.name)).Nodup := by
  constructor
  · intro unchanged
    rw [← unchanged]
    exact nodup_names_merge entries List.nodup_nil
  · intro distinct
    have onward : ∀ before : List EngineEntry, ((before ++ entries).map (·.name)).Nodup →
        entries.foldl (fun known entry => place entry known) before = before ++ entries := by
      clear distinct
      induction entries with
      | nil => exact fun before _ => (List.append_nil before).symm
      | cons entry rest ih =>
          intro before distinct
          have fresh : entry.name ∉ before.map (·.name) := by
            rw [List.map_append, List.map_cons] at distinct
            exact fun member => (List.nodup_append.mp distinct).2.2 _ member _
              List.mem_cons_self rfl
          rw [List.foldl_cons, place_of_fresh fresh, ih _ (by simpa using distinct),
            List.append_assoc, List.singleton_append]
    rw [merge_nil_right]
    exact onward [] distinct

/-! ## Configurations -/

variable {configuration : Value} {entries : List EngineEntry}

/-- Default engines with names can be merged with. -/
theorem mergeChecked_of_named {defaults : List (String × String)}
    (named : ∀ default ∈ defaults, default.1 ≠ "") (entries : List EngineEntry) :
    mergeChecked entries defaults = .ok (merge entries defaults) := by
  have checks : ∃ known,
      (defaults.mapM fun default => EngineEntry.check { name := default.1 }) = .ok known := by
    induction defaults with
    | nil => exact ⟨[], rfl⟩
    | cons default rest ih =>
        obtain ⟨known, checks⟩ := ih fun other member => named other (List.mem_cons_of_mem _ member)
        have passes : EngineEntry.check { name := default.1 } = .ok { name := default.1 } :=
          if_neg (named default List.mem_cons_self)
        refine ⟨{ name := default.1 } :: known, ?_⟩
        rw [List.mapM_cons, passes, checks]
        rfl
  obtain ⟨known, checks⟩ := checks
  unfold mergeChecked
  rw [checks]
  rfl

theorem mergeChecked_eq {merged : List EngineEntry} {defaults : List (String × String)}
    (accepted : mergeChecked entries defaults = .ok merged) : merged = merge entries defaults := by
  unfold mergeChecked at accepted
  cases checks : checked (defaults.mapM fun default => EngineEntry.check { name := default.1 }) with
  | error problem =>
      rw [checks] at accepted
      cases accepted
  | ok known =>
      rw [checks] at accepted
      cases accepted
      rfl

/-- Default engines with names do not keep a configuration from being read. -/
theorem ofValue_of_named (accepted : ofValue configuration [] = .ok entries)
    {defaults : List (String × String)} (named : ∀ default ∈ defaults, default.1 ≠ "") :
    ofValue configuration defaults =
      .ok (if defaults = [] then entries else merge entries defaults) := by
  have sound : entriesOf configuration = .ok entries := by
    unfold ofValue at accepted
    cases parsed : entriesOf configuration <;> rw [parsed] at accepted <;> exact accepted
  have merges := mergeChecked_of_named named entries
  unfold ofValue
  rw [sound]
  cases defaults with
  | nil => rfl
  | cons default rest => exact merges

/-- With and without default engines, a configuration says the same of the other engines exactly if
it lists none of these twice. -/
theorem others_ofValue_iff {first second : List (String × String)}
    (accepted : ofValue configuration [] = .ok entries)
    (named : ∀ default ∈ first ++ second, default.1 ≠ "") :
    ∃ left right, ofValue configuration first = .ok left ∧
      ofValue configuration second = .ok right ∧
      (others (first ++ second) left = others (first ++ second) right ↔
        ((first = [] ↔ second = []) ∨
          ((others (first ++ second) entries).map (·.name)).Nodup)) := by
  have ofFirst := ofValue_of_named accepted fun default member =>
    named default (List.mem_append_left second member)
  have ofSecond := ofValue_of_named accepted fun default member =>
    named default (List.mem_append_right first member)
  refine ⟨_, _, ofFirst, ofSecond, ?_⟩
  have firstKnown : first.map (·.1) ⊆ (first ++ second).map (·.1) :=
    List.map_subset _ (List.subset_append_left first second)
  have secondKnown : second.map (·.1) ⊆ (first ++ second).map (·.1) :=
    List.map_subset _ (List.subset_append_right first second)
  rw [← merge_nil_right_eq_self_iff]
  by_cases withoutFirst : first = []
  · by_cases withoutSecond : second = []
    · simp [withoutFirst, withoutSecond]
    · rw [if_pos withoutFirst, if_neg withoutSecond, others_merge entries secondKnown]
      simp [withoutFirst, withoutSecond, eq_comm]
  · by_cases withoutSecond : second = []
    · rw [if_neg withoutFirst, if_pos withoutSecond, others_merge entries firstKnown]
      simp [withoutFirst, withoutSecond]
    · rw [if_neg withoutFirst, if_neg withoutSecond, others_merge entries firstKnown,
        others_merge entries secondKnown]
      simp [withoutFirst, withoutSecond]

/-- An engine that is listed under both sections, beside one that is listed once. -/
def listedTwice : Value :=
  .textMap [("engines", .textMap [("linter", .bool true), ("tidier", .bool true)]),
    ("plugins", .textMap [("linter", .bool false)])]

theorem listedTwice_isRead :
    ofValue listedTwice [] =
      .ok [⟨"linter", none, true⟩, ⟨"tidier", none, true⟩, ⟨"linter", none, false⟩] := by
  with_unfolding_all rfl

/-- Where the engine that is listed twice is a default one, the other is none the wiser. -/
theorem listedTwice_agrees :
    ∃ left right, ofValue listedTwice [] = .ok left ∧
      ofValue listedTwice [("linter", "beta")] = .ok right ∧
      others [("linter", "beta")] left = others [("linter", "beta")] right := by
  obtain ⟨left, right, without, withDefault, agrees⟩ :=
    @others_ofValue_iff _ _ [] [("linter", "beta")] listedTwice_isRead (by decide)
  exact ⟨left, right, without, withDefault, agrees.mpr (.inr (by decide))⟩

/-- Whether an engine that is listed twice is enabled hangs on there being a default engine. -/
theorem listedTwice_depends :
    ∃ left right, ofValue listedTwice [] = .ok left ∧
      ofValue listedTwice [("structure", "stable")] = .ok right ∧
      (enabled (others [("structure", "stable")] left)).map (·.name) = ["linter", "tidier"] ∧
      (enabled (others [("structure", "stable")] right)).map (·.name) = ["tidier"] := by
  exact ⟨_, _, listedTwice_isRead, ofValue_of_named listedTwice_isRead (by decide), by decide,
    by decide⟩

end AnalysisEngines.Configuration
