import AnalysisEngines.Proofs.Configuration.Merging

/-!
# Which entry an engine has after a merge

Merged entries stand where their engines appear first, the default ones in front, and say what the
project says of their engines last.  A merge tells each engine apart, so that entries may be looked
up by name, and it has nothing left to do for what has been merged.
-/

set_option autoImplicit false

namespace AnalysisEngines.Configuration

/-- The entry of an engine: the first of its name. -/
def named? (name : String) (entries : List EngineEntry) : Option EngineEntry :=
  entries.find? (·.name = name)

/-- What is said last of an engine. -/
def lastNamed? (name : String) (entries : List EngineEntry) : Option EngineEntry :=
  (entries.filter (·.name = name)).getLast?

/-- The names of the engines that are not among default ones, in order of first appearance. -/
def otherNames (defaults : List (String × String)) (entries : List EngineEntry) : List String :=
  ((entries.map (·.name)).filter (· ∉ defaults.map (·.1))).eraseDups

/-! ## Names in order of first appearance -/

theorem eraseDups_append_singleton (names : List String) (name : String) :
    (names ++ [name]).eraseDups =
      if name ∈ names then names.eraseDups else names.eraseDups ++ [name] := by
  rw [List.eraseDups_append]
  by_cases known : name ∈ names <;> simp [List.removeAll, known, List.eraseDups_cons]

theorem eraseDups_of_nodup {names : List String} (distinct : names.Nodup) :
    names.eraseDups = names := by
  induction names with
  | nil => rfl
  | cons name rest ih =>
      obtain ⟨fresh, distinct⟩ := List.nodup_cons.mp distinct
      have kept : rest.filter (fun other => !other == name) = rest := by
        apply List.filter_eq_self.mpr
        intro other member
        simpa using fun same : other = name => fresh (same ▸ member)
      rw [List.eraseDups_cons, kept, ih distinct]

/-! ## Looking entries up -/

/-- Entries of engines of their own are told by the entry of each name. -/
theorem eq_of_named?_eq {left right : List EngineEntry}
    (names : left.map (·.name) = right.map (·.name)) (distinct : (left.map (·.name)).Nodup)
    (same : ∀ name ∈ left.map (·.name), named? name left = named? name right) : left = right := by
  induction left generalizing right with
  | nil => exact (List.map_eq_nil_iff.mp names.symm).symm
  | cons first rest ih =>
      obtain ⟨other, others, rfl, named, renamed⟩ := List.map_eq_cons_iff.mp names.symm
      obtain ⟨fresh, distinct⟩ := List.nodup_cons.mp distinct
      have heads := same first.name List.mem_cons_self
      simp only [named?, named, List.find?_cons, decide_true] at heads
      obtain rfl := Option.some.inj heads
      refine congrArg (first :: ·) (ih renamed.symm distinct fun name member => ?_)
      have apart : first.name ≠ name := by
        rintro rfl
        exact fresh member
      simpa [named?, List.find?_cons, apart] using same name (List.mem_cons_of_mem _ member)

/-- Where engines have one entry each, it is also the last one. -/
theorem lastNamed?_eq_named? {entries : List EngineEntry}
    (distinct : (entries.map (·.name)).Nodup) (name : String) :
    lastNamed? name entries = named? name entries := by
  unfold lastNamed? named?
  induction entries with
  | nil => rfl
  | cons first rest ih =>
      obtain ⟨fresh, distinct⟩ := List.nodup_cons.mp distinct
      by_cases same : first.name = name
      · have alone : rest.filter (fun entry => decide (entry.name = name)) = [] := by
          apply List.filter_eq_nil_iff.mpr
          intro entry member
          rw [decide_eq_true_eq]
          intro equal
          exact fresh (List.mem_map.mpr ⟨entry, member, equal.trans same.symm⟩)
        simp [same, alone]
      · simpa [same] using ih distinct

theorem named?_eq_none_iff {name : String} {entries : List EngineEntry} :
    named? name entries = none ↔ name ∉ entries.map (·.name) := by
  simp [named?]

/-- One entry for each of several names is found under its name. -/
theorem named?_map {entryFor : String → EngineEntry} (names : List String)
    (own : ∀ name, (entryFor name).name = name) {name : String} (member : name ∈ names) :
    named? name (names.map entryFor) = some (entryFor name) := by
  unfold named?
  rw [List.find?_map]
  have same : (fun entry : EngineEntry => decide (entry.name = name)) ∘ entryFor =
      fun other => decide (other = name) := by
    funext other
    simp [own]
  rw [same]
  cases found : names.find? fun other => decide (other = name) with
  | none => simpa using List.find?_eq_none.mp found name member
  | some other =>
      have equal : other = name := by simpa using List.find?_some found
      rw [equal]
      rfl

theorem lastNamed?_eq_none_iff {name : String} {entries : List EngineEntry} :
    lastNamed? name entries = none ↔ name ∉ entries.map (·.name) := by
  simp [lastNamed?]

theorem name_of_lastNamed? {name : String} {entries : List EngineEntry} {entry : EngineEntry}
    (found : lastNamed? name entries = some entry) : entry.name = name := by
  simpa using (List.mem_filter.mp (List.mem_of_getLast? found)).2

theorem lastNamed?_append_singleton (name : String) (entries : List EngineEntry)
    (entry : EngineEntry) :
    lastNamed? name (entries ++ [entry]) =
      if entry.name = name then some entry else lastNamed? name entries := by
  by_cases same : entry.name = name <;> simp [lastNamed?, same]

/-! ## Placing an entry -/

theorem named?_place (name : String) (entry : EngineEntry) (entries : List EngineEntry) :
    named? name (place entry entries) =
      if entry.name = name then some entry else named? name entries := by
  rw [place_eq]
  exact find?_placeBy (·.name) name entry entries

/-! ## Merging -/

variable (entries : List EngineEntry) (defaults : List (String × String))

/-- Default engines come first, in their order, and the others where they appear first. -/
theorem names_merge :
    (merge entries defaults).map (·.name) =
      defaults.map (·.1) ++ otherNames defaults entries := by
  induction entries using List.reverseRecOn with
  | nil => rw [names_merge_nil]; simp [otherNames]
  | append_singleton before entry ih =>
      have split : otherNames defaults (before ++ [entry]) =
          (((before.map (·.name)).filter (· ∉ defaults.map (·.1))) ++
            [entry.name].filter (· ∉ defaults.map (·.1))).eraseDups := by
        rw [otherNames, List.map_append, List.filter_append]
        rfl
      rw [merge_append_singleton, names_place, name_withDefaultChannel, ih, split]
      by_cases default : entry.name ∈ defaults.map (·.1)
      · rw [if_pos (List.mem_append_left _ default), List.filter_singleton]
        simp [default, otherNames]
      · have apart : [entry.name].filter (· ∉ defaults.map (·.1)) = [entry.name] := by
          simpa using default
        have known : entry.name ∈ defaults.map (·.1) ++ otherNames defaults before ↔
            entry.name ∈ (before.map (·.name)).filter (· ∉ defaults.map (·.1)) := by
          rw [List.mem_append, or_iff_right default, otherNames, List.mem_eraseDups]
        rw [apart, eraseDups_append_singleton]
        by_cases listed : entry.name ∈ (before.map (·.name)).filter (· ∉ defaults.map (·.1))
        · rw [if_pos (known.mpr listed), if_pos listed]
          rfl
        · rw [if_neg (known.not.mpr listed), if_neg listed, List.append_assoc]
          rfl

theorem named?_merge_nil (name : String) :
    named? name (merge [] defaults) =
      (defaults.lookup name).map fun channel => ⟨name, some channel, true⟩ := by
  unfold named? merge
  induction defaults with
  | nil => rfl
  | cons default rest ih =>
      obtain ⟨known, channel⟩ := default
      by_cases same : known = name
      · simp [same]
      · have other : (name == known) = false := beq_false_of_ne (Ne.symm same)
        simpa [List.lookup_cons, same, other] using ih

/-- An engine has what is said of it last, or else what the default is. -/
theorem named?_merge (name : String) :
    named? name (merge entries defaults) =
      match lastNamed? name entries with
      | some last => some (withDefaultChannel defaults last)
      | none => (defaults.lookup name).map fun channel => ⟨name, some channel, true⟩ := by
  induction entries using List.reverseRecOn with
  | nil => exact named?_merge_nil defaults name
  | append_singleton before entry ih =>
      rw [merge_append_singleton, named?_place, name_withDefaultChannel,
        lastNamed?_append_singleton]
      by_cases same : entry.name = name
      · rw [if_pos same, if_pos same]
      · rw [if_neg same, if_neg same, ih]

/-! ## Merging again -/

/-- The default channel is the channel of an entry for a default engine that names none. -/
theorem withDefaultChannel_eq (entry : EngineEntry) :
    withDefaultChannel defaults entry =
      if entry.name ∈ defaults.map (·.1) ∧ entry.channel = none then
        { entry with channel := defaults.lookup entry.name }
      else entry := by
  by_cases default : entry.name ∈ defaults.map (·.1)
  · unfold withDefaultChannel
    cases entry.channel <;> simp [default]
  · rw [withDefaultChannel_of_not_mem default, if_neg fun both => default both.1]

theorem withDefaultChannel_idem (entry : EngineEntry) :
    withDefaultChannel defaults (withDefaultChannel defaults entry) =
      withDefaultChannel defaults entry := by
  obtain ⟨name, channel, enabled⟩ := entry
  cases channel with
  | some channel => rfl
  | none => cases known : defaults.lookup name <;> simp [withDefaultChannel, known]

variable {entries defaults} in
/-- An entry that has been merged has the channel that a merge gives it. -/
theorem withDefaultChannel_of_merged {name : String} {entry : EngineEntry}
    (merged : named? name (merge entries defaults) = some entry) :
    withDefaultChannel defaults entry = entry := by
  rw [named?_merge] at merged
  cases last : lastNamed? name entries with
  | some said =>
      rw [last] at merged
      obtain rfl := Option.some.inj merged
      exact withDefaultChannel_idem defaults said
  | none =>
      rw [last] at merged
      obtain ⟨channel, -, rfl⟩ := Option.map_eq_some_iff.mp merged
      rfl

theorem otherNames_merge (distinct : (defaults.map (·.1)).Nodup) :
    otherNames defaults (merge entries defaults) = otherNames defaults entries := by
  have merged := nodup_names_merge entries distinct
  rw [names_merge] at merged
  have known : (defaults.map (·.1)).filter (· ∉ defaults.map (·.1)) = [] :=
    List.filter_eq_nil_iff.mpr fun name member => by simpa using List.mem_map.mp member
  have kept : (otherNames defaults entries).filter (· ∉ defaults.map (·.1)) =
      otherNames defaults entries := by
    apply List.filter_eq_self.mpr
    intro name member
    exact (List.mem_filter.mp (List.mem_eraseDups.mp member)).2
  conv_lhs => rw [otherNames, names_merge, List.filter_append, known, kept]
  exact eraseDups_of_nodup (List.nodup_append.mp merged).2.1

/-- A merge has nothing left to do for what has been merged. -/
theorem merge_merge (distinct : (defaults.map (·.1)).Nodup) :
    merge (merge entries defaults) defaults = merge entries defaults := by
  have merged := nodup_names_merge entries distinct
  have names : (merge (merge entries defaults) defaults).map (·.name) =
      (merge entries defaults).map (·.name) := by
    rw [names_merge, names_merge, otherNames_merge entries defaults distinct]
  apply eq_of_named?_eq names
  · rwa [names]
  · intro name member
    rw [named?_merge, lastNamed?_eq_named? merged]
    rw [names] at member
    cases found : named? name (merge entries defaults) with
    | none => exact absurd member (named?_eq_none_iff.mp found)
    | some entry => exact congrArg some (withDefaultChannel_of_merged found)

theorem lookup_of_mem (distinct : (defaults.map (·.1)).Nodup) {default : String × String}
    (member : default ∈ defaults) : defaults.lookup default.1 = some default.2 := by
  induction defaults with
  | nil => cases member
  | cons first rest ih =>
      obtain ⟨name, channel⟩ := first
      obtain ⟨fresh, apart⟩ := List.nodup_cons.mp distinct
      rcases List.mem_cons.mp member with rfl | inRest
      · simp
      · have other : (default.1 == name) = false := by
          apply beq_false_of_ne
          rintro rfl
          exact fresh (List.mem_map.mpr ⟨default, inRest, rfl⟩)
        rw [List.lookup_cons, other]
        exact ih apart inRest

/-- A merge with default engines that have names keeps one entry for each engine, the default ones
first and in their order.  An engine has the entry that is given to it last, on the default channel
if it is a default one and names none, and a default engine that is given no entry is enabled on its
default channel.  Merging again changes nothing. -/
theorem mergeChecked_takesLast (distinct : (defaults.map (·.1)).Nodup)
    (named : ∀ default ∈ defaults, default.1 ≠ "") :
    ∃ merged, mergeChecked entries defaults = .ok merged ∧
      (merged.map (·.name)).Nodup ∧
      merged.map (·.name) = defaults.map (·.1) ++ otherNames defaults entries ∧
      (∀ name last, lastNamed? name entries = some last →
        named? name merged =
          some (if name ∈ defaults.map (·.1) ∧ last.channel = none then
            { last with channel := defaults.lookup name } else last)) ∧
      (∀ default ∈ defaults, default.1 ∉ entries.map (·.name) →
        named? default.1 merged = some ⟨default.1, some default.2, true⟩) ∧
      mergeChecked merged defaults = .ok merged := by
  refine ⟨merge entries defaults, mergeChecked_of_named named entries,
    nodup_names_merge entries distinct, names_merge entries defaults, ?_, ?_, ?_⟩
  · intro name last said
    rw [named?_merge, said]
    simp only
    rw [withDefaultChannel_eq, name_of_lastNamed? said]
  · intro default member unlisted
    rw [named?_merge, lastNamed?_eq_none_iff.mpr unlisted, lookup_of_mem defaults distinct member]
    rfl
  · rw [mergeChecked_of_named named, merge_merge entries defaults distinct]

/-- Entries that list one engine twice, move one default engine to another channel and name none for
the other. -/
def scattered : List EngineEntry :=
  [⟨"linter", none, true⟩, ⟨"structure", some "beta", false⟩, ⟨"linter", some "next", true⟩,
    ⟨"duplication", none, true⟩]

def threeDefaults : List (String × String) :=
  [("duplication", "edge"), ("complexity", "stable"), ("structure", "stable")]

theorem scattered_takesLast :
    ∃ merged, mergeChecked scattered threeDefaults = .ok merged ∧
      merged.map (·.name) = ["duplication", "complexity", "structure", "linter"] ∧
      named? "linter" merged = some ⟨"linter", some "next", true⟩ ∧
      named? "duplication" merged = some ⟨"duplication", some "edge", true⟩ ∧
      named? "complexity" merged = some ⟨"complexity", some "stable", true⟩ ∧
      mergeChecked merged threeDefaults = .ok merged := by
  obtain ⟨merged, merges, -, names, last, unlisted, again⟩ :=
    mergeChecked_takesLast scattered threeDefaults (by decide) (by decide)
  refine ⟨merged, merges, names.trans ?_, (last "linter" _ rfl).trans ?_,
    (last "duplication" _ rfl).trans ?_, unlisted ("complexity", "stable") (by decide) (by decide),
    again⟩
  · decide +kernel
  · decide
  · decide

end AnalysisEngines.Configuration
