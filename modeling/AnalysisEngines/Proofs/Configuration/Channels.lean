import AnalysisEngines.Proofs.Configuration.Precedence
import AnalysisEngines.Proofs.Installation

/-!
# From a configuration to the channels that are pulled

An engine is due on the channel that its value in the configuration names, or else on the channel of
the default engine of its name, or else on the installer's default channel.  An installation asks the
registry for just these channels, but for engines whose value states an empty channel: it takes them
for engines without a channel only after the default engines have had their say.
-/

set_option autoImplicit false

namespace AnalysisEngines

namespace Configuration

/-! ## What a configuration says of its engines -/

/-- The engines that a section lists, each with its value. -/
def listedIn : Value → List (String × Value)
  | .map engines => engines.map fun engine => (engine.1.display, engine.2)
  | _ => []

/-- The engines that a configuration lists, section by section. -/
def listed : Value → List (String × Value)
  | .map content => sections.flatMap fun key => listedIn (Value.member key content)
  | _ => []

/-- The channel that the value of an engine states, if it states one. -/
def statedChannel? : Value → Option String
  | .map fields =>
      match Value.member "channel" fields with
      | .text channel => some channel
      | _ => none
  | _ => none

/-- Whether the value of an engine lets it be enabled. -/
def isEnabledBy : Value → Bool
  | .bool enabled => enabled
  | .map fields =>
      match Value.lookup "enabled" fields with
      | some (.bool enabled) => enabled
      | _ => true
  | _ => true

/-- An engine, with the value that counts of those that the configuration lists it with. -/
structure Origin where
  name : String
  value : Option Value

namespace Origin

def stated? (origin : Origin) : Option String := origin.value.bind statedChannel?

def isEnabled (origin : Origin) : Bool := (origin.value.map isEnabledBy).getD true

/-- The entry that comes of an origin. -/
def toEntry (defaults : List (String × String)) (origin : Origin) : EngineEntry where
  name := origin.name
  channel := origin.stated?.or (defaults.lookup origin.name)
  enabled := origin.isEnabled

/-- The channel on which an engine is due: the one that its value names, or that of the default
engine of its name, or the default one.  An empty text names none. -/
def dueChannel (defaults : List (String × String)) (default : String) (origin : Origin) : String :=
  (given? origin.stated?).getD ((given? (defaults.lookup origin.name)).getD default)

/-- An engine that states an empty channel, and is a default engine on another than the default
channel. -/
structure IsMuted (defaults : List (String × String)) (default : String) (origin : Origin) :
    Prop where
  empty : origin.stated? = some ""
  other : origin.dueChannel defaults default ≠ default

end Origin

/-- The value that a configuration lists an engine with last. -/
def lastValue? (name : String) (listed : List (String × Value)) : Option Value :=
  (listed.filter (·.1 = name)).getLast?.map (·.2)

/-- Where the entries of a configuration come from: from all that it lists, or else, where there are
default engines, one from each engine. -/
def origins (configuration : Value) (defaults : List (String × String)) : List Origin :=
  let listed := listed configuration
  if defaults = [] then listed.map fun engine => ⟨engine.1, some engine.2⟩
  else
    (defaults.map (·.1) ++
      ((listed.map (·.1)).filter (· ∉ defaults.map (·.1))).eraseDups).map fun name =>
        ⟨name, lastValue? name listed⟩

/-! ## Reading -/

/-- The entry that a listed engine is read as. -/
def readEntry (engine : String × Value) : EngineEntry :=
  ⟨engine.1, statedChannel? engine.2, isEnabledBy engine.2⟩

theorem eq_of_checked {entry result : EngineEntry} (accepted : checked entry.check = .ok result) :
    result = entry := by
  unfold EngineEntry.check at accepted
  split at accepted
  · cases accepted
  · cases accepted
    rfl

theorem entryOf_eq {name : String} {given : Value} {entry : EngineEntry}
    (accepted : entryOf name given = .ok entry) : entry = readEntry (name, given) := by
  unfold entryOf at accepted
  split at accepted
  · exact eq_of_checked accepted
  · -- a channel that is a text or missing, and then an answer that is a truth value or missing
    unfold readEntry statedChannel? isEnabledBy
    dsimp only at accepted ⊢
    split at accepted
    case h_3 => cases accepted
    all_goals
      rename_i stated
      rw [stated]
      split at accepted
      case h_3 => cases accepted
      all_goals
        rename_i answered
        rw [answered]
        exact eq_of_checked accepted
  · cases accepted

theorem mapM_eq_map {ε α β : Type} {read : α → Except ε β} {result : α → β}
    (reads : ∀ item outcome, read item = .ok outcome → outcome = result item) {items : List α}
    {outcomes : List β} (accepted : items.mapM read = .ok outcomes) :
    outcomes = items.map result := by
  induction items generalizing outcomes with
  | nil =>
      cases accepted
      rfl
  | cons item rest ih =>
      rw [List.mapM_cons] at accepted
      cases first : read item with
      | error problem =>
          rw [first] at accepted
          cases accepted
      | ok outcome =>
          cases others : rest.mapM read with
          | error problem =>
              rw [first, others] at accepted
              cases accepted
          | ok more =>
              rw [first, others] at accepted
              cases accepted
              rw [List.map_cons, ← ih others, reads item outcome first]

theorem entriesOfSection_eq {key : String} {content : Value} {entries : List EngineEntry}
    (accepted : entriesOfSection key content = .ok entries) :
    entries = (listedIn content).map readEntry := by
  unfold entriesOfSection at accepted
  split at accepted
  · cases accepted
    rfl
  · rename_i engines
    have reads := mapM_eq_map (fun engine _ => @entryOf_eq engine.1.display engine.2 _) accepted
    rw [reads, listedIn, List.map_map]
    rfl
  · cases accepted

theorem listed_of_not_isGiven {configuration : Value} (absent : configuration.isGiven = false) :
    listed configuration = [] := by
  cases configuration with
  | map content =>
      have nothing : content = [] := by simpa [Value.isGiven] using absent
      rw [nothing]
      rfl
  | _ => rfl

/-- A configuration that is accepted is read engine by engine. -/
theorem entriesOf_eq {configuration : Value} {entries : List EngineEntry}
    (accepted : entriesOf configuration = .ok entries) :
    entries = (listed configuration).map readEntry := by
  unfold entriesOf at accepted
  split at accepted
  · rename_i absent
    cases accepted
    rw [listed_of_not_isGiven absent]
    rfl
  · rename_i content _
    cases sectionwise : sections.mapM fun key => entriesOfSection key (Value.member key content) with
    | error problem =>
        rw [sectionwise] at accepted
        cases accepted
    | ok parts =>
        rw [sectionwise] at accepted
        cases accepted
        rw [mapM_eq_map (fun key _ => entriesOfSection_eq) sectionwise, listed, List.map_flatMap,
          List.flatMap_def]
  · cases accepted

/-! ## The origin of each entry -/

theorem toEntry_of_listed (engine : String × Value) :
    Origin.toEntry [] ⟨engine.1, some engine.2⟩ = readEntry engine := by
  simp [Origin.toEntry, Origin.stated?, Origin.isEnabled, readEntry]

theorem withDefaultChannel_readEntry (defaults : List (String × String))
    (engine : String × Value) :
    withDefaultChannel defaults (readEntry engine) =
      Origin.toEntry defaults ⟨engine.1, some engine.2⟩ := by
  cases stated : statedChannel? engine.2 <;>
    simp [withDefaultChannel, readEntry, Origin.toEntry, Origin.stated?, Origin.isEnabled, stated]

theorem lastNamed?_map_readEntry (name : String) (listed : List (String × Value)) :
    lastNamed? name (listed.map readEntry) =
      (lastValue? name listed).map fun value => readEntry (name, value) := by
  have same : (fun entry : EngineEntry => decide (entry.name = name)) ∘ readEntry =
      fun engine => decide (engine.1 = name) := rfl
  unfold lastNamed? lastValue?
  rw [List.filter_map, same, List.getLast?_map, Option.map_map]
  cases last : (listed.filter fun engine => decide (engine.1 = name)).getLast? with
  | none => rfl
  | some engine =>
      have named : engine.1 = name := by
        simpa using (List.mem_filter.mp (List.mem_of_getLast? last)).2
      rw [← named]
      rfl

theorem lastValue?_eq_none_iff {name : String} {listed : List (String × Value)} :
    lastValue? name listed = none ↔ name ∉ listed.map (·.1) := by
  rw [lastValue?, Option.map_eq_none_iff, List.getLast?_eq_none_iff, List.filter_eq_nil_iff]
  constructor
  · intro apart member
    obtain ⟨engine, isListed, named⟩ := List.mem_map.mp member
    exact apart engine isListed (decide_eq_true named)
  · intro absent engine isListed named
    exact absent (List.mem_map.mpr ⟨engine, isListed, of_decide_eq_true named⟩)

/-- What default engines make of the engines that are listed. -/
theorem merge_map_readEntry {defaults : List (String × String)}
    (distinct : (defaults.map (·.1)).Nodup) (listed : List (String × Value)) :
    merge (listed.map readEntry) defaults =
      (defaults.map (·.1) ++
        ((listed.map (·.1)).filter (· ∉ defaults.map (·.1))).eraseDups).map fun name =>
          Origin.toEntry defaults ⟨name, lastValue? name listed⟩ := by
  have names : (merge (listed.map readEntry) defaults).map (·.name) = defaults.map (·.1) ++
      ((listed.map (·.1)).filter (· ∉ defaults.map (·.1))).eraseDups := by
    rw [names_merge, otherNames, List.map_map]
    rfl
  apply eq_of_named?_eq
  · rw [names, List.map_map]
    exact (List.map_id _).symm
  · exact nodup_names_merge _ distinct
  · intro name member
    rw [names] at member
    rw [named?_map _ (fun _ => rfl) member, named?_merge, lastNamed?_map_readEntry]
    cases last : lastValue? name listed with
    | some value => exact congrArg some (withDefaultChannel_readEntry defaults (name, value))
    | none =>
        have unlisted := lastValue?_eq_none_iff.mp last
        have isDefault : name ∈ defaults.map (·.1) := by
          rcases List.mem_append.mp member with known | other
          · exact known
          · exact absurd (List.mem_filter.mp (List.mem_eraseDups.mp other)).1 unlisted
        obtain ⟨default, known, rfl⟩ := List.mem_map.mp isDefault
        simp only [Option.map_none, Origin.toEntry, lookup_of_mem defaults distinct known]
        rfl

/-- Each entry of a configuration that is accepted comes of its origin. -/
theorem ofValue_eq {configuration : Value} {defaults : List (String × String)}
    {entries : List EngineEntry} (distinct : (defaults.map (·.1)).Nodup)
    (accepted : ofValue configuration defaults = .ok entries) :
    entries = (origins configuration defaults).map (Origin.toEntry defaults) := by
  unfold ofValue at accepted
  cases parsed : entriesOf configuration with
  | error problem =>
      rw [parsed] at accepted
      cases accepted
  | ok known =>
      rw [parsed] at accepted
      have read := entriesOf_eq parsed
      cases defaults with
      | nil =>
          cases accepted
          rw [read, origins, if_pos rfl, List.map_map]
          exact List.map_congr_left fun engine _ => (toEntry_of_listed engine).symm
      | cons default rest =>
          rw [mergeChecked_eq accepted, read, merge_map_readEntry distinct, origins,
            if_neg (List.cons_ne_nil _ _), List.map_map]
          rfl

/-! ## The channel of an entry -/

/-- An entry stands for the channel on which its engine is due, unless it states an empty one: then
it stands for the default channel. -/
theorem Origin.effectiveChannel_toEntry (defaults : List (String × String)) (default : String)
    (origin : Origin) :
    (origin.toEntry defaults).effectiveChannel default =
      if origin.stated? = some "" then default else origin.dueChannel defaults default := by
  unfold EngineEntry.effectiveChannel Origin.dueChannel Origin.toEntry
  cases stated : origin.stated? with
  | none => rfl
  | some channel =>
      by_cases empty : channel = ""
      · subst empty
        rfl
      · have named : given? (some channel) = some channel := by
          unfold given?
          split
          · simp_all
          · rfl
        have solid : ¬ (some channel = some "") := by simpa using empty
        rw [Option.some_or, named, if_neg solid]
        rfl

theorem Origin.effectiveChannel_of_isMuted (defaults : List (String × String)) (default : String)
    (origin : Origin) (muted : origin.IsMuted defaults default) :
    (origin.toEntry defaults).effectiveChannel default = default := by
  rw [effectiveChannel_toEntry, if_pos muted.empty]

theorem Origin.effectiveChannel_of_not_isMuted (defaults : List (String × String))
    (default : String) (origin : Origin) (heard : ¬ origin.IsMuted defaults default) :
    (origin.toEntry defaults).effectiveChannel default = origin.dueChannel defaults default := by
  rw [effectiveChannel_toEntry]
  by_cases empty : origin.stated? = some ""
  · rw [if_pos empty]
    by_contra other
    exact heard ⟨empty, Ne.symm other⟩
  · rw [if_neg empty]

theorem enabled_map_toEntry (defaults : List (String × String)) (origins : List Origin) :
    enabled (origins.map (Origin.toEntry defaults)) =
      (origins.filter Origin.isEnabled).map (Origin.toEntry defaults) := by
  rw [enabled, List.filter_map]
  rfl

end Configuration

/-! ## What an installation resolves -/

/-- A step that resolves an engine on a channel, which the registry knows it on or does not. -/
def InstallStep.Resolves (registry : Registry) (name channel : String) : InstallStep → Prop
  | .unknown missed vain => (missed, vain) = (name, channel) ∧ registry.find? name channel = none
  | .attempted engine _ => registry.find? name channel = some engine

instance (registry : Registry) (name channel : String) (step : InstallStep) :
    Decidable (step.Resolves registry name channel) :=
  match step with
  | .unknown missed vain => inferInstanceAs (Decidable ((missed, vain) = (name, channel) ∧ _ = _))
  | .attempted engine _ => inferInstanceAs (Decidable (registry.find? name channel = some engine))

namespace Installer

variable {σ : Type} {installer : Installer} {pull : Puller σ}

/-- The entries are resolved in their order, each on the channel that it stands for. -/
theorem steps_resolve {entries : List EngineEntry} {state : σ} {place : Nat} {step : InstallStep}
    (taken : (installer.steps pull entries state).1[place]? = some step) :
    ∃ entry, entries[place]? = some entry ∧
      step.Resolves installer.registry entry.name
        (entry.effectiveChannel installer.defaultChannel) := by
  induction entries generalizing state place with
  | nil => cases taken
  | cons entry rest ih =>
      rw [steps] at taken
      dsimp only at taken
      cases found : installer.registry.find? entry.name
          (entry.effectiveChannel installer.defaultChannel) with
      | none =>
          rw [found] at taken
          cases place with
          | zero =>
              cases taken
              exact ⟨entry, rfl, rfl, found⟩
          | succ place => exact ih taken
      | some engine =>
          rw [found] at taken
          dsimp only at taken
          cases place with
          | zero => split at taken <;> cases taken <;> exact ⟨entry, rfl, found⟩
          | succ place =>
              split at taken
              · cases taken
              · exact ih taken

/-- All entries are resolved unless a pull fails. -/
theorem length_steps {entries : List EngineEntry} {state : σ}
    (passes : ∀ step ∈ (installer.steps pull entries state).1, step.isFailure = false) :
    (installer.steps pull entries state).1.length = entries.length := by
  induction entries generalizing state with
  | nil => rfl
  | cons entry rest ih =>
      rw [steps] at passes ⊢
      dsimp only at passes ⊢
      cases found : installer.registry.find? entry.name
          (entry.effectiveChannel installer.defaultChannel) with
      | none =>
          rw [found] at passes
          refine congrArg (· + 1) (ih ?_)
          intro step later
          exact passes step (List.mem_cons_of_mem _ later)
      | some engine =>
          rw [found] at passes
          dsimp only at passes ⊢
          split at passes
          · rename_i fails
            rw [passes _ (List.mem_singleton_self _)] at fails
            cases fails
          · rename_i passed
            rw [if_neg passed]
            refine congrArg (· + 1) (ih ?_)
            intro step later
            exact passes step (List.mem_cons_of_mem _ later)

open AnalysisEngines.Configuration

/-- An installation resolves the enabled engines of a configuration in their order, all of them
unless a pull fails, and each on the channel on which it is due, unless that is muted by an empty
channel: then it is resolved on the default one. -/
theorem install_resolves (installer : Installer) (pull : Puller σ) (state : σ)
    {configuration : Value} {defaults : List (String × String)} {entries : List EngineEntry}
    (distinct : (defaults.map (·.1)).Nodup)
    (accepted : ofValue configuration defaults = .ok entries) :
    let installation := (installer.install pull entries state).1
    let due := (origins configuration defaults).filter Origin.isEnabled
    (∀ (place : Nat) (step : InstallStep), installation.steps[place]? = some step →
      ∃ origin, due[place]? = some origin ∧
        (¬ origin.IsMuted defaults installer.defaultChannel →
          step.Resolves installer.registry origin.name
            (origin.dueChannel defaults installer.defaultChannel)) ∧
        (origin.IsMuted defaults installer.defaultChannel →
          step.Resolves installer.registry origin.name installer.defaultChannel)) ∧
    (installation.failure? = none → installation.steps.length = due.length) := by
  intro installation due
  have enabled : Configuration.enabled entries = due.map (Origin.toEntry defaults) := by
    rw [ofValue_eq distinct accepted, enabled_map_toEntry]
  have steps : installation.steps =
      (installer.steps pull (due.map (Origin.toEntry defaults)) state).1 := by
    rw [← enabled]
    rfl
  rw [steps]
  constructor
  · intro place step taken
    obtain ⟨entry, listed, resolves⟩ := steps_resolve taken
    rw [List.getElem?_map] at listed
    obtain ⟨origin, found, rfl⟩ := Option.map_eq_some_iff.mp listed
    refine ⟨origin, found, ?_, ?_⟩
    · intro heard
      rwa [origin.effectiveChannel_of_not_isMuted defaults installer.defaultChannel heard]
        at resolves
    · intro muted
      rwa [origin.effectiveChannel_of_isMuted defaults installer.defaultChannel muted] at resolves
  · intro unfailed
    rw [length_steps, List.length_map]
    intro step member
    rw [← steps] at member
    apply (InstallStep.failure?_eq_none_iff step).mp
    exact List.findSome?_eq_none_iff.mp unfailed step member

/-- A default engine with an empty channel, an engine that is turned off, and one with a channel. -/
def quiet : Value :=
  .textMap [("engines", .textMap [("structure", .textMap [("channel", .text "")]),
    ("tidier", .bool false), ("linter", .textMap [("channel", .text "beta")])])]

def quietDefaults : List (String × String) := [("structure", "beta"), ("duplication", "edge")]

theorem quiet_isRead :
    ofValue quiet quietDefaults = .ok [⟨"structure", some "", true⟩,
      ⟨"duplication", some "edge", true⟩, ⟨"tidier", none, false⟩,
      ⟨"linter", some "beta", true⟩] := by
  with_unfolding_all rfl

theorem quiet_isDue :
    (origins quiet quietDefaults).filter Origin.isEnabled =
      [⟨"structure", some (.textMap [("channel", .text "")])⟩, ⟨"duplication", none⟩,
        ⟨"linter", some (.textMap [("channel", .text "beta")])⟩] := by
  with_unfolding_all rfl

def published : Installer where
  registry := { content :=
    [{ name := "structure"
       channels := [("stable", "analyzer/structure"), ("beta", "analyzer/structure:beta")] },
      { name := "linter", channels := [("beta", "analyzer/linter:beta")] }] }

/-- The engine with a channel and the default engine that goes without mention are resolved on the
channels on which they are due. -/
theorem quiet_resolves :
    ∃ entries, ofValue quiet quietDefaults = .ok entries ∧
      (∀ step, (published.install countingPull entries 0).1.steps[1]? = some step →
        step.Resolves published.registry "duplication" "edge") ∧
      (∀ step, (published.install countingPull entries 0).1.steps[2]? = some step →
        step.Resolves published.registry "linter" "beta") ∧
      (published.install countingPull entries 0).1.steps.length = 3 := by
  obtain ⟨resolves, whole⟩ :=
    install_resolves published countingPull 0 (by decide : (quietDefaults.map (·.1)).Nodup)
      quiet_isRead
  rw [quiet_isDue] at resolves whole
  refine ⟨_, quiet_isRead, fun step taken => ?_, fun step taken => ?_, whole (by decide)⟩
  · obtain ⟨origin, found, heard, -⟩ := resolves 1 step taken
    cases found
    exact heard fun muted => by cases muted.empty
  · obtain ⟨origin, found, heard, -⟩ := resolves 2 step taken
    cases found
    have stated : Origin.stated? ⟨"linter", some (.textMap [("channel", .text "beta")])⟩ =
        some "beta" := by
      with_unfolding_all rfl
    have solid : some "beta" ≠ some "" := by decide
    with_unfolding_all exact heard fun muted => solid (stated.symm.trans muted.empty)

/-- The default engine with an empty channel is due on its default channel, and is resolved on that
of the installer. -/
theorem quiet_mutes :
    ∃ entries origin step, ofValue quiet quietDefaults = .ok entries ∧
      ((origins quiet quietDefaults).filter Origin.isEnabled)[0]? = some origin ∧
      (published.install countingPull entries 0).1.steps[0]? = some step ∧
      origin.dueChannel quietDefaults published.defaultChannel = "beta" ∧
      ¬ step.Resolves published.registry origin.name "beta" ∧
      step.Resolves published.registry origin.name "stable" :=
  ⟨_, _, .attempted ⟨"structure", "stable", "analyzer/structure"⟩ _, quiet_isRead,
    congrArg (·[0]?) quiet_isDue, rfl, by with_unfolding_all rfl, by decide, by decide⟩

end Installer

end AnalysisEngines
