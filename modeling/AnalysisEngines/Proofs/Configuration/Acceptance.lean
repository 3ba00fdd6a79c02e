import AnalysisEngines.Proofs.Collection
import AnalysisEngines.Proofs.Configuration.Channels

/-!
# Which configurations are accepted

A configuration is sound if its sections list engines under names that are not empty, and each engine
is given a truth value, or a mapping with a channel and a truth value, either of which it may leave
out.  A sound one is read engine by engine.  Any other is refused for its first offence, with a fault
that names the section or the engine, unless an empty name is all that is wrong with that engine.
-/

set_option autoImplicit false

namespace AnalysisEngines.Configuration

/-! ## What a configuration has to be -/

/-- What an engine may be given. -/
inductive IsEngineValue : Value → Prop
  | truth {enabled : Bool} : IsEngineValue (.bool enabled)
  | map {fields : List (Value × Value)} {channel : Option String} {enabled : Option Bool} :
      Value.member "channel" fields = Value.ofText? channel →
      Value.lookup "enabled" fields = enabled.map Value.bool → IsEngineValue (.map fields)

inductive IsSection : Value → Prop
  | null : IsSection .null
  | map {engines : List (Value × Value)} :
      (∀ engine ∈ engines, IsEngineValue engine.2) → IsSection (.map engines)

structure IsSound (content : List (Value × Value)) : Prop where
  sections : ∀ key ∈ sections, IsSection (Value.member key content)
  named : ∀ engine ∈ listed (.map content), engine.1 ≠ ""

/-- An engine that can be read: under a name that is not empty. -/
structure IsFit (engine : Value × Value) : Prop where
  value : IsEngineValue engine.2
  named : engine.1.display ≠ ""

/-- A section that can be read. -/
structure IsFitSection (content : Value) : Prop where
  isSection : IsSection content
  named : ∀ engine ∈ listedIn content, engine.1 ≠ ""

/-- The first offence of a section, and the name of what is at fault: the section itself, or an
engine with a value that is not of its kind. -/
inductive SectionOffence (key : String) : Value → String → Prop
  | notAMap {content : Value} :
      content ≠ .null → (∀ engines, content ≠ .map engines) → SectionOffence key content key
  | badValue {before after : List (Value × Value)} {engine given : Value} :
      (∀ known ∈ before, IsFit known) → ¬ IsEngineValue given →
      SectionOffence key (.map (before ++ (engine, given) :: after)) engine.display

/-- A section whose first offence is an empty name alone. -/
inductive IsNamelessSection : Value → Prop
  | engine {before after : List (Value × Value)} {engine given : Value} :
      (∀ known ∈ before, IsFit known) → IsEngineValue given → engine.display = "" →
      IsNamelessSection (.map (before ++ (engine, given) :: after))

/-- The first offence of a configuration, and the name of the section or the engine at fault. -/
inductive Offence (content : List (Value × Value)) (name : String) : Prop
  | within {before after : List String} {key : String} :
      sections = before ++ key :: after →
      (∀ known ∈ before, IsFitSection (Value.member known content)) →
      SectionOffence key (Value.member key content) name → Offence content name

/-- A configuration whose first offence is an empty name alone. -/
inductive IsNameless (content : List (Value × Value)) : Prop
  | within {before after : List String} {key : String} :
      sections = before ++ key :: after →
      (∀ known ∈ before, IsFitSection (Value.member known content)) →
      IsNamelessSection (Value.member key content) → IsNameless content

theorem isFitSection_map_iff {engines : List (Value × Value)} :
    IsFitSection (.map engines) ↔ ∀ engine ∈ engines, IsFit engine := by
  constructor
  · rintro ⟨⟨⟩ | values, named⟩ engine member
    exact ⟨values engine member, named _ (List.mem_map_of_mem member)⟩
  · intro fit
    refine ⟨.map fun engine member => (fit engine member).value, ?_⟩
    intro _ member
    obtain ⟨engine, isListed, rfl⟩ := List.mem_map.mp member
    exact (fit engine isListed).named

theorem isSound_iff {content : List (Value × Value)} :
    IsSound content ↔ ∀ key ∈ sections, IsFitSection (Value.member key content) := by
  constructor
  · intro sound key member
    refine ⟨sound.sections key member, ?_⟩
    intro engine isListed
    exact sound.named engine (List.mem_flatMap.mpr ⟨key, member, isListed⟩)
  · intro fit
    refine ⟨fun key member => (fit key member).isSection, ?_⟩
    intro engine isListed
    obtain ⟨key, member, within⟩ := List.mem_flatMap.mp isListed
    exact (fit key member).named engine within

/-! ## Engines -/

/-- What is wrong with an entry that has no name. -/
def namelessProblems : List Validation.Problem := [⟨[.text "name"], .emptyText⟩]

theorem checked_of_named {entry : EngineEntry} (named : entry.name ≠ "") :
    checked entry.check = .ok entry := by
  rw [EngineEntry.check, if_neg named]
  rfl

theorem checked_of_nameless {entry : EngineEntry} (nameless : entry.name = "") :
    checked entry.check = .error (.invalid namelessProblems) := by
  rw [EngineEntry.check, if_pos nameless]
  rfl

/-- An engine with a value of its kind is read, and its name is checked then. -/
theorem entryOf_of_isEngineValue (name : String) {given : Value} (value : IsEngineValue given) :
    entryOf name given = checked (readEntry (name, given)).check := by
  cases value with
  | truth => rfl
  | @map fields channel enabled stated answered =>
      unfold entryOf readEntry statedChannel? isEnabledBy
      dsimp only
      rw [stated, answered]
      cases channel <;> cases enabled <;> rfl

theorem entryOf_of_not_isEngineValue (name : String) {given : Value}
    (offends : ¬ IsEngineValue given) :
    ∃ fault, entryOf name given = .error (.fault fault) ∧ fault.key = name := by
  cases given with
  | bool enabled => exact absurd .truth offends
  | map fields =>
      -- a channel that is no text, or else an answer that is no truth value
      by_cases stated : ∃ channel, Value.member "channel" fields = Value.ofText? channel
      · obtain ⟨channel, stated⟩ := stated
        refine ⟨.enabledNotTruth name (.map fields), ?_, rfl⟩
        cases answered : Value.lookup "enabled" fields with
        | none => exact absurd (@IsEngineValue.map fields channel none stated answered) offends
        | some answer =>
            cases answer with
            | bool enabled =>
                exact absurd (@IsEngineValue.map fields channel enabled stated answered) offends
            | _ =>
                unfold entryOf
                dsimp only
                rw [stated, answered]
                cases channel <;> rfl
      · refine ⟨.channelNotText name (.map fields), ?_, rfl⟩
        unfold entryOf
        dsimp only
        cases given : Value.member "channel" fields with
        | null => exact absurd ⟨none, given⟩ stated
        | text channel => exact absurd ⟨some channel, given⟩ stated
        | _ => rfl
  | _ => exact ⟨.badEntry name _, rfl, rfl⟩

theorem entryOf_of_isFit {engine : Value × Value} (fit : IsFit engine) :
    entryOf engine.1.display engine.2 = .ok (readEntry (engine.1.display, engine.2)) := by
  rw [entryOf_of_isEngineValue _ fit.value]
  exact checked_of_named fit.named

/-! ## Sections -/

theorem entriesOfSection_of_isFit (key : String) {content : Value} (fit : IsFitSection content) :
    entriesOfSection key content = .ok ((listedIn content).map readEntry) := by
  cases content with
  | null => rfl
  | map engines =>
      have reads : (engines.mapM fun engine => entryOf engine.1.display engine.2) =
          .ok (engines.map fun engine => readEntry (engine.1.display, engine.2)) := by
        apply mapM_of_forall
        intro engine member
        exact entryOf_of_isFit (isFitSection_map_iff.mp fit engine member)
      rw [entriesOfSection, reads, listedIn, List.map_map]
      rfl
  | _ => cases fit.isSection

/-- What one engine gives is what its section gives, if those before it can be read. -/
theorem entriesOfSection_of_first (key : String) {before after : List (Value × Value)}
    {engine given : Value} {problem : ConfigurationProblem} (fit : ∀ known ∈ before, IsFit known)
    (fails : entryOf engine.display given = .error problem) :
    entriesOfSection key (.map (before ++ (engine, given) :: after)) = .error problem := by
  apply mapM_of_first fun engine : Value × Value => entryOf engine.1.display engine.2
  · intro known member
    exact ⟨_, entryOf_of_isFit (fit known member)⟩
  · exact fails

theorem entriesOfSection_of_offence {key name : String} {content : Value}
    (offence : SectionOffence key content name) :
    ∃ fault, entriesOfSection key content = .error (.fault fault) ∧ fault.key = name := by
  cases offence with
  | notAMap given foreign =>
      refine ⟨.sectionNotAMap key content, ?_, rfl⟩
      cases content with
      | null => exact absurd rfl given
      | map engines => exact absurd rfl (foreign engines)
      | _ => rfl
  | badValue fit offends =>
      obtain ⟨fault, fails, named⟩ := entryOf_of_not_isEngineValue _ offends
      exact ⟨fault, entriesOfSection_of_first key fit fails, named⟩

theorem entriesOfSection_of_isNameless (key : String) {content : Value}
    (nameless : IsNamelessSection content) :
    entriesOfSection key content = .error (.invalid namelessProblems) := by
  cases nameless with
  | engine fit value empty =>
      apply entriesOfSection_of_first key fit
      rw [entryOf_of_isEngineValue _ value]
      exact checked_of_nameless empty

theorem section_cases (key : String) (content : Value) :
    IsFitSection content ∨ (∃ name, SectionOffence key content name) ∨
      IsNamelessSection content := by
  cases content with
  | null => exact .inl ⟨.null, fun _ member => absurd member List.not_mem_nil⟩
  | map engines =>
      rcases forall_or_first IsFit engines with
        fit | ⟨before, ⟨engine, given⟩, after, rfl, fit, offends⟩
      · exact .inl (isFitSection_map_iff.mpr fit)
      · by_cases value : IsEngineValue given
        · have empty : engine.display = "" := by
            by_contra named
            exact offends ⟨value, named⟩
          exact .inr (.inr (.engine fit value empty))
        · exact .inr (.inl ⟨_, .badValue fit value⟩)
  | _ => exact .inr (.inl ⟨key, .notAMap Value.noConfusion fun _ => Value.noConfusion⟩)

/-! ## Configurations -/

theorem entriesOf_map (content : List (Value × Value)) :
    entriesOf (.map content) =
      (sections.mapM fun key => entriesOfSection key (Value.member key content)).map
        List.flatten := by
  cases content with
  | nil => rfl
  | cons entry rest =>
      change (do
        let parts ← sections.mapM fun key => entriesOfSection key (Value.member key (entry :: rest))
        return parts.flatten) = _
      cases sections.mapM fun key => entriesOfSection key (Value.member key (entry :: rest)) <;> rfl

theorem entriesOf_of_isSound {content : List (Value × Value)} (sound : IsSound content) :
    entriesOf (.map content) = .ok ((listed (.map content)).map readEntry) := by
  have reads : (sections.mapM fun key => entriesOfSection key (Value.member key content)) =
      .ok (sections.map fun key => (listedIn (Value.member key content)).map readEntry) := by
    apply mapM_of_forall
    intro key member
    exact entriesOfSection_of_isFit key (isSound_iff.mp sound key member)
  rw [entriesOf_map, reads, listed, List.map_flatMap, List.flatMap_def]
  rfl

/-- What one section gives is what the configuration gives, if those before it can be read. -/
theorem entriesOf_of_first {content : List (Value × Value)} {before after : List String}
    {key : String} {problem : ConfigurationProblem} (split : sections = before ++ key :: after)
    (fit : ∀ known ∈ before, IsFitSection (Value.member known content))
    (fails : entriesOfSection key (Value.member key content) = .error problem) :
    entriesOf (.map content) = .error problem := by
  have refused : (sections.mapM fun key => entriesOfSection key (Value.member key content)) =
      .error problem := by
    rw [split]
    apply mapM_of_first
    · intro known member
      exact ⟨_, entriesOfSection_of_isFit known (fit known member)⟩
    · exact fails
  rw [entriesOf_map, refused]
  rfl

theorem entriesOf_of_offence {content : List (Value × Value)} {name : String}
    (offence : Offence content name) :
    ∃ fault, entriesOf (.map content) = .error (.fault fault) ∧ fault.key = name := by
  cases offence with
  | within split fit offence =>
      obtain ⟨fault, fails, named⟩ := entriesOfSection_of_offence offence
      exact ⟨fault, entriesOf_of_first split fit fails, named⟩

theorem entriesOf_of_isNameless {content : List (Value × Value)} (nameless : IsNameless content) :
    entriesOf (.map content) = .error (.invalid namelessProblems) := by
  cases nameless with
  | within split fit nameless =>
      exact entriesOf_of_first split fit (entriesOfSection_of_isNameless _ nameless)

theorem content_cases (content : List (Value × Value)) :
    IsSound content ∨ (∃ name, Offence content name) ∨ IsNameless content := by
  rcases forall_or_first (fun key => IsFitSection (Value.member key content)) sections with
    fit | ⟨before, key, after, split, fit, offends⟩
  · exact .inl (isSound_iff.mpr fit)
  · rcases section_cases key (Value.member key content) with
      fits | ⟨name, offence⟩ | nameless
    · exact absurd fits offends
    · exact .inr (.inl ⟨name, .within split fit offence⟩)
    · exact .inr (.inr (.within split fit nameless))

theorem ofValue_nil (configuration : Value) :
    ofValue configuration [] = entriesOf configuration := by
  rw [ofValue]
  cases entriesOf configuration <;> rfl

/-- Without default engines a configuration is accepted exactly if it is sound, and is then read
engine by engine.  Otherwise its first offence is refused by a fault that names the section or the
engine, unless it is an empty name alone. -/
theorem ofValue_accepts (content : List (Value × Value)) :
    (∀ entries, ofValue (.map content) [] = .ok entries ↔
      IsSound content ∧ entries = (listed (.map content)).map readEntry) ∧
    (∀ name, Offence content name → ∃ fault,
      ofValue (.map content) [] = .error (.fault fault) ∧ fault.key = name ∧
        fault.failure.kind = .invalidConfiguration ∧
        fault.failure.context = { engine := .text name }) ∧
    (IsSound content ∨ (∃ name, Offence content name) ∨ IsNameless content) := by
  refine ⟨?_, ?_, content_cases content⟩
  · intro entries
    rw [ofValue_nil]
    constructor
    · intro accepted
      rcases content_cases content with sound | ⟨name, offence⟩ | nameless
      · exact ⟨sound, entriesOf_eq accepted⟩
      · obtain ⟨fault, refused, -⟩ := entriesOf_of_offence offence
        rw [refused] at accepted
        cases accepted
      · rw [entriesOf_of_isNameless nameless] at accepted
        cases accepted
    · rintro ⟨sound, rfl⟩
      exact entriesOf_of_isSound sound
  · intro name offence
    obtain ⟨fault, refused, rfl⟩ := entriesOf_of_offence offence
    exact ⟨fault, (ofValue_nil _).trans refused, rfl, rfl, rfl⟩

/-- Engines under keys that are no texts, in both sections. -/
def scatteredKeys : List (Value × Value) :=
  [(.text "plugins", .map [(.int 1, .textMap [("enabled", .bool false)])]),
    (.text "engines", .map [(.bool true, .textMap [("channel", .text "beta")])])]

/-- The same, but for an answer that is no truth value. -/
def unclearAnswer : List (Value × Value) :=
  [(.text "plugins", .map [(.int 1, .textMap [("enabled", .text "yes")])]),
    (.text "engines", .map [(.bool true, .textMap [("channel", .text "beta")])])]

theorem engines_isFit :
    IsFitSection (.map [(.bool true, .textMap [("channel", .text "beta")])]) := by
  apply isFitSection_map_iff.mpr
  intro engine member
  obtain rfl := List.mem_singleton.mp member
  exact ⟨@IsEngineValue.map _ (some "beta") none (by with_unfolding_all rfl)
    (by with_unfolding_all rfl), by with_unfolding_all decide⟩

theorem scatteredKeys_isSound : IsSound scatteredKeys := by
  have plugins : IsFitSection (.map [(.int 1, .textMap [("enabled", .bool false)])]) := by
    apply isFitSection_map_iff.mpr
    intro engine member
    obtain rfl := List.mem_singleton.mp member
    exact ⟨@IsEngineValue.map _ none (some false) (by with_unfolding_all rfl)
      (by with_unfolding_all rfl), by with_unfolding_all decide⟩
  apply isSound_iff.mpr
  intro key member
  rcases List.mem_cons.mp member with rfl | member
  · with_unfolding_all exact engines_isFit
  · obtain rfl := List.mem_singleton.mp member
    with_unfolding_all exact plugins

theorem unclearAnswer_offends : Offence unclearAnswer "1" := by
  have offends : ¬ IsEngineValue (.map [(.text "enabled", .text "yes")]) := by
    intro value
    cases value with
    | @map fields channel enabled stated answered =>
        have given : Value.lookup "enabled" [(.text "enabled", .text "yes")] =
            some (.text "yes") := by
          with_unfolding_all rfl
        rw [given] at answered
        cases enabled <;> cases answered
  refine @Offence.within _ _ ["engines"] [] "plugins" rfl ?_ ?_
  · intro key member
    obtain rfl := List.mem_singleton.mp member
    with_unfolding_all exact engines_isFit
  · with_unfolding_all exact @SectionOffence.badValue _ [] [] _ _ nofun offends

/-- The sections are read in their own order, whatever that of the configuration is, and an offence of
the second one names the engine as its key reads. -/
theorem scatteredKeys_accepted :
    ofValue (.map scatteredKeys) [] = .ok [⟨"True", some "beta", true⟩, ⟨"1", none, false⟩] ∧
      ∃ fault, ofValue (.map unclearAnswer) [] = .error (.fault fault) ∧ fault.key = "1" := by
  have read : (listed (.map scatteredKeys)).map readEntry =
      [⟨"True", some "beta", true⟩, ⟨"1", none, false⟩] := by
    with_unfolding_all rfl
  obtain ⟨fault, refused, named, -⟩ := (ofValue_accepts unclearAnswer).2.1 "1" unclearAnswer_offends
  exact ⟨((ofValue_accepts scatteredKeys).1 _).mpr ⟨scatteredKeys_isSound, read.symm⟩,
    fault, refused, named⟩

/-- An engine without a name, with a value of its kind. -/
def unnamed : List (Value × Value) := [(.text "engines", .map [(.text "", .bool true)])]

/-- Sections with values of their kinds are not enough: an engine without a name is neither read nor
refused by a fault that names it. -/
theorem unnamed_refused :
    (∀ key ∈ sections, IsSection (Value.member key unnamed)) ∧
      (∀ entries, ofValue (.map unnamed) [] ≠ .ok entries) ∧
      ∀ fault, ofValue (.map unnamed) [] ≠ .error (.fault fault) := by
  have refused : ofValue (.map unnamed) [] = .error (.invalid namelessProblems) := by
    with_unfolding_all rfl
  refine ⟨?_, ?_, ?_⟩
  · intro key member
    rcases List.mem_cons.mp member with rfl | member
    · have engines : IsSection (.map [(.text "", .bool true)]) := by
        refine .map fun engine member => ?_
        obtain rfl := List.mem_singleton.mp member
        exact .truth
      with_unfolding_all exact engines
    · obtain rfl := List.mem_singleton.mp member
      with_unfolding_all exact IsSection.null
  · intro entries accepted
    rw [refused] at accepted
    cases accepted
  · intro fault accepted
    rw [refused] at accepted
    cases accepted

end AnalysisEngines.Configuration
