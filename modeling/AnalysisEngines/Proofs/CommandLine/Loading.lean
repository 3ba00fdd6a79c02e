import AnalysisEngines.Proofs.CommandLine.Telling
import AnalysisEngines.Proofs.Configuration.Acceptance
import AnalysisEngines.Proofs.Registry.Document

/-!
# Problems with documents

A document that cannot be loaded has a fault, which the program tells in its own words, or a problem
that lies below it, on which the program breaks down.  A manifest breaks it down if its path has a zero
character, its bytes are no text, or a scalar means nothing under its tag.  The configuration of a
project does so if its bytes are no text or such a scalar is in it, and where the path has too long a
name, leads to a directory, or comes to an engine without a name.
-/

set_option autoImplicit false

namespace AnalysisEngines

/-! ## What is no fault -/

/-- A problem that is a fault of the document's own. -/
def DocumentProblem.IsFault {α : Type} : DocumentProblem α → Prop
  | .fault _ => True
  | .scalar _ | .text _ => False

def ConfigurationProblem.IsFault : ConfigurationProblem → Prop
  | .fault _ => True
  | .invalid _ | .noSections _ | .scalar _ | .text _ => False

/-- To fail with something other than a fault. -/
def Strays {ε α : Type} (isFault : ε → Prop) (result : Except ε α) : Prop :=
  ∃ problem, result = .error problem ∧ ¬ isFault problem

theorem strays_error_iff {ε α : Type} {isFault : ε → Prop} {problem : ε} :
    Strays isFault (.error problem : Except ε α) ↔ ¬ isFault problem := by
  constructor
  · rintro ⟨problem, failed, apart⟩
    cases failed
    exact apart
  · intro apart
    exact ⟨problem, rfl, apart⟩

theorem not_strays_ok {ε α : Type} {isFault : ε → Prop} (value : α) :
    ¬ Strays isFault (.ok value) := by
  rintro ⟨problem, failed, -⟩
  cases failed

/-- A file whose bytes are no text, or whose text has a scalar that means nothing under its tag. -/
inductive Files.IsGarbled (files : Files) (path : String) : Prop
  | bytes {content : Bytes} :
      '\x00' ∉ path.toList → files.lookup path = .ok (.file content) →
      (∀ text, Utf8.encode text ≠ content) → IsGarbled files path
  | scalar {text : String} {fault : Yaml.Fault} :
      files.readText path = .ok text → Yaml.load text = .error fault → fault ≠ .malformed →
      IsGarbled files path

/-! ## Manifests -/

namespace Registry

/-- A manifest that has no fault, and yet is not loaded. -/
inductive IsStray (files : Files) (path : String) : Prop
  | zeroInPath : '\x00' ∈ path.toList → IsStray files path
  | garbled : files.IsGarbled path → IsStray files path

theorem ofText_of_malformed {text : String} (failed : Yaml.load text = .error .malformed) :
    ofText text = .error (.fault .malformed) := by
  rw [ofText, failed]

theorem ofText_of_scalar {text : String} {fault : Yaml.Fault}
    (failed : Yaml.load text = .error fault) (formed : fault ≠ .malformed) :
    ofText text = .error (.scalar fault) := by
  rw [ofText, failed]
  cases fault with
  | malformed => exact absurd rfl formed
  | _ => rfl

theorem ofText_strays_iff {text : String} :
    Strays DocumentProblem.IsFault (ofText text) ↔
      ∃ fault, Yaml.load text = .error fault ∧ fault ≠ .malformed := by
  constructor
  · intro strays
    cases loaded : Yaml.load text with
    | ok document =>
        rw [ofText_eq loaded] at strays
        cases accepted : ofValue (if document.isGiven then document else .map []) with
        | ok registry =>
            rw [accepted] at strays
            exact absurd strays (not_strays_ok registry)
        | error fault =>
            rw [accepted] at strays
            exact absurd trivial (strays_error_iff.mp strays)
    | error fault =>
        refine ⟨fault, rfl, ?_⟩
        rintro rfl
        rw [ofText_of_malformed loaded] at strays
        exact strays_error_iff.mp strays trivial
  · rintro ⟨fault, failed, formed⟩
    rw [ofText_of_scalar failed formed]
    exact strays_error_iff.mpr not_false

theorem ofFile_strays_iff (files : Files) (path : String) :
    Strays DocumentProblem.IsFault (ofFile files path) ↔ IsStray files (Path.normalize path) := by
  unfold ofFile
  generalize Path.normalize path = path
  constructor
  · intro strays
    cases read : files.readText path with
    | ok text =>
        rw [read] at strays
        obtain ⟨fault, failed, formed⟩ := ofText_strays_iff.mp strays
        exact .garbled (.scalar read failed formed)
    | error fault =>
        rw [read] at strays
        cases fault with
        | file fault => exact absurd trivial (strays_error_iff.mp strays)
        | zeroInPath => exact .zeroInPath (Files.readText_eq_zeroInPath_iff.mp read)
        | encoding error =>
            obtain ⟨plain, content, found, garbled⟩ :=
              Files.readText_eq_encoding_iff.mp ⟨error, read⟩
            exact .garbled (.bytes plain found garbled)
  · rintro (zero | ⟨plain, found, garbled⟩ | ⟨read, failed, formed⟩)
    · rw [Files.readText_of_zero zero]
      exact strays_error_iff.mpr not_false
    · obtain ⟨error, read⟩ := Files.readText_eq_encoding_iff.mpr ⟨plain, _, found, garbled⟩
      rw [read]
      exact strays_error_iff.mpr not_false
    · rw [read]
      exact ofText_strays_iff.mpr ⟨_, failed, formed⟩

end Registry

/-! ## Configurations -/

namespace Configuration

/-- The configuration that a path stands for: that of its document, or none. -/
inductive IsHeldBy (files : Files) (path : String) : Value → Prop
  | absent : files.exists? path = .ok false → IsHeldBy files path .null
  | null {text : String} : files.readText path = .ok text → Yaml.load text = .ok .null →
      IsHeldBy files path .null
  | map {text : String} {content : List (Value × Value)} : files.readText path = .ok text →
      Yaml.load text = .ok (.map content) → IsHeldBy files path (.map content)

/-- A configuration whose first offence is an empty name, be it that of a default engine. -/
inductive IsUnnamed (defaults : List (String × String)) : Value → Prop
  | entry {content : List (Value × Value)} : IsNameless content → IsUnnamed defaults (.map content)
  | default {configuration : Value} {channel : String} :
      (∀ content, configuration = .map content → IsSound content) → ("", channel) ∈ defaults →
      IsUnnamed defaults configuration

/-- A configuration that has no fault, and yet is not loaded. -/
inductive IsStray (files : Files) (path : String) (defaults : List (String × String)) : Prop
  | nameTooLong : '\x00' ∉ path.toList → files.lookup path = .error .nameTooLong →
      IsStray files path defaults
  | directory : '\x00' ∉ path.toList → files.lookup path = .ok .directory →
      IsStray files path defaults
  | garbled : files.IsGarbled path → IsStray files path defaults
  | unnamed {configuration : Value} : IsHeldBy files path configuration →
      IsUnnamed defaults configuration → IsStray files path defaults

/-- Merging fails if a default engine has an empty name, and is no fault then. -/
theorem mergeChecked_strays_iff (entries : List EngineEntry) (defaults : List (String × String)) :
    Strays ConfigurationProblem.IsFault (mergeChecked entries defaults) ↔
      ∃ channel, ("", channel) ∈ defaults := by
  unfold mergeChecked
  rcases forall_or_first (fun default : String × String => default.1 ≠ "") defaults with
    named | ⟨before, ⟨name, channel⟩, after, rfl, named, nameless⟩
  · have reads : (defaults.mapM fun default => EngineEntry.check { name := default.1 }) =
        .ok (defaults.map fun default => { name := default.1 }) := by
      apply mapM_of_forall
      intro default member
      exact if_neg (named default member)
    rw [reads]
    constructor
    · intro strays
      exact absurd strays (not_strays_ok _)
    · rintro ⟨channel, member⟩
      exact absurd rfl (named _ member)
  · obtain rfl : name = "" := not_not.mp nameless
    have fails : ((before ++ ("", channel) :: after).mapM fun default =>
        EngineEntry.check { name := default.1 }) = .error Configuration.namelessProblems := by
      apply mapM_of_first
      · intro default member
        exact ⟨_, if_neg (named default member)⟩
      · exact if_pos rfl
    rw [fails]
    constructor
    · intro _
      exact ⟨channel, List.mem_append_right _ List.mem_cons_self⟩
    · intro _
      exact strays_error_iff.mpr not_false

theorem ofValue_of_error {configuration : Value} {problem : ConfigurationProblem}
    (failed : entriesOf configuration = .error problem) (defaults : List (String × String)) :
    ofValue configuration defaults = .error problem := by
  rw [ofValue, failed]
  rfl

theorem ofValue_of_entriesOf {configuration : Value} {entries : List EngineEntry}
    (accepted : entriesOf configuration = .ok entries) (defaults : List (String × String)) :
    Strays ConfigurationProblem.IsFault (ofValue configuration defaults) ↔
      ∃ channel, ("", channel) ∈ defaults := by
  rw [ofValue, accepted]
  cases defaults with
  | nil =>
      constructor
      · intro strays
        exact absurd strays (not_strays_ok entries)
      · rintro ⟨channel, ⟨⟩⟩
  | cons default rest => exact mergeChecked_strays_iff entries (default :: rest)

theorem ofValue_null_strays_iff (defaults : List (String × String)) :
    Strays ConfigurationProblem.IsFault (ofValue .null defaults) ↔ IsUnnamed defaults .null := by
  have nothing : entriesOf .null = .ok [] := rfl
  rw [ofValue_of_entriesOf nothing]
  constructor
  · rintro ⟨channel, member⟩
    exact .default (fun _ isMap => Value.noConfusion isMap) member
  · rintro (_ | ⟨-, member⟩)
    exact ⟨_, member⟩

theorem ofValue_map_strays_iff (content : List (Value × Value)) (defaults : List (String × String)) :
    Strays ConfigurationProblem.IsFault (ofValue (.map content) defaults) ↔
      IsUnnamed defaults (.map content) := by
  rcases content_cases content with sound | ⟨name, offence⟩ | nameless
  · rw [ofValue_of_entriesOf (entriesOf_of_isSound sound)]
    constructor
    · rintro ⟨channel, member⟩
      refine .default ?_ member
      rintro _ ⟨⟩
      exact sound
    · rintro (nameless | ⟨-, member⟩)
      · have refused := entriesOf_of_isNameless nameless
        rw [entriesOf_of_isSound sound] at refused
        cases refused
      · exact ⟨_, member⟩
  · obtain ⟨fault, refused, -⟩ := entriesOf_of_offence offence
    rw [ofValue_of_error refused]
    constructor
    · intro strays
      exact absurd trivial (strays_error_iff.mp strays)
    · rintro (nameless | ⟨sound, -⟩)
      · rw [entriesOf_of_isNameless nameless] at refused
        cases refused
      · rw [entriesOf_of_isSound (sound content rfl)] at refused
        cases refused
  · rw [ofValue_of_error (entriesOf_of_isNameless nameless)]
    constructor
    · intro _
      exact .entry nameless
    · intro _
      exact strays_error_iff.mpr not_false

theorem ofText_of_malformed {text : String} (failed : Yaml.load text = .error .malformed)
    (path : String) (defaults : List (String × String)) :
    ofText path text defaults = .error (.fault (.fileMalformed path)) := by
  rw [ofText, failed]

theorem ofText_of_scalar {text : String} {fault : Yaml.Fault}
    (failed : Yaml.load text = .error fault) (formed : fault ≠ .malformed) (path : String)
    (defaults : List (String × String)) :
    ofText path text defaults = .error (.scalar fault) := by
  rw [ofText, failed]
  cases fault with
  | malformed => exact absurd rfl formed
  | _ => rfl

theorem ofText_of_null {text : String} (loaded : Yaml.load text = .ok .null) (path : String)
    (defaults : List (String × String)) : ofText path text defaults = ofValue .null defaults := by
  rw [ofText, loaded]

theorem ofText_of_map {text : String} {content : List (Value × Value)}
    (loaded : Yaml.load text = .ok (.map content)) (path : String)
    (defaults : List (String × String)) :
    ofText path text defaults = ofValue (.map content) defaults := by
  rw [ofText, loaded]

theorem isStray_of_ofText {files : Files} {path text : String} {defaults : List (String × String)}
    (read : files.readText path = .ok text)
    (strays : Strays ConfigurationProblem.IsFault (ofText path text defaults)) :
    IsStray files path defaults := by
  cases loaded : Yaml.load text with
  | error fault =>
      refine .garbled (.scalar read loaded ?_)
      rintro rfl
      rw [ofText_of_malformed loaded] at strays
      exact strays_error_iff.mp strays trivial
  | ok document =>
      rcases document.null_or_map_or_isForeign with rfl | ⟨content, rfl⟩ | foreign
      · rw [ofText_of_null loaded, ofValue_null_strays_iff] at strays
        exact .unnamed (.null read loaded) strays
      · rw [ofText_of_map loaded, ofValue_map_strays_iff] at strays
        exact .unnamed (.map read loaded) strays
      · rw [ofText_of_isForeign loaded foreign] at strays
        exact absurd trivial (strays_error_iff.mp strays)

/-! ### Files -/

variable {files : Files} {path : String}

theorem ofFile_of_exists?_error {fault : FileFault}
    (failed : files.exists? (Path.normalize path) = .error fault)
    (defaults : List (String × String)) :
    ofFile files path defaults = .error (.text (.file fault)) := by
  unfold ofFile
  dsimp only
  rw [failed]
  rfl

theorem ofFile_of_absent (absent : files.exists? (Path.normalize path) = .ok false)
    (defaults : List (String × String)) : ofFile files path defaults = ofValue .null defaults := by
  unfold ofFile
  dsimp only
  rw [absent]
  rfl

theorem ofFile_of_readText_error {fault : TextFault}
    (isThere : files.exists? (Path.normalize path) = .ok true)
    (failed : files.readText (Path.normalize path) = .error fault)
    (defaults : List (String × String)) : ofFile files path defaults = .error (.text fault) := by
  unfold ofFile
  dsimp only
  rw [isThere, failed]
  rfl

theorem isStray_of_strays {defaults : List (String × String)}
    (strays : Strays ConfigurationProblem.IsFault (ofFile files path defaults)) :
    IsStray files (Path.normalize path) defaults := by
  cases isThere : files.exists? (Path.normalize path) with
  | error fault =>
      obtain ⟨plain, long⟩ := Files.exists?_eq_error_iff.mp ⟨fault, isThere⟩
      exact .nameTooLong plain long
  | ok answer =>
      cases answer with
      | false =>
          rw [ofFile_of_absent isThere, ofValue_null_strays_iff] at strays
          exact .unnamed (.absent isThere) strays
      | true =>
          have plain := (Files.exists?_eq_true_iff.mp isThere).1
          cases read : files.readText (Path.normalize path) with
          | ok text =>
              rw [ofFile_of_readText read] at strays
              exact isStray_of_ofText read strays
          | error fault =>
              cases fault with
              | zeroInPath => exact absurd (Files.readText_eq_zeroInPath_iff.mp read) plain
              | file fault => exact .directory plain (Files.readText_eq_file_of_exists? isThere read)
              | encoding error =>
                  obtain ⟨plain, content, found, garbled⟩ :=
                    Files.readText_eq_encoding_iff.mp ⟨error, read⟩
                  exact .garbled (.bytes plain found garbled)

theorem strays_of_isStray {defaults : List (String × String)}
    (stray : IsStray files (Path.normalize path) defaults) :
    Strays ConfigurationProblem.IsFault (ofFile files path defaults) := by
  cases stray with
  | nameTooLong plain long =>
      rw [ofFile_of_exists?_error (Files.exists?_of_nameTooLong plain long)]
      exact strays_error_iff.mpr not_false
  | directory plain found =>
      have failed : files.read (Path.normalize path) =
          .error (.isADirectory (Path.normalize path)) := by
        rw [Files.read, found]
      rw [ofFile_of_readText_error (Files.exists?_of_node plain found)
        (Files.readText_of_error plain failed)]
      exact strays_error_iff.mpr not_false
  | garbled garbled =>
      cases garbled with
      | bytes plain found garbled =>
          obtain ⟨error, failed⟩ := Files.readText_eq_encoding_iff.mpr ⟨plain, _, found, garbled⟩
          rw [ofFile_of_readText_error (Files.exists?_of_node plain found) failed]
          exact strays_error_iff.mpr not_false
      | scalar read failed formed =>
          rw [ofFile_of_readText read, ofText_of_scalar failed formed]
          exact strays_error_iff.mpr not_false
  | unnamed held unnamed =>
      cases held with
      | absent absent =>
          rw [ofFile_of_absent absent]
          exact (ofValue_null_strays_iff defaults).mpr unnamed
      | null read loaded =>
          rw [ofFile_of_readText read, ofText_of_null loaded]
          exact (ofValue_null_strays_iff defaults).mpr unnamed
      | map read loaded =>
          rw [ofFile_of_readText read, ofText_of_map loaded]
          exact (ofValue_map_strays_iff _ defaults).mpr unnamed

theorem ofFile_strays_iff (files : Files) (path : String) (defaults : List (String × String)) :
    Strays ConfigurationProblem.IsFault (ofFile files path defaults) ↔
      IsStray files (Path.normalize path) defaults :=
  ⟨isStray_of_strays, strays_of_isStray⟩

end Configuration

/-! ## The command line -/

namespace CommandLine

namespace World

variable {σ : Type} (world : World σ) (path : String) (session : Session)

theorem registry_of_fault {fault : ManifestFault}
    (failed : Registry.ofFile world.files path = .error (.fault fault)) :
    world.registry path session = Act.fail fault.message session := by
  unfold registry
  rw [failed]

theorem registry_of_problem {problem : DocumentProblem ManifestFault}
    (failed : Registry.ofFile world.files path = .error problem) (apart : ¬ problem.IsFault) :
    world.registry path session = .error (.broken (.manifest problem)) session := by
  unfold registry
  rw [failed]
  cases problem with
  | fault fault => exact absurd trivial apart
  | scalar | text => rfl

theorem registry_of_ok {registry : Registry}
    (loaded : Registry.ofFile world.files path = .ok registry) :
    ∃ after, world.registry path session = .ok registry after := by
  unfold World.registry
  rw [loaded]
  exact ⟨_, rfl⟩

/-- The registry of a manifest is there, or the fault of the manifest is told, unless it is stray. -/
theorem registry_cases :
    (∃ registry after, Registry.ofFile world.files path = .ok registry ∧
        world.registry path session = .ok registry after) ∨
      (∃ fault : ManifestFault, fault.failure.kind = .invalidManifest ∧
        Registry.ofFile world.files path = .error (.fault fault) ∧
        (world.registry path).Tells session fault.failure) ∨
      ∃ problem, ¬ problem.IsFault ∧ Registry.ofFile world.files path = .error problem ∧
        world.registry path session = .error (.broken (.manifest problem)) session := by
  cases loaded : Registry.ofFile world.files path with
  | ok registry =>
      obtain ⟨after, returns⟩ := registry_of_ok world path session loaded
      exact .inl ⟨registry, after, rfl, returns⟩
  | error problem =>
      by_cases own : problem.IsFault
      · cases problem with
        | fault fault =>
            exact .inr (.inl ⟨fault, rfl, rfl,
              Act.tells_of_fail (registry_of_fault world path session loaded)⟩)
        | scalar | text => exact absurd own not_false
      · exact .inr (.inr ⟨problem, own, rfl, registry_of_problem world path session loaded own⟩)

variable (defaults : List (String × String))

theorem configuration_of_problem {problem : ConfigurationProblem}
    (failed : Configuration.ofFile world.files path defaults = .error problem)
    (apart : ¬ problem.IsFault) :
    world.configuration path defaults session =
      .error (.broken (.configuration problem)) session := by
  unfold configuration
  rw [failed]
  cases problem with
  | fault fault => exact absurd trivial apart
  | _ => rfl

theorem configuration_cases :
    (∃ entries, Configuration.ofFile world.files path defaults = .ok entries ∧
        world.configuration path defaults session = .ok entries session) ∨
      (∃ fault : ConfigurationFault, fault.failure.kind = .invalidConfiguration ∧
        Configuration.ofFile world.files path defaults = .error (.fault fault) ∧
        (world.configuration path defaults).Tells session fault.failure) ∨
      ∃ problem, ¬ problem.IsFault ∧
        Configuration.ofFile world.files path defaults = .error problem ∧
        world.configuration path defaults session =
          .error (.broken (.configuration problem)) session := by
  cases loaded : Configuration.ofFile world.files path defaults with
  | ok entries =>
      refine .inl ⟨entries, rfl, ?_⟩
      unfold configuration
      rw [loaded]
      rfl
  | error problem =>
      by_cases own : problem.IsFault
      · cases problem with
        | fault fault =>
            refine .inr (.inl ⟨fault, rfl, rfl, Act.tells_of_fail ?_⟩)
            unfold configuration
            rw [loaded]
        | invalid | noSections | scalar | text => exact absurd own not_false
      · exact .inr (.inr ⟨problem, own, rfl,
          configuration_of_problem world path session defaults loaded own⟩)

theorem registry_breaks_iff :
    (∃ problem after, world.registry path session = .error (.broken (.manifest problem)) after) ↔
      Strays DocumentProblem.IsFault (Registry.ofFile world.files path) := by
  constructor
  · rintro ⟨problem, after, broken⟩
    rcases world.registry_cases path session with
      ⟨registry, later, -, loaded⟩ | ⟨fault, -, -, tells⟩ | ⟨problem, apart, failed, -⟩
    · rw [loaded] at broken
      cases broken
    · cases tells.ending_eq broken
    · exact ⟨problem, failed, apart⟩
  · rintro ⟨problem, failed, apart⟩
    exact ⟨problem, session, world.registry_of_problem path session failed apart⟩

theorem configuration_breaks_iff :
    (∃ problem after, world.configuration path defaults session =
      .error (.broken (.configuration problem)) after) ↔
      Strays ConfigurationProblem.IsFault (Configuration.ofFile world.files path defaults) := by
  constructor
  · rintro ⟨problem, after, broken⟩
    rcases world.configuration_cases path session defaults with
      ⟨entries, -, loaded⟩ | ⟨fault, -, -, tells⟩ | ⟨problem, apart, failed, -⟩
    · rw [loaded] at broken
      cases broken
    · cases tells.ending_eq broken
    · exact ⟨problem, failed, apart⟩
  · rintro ⟨problem, failed, apart⟩
    exact ⟨problem, session, world.configuration_of_problem path session defaults failed apart⟩

/-- A document fails with a fault alone, and the fault is told on the line of an error and ends the
session with status 1, unless the document is stray.  On one that is stray the program breaks
down. -/
theorem loading_breaks_iff :
    (Strays DocumentProblem.IsFault (Registry.ofFile world.files path) ↔
      Registry.IsStray world.files (Path.normalize path)) ∧
    (Strays ConfigurationProblem.IsFault (Configuration.ofFile world.files path defaults) ↔
      Configuration.IsStray world.files (Path.normalize path) defaults) ∧
    ((∃ problem after, world.registry path session = .error (.broken (.manifest problem)) after) ↔
      Registry.IsStray world.files (Path.normalize path)) ∧
    ((∃ problem after, world.configuration path defaults session =
        .error (.broken (.configuration problem)) after) ↔
      Configuration.IsStray world.files (Path.normalize path) defaults) ∧
    (¬ Registry.IsStray world.files (Path.normalize path) →
      (∃ registry after, Registry.ofFile world.files path = .ok registry ∧
        world.registry path session = .ok registry after) ∨
      ∃ fault : ManifestFault, fault.failure.kind = .invalidManifest ∧
        Registry.ofFile world.files path = .error (.fault fault) ∧
        (world.registry path).Tells session fault.failure) ∧
    (¬ Configuration.IsStray world.files (Path.normalize path) defaults →
      (∃ entries, Configuration.ofFile world.files path defaults = .ok entries ∧
        world.configuration path defaults session = .ok entries session) ∨
      ∃ fault : ConfigurationFault, fault.failure.kind = .invalidConfiguration ∧
        Configuration.ofFile world.files path defaults = .error (.fault fault) ∧
        (world.configuration path defaults).Tells session fault.failure) := by
  have manifest := Registry.ofFile_strays_iff world.files path
  have project := Configuration.ofFile_strays_iff world.files path defaults
  refine ⟨manifest, project, (world.registry_breaks_iff path session).trans manifest,
    (world.configuration_breaks_iff path session defaults).trans project, ?_, ?_⟩
  · intro tame
    rcases world.registry_cases path session with loaded | told | ⟨problem, apart, failed, -⟩
    · exact .inl loaded
    · exact .inr told
    · exact absurd (manifest.mp ⟨problem, failed, apart⟩) tame
  · intro tame
    rcases world.configuration_cases path session defaults with
      loaded | told | ⟨problem, apart, failed, -⟩
    · exact .inl loaded
    · exact .inr told
    · exact absurd (project.mp ⟨problem, failed, apart⟩) tame

/-- A directory, and a file with a byte that starts no character. -/
def strayFiles : Files := ⟨[("d", none), ("f", some [0xff])]⟩

/-- A world with these files, in which nothing is pulled. -/
def strayWorld : World Unit where
  files := strayFiles
  client := fun _ _ state => ({ succeeded := false, logs := [] }, state)

theorem isName : Path.IsName "d" ∧ Path.IsName "f" ∧ Path.IsName "m" :=
  ⟨⟨by decide, by decide, by decide⟩, ⟨by decide, by decide, by decide⟩,
    ⟨by decide, by decide, by decide⟩⟩

theorem isPlain :
    '\x00' ∉ (Path.normalize "d").toList ∧ '\x00' ∉ (Path.normalize "f").toList ∧
      '\x00' ∉ (Path.normalize "m").toList := by
  obtain ⟨directory, file, missing⟩ := isName
  rw [directory.normalize, file.normalize, missing.normalize]
  decide

theorem d_isDirectory : strayFiles.lookup (Path.normalize "d") = .ok .directory := by
  rw [isName.1.normalize]
  exact Files.lookup_of_isName isName.1 (by decide) (by decide)

theorem f_isFile : strayFiles.lookup (Path.normalize "f") = .ok (.file [0xff]) := by
  rw [isName.2.1.normalize]
  exact Files.lookup_of_isName isName.2.1 (by decide) (by decide)

theorem missing_isAbsent : strayFiles.lookup (Path.normalize "m") = .error .notFound := by
  rw [isName.2.2.normalize]
  exact Files.lookup_of_isName isName.2.2 (by decide) (by decide)

theorem missing_isUnread :
    strayFiles.readText (Path.normalize "m") =
      .error (.file (.notFound (Path.normalize "m"))) := by
  apply Files.readText_of_error isPlain.2.2
  rw [Files.read, missing_isAbsent]
  rfl

theorem missing_not_isStray :
    ¬ Registry.IsStray strayFiles (Path.normalize "m") ∧
      ¬ Configuration.IsStray strayFiles (Path.normalize "m") [] := by
  have whole : ¬ strayFiles.IsGarbled (Path.normalize "m") := by
    rintro (⟨-, found, -⟩ | ⟨read, -, -⟩)
    · rw [missing_isAbsent] at found
      cases found
    · rw [missing_isUnread] at read
      cases read
  constructor
  · rintro (zero | garbled)
    · exact isPlain.2.2 zero
    · exact whole garbled
  · rintro (⟨-, long⟩ | ⟨-, found⟩ | garbled | ⟨held, unnamed⟩)
    · rw [missing_isAbsent] at long
      cases long
    · rw [missing_isAbsent] at found
      cases found
    · exact whole garbled
    · cases unnamed with
      | default sound member => cases member
      | entry nameless =>
          cases held with
          | map read loaded =>
              rw [missing_isUnread] at read
              cases read

theorem encode_ne (text : String) : Utf8.encode text ≠ [0xff] := by
  intro encoded
  have decoded := Utf8.decode_eq_ok_iff.mpr encoded
  cases decoded

/-- A manifest that is missing is told, and a configuration that is missing need not be; a manifest
whose bytes are no text breaks the program down. -/
theorem missing_told :
    (∃ fault : ManifestFault, fault.failure.kind = .invalidManifest ∧
      (strayWorld.registry "m").Tells {} fault.failure) ∧
    (∃ entries, strayWorld.configuration "m" [] {} = .ok entries {}) ∧
    ∃ problem after, strayWorld.registry "f" {} = .error (.broken (.manifest problem)) after := by
  obtain ⟨-, -, -, -, manifest, project⟩ := loading_breaks_iff strayWorld "m" {} []
  obtain ⟨-, -, breaks, -⟩ := loading_breaks_iff strayWorld "f" {} []
  have unread : Registry.ofFile strayFiles "m" =
      .error (.fault (.unreadable (.notFound (Path.normalize "m")))) := by
    rw [Registry.ofFile, missing_isUnread]
  have none : Configuration.ofFile strayFiles "m" [] = .ok [] :=
    Configuration.ofFile_of_absent (Files.exists?_of_missing missing_isAbsent nofun) []
  refine ⟨?_, ?_, breaks.mpr (.garbled (.bytes isPlain.2.1 f_isFile encode_ne))⟩
  · rcases manifest missing_not_isStray.1 with ⟨_, _, loaded, -⟩ | ⟨fault, kind, -, tells⟩
    · cases loaded.symm.trans unread
    · exact ⟨fault, kind, tells⟩
  · rcases project missing_not_isStray.2 with ⟨entries, -, returns⟩ | ⟨_, -, failed, -⟩
    · exact ⟨entries, returns⟩
    · cases failed.symm.trans none

/-- Neither a manifest whose bytes are no text nor a configuration that is a directory fails with a
fault, and the program breaks down on each. -/
theorem stray_breaks :
    (∃ error, Registry.ofFile strayFiles "f" = .error (.text (.encoding error))) ∧
      Configuration.ofFile strayFiles "d" [] =
        .error (.text (.file (.isADirectory (Path.normalize "d")))) ∧
      (∃ problem after, strayWorld.registry "f" {} = .error (.broken (.manifest problem)) after) ∧
      ∃ problem after, strayWorld.configuration "d" [] {} =
        .error (.broken (.configuration problem)) after := by
  have directory : Configuration.ofFile strayFiles "d" [] =
      .error (.text (.file (.isADirectory (Path.normalize "d")))) := by
    apply Configuration.ofFile_of_readText_error (Files.exists?_of_node isPlain.1 d_isDirectory)
    apply Files.readText_of_error isPlain.1
    rw [Files.read, d_isDirectory]
  have bytes : ∃ error, Registry.ofFile strayFiles "f" = .error (.text (.encoding error)) := by
    obtain ⟨error, failed⟩ :=
      Files.readText_eq_encoding_iff.mpr ⟨isPlain.2.1, _, f_isFile, encode_ne⟩
    refine ⟨error, ?_⟩
    rw [Registry.ofFile, failed]
  obtain ⟨error, failed⟩ := bytes
  exact ⟨⟨error, failed⟩, directory,
    ⟨_, _, strayWorld.registry_of_problem "f" {} failed not_false⟩,
    ⟨_, _, strayWorld.configuration_of_problem "d" {} [] directory not_false⟩⟩

end World

end CommandLine

end AnalysisEngines
