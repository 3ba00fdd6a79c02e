import AnalysisEngines.Configuration
import AnalysisEngines.Proofs.Files
import AnalysisEngines.Proofs.Registry.Manifest

/-!
# From a text to a registry

A manifest is taken from the document that a text holds, as it is from a value: a text without a
document is an empty manifest, and a document other than a mapping is refused, as it is where the
engines of a project are read.  Documents that count as not given are not told from an absent one, so
that the text is taken for an empty manifest where the value is refused.
-/

set_option autoImplicit false

namespace AnalysisEngines

namespace Value

/-- Something other than a mapping. -/
def IsForeign (document : Value) : Prop :=
  document ≠ .null ∧ ∀ entries, document ≠ .map entries

theorem null_or_map_or_isForeign (document : Value) :
    document = .null ∨ (∃ entries, document = .map entries) ∨ document.IsForeign := by
  by_cases absent : document = .null
  · exact .inl absent
  · by_cases isMap : ∃ entries, document = .map entries
    · exact .inr (.inl isMap)
    · exact .inr (.inr ⟨absent, fun entries same => isMap ⟨entries, same⟩⟩)

/-- Something other than a mapping that counts as not given. -/
inductive IsHollow : Value → Prop
  | no : IsHollow (.bool false)
  | zero {number : Number} : number.isZero = true → IsHollow (.number number)
  | text : IsHollow (.text "")
  | bytes : IsHollow (.bytes [])
  | list : IsHollow (.list [])
  | set : IsHollow (.set [])

theorem IsHollow.isForeign {document : Value} (hollow : document.IsHollow) :
    document.IsForeign := by
  cases hollow <;> exact ⟨Value.noConfusion, fun _ => Value.noConfusion⟩

theorem IsHollow.isGiven_eq_false {document : Value} (hollow : document.IsHollow) :
    document.isGiven = false := by
  cases hollow with
  | zero isZero => simp [isGiven, isZero]
  | _ => rfl

/-- What counts as not given is nothing, a mapping without entries, or hollow. -/
theorem cases_of_isGiven_eq_false {document : Value} (absent : document.isGiven = false) :
    document = .null ∨ document = .map [] ∨ document.IsHollow := by
  cases document with
  | null => exact .inl rfl
  | bool answer =>
      cases absent
      exact .inr (.inr .no)
  | number number => exact .inr (.inr (.zero (by simpa [isGiven] using absent)))
  | text content =>
      have empty : content = "" := by simpa [isGiven] using absent
      exact .inr (.inr (empty ▸ .text))
  | bytes content =>
      have empty : content = [] := by simpa [isGiven] using absent
      exact .inr (.inr (empty ▸ .bytes))
  | list items =>
      have empty : items = [] := by simpa [isGiven] using absent
      exact .inr (.inr (empty ▸ .list))
  | set items =>
      have empty : items = [] := by simpa [isGiven] using absent
      exact .inr (.inr (empty ▸ .set))
  | map entries =>
      have empty : entries = [] := by simpa [isGiven] using absent
      exact .inr (.inl (empty ▸ rfl))
  | date | timestamp | pair => cases absent

end Value

namespace Configuration

/-- The engines of a project, from the text of a file that is there. -/
def ofText (path text : String) (defaults : List (String × String)) :
    Except ConfigurationProblem (List EngineEntry) :=
  match Yaml.load text with
  | .error .malformed => .error (.fault (.fileMalformed path))
  | .error fault => .error (.scalar fault)
  | .ok .null => ofValue .null defaults
  | .ok (.map content) => ofValue (.map content) defaults
  | .ok other => .error (.fault (.fileNotAMap path other))

theorem ofFile_of_readText {files : Files} {path text : String}
    (read : files.readText (Path.normalize path) = .ok text) (defaults : List (String × String)) :
    ofFile files path defaults = ofText (Path.normalize path) text defaults := by
  unfold ofFile
  dsimp only
  rw [Files.exists?_of_readText read, read]
  rfl

/-- A document other than a mapping has no engines of a project. -/
theorem ofText_of_isForeign {text : String} {document : Value}
    (loaded : Yaml.load text = .ok document) (foreign : document.IsForeign) (path : String)
    (defaults : List (String × String)) :
    ofText path text defaults = .error (.fault (.fileNotAMap path document)) := by
  rw [ofText, loaded]
  cases document with
  | null => exact absurd rfl foreign.1
  | map entries => exact absurd rfl (foreign.2 entries)
  | _ => rfl

end Configuration

namespace Registry

/-- The registry of a document, which may hold nothing. -/
def ofDocument : Value → Except ManifestFault Registry
  | .null => .ok {}
  | document => ofValue document

theorem ofDocument_of_isForeign {document : Value} (foreign : document.IsForeign) :
    ofDocument document = .error (.notAMap document) := by
  cases document with
  | null => exact absurd rfl foreign.1
  | map entries => exact absurd rfl (foreign.2 entries)
  | _ => rfl

theorem ofText_eq {text : String} {document : Value} (loaded : Yaml.load text = .ok document) :
    ofText text =
      (ofValue (if document.isGiven then document else .map [])).mapError .fault := by
  rw [ofText, loaded]

theorem ofText_of_isHollow {text : String} {document : Value}
    (loaded : Yaml.load text = .ok document) (hollow : document.IsHollow) :
    ofText text = .ok {} := by
  rw [ofText_eq loaded, hollow.isGiven_eq_false]
  rfl

theorem ofText_of_not_isHollow {text : String} {document : Value}
    (loaded : Yaml.load text = .ok document) (solid : ¬ document.IsHollow) :
    ofText text = (ofDocument document).mapError .fault := by
  rw [ofText_eq loaded]
  cases given : document.isGiven with
  | true =>
      cases document with
      | null => cases given
      | _ => rfl
  | false =>
      rcases Value.cases_of_isGiven_eq_false given with rfl | rfl | hollow
      · rfl
      · rfl
      · exact absurd hollow solid

/-- A text is taken as its document is, exactly if that is not hollow.  A document other than a
mapping is refused where the engines of a project are read; as a manifest it is refused exactly if it
is not hollow, and taken for an empty manifest if it is. -/
theorem ofText_agrees_iff {text : String} {document : Value}
    (loaded : Yaml.load text = .ok document) :
    (ofText text = (ofDocument document).mapError .fault ↔ ¬ document.IsHollow) ∧
    (document.IsHollow → ofText text = .ok {}) ∧
    (document.IsForeign →
      (ofText text = .error (.fault (.notAMap document)) ↔ ¬ document.IsHollow) ∧
      ∀ (files : Files) (path : String) (defaults : List (String × String)),
        files.readText (Path.normalize path) = .ok text →
        Configuration.ofFile files path defaults =
          .error (.fault (.fileNotAMap (Path.normalize path) document))) := by
  have refusal (foreign : document.IsForeign) :
      (ofDocument document).mapError DocumentProblem.fault = .error (.fault (.notAMap document)) := by
    rw [ofDocument_of_isForeign foreign]
    rfl
  have agrees : ofText text = (ofDocument document).mapError .fault ↔ ¬ document.IsHollow := by
    constructor
    · intro agree hollow
      rw [ofText_of_isHollow loaded hollow, refusal hollow.isForeign] at agree
      cases agree
    · exact ofText_of_not_isHollow loaded
  refine ⟨agrees, ofText_of_isHollow loaded, fun foreign => ⟨?_, ?_⟩⟩
  · rw [← refusal foreign]
    exact agrees
  · intro files path defaults read
    rw [Configuration.ofFile_of_readText read, Configuration.ofText_of_isForeign loaded foreign]

/-- A working directory with a file that holds a list with an empty list in it. -/
def nestedFiles : Files := ⟨[("f", some [0x5b, 0x5b, 0x5d, 0x5d])]⟩

theorem nestedFiles_isRead : nestedFiles.readText (Path.normalize "f") = .ok "[[]]" := by
  have isName : Path.IsName "f" := ⟨by decide, by decide, by decide⟩
  have found : nestedFiles.lookup "f" = .ok (.file [0x5b, 0x5b, 0x5d, 0x5d]) :=
    Files.lookup_of_isName isName (by decide) (by decide)
  have encoded : Utf8.encode "[[]]" = [0x5b, 0x5b, 0x5d, 0x5d] := by
    rw [Utf8.encode_eq]
    decide
  rw [isName.normalize, Files.readText_of_content (by decide) (Files.read_eq_ok_iff.mpr found),
    Utf8.decode_eq_ok_iff.mpr encoded]
  rfl

def isEmptyList : Value → Bool
  | .list [] => true
  | _ => false

/-- Whether a list of as many empty lists was loaded. -/
def holdsEmptyLists (count : Nat) : Except Yaml.Fault Value → Bool
  | .ok (.list items) => items.length == count && items.all isEmptyList
  | _ => false

theorem eq_of_holdsEmptyLists {count : Nat} {loaded : Except Yaml.Fault Value}
    (holds : holdsEmptyLists count loaded = true) :
    loaded = .ok (.list (List.replicate count (.list []))) := by
  unfold holdsEmptyLists at holds
  split at holds
  · rename_i items
    obtain ⟨length, empty⟩ := (Bool.and_eq_true _ _).mp holds
    have same : items = List.replicate count (.list []) := by
      refine List.eq_replicate_iff.mpr ⟨eq_of_beq length, fun item member => ?_⟩
      have isEmpty := List.all_eq_true.mp empty item member
      unfold isEmptyList at isEmpty
      split at isEmpty
      · rfl
      · cases isEmpty
    rw [same]
  · cases holds

theorem nested_isLoaded : Yaml.load "[[]]" = .ok (.list [.list []]) :=
  @eq_of_holdsEmptyLists 1 _ (by decide +kernel)

/-- A list with something in it is refused as a manifest, whether it comes as a text or as a value, and
as the configuration of a project. -/
theorem nested_agrees :
    Yaml.load "[[]]" = .ok (.list [.list []]) ∧
      ofText "[[]]" = (ofDocument (.list [.list []])).mapError .fault ∧
      ofText "[[]]" = .error (.fault (.notAMap (.list [.list []]))) ∧
      Configuration.ofFile nestedFiles "f" [] =
        .error (.fault (.fileNotAMap (Path.normalize "f") (.list [.list []]))) := by
  have solid : ¬ (Value.list [.list []]).IsHollow := nofun
  have foreign : (Value.list [.list []]).IsForeign := ⟨nofun, nofun⟩
  obtain ⟨agrees, -, refused⟩ := ofText_agrees_iff nested_isLoaded
  exact ⟨nested_isLoaded, agrees.mpr solid, (refused foreign).1.mpr solid,
    (refused foreign).2 nestedFiles "f" [] nestedFiles_isRead⟩

/-- An empty list is refused as a value, and taken for an empty manifest as a text. -/
theorem empty_disagrees :
    Yaml.load "[]" = .ok (.list []) ∧ ofText "[]" = .ok {} ∧
      ofDocument (.list []) = .error (.notAMap (.list [])) := by
  have loaded : Yaml.load "[]" = .ok (.list []) := @eq_of_holdsEmptyLists 0 _ (by decide +kernel)
  exact ⟨loaded, ofText_of_isHollow loaded .list, rfl⟩

end Registry

end AnalysisEngines
