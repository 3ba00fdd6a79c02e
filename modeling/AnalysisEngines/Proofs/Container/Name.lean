import AnalysisEngines.Container.Name
import AnalysisEngines.Proofs.Text.Stripping
import Mathlib.Data.Bool.AllAny
import Mathlib.Data.List.Basic
import Mathlib.Tactic.Common

/-!
# What a generated name is safe for

A client takes a name of at least two letters, digits, `_`, `.` and `-` that starts with a letter or
a digit.  Whatever the name of an engine is, case, replacement, stripping and cutting leave a slug
of at most forty such characters and at least one, so that the generated name is taken:
`names_areSafe`.  A name that is a slug already stays as it is.
-/

set_option autoImplicit false

namespace AnalysisEngines.Container

/-! ## Names as the client takes them -/

/-- Letters and digits without accents, `_`, `.` and `-`. -/
def isNameChar (c : Char) : Bool := c.isAlphanum || c == '_' || c == '.' || c == '-'

/-- A name that the client takes for a container. -/
def IsContainerName (name : String) : Prop :=
  ∃ first rest, name.toList = first :: rest ∧ first.isAlphanum = true ∧ rest ≠ [] ∧
    ∀ c ∈ rest, isNameChar c = true

/-- Eight digits of a hexadecimal number in lower case. -/
def IsToken (token : String) : Prop :=
  token.length = 8 ∧ ∀ c ∈ token.toList, c.isDigit = true ∨ ('a' ≤ c ∧ c ≤ 'f')

/-- A name that is a slug already, and short enough for one. -/
structure IsSlug (text : String) : Prop where
  long : 1 ≤ text.length
  short : text.length ≤ slugLength
  chars : ∀ c ∈ text.toList, isSlugChar c = true
  head : text.toList.head? ≠ some '-'
  last : text.toList.getLast? ≠ some '-'

theorem isNameChar_of_isSlugChar {c : Char} (own : isSlugChar c = true) : isNameChar c = true := by
  simp only [isSlugChar, Bool.or_eq_true, Bool.and_eq_true, decide_eq_true_eq, beq_iff_eq] at own
  rcases own with (((lower | digit) | rfl) | rfl) | rfl
  · have isLower : c.isLower = true :=
      (Bool.and_eq_true _ _).mpr ⟨decide_eq_true lower.1, decide_eq_true lower.2⟩
    have isAlpha : c.isAlpha = true := (Bool.or_eq_true _ _).mpr (.inr isLower)
    simp [isNameChar, Char.isAlphanum, isAlpha]
  · have isDigit : c.isDigit = true := by simpa [Char.isDigit, Char.le_def] using digit
    simp [isNameChar, Char.isAlphanum, isDigit]
  · rfl
  · rfl
  · rfl

theorem IsToken.isNameChar {token : String} (hex : IsToken token) {c : Char}
    (member : c ∈ token.toList) : Container.isNameChar c = true := by
  apply isNameChar_of_isSlugChar
  rcases hex.2 c member with digit | ⟨first, last⟩
  · have bounds : '0' ≤ c ∧ c ≤ '9' := by simpa [Char.isDigit, Char.le_def] using digit
    simp [isSlugChar, bounds]
  · have bound : c ≤ 'z' := Char.le_trans last (by decide)
    simp [isSlugChar, first, bound]

/-! ## Lower case -/

/-- Apart from capital letters, no character up to `z` has a lower case of its own. -/
theorem lowerRuns_bounds :
    ∀ run ∈ Text.lowerRuns.toList, (0x41 ≤ run.first ∧ run.last ≤ 0x5a) ∨ 0x7b ≤ run.first := by
  decide +kernel

theorem lowerChar_of_isSlugChar {c : Char} (own : isSlugChar c = true) :
    Text.lowerChar c = [c] := by
  have code : c.toNat ≤ 0x40 ∨ (0x5b ≤ c.toNat ∧ c.toNat ≤ 0x7a) := by
    simp only [isSlugChar, Bool.or_eq_true, Bool.and_eq_true, decide_eq_true_eq, beq_iff_eq] at own
    rcases own with (((⟨first, last⟩ | ⟨first, last⟩) | rfl) | rfl) | rfl
    · exact .inr ⟨Nat.le_trans (by decide) (Char.le_def.mp first), Char.le_def.mp last⟩
    · exact .inl (Nat.le_trans (Char.le_def.mp last) (by decide))
    all_goals decide
  have uncovered : Text.lowerRuns.find? (fun run => run.covers c.toNat) = none := by
    apply Array.find?_eq_none.mpr
    intro run member covers
    simp only [Text.CaseRun.covers, Bool.and_eq_true, decide_eq_true_eq] at covers
    have bounds := lowerRuns_bounds run (Array.mem_toList_iff.mpr member)
    omega
  have undotted : c.toNat ≠ 0x130 := by omega
  rw [Text.lowerChar, if_neg undotted, Text.shiftCase, uncovered]

/-! ## Slugs -/

theorem isSlugChar_slugChar (point : CodePoint) : isSlugChar (slugChar point) = true := by
  cases point with
  | surrogate code => rfl
  | char c => by_cases own : isSlugChar c = true <;> simp [slugChar, own]; decide

theorem isSlugChar_of_mem_slugOf {engine : List CodePoint} {c : Char} (member : c ∈ slugOf engine) :
    isSlugChar c = true := by
  have member := List.mem_of_mem_take member
  split at member
  · exact List.all_eq_true.mp (by decide : "engine".toList.all isSlugChar = true) c member
  · obtain ⟨point, -, rfl⟩ := List.mem_map.mp (Text.mem_of_mem_stripChars member)
    exact isSlugChar_slugChar point

theorem length_slugOf (engine : List CodePoint) :
    1 ≤ (slugOf engine).length ∧ (slugOf engine).length ≤ slugLength := by
  constructor
  · unfold slugOf
    simp only [List.length_take]
    split
    · decide
    · rename_i remains
      have positive := List.length_pos_iff.mpr (mt List.isEmpty_iff.mpr remains)
      exact Nat.le_min.mpr ⟨by decide, positive⟩
  · exact List.length_take_le _ _

/-- A slug is its own slug. -/
theorem slugOf_ofText {text : String} (own : IsSlug text) :
    slugOf (CodePoint.ofText text) = text.toList := by
  have lowered : (CodePoint.ofText text).flatMap CodePoint.lower = CodePoint.ofText text := by
    have each : ∀ c ∈ text.toList, (CodePoint.char c).lower = [.char c] := by
      intro c member
      rw [CodePoint.lower, lowerChar_of_isSlugChar (own.chars c member)]
      rfl
    unfold CodePoint.ofText
    rw [List.flatMap_map, List.flatMap_congr each]
    exact List.map_eq_flatMap.symm
  have replaced : (CodePoint.ofText text).map slugChar = text.toList := by
    unfold CodePoint.ofText
    rw [List.map_map]
    conv_rhs => rw [← List.map_id text.toList]
    apply List.map_congr_left
    intro c member
    exact if_pos (own.chars c member)
  have trimmed : Text.stripChars (· == '-') text.toList = text.toList := by
    apply Text.stripChars_eq_self
    · intro c isFirst
      exact beq_false_of_ne fun dash => own.head (dash ▸ isFirst)
    · intro c isLast
      exact beq_false_of_ne fun dash => own.last (dash ▸ isLast)
  have remains : text.toList.isEmpty = false := by
    rw [List.isEmpty_eq_false_iff]
    exact List.length_pos_iff.mp own.long
  simp only [slugOf, lowered, replaced, trimmed, remains]
  exact List.take_of_length_le own.short

/-! ## Names -/

/-- The name for an engine whose name may have surrogates in it. -/
def nameOf (engine : List CodePoint) (token : String) : String :=
  "analyzer-" ++ String.ofList (slugOf engine) ++ "-" ++ token

theorem nameFor_eq (engineName token : String) :
    nameFor engineName token = nameOf (CodePoint.ofText engineName) token := rfl

/-- What a generated name promises of an engine and a token. -/
structure IsSafe (engine : List CodePoint) (token name : String) : Prop where
  wellFormed : IsContainerName name
  short : name.length ≤ 58
  parts : ∃ middle : String, middle ≠ "" ∧ name = "analyzer-" ++ middle ++ "-" ++ token ∧
    ∀ text, IsSlug text → engine = CodePoint.ofText text → middle = text

theorem isContainerName_nameOf (engine : List CodePoint) {token : String} (hex : IsToken token) :
    IsContainerName (nameOf engine token) := by
  refine ⟨'a', "nalyzer-".toList ++ slugOf engine ++ '-' :: token.toList, ?_, rfl, ?_, ?_⟩
  · simp [nameOf]
  · simp
  · intro c member
    rcases List.mem_append.mp member with inStem | inToken
    · rcases List.mem_append.mp inStem with inLabel | inSlug
      · exact List.all_eq_true.mp (by decide : "nalyzer-".toList.all isNameChar = true) c inLabel
      · exact isNameChar_of_isSlugChar (isSlugChar_of_mem_slugOf inSlug)
    · rcases List.mem_cons.mp inToken with rfl | inToken
      · rfl
      · exact hex.isNameChar inToken

/-- A name that is generated for an engine is one that the client takes, says what it is for and
ends with the token. -/
theorem names_areSafe {token : String} (hex : IsToken token) :
    (∀ engine, IsSafe engine token (nameOf engine token)) ∧
      ∀ engineName, IsSafe (CodePoint.ofText engineName) token (nameFor engineName token) := by
  have safe (engine : List CodePoint) : IsSafe engine token (nameOf engine token) := by
    obtain ⟨positive, short⟩ := length_slugOf engine
    refine ⟨isContainerName_nameOf engine hex, ?_, String.ofList (slugOf engine), ?_, rfl, ?_⟩
    · have bound : (slugOf engine).length ≤ 40 := short
      have stem : "analyzer-".length = 9 ∧ "-".length = 1 := by decide
      have digits := hex.1
      simp only [nameOf, String.length_append, String.length_ofList]
      omega
    · intro nothing
      have none_left := congrArg String.length nothing
      rw [String.length_ofList, String.length_empty] at none_left
      omega
    · rintro text own rfl
      rw [slugOf_ofText own, String.ofList_toList]
  refine ⟨safe, fun engineName => ?_⟩
  rw [nameFor_eq]
  exact safe (CodePoint.ofText engineName)

/-- The name `-R`, a surrogate and a capital I with a dot, which is two characters in lower case. -/
def dotted : List CodePoint := [.char '-', .char 'R', .surrogate 0xd83d, .char (Char.ofNat 0x130)]

theorem dotted_isSafe :
    IsToken "0a1b2c3d" ∧ slugOf dotted = ['r', '-', 'i'] ∧
      IsSafe dotted "0a1b2c3d" (nameOf dotted "0a1b2c3d") := by
  have hex : IsToken "0a1b2c3d" := by
    refine ⟨by decide, List.all_iff_forall_prop.mp (by decide)⟩
  exact ⟨hex, by decide +kernel, (names_areSafe hex).1 dotted⟩

end AnalysisEngines.Container
