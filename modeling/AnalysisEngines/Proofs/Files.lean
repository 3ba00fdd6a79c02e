import AnalysisEngines.Files.Basic
import AnalysisEngines.Proofs.Text.Utf8

/-!
# Reading files

The text of a file is the one that its bytes encode, with line ends unified.  There is none for a path
with a zero character, for what is no file, and for bytes that encode no text.
-/

set_option autoImplicit false

namespace AnalysisEngines

namespace Path

/-- A name that is a path by itself. -/
structure IsName (name : String) : Prop where
  whole : '/' ∉ name.toList
  isGiven : name ≠ ""
  isPart : name ≠ "."

variable {name : String}

theorem IsName.parts (isName : IsName name) : parts name = [name] := by
  unfold Path.parts
  rw [List.splitOn_eq_singleton isName.whole, List.map_singleton, String.ofList_toList]
  simp [isName.isGiven, isName.isPart]

theorem IsName.root (isName : IsName name) : root name = "" := by
  have relative : ∀ slashes : String, '/' ∈ slashes.toList → name.startsWith slashes = false := by
    intro slashes member
    apply String.startsWith_string_eq_false_iff.mpr
    intro isPrefix
    exact isName.whole (isPrefix.subset member)
  unfold Path.root isAbsolute
  rw [relative "//" (by decide), relative "/" (by decide)]
  rfl

theorem IsName.normalize (isName : IsName name) : normalize name = name := by
  have alone : "/".intercalate [name] = name := rfl
  unfold Path.normalize
  rw [isName.root, isName.parts, alone, String.empty_append]
  exact if_neg isName.isGiven

end Path

namespace Files

variable {files : Files} {path : String}

/-! ## One outcome at a time -/

theorem readText_of_zero (zero : '\x00' ∈ path.toList) :
    files.readText path = .error .zeroInPath := by
  unfold readText
  rw [if_pos (by simpa using zero)]

theorem readText_of_error {fault : FileFault} (plain : '\x00' ∉ path.toList)
    (failed : files.read path = .error fault) : files.readText path = .error (.file fault) := by
  unfold readText
  rw [if_neg (by simpa using plain), failed]

theorem readText_of_content {content : Bytes} (plain : '\x00' ∉ path.toList)
    (found : files.read path = .ok content) :
    files.readText path = ((Utf8.decode content).mapError .encoding).map fun text =>
      String.ofList (unifyLineEnds text.toList) := by
  unfold readText
  rw [if_neg (by simpa using plain), found]
  dsimp only
  cases Utf8.decode content <;> rfl

theorem exists?_of_zero (zero : '\x00' ∈ path.toList) : files.exists? path = .ok false := by
  unfold exists?
  rw [if_pos (by simpa using zero)]

theorem exists?_of_node {node : Node} (plain : '\x00' ∉ path.toList)
    (found : files.lookup path = .ok node) : files.exists? path = .ok true := by
  unfold exists?
  rw [if_neg (by simpa using plain), found]

theorem exists?_of_nameTooLong (plain : '\x00' ∉ path.toList)
    (failed : files.lookup path = .error .nameTooLong) :
    files.exists? path = .error (.nameTooLong path) := by
  unfold exists?
  rw [if_neg (by simpa using plain), failed]

theorem exists?_of_missing {fault : LookupFault} (failed : files.lookup path = .error fault)
    (short : fault ≠ .nameTooLong) : files.exists? path = .ok false := by
  unfold exists?
  split
  · rfl
  · rw [failed]
    cases fault with
    | nameTooLong => exact absurd rfl short
    | _ => rfl

/-! ## What a path leads to -/

/-- A path leads somewhere exactly if something is found under it. -/
theorem exists?_eq_true_iff :
    files.exists? path = .ok true ↔ '\x00' ∉ path.toList ∧ ∃ node, files.lookup path = .ok node := by
  constructor
  · intro isThere
    have plain : '\x00' ∉ path.toList := by
      intro zero
      rw [exists?_of_zero zero] at isThere
      cases isThere
    cases found : files.lookup path with
    | ok node => exact ⟨plain, node, rfl⟩
    | error fault =>
        by_cases long : fault = .nameTooLong
        · rw [exists?_of_nameTooLong plain (long ▸ found)] at isThere
          cases isThere
        · rw [exists?_of_missing found long] at isThere
          cases isThere
  · rintro ⟨plain, node, found⟩
    exact exists?_of_node plain found

theorem exists?_eq_error_iff :
    (∃ fault, files.exists? path = .error fault) ↔
      '\x00' ∉ path.toList ∧ files.lookup path = .error .nameTooLong := by
  constructor
  · rintro ⟨fault, failed⟩
    have plain : '\x00' ∉ path.toList := by
      intro zero
      rw [exists?_of_zero zero] at failed
      cases failed
    refine ⟨plain, ?_⟩
    cases found : files.lookup path with
    | ok node =>
        rw [exists?_of_node plain found] at failed
        cases failed
    | error why =>
        by_cases long : why = .nameTooLong
        · rw [long]
        · rw [exists?_of_missing found long] at failed
          cases failed
  · rintro ⟨plain, failed⟩
    exact ⟨_, exists?_of_nameTooLong plain failed⟩

theorem read_eq_ok_iff {content : Bytes} :
    files.read path = .ok content ↔ files.lookup path = .ok (.file content) := by
  unfold read
  cases files.lookup path with
  | error fault => simp
  | ok node => cases node <;> simp

/-! ## What is read -/

theorem readText_eq_zeroInPath_iff :
    files.readText path = .error .zeroInPath ↔ '\x00' ∈ path.toList := by
  constructor
  · intro failed
    by_contra plain
    cases found : files.read path with
    | error fault =>
        rw [readText_of_error plain found] at failed
        cases failed
    | ok content =>
        rw [readText_of_content plain found] at failed
        cases decoded : Utf8.decode content <;> rw [decoded] at failed <;> cases failed
  · exact readText_of_zero

/-- Bytes that encode no text are not read. -/
theorem readText_eq_encoding_iff :
    (∃ error, files.readText path = .error (.encoding error)) ↔
      '\x00' ∉ path.toList ∧ ∃ content, files.lookup path = .ok (.file content) ∧
        ∀ text, Utf8.encode text ≠ content := by
  constructor
  · rintro ⟨error, failed⟩
    have plain : '\x00' ∉ path.toList := by
      intro zero
      rw [readText_of_zero zero] at failed
      cases failed
    cases found : files.read path with
    | error fault =>
        rw [readText_of_error plain found] at failed
        cases failed
    | ok content =>
        refine ⟨plain, content, read_eq_ok_iff.mp found, ?_⟩
        intro text encoded
        rw [readText_of_content plain found, Utf8.decode_eq_ok_iff.mpr encoded] at failed
        cases failed
  · rintro ⟨plain, content, found, garbled⟩
    rw [readText_of_content plain (read_eq_ok_iff.mpr found)]
    cases decoded : Utf8.decode content with
    | error error => exact ⟨error, rfl⟩
    | ok text => exact absurd (Utf8.decode_eq_ok_iff.mp decoded) (garbled text)

/-- What is there, but cannot be read as a file, is a directory. -/
theorem readText_eq_file_of_exists? {fault : FileFault} (isThere : files.exists? path = .ok true)
    (failed : files.readText path = .error (.file fault)) :
    files.lookup path = .ok .directory := by
  obtain ⟨plain, node, found⟩ := exists?_eq_true_iff.mp isThere
  cases node with
  | directory => exact found
  | file content =>
      rw [readText_of_content plain (read_eq_ok_iff.mpr found)] at failed
      cases decoded : Utf8.decode content <;> rw [decoded] at failed <;> cases failed

/-- A file that is read is there. -/
theorem exists?_of_readText {text : String} (read : files.readText path = .ok text) :
    files.exists? path = .ok true := by
  have plain : '\x00' ∉ path.toList := by
    intro zero
    rw [readText_of_zero zero] at read
    cases read
  cases found : files.read path with
  | error fault =>
      rw [readText_of_error plain found] at read
      cases read
  | ok content => exact exists?_of_node plain (read_eq_ok_iff.mp found)

/-- What a name leads to is the entry of that name, if it is not too long. -/
theorem lookup_of_isName {name : String} (isName : Path.IsName name) (inner : name ≠ "..")
    (short : name.utf8ByteSize ≤ longestName) :
    files.lookup name = match files.node? "" [name] with
      | some node => .ok node
      | none => .error .notFound := by
  unfold lookup
  rw [isName.root, isName.parts, walk, if_neg inner, if_neg (Nat.not_lt.mpr short)]
  dsimp only
  rw [List.nil_append]
  cases files.node? "" [name] with
  | none => rfl
  | some node => cases node <;> rfl

end Files

end AnalysisEngines
