import AnalysisEngines.Location.Basic
import AnalysisEngines.Proofs.SourceBuffer.Lines
import Mathlib.Data.List.TakeWhile

/-!
# The text of a location

A location whose ends are lines, or offsets that its buffer resolves to lines, is rendered as the
range of these lines.  The range can be read back from its text, so that two locations have one text
exactly if they span the same lines.
-/

set_option autoImplicit false

namespace AnalysisEngines

/-- First and last line of a location, either of which may be absent. -/
structure LineRange where
  first : Option Nat
  last : Option Nat
  deriving DecidableEq

namespace LineRange

def blank : LineRange := ⟨none, none⟩

/-- The ends that are there, with a dash between them unless they are the same. -/
def bounds : LineRange → String
  | ⟨none, none⟩ => ""
  | ⟨some first, none⟩ => toString first ++ "-"
  | ⟨none, some last⟩ => "-" ++ toString last
  | ⟨some first, some last⟩ =>
      if first = last then toString first else toString first ++ "-" ++ toString last

/-- The text of a range with a suffix, which a range without ends stays without. -/
def text (suffix : String) (range : LineRange) : String :=
  if range = blank then "" else range.bounds ++ suffix

/-- The number that digits stand for; none stand for no number. -/
def lineOf? (digits : List Char) : Option Nat :=
  if digits = [] then none else some (Nat.ofDigitChars 10 digits 0)

/-- What stands before and behind the first dash; without one, both ends are the same. -/
def ofBounds (bounds : List Char) : LineRange :=
  let first := lineOf? (bounds.takeWhile (· ≠ '-'))
  match bounds.dropWhile (· ≠ '-') with
  | [] => ⟨first, first⟩
  | _ :: last => ⟨first, lineOf? last⟩

def ofText (suffix text : String) : LineRange :=
  ofBounds (text.toList.take (text.length - suffix.length))

/-! ## Reading back -/

section Digits

variable {line : Nat} {c : Char}

theorem toList_toString (line : Nat) : (toString line).toList = Nat.toDigits 10 line := by
  rw [Nat.toString_eq_repr, Nat.toList_repr]

theorem isDigit_of_mem (member : c ∈ (toString line).toList) : c.isDigit = true := by
  rw [toList_toString] at member
  exact Nat.isDigit_of_mem_toDigits (by decide) (by decide) member

theorem ne_dash_of_mem (member : c ∈ (toString line).toList) : decide (c ≠ '-') = true := by
  have isDigit := isDigit_of_mem member
  rw [decide_eq_true_eq]
  rintro rfl
  cases isDigit

theorem lineOf?_toString (line : Nat) : lineOf? (toString line).toList = some line := by
  rw [toList_toString, lineOf?, if_neg Nat.toDigits_ne_nil,
    Nat.ofDigitChars_toDigits (by decide) (by decide)]

end Digits

theorem ofBounds_toString (line : Nat) :
    ofBounds (toString line).toList = ⟨some line, some line⟩ := by
  unfold ofBounds
  rw [List.takeWhile_eq_self_iff.mpr fun _ => ne_dash_of_mem,
    List.dropWhile_eq_nil_iff.mpr fun _ => ne_dash_of_mem, lineOf?_toString]

theorem ofBounds_dash (first : Nat) (rest : List Char) :
    ofBounds ((toString first).toList ++ '-' :: rest) = ⟨some first, lineOf? rest⟩ := by
  unfold ofBounds
  rw [List.takeWhile_append_of_pos fun _ => ne_dash_of_mem,
    List.dropWhile_append_of_pos fun _ => ne_dash_of_mem]
  simp [- Nat.toString_eq_repr, lineOf?_toString]

theorem ofBounds_bounds (range : LineRange) : ofBounds range.bounds.toList = range := by
  obtain ⟨first | first, last | last⟩ := range
  case none.none => simp [bounds, ofBounds, lineOf?]
  case none.some =>
    rw [bounds, String.toList_append]
    exact congrArg (LineRange.mk none) (lineOf?_toString last)
  case some.none =>
    rw [bounds, String.toList_append]
    exact ofBounds_dash first []
  case some.some =>
    rw [bounds]
    split
    case isTrue same => rw [same, ofBounds_toString]
    case isFalse =>
      rw [String.toList_append, String.toList_append, List.append_assoc]
      exact (ofBounds_dash first _).trans (congrArg (LineRange.mk _) (lineOf?_toString last))

theorem ofText_append (suffix bounds : String) :
    ofText suffix (bounds ++ suffix) = ofBounds bounds.toList := by
  rw [ofText, String.length_append, Nat.add_sub_cancel, String.toList_append,
    ← String.length_toList, List.take_left]

/-- A range can be read back from its text. -/
theorem ofText_text (suffix : String) (range : LineRange) :
    ofText suffix (range.text suffix) = range := by
  unfold text
  split
  case isTrue isBlank =>
    rw [isBlank, ofText, String.toList_empty, List.take_nil]
    exact ofBounds_bounds blank
  case isFalse => rw [ofText_append, ofBounds_bounds]

theorem text_injective {suffix : String} : Function.Injective (text suffix) :=
  Function.LeftInverse.injective (ofText_text suffix)

theorem text_eq_empty_iff {suffix : String} {range : LineRange} :
    range.text suffix = "" ↔ range = blank :=
  (@text_injective suffix).eq_iff' (if_pos rfl)

end LineRange

/-! ## What a location spans -/

/-- The value of a line, which may be absent. -/
def Value.ofLine? : Option Nat → Value
  | none => .null
  | some line => .ofNat line

/-- A position on a line: the line itself, or an offset that the buffer has on it. -/
inductive Position.IsOn (buffer : Option SourceBuffer) : Position → Nat → Prop
  | line {line : Nat} : IsOn buffer (.line (.ofNat line)) line
  | offset {source : SourceBuffer} {offset : Nat} :
      buffer = some source → offset ≤ source.length →
      IsOn buffer (.offset (.ofNat offset)) (SourceBuffer.feedsBefore source.source offset + 1)

/-- The lines from which a location leads, and to which. -/
inductive Location.Spans (buffer : Option SourceBuffer) : Location → LineRange → Prop
  | lines {first last : Option Nat} :
      Spans buffer (.lines (.ofLine? first) (.ofLine? last)) ⟨first, last⟩
  | positions {first last : Position} {firstLine lastLine : Nat} :
      first.IsOn buffer firstLine → last.IsOn buffer lastLine →
      Spans buffer (.positions first last) ⟨some firstLine, some lastLine⟩

/-! ## Rendering -/

theorem Value.same_ofNat (left right : Nat) :
    (Value.ofNat left).same (.ofNat right) = decide (left = right) := by
  rw [Bool.eq_iff_iff, decide_eq_true_iff, ← Int.ofNat_inj, ← Rat.intCast_inj]
  simp [ofNat, int, same, Number.numericallyEqual, Number.exact, Binary64.numericallyEqual,
    Binary64.toRat?]

theorem Value.same_ofLine? (left right : Option Nat) :
    (ofLine? left).same (ofLine? right) = decide (left = right) := by
  cases left with
  | none =>
      cases right with
      | none => simp [ofLine?, same]
      | some right => simp [ofLine?, same, ofNat, int]
  | some left =>
      cases right with
      | none => simp [ofLine?, same, ofNat, int]
      | some right => simp [ofLine?, same_ofNat]

theorem Text.isBlank_of_isDigit {c : Char} (isDigit : c.isDigit = true) : isBlank c = false := by
  have codes : 48 ≤ c.toNat ∧ c.toNat ≤ 57 := by
    simpa [Char.isDigit, UInt32.le_iff_toNat_le] using isDigit
  simp [isBlank]
  omega

theorem Position.resolve_of_isOn {position : Position} {buffer : Option SourceBuffer} {line : Nat}
    (isOn : position.IsOn buffer line) : position.resolve buffer = .ok (.ofNat line) := by
  cases isOn with
  | line => rfl
  | @offset source offset given inside =>
      have resolved : source.place (.ofNat offset) = .ok (source.placeOf offset) :=
        SourceBuffer.place_eq_ok_iff.mpr ⟨offset, rfl, inside, rfl⟩
      rw [given, resolve, resolved, ← (SourceBuffer.locates_placeOf source offset).line]

theorem Text.isBlankText_append (first second : String) :
    isBlankText (first ++ second) = (isBlankText first && isBlankText second) := by
  rw [isBlankText, String.toList_append, List.all_append]
  rfl

theorem Text.isBlankText_toString (line : Nat) : isBlankText (toString line) = false := by
  have given : (toString line).toList ≠ [] := by
    rw [LineRange.toList_toString]
    exact Nat.toDigits_ne_nil
  obtain ⟨c, member⟩ := List.exists_mem_of_ne_nil _ given
  have solid := isBlank_of_isDigit (LineRange.isDigit_of_mem member)
  exact List.all_eq_false.mpr ⟨c, member, ne_true_of_eq_false solid⟩

namespace Location

/-- Only a range without ends is blank: a digit or a dash is in any other. -/
theorem isBlankText_bounds (range : LineRange) :
    Text.isBlankText range.bounds = decide (range = .blank) := by
  have dash : Text.isBlankText "-" = false := by decide
  obtain ⟨first | first, last | last⟩ := range
  case none.none => decide
  case none.some =>
    rw [LineRange.bounds, Text.isBlankText_append, dash]
    rfl
  case some.none =>
    rw [LineRange.bounds, Text.isBlankText_append, Text.isBlankText_toString]
    rfl
  case some.some =>
    rw [LineRange.bounds]
    split
    case isTrue =>
      rw [Text.isBlankText_toString]
      rfl
    case isFalse =>
      rw [Text.isBlankText_append, Text.isBlankText_append, Text.isBlankText_toString]
      rfl

theorem endText_ofNat (line : Nat) : endText (.ofNat line) = toString line := rfl

theorem rangeText_ofLine? (range : LineRange) :
    rangeText (.ofLine? range.first) (.ofLine? range.last) = range.bounds := by
  rw [rangeText, Value.same_ofLine?]
  obtain ⟨first | first, last | last⟩ := range
  case none.none => rfl
  case none.some => rfl
  case some.none => exact String.append_empty
  case some.some => simp [LineRange.bounds, Value.ofLine?, endText_ofNat]

theorem render_of_range {location : Location} {buffer : Option SourceBuffer} {range : LineRange}
    (spans : location.range buffer = .ok (.ofLine? range.first, .ofLine? range.last))
    (suffix : String) : location.render buffer suffix = .ok (range.text suffix) := by
  rw [render, spans]
  simp only [bind, Except.bind]
  rw [rangeText_ofLine?, isBlankText_bounds]
  simp only [decide_eq_true_eq]
  rfl

theorem range_of_spans {location : Location} {buffer : Option SourceBuffer} {range : LineRange}
    (spans : location.Spans buffer range) :
    location.range buffer = .ok (.ofLine? range.first, .ofLine? range.last) := by
  cases spans with
  | lines => rfl
  | positions first last =>
      rw [Location.range, Position.resolve_of_isOn first, Position.resolve_of_isOn last]
      rfl

/-- Two locations that span lines have one text exactly if they span the same ones.  The text is
that of the range, as it is for the lines alone, and tells the range. -/
theorem render_eq_iff {location other : Location} {buffer otherBuffer : Option SourceBuffer}
    {range otherRange : LineRange} (spans : location.Spans buffer range)
    (otherSpans : other.Spans otherBuffer otherRange) (suffix : String) :
    (location.render buffer suffix = other.render otherBuffer suffix ↔ range = otherRange) ∧
    location.render buffer suffix = .ok (range.text suffix) ∧
    location.render buffer suffix =
      (Location.lines (.ofLine? range.first) (.ofLine? range.last)).render none suffix ∧
    (range.text suffix = "" ↔ range = .blank) ∧
    LineRange.ofText suffix (range.text suffix) = range := by
  have rendered := render_of_range (range_of_spans spans) suffix
  have otherRendered := render_of_range (range_of_spans otherSpans) suffix
  have lines := @Spans.lines none range.first range.last
  have linesRendered := render_of_range (range_of_spans lines) suffix
  refine ⟨?_, rendered, rendered.trans linesRendered.symm, LineRange.text_eq_empty_iff,
    LineRange.ofText_text suffix range⟩
  rw [rendered, otherRendered, Except.ok.injEq]
  exact LineRange.text_injective.eq_iff

/-- A text of three lines. -/
def stacked : SourceBuffer := .ofText "stacked.txt" "a\nb\nc"

/-- From an offset on the second line to the third one. -/
def mixed : Location := .positions (.offset (.ofNat 2)) (.line (.ofNat 3))

theorem mixed_spans : mixed.Spans (some stacked) ⟨some 2, some 3⟩ :=
  .positions (.offset rfl (by decide)) .line

/-- A range from a position to a line reads as that of two lines, and not as an open one; a suffix
with a dash and a digit does not blur them. -/
theorem mixed_renders :
    mixed.Spans (some stacked) ⟨some 2, some 3⟩ ∧
      (Location.lines (.ofNat 2) (.ofNat 3)).Spans none ⟨some 2, some 3⟩ ∧
      (Location.lines (.ofNat 2) .null).Spans none ⟨some 2, none⟩ ∧
      mixed.render (some stacked) "-3" = .ok "2-3-3" ∧
      mixed.render (some stacked) "-3" =
        (Location.lines (.ofNat 2) (.ofNat 3)).render none "-3" ∧
      mixed.render (some stacked) "-3" ≠ (Location.lines (.ofNat 2) .null).render none "-3" := by
  have lines : (Location.lines (.ofNat 2) (.ofNat 3)).Spans none ⟨some 2, some 3⟩ :=
    @Spans.lines none (some 2) (some 3)
  have endless : (Location.lines (.ofNat 2) .null).Spans none ⟨some 2, none⟩ :=
    @Spans.lines none (some 2) none
  refine ⟨mixed_spans, lines, endless, (render_eq_iff mixed_spans lines "-3").2.1,
    (render_eq_iff mixed_spans lines "-3").1.mpr rfl, ?_⟩
  intro same
  have equal := (render_eq_iff mixed_spans endless "-3").1.mp same
  cases equal

end Location

end AnalysisEngines
