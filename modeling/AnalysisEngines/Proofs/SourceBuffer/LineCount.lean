import AnalysisEngines.Proofs.Location.Rendering

/-!
# Which lines are counted

A line feed at the end of a text opens no line that is counted, and yet the offset behind it is on a
line of its own.  All other offsets are on the lines that are counted, and each of these has one.
-/

set_option autoImplicit false

namespace AnalysisEngines

/-- From one offset to another. -/
def Location.ofOffsets (first last : Int) : Location :=
  .positions (.offset (.int first)) (.offset (.int last))

namespace SourceBuffer

/-- The end of a text whose last character is a line feed. -/
structure IsBehindLastFeed (buffer : SourceBuffer) (offset : Int) : Prop where
  atEnd : offset = buffer.length
  ends : buffer.source.getLast? = some '\n'

section Ends

variable {source : List Char} {offset start : Nat}

theorem Opens.le_length (opens : Opens source start) : start ≤ source.length := by
  cases opens with
  | atZero => exact Nat.zero_le _
  | behindFeed isFeed => exact (List.getElem?_eq_some_iff.mp isFeed).1

/-- A text that ends in a line feed has it at the last position. -/
theorem feed_of_getLast? (ends : source.getLast? = some '\n') :
    ∃ position, source.length = position + 1 ∧ source[position]? = some '\n' := by
  rw [List.getLast?_eq_getElem?] at ends
  have inside := (List.getElem?_eq_some_iff.mp ends).1
  exact ⟨source.length - 1, by omega, ends⟩

/-- The end of a text opens a line behind its last line feed. -/
theorem opens_length_iff (given : 0 < source.count '\n') :
    Opens source source.length ↔ source.getLast? = some '\n' := by
  constructor
  · intro opens
    generalize counted : source.length = length at opens
    cases opens with
    | atZero =>
        rw [List.length_eq_zero_iff.mp counted] at given
        cases given
    | behindFeed isFeed => rw [List.getLast?_eq_getElem?, counted, Nat.add_sub_cancel, isFeed]
  · intro ends
    obtain ⟨position, counted, isFeed⟩ := feed_of_getLast? ends
    rw [counted]
    exact .behindFeed isFeed

theorem count_pos_of_getLast? (ends : source.getLast? = some '\n') : 0 < source.count '\n' :=
  List.count_pos_iff.mpr (List.mem_of_getLast? ends)

end Ends

variable {buffer : SourceBuffer}

theorem lineCount_eq (buffer : SourceBuffer) :
    buffer.lineCount =
      if buffer.source.getLast? = some '\n' then buffer.source.count '\n'
      else buffer.source.count '\n' + 1 := by
  have last : buffer.lineStarts.getLast? = some buffer.length ↔
      Opens buffer.source buffer.source.length := by
    rw [List.getLast?_eq_getElem?, length_lineStarts, Nat.add_sub_cancel, getElem?_lineStarts]
    exact and_iff_left (feedsBefore_length buffer.source)
  have uncounted : (1 < buffer.source.count '\n' + 1 ∧
      buffer.lineStarts.getLast? = some buffer.length) ↔
      buffer.source.getLast? = some '\n' := by
    rw [last, Nat.lt_add_left_iff_pos]
    constructor
    · rintro ⟨given, opens⟩
      exact (opens_length_iff given).mp opens
    · intro ends
      have given := count_pos_of_getLast? ends
      exact ⟨given, (opens_length_iff given).mpr ends⟩
  simp only [lineCount, length_lineStarts, Nat.add_sub_cancel, uncounted]

theorem line_placeOf (buffer : SourceBuffer) (offset : Nat) :
    (buffer.placeOf offset).line = feedsBefore buffer.source offset + 1 :=
  (locates_placeOf buffer offset).line

/-- Any offset but the end has a final line feed behind it. -/
theorem feedsBefore_lt_count {offset : Nat} (ends : buffer.source.getLast? = some '\n')
    (before : offset < buffer.length) :
    feedsBefore buffer.source offset < buffer.source.count '\n' := by
  obtain ⟨position, counted, isFeed⟩ := feed_of_getLast? ends
  have le : offset ≤ position := by
    unfold length at before
    omega
  rw [← feedsBefore_length, counted]
  exact feedsBefore_lt isFeed le (Nat.lt_succ_self position)

theorem line_le_lineCount {offset : Nat} (inside : offset ≤ buffer.length)
    (apart : ¬ buffer.IsBehindLastFeed offset) :
    (buffer.placeOf offset).line ≤ buffer.lineCount := by
  rw [line_placeOf, lineCount_eq]
  split
  case isTrue ends =>
    have before : offset < buffer.length := by
      apply Nat.lt_of_le_of_ne inside
      intro atEnd
      exact apart ⟨congrArg Int.ofNat atEnd, ends⟩
    exact feedsBefore_lt_count ends before
  case isFalse => exact Nat.succ_le_succ (feedsBefore_le_count buffer.source offset)

theorem place_of_isBehindLastFeed {offset : Nat} (behind : buffer.IsBehindLastFeed offset) :
    buffer.placeOf offset = ⟨buffer.lineCount + 1, 1⟩ := by
  have atEnd : offset = buffer.source.length := Int.ofNat.inj behind.atEnd
  have opens := (opens_length_iff (count_pos_of_getLast? behind.ends)).mpr behind.ends
  rw [lineCount_eq, if_pos behind.ends, atEnd, placeOf_eq opens rfl, feedsBefore_length,
    Nat.sub_self]

/-- A line that is counted starts at an offset. -/
theorem exists_line {line : Nat} (least : 1 ≤ line) (most : line ≤ buffer.lineCount) :
    ∃ offset ≤ buffer.length, (buffer.placeOf offset).line = line := by
  have inside : line - 1 < buffer.lineStarts.length := by
    rw [lineCount_eq] at most
    rw [length_lineStarts]
    split at most <;> omega
  obtain ⟨opens, before⟩ := getElem?_lineStarts.mp (List.getElem?_eq_getElem inside)
  refine ⟨_, opens.le_length, ?_⟩
  rw [line_placeOf, before]
  omega

theorem range_of_places {first last : Int} {firstPlace lastPlace : Place}
    (isFirst : buffer.place (.int first) = .ok firstPlace)
    (isLast : buffer.place (.int last) = .ok lastPlace) :
    (Location.ofOffsets first last).range (some buffer) =
      .ok (.ofLine? (some firstPlace.line), .ofLine? (some lastPlace.line)) := by
  simp only [Location.ofOffsets, Location.range, Position.resolve, isFirst, isLast]
  rfl

/-- An offset is on a line that is counted, exactly if it is not behind a line feed at the end; there
it is at the start of the line after the last one that is counted.  Each line that is counted has
an offset, and a location of offsets reads as the lines that they are on. -/
theorem line_isCounted_iff (buffer : SourceBuffer) :
    (∀ (offset : Int) (place : Place), buffer.place (.int offset) = .ok place →
      1 ≤ place.line ∧
      (place.line ≤ buffer.lineCount ↔ ¬ buffer.IsBehindLastFeed offset) ∧
      (buffer.IsBehindLastFeed offset → place = ⟨buffer.lineCount + 1, 1⟩)) ∧
    (∀ line : Nat, 1 ≤ line → line ≤ buffer.lineCount →
      ∃ (offset : Int) (place : Place), buffer.place (.int offset) = .ok place ∧
        place.line = line) ∧
    (∀ (first last : Int) (firstPlace lastPlace : Place) (suffix : String),
      buffer.place (.int first) = .ok firstPlace → buffer.place (.int last) = .ok lastPlace →
      (Location.ofOffsets first last).render (some buffer) suffix =
        .ok (LineRange.text suffix ⟨some firstPlace.line, some lastPlace.line⟩)) := by
  refine ⟨?_, ?_, ?_⟩
  · intro offset place resolved
    obtain ⟨offset, rfl, inside, rfl⟩ := place_eq_ok_iff.mp resolved
    have least : 1 ≤ (buffer.placeOf offset).line := by
      rw [line_placeOf]
      exact Nat.succ_pos _
    refine ⟨least, ⟨?_, line_le_lineCount inside⟩, place_of_isBehindLastFeed⟩
    intro counted behind
    rw [place_of_isBehindLastFeed behind] at counted
    exact Nat.not_succ_le_self _ counted
  · intro line least most
    obtain ⟨offset, inside, isLine⟩ := exists_line least most
    exact ⟨offset, _, place_eq_ok_iff.mpr ⟨offset, rfl, inside, rfl⟩, isLine⟩
  · intro first last firstPlace lastPlace suffix isFirst isLast
    exact Location.render_of_range (range_of_places isFirst isLast) suffix

/-- A text whose last line has no line feed. -/
def unfinished : SourceBuffer := .ofText "unfinished.txt" "a\nb"

/-- Without a line feed at the end, the end is on the last line. -/
theorem unfinished_isCounted :
    unfinished.place (.int 3) = .ok ⟨2, 2⟩ ∧ ¬ unfinished.IsBehindLastFeed 3 ∧
      2 ≤ unfinished.lineCount ∧
      (∃ (offset : Int) (place : Place), unfinished.place (.int offset) = .ok place ∧
        place.line = 2) ∧
      (Location.ofOffsets 3 3).render (some unfinished) ":" = .ok "2:" := by
  have opens : Opens unfinished.source 2 := .behindFeed rfl
  have resolved : unfinished.place (.int 3) = .ok ⟨2, 2⟩ :=
    @place_of_opens _ 3 _ opens rfl (by decide)
  have apart : ¬ unfinished.IsBehindLastFeed 3 := fun behind => absurd behind.ends (by decide)
  obtain ⟨counted, lines, rendered⟩ := line_isCounted_iff unfinished
  have last : 2 ≤ unfinished.lineCount := (counted 3 _ resolved).2.1.mpr apart
  exact ⟨resolved, apart, last, lines 2 (by decide) last, rendered 3 3 _ _ ":" resolved resolved⟩

/-- A text of one line, with its line feed. -/
def finished : SourceBuffer := .ofText "finished.txt" "a\n"

/-- The end of a text of one line is on a second one, and a location there reads as that. -/
theorem finished_uncounted :
    finished.lineCount = 1 ∧ finished.place (.int 2) = .ok ⟨2, 1⟩ ∧
      (Location.ofOffsets 2 2).render (some finished) "" = .ok "2" := by
  have opens : Opens finished.source 2 := .behindFeed rfl
  have resolved : finished.place (.int 2) = .ok ⟨2, 1⟩ :=
    @place_of_opens _ 2 _ opens rfl (by decide)
  have spans := range_of_places resolved resolved
  exact ⟨by decide, resolved, @Location.render_of_range _ _ ⟨some 2, some 2⟩ spans ""⟩

end SourceBuffer

end AnalysisEngines
