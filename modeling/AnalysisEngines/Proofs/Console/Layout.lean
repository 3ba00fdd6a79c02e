import AnalysisEngines.Console.Layout
import AnalysisEngines.Proofs.Console.Emoji
import AnalysisEngines.Proofs.Text.Stripping

/-!
# When a text takes one line

To break a line loses nothing: the parts, one behind the other, are the line.  Each part is then
fitted, which may take white space from its end, and crops it where a character is too wide.

So a text that is laid out as one line shows every mark that the line has, and a text is laid out as
itself if and only if it fits a line.
-/

set_option autoImplicit false

namespace AnalysisEngines.Console

variable {width : Nat} {line text : List Char}

/-! ## Cells -/

@[simp]
theorem cellCount_cons (c : Char) (text : List Char) :
    cellCount (c :: text) = cellWidth c + cellCount text := rfl

@[simp]
theorem cellCount_append (first second : List Char) :
    cellCount (first ++ second) = cellCount first + cellCount second := by
  induction first with
  | nil => exact (Nat.zero_add _).symm
  | cons c rest ih => rw [List.cons_append, cellCount_cons, cellCount_cons, ih, Nat.add_assoc]

theorem cellCount_le_of_isPrefixOf {first : List Char} (isPrefix : first <+: text) :
    cellCount first ≤ cellCount text := by
  obtain ⟨rest, rfl⟩ := isPrefix
  rw [cellCount_append]
  exact Nat.le_add_right _ _

theorem zeroWidthRanges_bounds :
    ∀ range ∈ zeroWidthRanges.toList, range.2 < 0x20 ∨ 0x7f ≤ range.1 := by
  decide +kernel

theorem wideRanges_bounds : ∀ range ∈ wideRanges.toList, 0x7f ≤ range.1 := by
  decide +kernel

theorem isIn_eq_false {ranges : Array (Nat × Nat)} {c : Char}
    (apart : ∀ range ∈ ranges.toList, ¬ (range.1 ≤ c.toNat ∧ c.toNat ≤ range.2)) :
    isIn ranges c = false := by
  rw [isIn, ← Array.any_toList]
  apply List.any_eq_false.mpr
  intro range member covers
  exact apart range member (by simpa using covers)

/-- Printable characters of a keyboard take one cell. -/
theorem cellWidth_of_printable {c : Char} (first : 0x20 ≤ c.toNat) (last : c.toNat ≤ 0x7e) :
    cellWidth c = 1 := by
  have shown : isIn zeroWidthRanges c = false := by
    apply isIn_eq_false
    intro range member covers
    have bounds := zeroWidthRanges_bounds range member
    omega
  have narrow : isIn wideRanges c = false := by
    apply isIn_eq_false
    intro range member covers
    have bound := wideRanges_bounds range member
    omega
  rw [cellWidth, shown, narrow]
  rfl

theorem cellWidth_tick : cellWidth '✓' = 1 := by
  have shown : isIn zeroWidthRanges '✓' = false := isIn_eq_false (by decide +kernel)
  have narrow : isIn wideRanges '✓' = false := isIn_eq_false (by decide +kernel)
  rw [cellWidth, shown, narrow]
  rfl

theorem cellCount_of_printable (printable : ∀ c ∈ text, 0x20 ≤ c.toNat ∧ c.toNat ≤ 0x7e) :
    cellCount text = text.length := by
  induction text with
  | nil => rfl
  | cons c rest ih =>
      obtain ⟨own, others⟩ := List.forall_mem_cons.mp printable
      rw [cellCount_cons, cellWidth_of_printable own.1 own.2, ih others, Nat.add_comm]
      rfl

theorem cellCount_blanks (count : Nat) : cellCount (List.replicate count ' ') = count := by
  have printable : ∀ c ∈ List.replicate count ' ', 0x20 ≤ c.toNat ∧ c.toNat ≤ 0x7e := by
    intro c member
    rw [(List.mem_replicate.mp member).2]
    decide
  rw [cellCount_of_printable printable, List.length_replicate]

/-! ## Words -/

theorem wordStart_append (text : List Char) : (wordStart text).1 ++ (wordStart text).2 = text := by
  simp only [wordStart, List.span_eq_takeWhile_dropWhile, List.append_assoc,
    List.takeWhile_append_dropWhile]

theorem wordStart_snd (text : List Char) :
    (wordStart text).2 =
      ((text.dropWhile Text.isBlank).dropWhile (!Text.isBlank ·)).dropWhile Text.isBlank := by
  simp only [wordStart, List.span_eq_takeWhile_dropWhile]

/-- What follows a word does not begin with white space. -/
theorem wordStart_rest (isBlank : (wordStart text).2.all Text.isBlank = true) :
    (wordStart text).2 = [] := by
  rw [wordStart_snd] at isBlank ⊢
  generalize (text.dropWhile Text.isBlank).dropWhile (!Text.isBlank ·) = behind at isBlank ⊢
  cases rest : behind.dropWhile Text.isBlank with
  | nil => rfl
  | cons c after =>
      have first := List.head?_dropWhile_not Text.isBlank behind
      rw [rest] at isBlank first
      rw [List.all_cons, first, Bool.false_and] at isBlank
      cases isBlank

theorem length_wordStart (isGiven : text.all Text.isBlank = false) :
    (wordStart text).2.length < text.length := by
  rw [wordStart_snd]
  have shortens (drop : Char → Bool) (items : List Char) :
      (items.dropWhile drop).length ≤ items.length := (List.dropWhile_suffix drop).length_le
  cases text with
  | nil => cases isGiven
  | cons c rest =>
      apply Nat.lt_succ_of_le
      by_cases isBlank : Text.isBlank c = true
      · rw [List.dropWhile_cons_of_pos isBlank]
        exact Nat.le_trans (shortens _ _) (Nat.le_trans (shortens _ _) (shortens _ rest))
      · have isWord : (!Text.isBlank c) = true := by simpa using isBlank
        rw [List.dropWhile_cons_of_neg isBlank,
          List.dropWhile_cons_of_pos (p := fun c => !Text.isBlank c) isWord]
        exact Nat.le_trans (shortens _ _) (shortens _ rest)

theorem flatten_spacedWords {fuel : Nat} (enough : text.length ≤ fuel)
    (isGiven : text.all Text.isBlank = true → text = []) :
    (spacedWords fuel text).flatten = text := by
  induction fuel generalizing text with
  | zero =>
      rw [List.eq_nil_of_length_eq_zero (Nat.le_zero.mp enough)]
      rfl
  | succ fuel ih =>
      unfold spacedWords
      by_cases isBlank : text.all Text.isBlank = true
      · rw [if_pos isBlank, isGiven isBlank]
        rfl
      · rw [if_neg isBlank]
        have shorter := length_wordStart (Bool.eq_false_iff.mpr isBlank)
        have rest := ih (Nat.le_of_lt_succ (Nat.lt_of_lt_of_le shorter enough)) wordStart_rest
        exact (congrArg ((wordStart text).1 ++ ·) rest).trans (wordStart_append text)

/-! ## Pages -/

theorem flatten_chop (width : Nat) (line : List Char) (used : Nat) (text : List Char) :
    (chop width line used text).flatten = line.reverse ++ text := by
  induction text generalizing line used with
  | nil => simp [chop]
  | cons c rest ih =>
      unfold chop
      dsimp only
      split
      · simp [ih]
      · simp [ih]

namespace Page

/-- All that was written. -/
def content (page : Page) : List Char := page.lines.flatten

theorem lines_ne_nil (page : Page) : page.lines ≠ [] := by
  simp [lines]

theorem content_add (word : List Char) (page : Page) :
    (page.add word).content = page.content ++ word := by
  simp [content, lines, add]

/-- To begin a new line writes nothing, and leaves a line with nothing in it. -/
theorem content_newLine (page : Page) :
    page.newLine.content = page.content ∧ page.newLine.line = [] := by
  unfold newLine
  split
  · rename_i isNew
    exact ⟨rfl, List.isEmpty_iff.mp (Bool.and_eq_true_iff.mp isNew).2⟩
  · exact ⟨by simp [content, lines], rfl⟩

/-- Parts that are put in a new line each. -/
theorem content_parts (page : Page) (parts : List (List Char)) :
    (parts.foldl (fun page part =>
      { page.newLine with line := part, used := cellCount part }) page).content =
        page.content ++ parts.flatten := by
  induction parts generalizing page with
  | nil => simp
  | cons part rest ih =>
      obtain ⟨same, empty⟩ := page.content_newLine
      have put : content { page.newLine with line := part, used := cellCount part } =
          page.content ++ part := by
        rw [← same]
        simp [content, lines, empty]
      rw [List.foldl_cons, ih, put, List.flatten_cons, List.append_assoc]

theorem content_addWord (width : Nat) (page : Page) (word : List Char) :
    (page.addWord width word).content = page.content ++ word := by
  unfold addWord
  dsimp only
  split
  · exact content_add word page
  · split
    · rw [content_parts, flatten_chop]
      rfl
    · split
      · exact content_add word page
      · rw [content_add, page.content_newLine.1]

theorem content_foldl (width : Nat) (page : Page) (words : List (List Char)) :
    (words.foldl (addWord width) page).content = page.content ++ words.flatten := by
  induction words generalizing page with
  | nil => simp
  | cons word rest ih =>
      rw [List.foldl_cons, ih, content_addWord, List.flatten_cons, List.append_assoc]

/-- Words that fit in the line are put in the line. -/
theorem foldl_addWord (line : List Char) (words : List (List Char))
    (fits : cellCount (line ++ words.flatten) ≤ width) :
    words.foldl (addWord width) ⟨[], line, cellCount line⟩ =
      ⟨[], line ++ words.flatten, cellCount (line ++ words.flatten)⟩ := by
  induction words generalizing line with
  | nil => simp
  | cons word rest ih =>
      have upTo : cellCount (line ++ word) ≤ cellCount (line ++ (word :: rest).flatten) := by
        rw [List.flatten_cons, ← List.append_assoc, cellCount_append (line ++ word)]
        exact Nat.le_add_right _ _
      have size : cellCount line + cellCount (Text.dropEnd Text.isBlank word) ≤ width := by
        have stripped := cellCount_le_of_isPrefixOf (Text.dropEnd_isPrefixOf Text.isBlank word)
        rw [cellCount_append] at upTo
        omega
      rw [List.flatten_cons, ← List.append_assoc] at fits ⊢
      rw [List.foldl_cons, addWord, if_pos size, add, ← ih (line ++ word) fits, cellCount_append]

end Page

/-! ## Broken lines -/

/-- The parts of a line before they are fitted. -/
def broken (width : Nat) (line : List Char) : List (List Char) :=
  if line.all Text.isBlank then [line]
  else ((spacedWords line.length line).foldl (Page.addWord width) {}).lines

theorem wrap_eq (width : Nat) (line : List Char) :
    wrap width line = (broken width line).map (fit width) := by
  unfold wrap broken
  split <;> rfl

theorem broken_ne_nil (width : Nat) (line : List Char) : broken width line ≠ [] := by
  unfold broken
  split
  · exact List.cons_ne_nil _ _
  · exact Page.lines_ne_nil _

/-- To break a line loses nothing. -/
theorem flatten_broken (width : Nat) (line : List Char) : (broken width line).flatten = line := by
  unfold broken
  split
  · exact List.flatten_singleton
  · rename_i isGiven
    have written := Page.content_foldl width {} (spacedWords line.length line)
    rw [flatten_spacedWords (Nat.le_refl _) fun isBlank => absurd isBlank isGiven] at written
    exact written

theorem broken_of_fits (fits : cellCount line ≤ width) : broken width line = [line] := by
  unfold broken
  split
  · rfl
  · rename_i isGiven
    have words := flatten_spacedWords (Nat.le_refl _) fun isBlank => absurd isBlank isGiven
    have whole : cellCount ([] ++ (spacedWords line.length line).flatten) ≤ width := by
      rw [words]
      exact fits
    have written := Page.foldl_addWord [] (spacedWords line.length line) whole
    rw [words] at written
    exact congrArg Page.lines written

/-! ## Fitted lines -/

theorem trimEnd_isPrefixOf (width : Nat) (line : List Char) : trimEnd width line <+: line :=
  List.take_prefix _ _

theorem cellCount_crop (width : Nat) (line : List Char) : cellCount (crop width line) ≤ width := by
  induction line generalizing width with
  | nil => exact Nat.zero_le _
  | cons c rest ih =>
      unfold crop
      dsimp only
      split
      · have later := ih (width - cellWidth c)
        rw [cellCount_cons]
        omega
      · exact Nat.le_of_eq (cellCount_blanks width)

theorem cellCount_fit (width : Nat) (line : List Char) : cellCount (fit width line) ≤ width := by
  unfold fit
  dsimp only
  split
  · exact cellCount_crop _ _
  · exact Nat.le_of_not_lt ‹_›

theorem exists_crop (width : Nat) (line : List Char) :
    ∃ first count, crop width line = first ++ List.replicate count ' ' ∧ first <+: line := by
  induction line generalizing width with
  | nil => exact ⟨[], 0, rfl, List.nil_prefix⟩
  | cons c rest ih =>
      unfold crop
      dsimp only
      split
      · obtain ⟨first, count, cropped, isPrefix⟩ := ih (width - cellWidth c)
        exact ⟨c :: first, count, congrArg (c :: ·) cropped,
          List.cons_prefix_cons.mpr ⟨rfl, isPrefix⟩⟩
      · exact ⟨[], width, rfl, List.nil_prefix⟩

/-- A fitted line is the start of the line with some space behind it. -/
theorem exists_fit (width : Nat) (line : List Char) :
    ∃ first count, fit width line = first ++ List.replicate count ' ' ∧ first <+: line := by
  unfold fit
  dsimp only
  split
  · obtain ⟨first, count, cropped, isPrefix⟩ := exists_crop width (trimEnd width line)
    exact ⟨first, count, cropped, isPrefix.trans (trimEnd_isPrefixOf width line)⟩
  · exact ⟨_, 0, (List.append_nil _).symm, trimEnd_isPrefixOf width line⟩

theorem weight_blanks (count : Nat) : weight (List.replicate count ' ') = 0 := by
  apply weight_eq_zero.mpr
  intro c member
  rw [(List.mem_replicate.mp member).2]
  decide

theorem weight_fit (width : Nat) (line : List Char) : weight (fit width line) ≤ weight line := by
  obtain ⟨first, count, fitted, isPrefix⟩ := exists_fit width line
  rw [fitted, weight_append, weight_blanks]
  exact isPrefix.sublist.countP_le

theorem mem_fit {c : Char} (member : c ∈ fit width line) : c = ' ' ∨ c ∈ line := by
  obtain ⟨first, count, fitted, isPrefix⟩ := exists_fit width line
  rw [fitted] at member
  rcases List.mem_append.mp member with inFirst | isBlank
  · exact .inr (isPrefix.subset inFirst)
  · exact .inl (List.mem_replicate.mp isBlank).2

theorem takeWhile_eq_nil_iff {keep : Char → Bool} {items : List Char} :
    items.takeWhile keep = [] ↔ ∀ c, items.head? = some c → keep c = false := by
  cases items with
  | nil => simp
  | cons c rest => simp [List.takeWhile_cons]

/-- A line that fits stays as it is, unless it is too long and ends in white space. -/
theorem fit_eq_self_iff (fits : cellCount line ≤ width) :
    fit width line = line ↔
      line.length ≤ width ∨ ∀ c, line.getLast? = some c → Text.isBlank c = false := by
  have narrow : ¬ width < cellCount (trimEnd width line) :=
    Nat.not_lt.mpr (Nat.le_trans (cellCount_le_of_isPrefixOf (trimEnd_isPrefixOf width line)) fits)
  have ended : (∀ c, line.getLast? = some c → Text.isBlank c = false) ↔
      (line.reverse.takeWhile Text.isBlank).length = 0 := by
    rw [List.length_eq_zero_iff, takeWhile_eq_nil_iff, List.head?_reverse]
  rw [fit, if_neg narrow, trimEnd, List.take_eq_self_iff, ended]
  have least := Nat.min_le_left (line.reverse.takeWhile Text.isBlank).length (line.length - width)
  omega

/-! ## Tabs -/

theorem expandTabs_tab (column : Nat) (rest : List Char) :
    ∃ count next,
      expandTabs column ('\t' :: rest) = List.replicate count ' ' ++ expandTabs next rest :=
  ⟨_, _, rfl⟩

theorem expandTabs_cons {c : Char} (other : c ≠ '\t') (column : Nat) (rest : List Char) :
    expandTabs column (c :: rest) = c :: expandTabs (column + cellWidth c) rest := by
  rw [expandTabs]
  exact other

theorem mem_expandTabs {c : Char} {column : Nat} (member : c ∈ expandTabs column text) :
    c = ' ' ∨ (c ∈ text ∧ c ≠ '\t') := by
  induction text generalizing column with
  | nil => cases member
  | cons first rest ih =>
      by_cases isTab : first = '\t'
      · subst isTab
        obtain ⟨count, next, expanded⟩ := expandTabs_tab column rest
        rw [expanded] at member
        rcases List.mem_append.mp member with isBlank | later
        · exact .inl (List.mem_replicate.mp isBlank).2
        · exact (ih later).imp_right (And.imp_left (List.mem_cons_of_mem _))
      · rw [expandTabs_cons isTab] at member
        rcases List.mem_cons.mp member with rfl | later
        · exact .inr ⟨List.mem_cons_self, isTab⟩
        · exact (ih later).imp_right (And.imp_left (List.mem_cons_of_mem _))

theorem expandTabs_eq_self (tabless : '\t' ∉ text) (column : Nat) :
    expandTabs column text = text := by
  induction text generalizing column with
  | nil => rfl
  | cons c rest ih =>
      obtain ⟨other, later⟩ := not_or.mp (mt List.mem_cons.mpr tabless)
      rw [expandTabs_cons (Ne.symm other), ih later]

theorem weight_expandTabs (column : Nat) (text : List Char) :
    weight (expandTabs column text) = weight text := by
  induction text generalizing column with
  | nil => rfl
  | cons c rest ih =>
      by_cases isTab : c = '\t'
      · subst isTab
        obtain ⟨count, next, expanded⟩ := expandTabs_tab column rest
        have unmarked : ¬ isMark '\t' = true := by decide
        rw [expanded, weight_append, weight_blanks, ih, weight_cons, if_neg unmarked, Nat.zero_add]
        rfl
      · rw [expandTabs_cons isTab, weight_cons, weight_cons, ih]

/-! ## Texts -/

theorem layOutLine_ne_nil (wraps : Bool) (line : List Char) : layOutLine wraps line ≠ [] := by
  cases wraps with
  | false => exact List.cons_ne_nil _ _
  | true =>
      have parts := broken_ne_nil lineWidth (expandTabs 0 line)
      rw [layOutLine, if_pos rfl, wrap_eq]
      exact mt List.map_eq_nil_iff.mp parts

theorem layOut_ne_nil (wraps : Bool) (text : String) : layOut wraps text ≠ [] := by
  intro nothing
  have parts := List.flatMap_eq_nil_iff.mp (List.map_eq_nil_iff.mp nothing)
  obtain ⟨part, member⟩ := List.exists_mem_of_ne_nil _
    (List.splitOn_ne_nil '\n' (text.toList.filter (!isControl ·)))
  exact layOutLine_ne_nil wraps part (parts part member)

theorem splitOn_eq_singleton_iff {text part : List Char} :
    text.splitOn '\n' = [part] ↔ '\n' ∉ text ∧ part = text := by
  constructor
  · intro whole
    have joined : ['\n'].intercalate (text.splitOn '\n') = text := List.intercalate_splitOn '\n'
    rw [whole, List.intercalate_singleton] at joined
    refine ⟨?_, joined⟩
    intro member
    obtain ⟨before, after, rfl⟩ := List.append_of_mem member
    have parts := congrArg List.length whole
    rw [List.splitOn_append_cons_self, List.length_append, List.length_singleton] at parts
    have first := List.length_pos_iff.mpr (List.splitOn_ne_nil '\n' before)
    have second := List.length_pos_iff.mpr (List.splitOn_ne_nil '\n' after)
    omega
  · rintro ⟨single, rfl⟩
    exact List.splitOn_eq_singleton single

/-- A text that is laid out as one line is fitted in it as a whole. -/
theorem eq_fit_of_layOut {text line : String} (alone : layOut true text = [line]) :
    '\n' ∉ text.toList.filter (!isControl ·) ∧ line.toList =
      fit lineWidth (expandTabs 0 (text.toList.filter (!isControl ·))) := by
  unfold layOut at alone
  dsimp only at alone
  generalize text.toList.filter (!isControl ·) = shown at alone ⊢
  obtain ⟨_, laidOut, isLine⟩ := List.map_eq_singleton_iff.mp alone
  obtain ⟨first, others, parts⟩ := List.exists_cons_of_ne_nil (List.splitOn_ne_nil '\n' shown)
  rw [parts, List.flatMap_cons] at laidOut
  rcases List.append_eq_singleton_iff.mp laidOut with ⟨nothing, -⟩ | ⟨fitted, noOthers⟩
  · exact absurd nothing (layOutLine_ne_nil true first)
  · have lastPart : others = [] := by
      apply List.eq_nil_iff_forall_not_mem.mpr
      intro part member
      exact layOutLine_ne_nil true part (List.flatMap_eq_nil_iff.mp noOthers part member)
    rw [lastPart] at parts
    obtain ⟨unbroken, rfl⟩ := splitOn_eq_singleton_iff.mp parts
    refine ⟨unbroken, ?_⟩
    rw [layOutLine, if_pos rfl, wrap_eq] at fitted
    obtain ⟨part, single, isFit⟩ := List.map_eq_singleton_iff.mp fitted
    have whole := flatten_broken lineWidth (expandTabs 0 first)
    rw [single, List.flatten_singleton] at whole
    rw [← isLine, String.toList_ofList, ← isFit, whole]

theorem weight_of_layOut {text line : String} (alone : layOut true text = [line]) :
    weight line.toList ≤ weight text.toList := by
  rw [(eq_fit_of_layOut alone).2]
  refine Nat.le_trans (weight_fit _ _) ?_
  rw [weight_expandTabs]
  exact List.filter_sublist.countP_le

/-- A text that shows as it is in one line. -/
structure FitsLine (text : List Char) : Prop where
  printable : ∀ c ∈ text, isControl c = false ∧ c ≠ '\t' ∧ c ≠ '\n'
  narrow : cellCount text ≤ lineWidth
  ended : text.length ≤ lineWidth ∨ ∀ c, text.getLast? = some c → Text.isBlank c = false

theorem shown_of_printable {c : Char} (first : 0x20 ≤ c.toNat) :
    isControl c = false ∧ c ≠ '\t' ∧ c ≠ '\n' := by
  have other {control : Char} (before : control.toNat < 0x20) : c ≠ control := by
    rintro rfl
    omega
  refine ⟨?_, other (by decide), other (by decide)⟩
  simp [isControl, other (by decide : '\x07'.toNat < 0x20), other (by decide : '\x08'.toNat < 0x20),
    other (by decide : '\x0b'.toNat < 0x20), other (by decide : '\x0c'.toNat < 0x20),
    other (by decide : '\r'.toNat < 0x20)]

theorem filter_eq_of_printable
    (printable : ∀ c ∈ text, isControl c = false ∧ c ≠ '\t' ∧ c ≠ '\n') :
    text.filter (!isControl ·) = text := by
  apply List.filter_eq_self.mpr
  intro c member
  rw [(printable c member).1]
  rfl

theorem layOut_eq_self_iff (text : String) : layOut true text = [text] ↔ FitsLine text.toList := by
  constructor
  · intro alone
    obtain ⟨unbroken, whole⟩ := eq_fit_of_layOut alone
    have printable : ∀ c ∈ text.toList, isControl c = false ∧ c ≠ '\t' ∧ c ≠ '\n' := by
      intro c member
      rw [whole] at member
      rcases mem_fit member with rfl | member
      · decide
      · rcases mem_expandTabs member with rfl | ⟨member, noTab⟩
        · decide
        · have shown := (List.mem_filter.mp member).2
          refine ⟨by simpa using shown, noTab, ?_⟩
          rintro rfl
          exact unbroken member
    have tabless : '\t' ∉ text.toList := fun member => (printable _ member).2.1 rfl
    rw [filter_eq_of_printable printable, expandTabs_eq_self tabless] at whole
    have narrow : cellCount text.toList ≤ lineWidth := by
      rw [whole]
      exact cellCount_fit _ _
    exact ⟨printable, narrow, (fit_eq_self_iff narrow).mp whole.symm⟩
  · intro fits
    have tabless : '\t' ∉ text.toList := fun member => (fits.printable _ member).2.1 rfl
    have unbroken : '\n' ∉ text.toList := fun member => (fits.printable _ member).2.2 rfl
    unfold layOut
    dsimp only
    rw [filter_eq_of_printable fits.printable, splitOn_eq_singleton_iff.mpr ⟨unbroken, rfl⟩,
      List.flatMap_singleton, layOutLine, if_pos rfl, expandTabs_eq_self tabless, wrap_eq,
      broken_of_fits fits.narrow, List.map_singleton, List.map_singleton,
      (fit_eq_self_iff fits.narrow).mpr fits.ended, String.ofList_toList]

end AnalysisEngines.Console
