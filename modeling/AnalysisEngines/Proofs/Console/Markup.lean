import AnalysisEngines.Console.Printing
import AnalysisEngines.Proofs.Console.Emoji
import AnalysisEngines.Proofs.Text.Stripping

/-!
# Reading markup

A text is read from its start: an ordinary character, a run of backslashes before none, or a tag
with some backslashes before it.  Neither the fuel nor the position matters to what is shown, so
that reading is told by one equation for each of these, `read?_char` and those after it.
-/

set_option autoImplicit false

namespace AnalysisEngines.Console

/-! ## Tags -/

def isBracket (c : Char) : Bool := c == '[' || c == ']'

/-- What stands between the brackets of a tag. -/
structure IsTagContent (content : List Char) : Prop where
  opens : ∃ first inner, content = first :: inner ∧ opensTag first = true
  bare : ∀ c ∈ content, isBracket c = false

def slashes (count : Nat) : List Char := List.replicate count '\\'

@[simp]
theorem length_slashes (count : Nat) : (slashes count).length = count := List.length_replicate

theorem slashes_append (count more : Nat) :
    slashes count ++ slashes more = slashes (count + more) := List.replicate_append_replicate

theorem not_opensTag : opensTag '\\' = false ∧ opensTag '[' = false ∧ opensTag ']' = false := by
  decide

theorem isBracket_of_opensTag {c : Char} (opens : opensTag c = true) : isBracket c = false := by
  obtain ⟨-, noOpening, noClosing⟩ := not_opensTag
  apply Bool.eq_false_iff.mpr
  intro bracket
  rcases (Bool.or_eq_true _ _).mp bracket with isOpening | isClosing
  · rw [eq_of_beq isOpening, noOpening] at opens
    cases opens
  · rw [eq_of_beq isClosing, noClosing] at opens
    cases opens

theorem tagContent?_of_isTagContent {content : List Char} (tag : IsTagContent content)
    (behind : List Char) :
    tagContent? ('[' :: content ++ ']' :: behind) = some (content, behind) := by
  obtain ⟨⟨first, inner, rfl, opens⟩, bare⟩ := tag
  have among : ∀ c ∈ inner, (c != '[' && c != ']') = true := by
    intro c member
    simpa [isBracket] using bare c (List.mem_cons_of_mem _ member)
  have stops : ((']' :: behind).takeWhile fun c => c != '[' && c != ']') = [] := rfl
  have rest : ((']' :: behind).dropWhile fun c => c != '[' && c != ']') = ']' :: behind := rfl
  rw [List.cons_append, List.cons_append, tagContent?, if_pos opens,
    List.span_eq_takeWhile_dropWhile,
    List.takeWhile_append_of_pos among, List.dropWhile_append_of_pos among, stops, rest,
    List.append_nil]
  rfl

theorem isTagContent_of_tagContent? {text content behind : List Char}
    (found : tagContent? text = some (content, behind)) :
    text = '[' :: content ++ ']' :: behind ∧ IsTagContent content := by
  unfold tagContent? at found
  split at found
  · rename_i first rest
    split at found
    · rename_i opens
      rw [List.span_eq_takeWhile_dropWhile] at found
      dsimp only at found
      split at found
      · rename_i after isClosed
        cases found
        refine ⟨?_, ⟨first, _, rfl, opens⟩, ?_⟩
        · rw [List.cons_append, List.cons_append, ← isClosed, List.takeWhile_append_dropWhile]
        · intro c member
          rcases List.mem_cons.mp member with rfl | member
          · exact isBracket_of_opensTag opens
          · simpa [isBracket] using List.mem_takeWhile_imp member
      · cases found
    · cases found
  · cases found

theorem tagContent?_eq_none_iff {text : List Char} :
    tagContent? text = none ↔
      ∀ content behind, text = '[' :: content ++ ']' :: behind → ¬ IsTagContent content := by
  constructor
  · rintro nothing content behind rfl tag
    rw [tagContent?_of_isTagContent tag] at nothing
    cases nothing
  · intro untagged
    cases found : tagContent? text with
    | none => rfl
    | some tag =>
        obtain ⟨isTag, content⟩ := isTagContent_of_tagContent? found
        exact absurd content (untagged _ _ isTag)

/-! ## The view of a text -/

/-- How a text is taken by the one who looks for tags in it. -/
inductive Scan : List Char → Prop
  | nil : Scan []
  | char {c : Char} {rest : List Char} : c ≠ '\\' → tagContent? (c :: rest) = none → Scan rest →
      Scan (c :: rest)
  | slashes {count : Nat} {rest : List Char} : rest.head? ≠ some '\\' →
      tagContent? rest = none → Scan rest → Scan (slashes (count + 1) ++ rest)
  | tag {count : Nat} {content behind : List Char} : IsTagContent content → Scan behind →
      Scan (slashes count ++ '[' :: content ++ ']' :: behind)

theorem length_lt_slashes (count : Nat) (rest : List Char) :
    rest.length < (slashes (count + 1) ++ rest).length := by
  rw [List.length_append, length_slashes]
  omega

theorem length_lt_tag (count : Nat) (content behind : List Char) :
    behind.length < (slashes count ++ '[' :: content ++ ']' :: behind).length := by
  simp only [List.length_append, List.length_cons]
  omega

theorem span_slashes (count : Nat) (rest : List Char) (ends : rest.head? ≠ some '\\') :
    (slashes count ++ rest).span (· == '\\') = (slashes count, rest) := by
  have all : ∀ c ∈ slashes count, (c == '\\') = true := by
    intro c member
    simpa using (List.mem_replicate.mp member).2
  have none_there : rest.takeWhile (· == '\\') = [] ∧ rest.dropWhile (· == '\\') = rest := by
    cases rest with
    | nil => exact ⟨rfl, rfl⟩
    | cons c after =>
        have other : ¬ (c == '\\') = true := by simpa using ends
        exact ⟨List.takeWhile_cons_of_neg other, List.dropWhile_cons_of_neg other⟩
  rw [List.span_eq_takeWhile_dropWhile, List.takeWhile_append_of_pos all,
    List.dropWhile_append_of_pos all, none_there.1, none_there.2, List.append_nil]

theorem span_noSlashes {c : Char} (other : c ≠ '\\') (rest : List Char) :
    (c :: rest).span (· == '\\') = ([], c :: rest) :=
  span_slashes 0 (c :: rest) (by simpa using other)

/-- A text is a run of backslashes and what does not begin with one. -/
theorem exists_slashes (text : List Char) :
    ∃ count rest, text = slashes count ++ rest ∧ rest.head? ≠ some '\\' := by
  induction text with
  | nil => exact ⟨0, [], rfl, nofun⟩
  | cons c rest ih =>
      by_cases isSlash : c = '\\'
      · obtain ⟨count, after, rfl, ends⟩ := ih
        exact ⟨count + 1, after, by rw [isSlash]; rfl, ends⟩
      · refine ⟨0, c :: rest, rfl, ?_⟩
        simpa using isSlash

/-- Every text can be taken so, since each part takes at least one character. -/
theorem scan (text : List Char) : Scan text := by
  induction size : text.length using Nat.strong_induction_on generalizing text with
  | _ length ih =>
      subst size
      obtain ⟨count, rest, rfl, ends⟩ := exists_slashes text
      cases found : tagContent? rest with
      | some tag =>
          obtain ⟨rfl, content⟩ := isTagContent_of_tagContent? found
          rw [← List.append_assoc] at ih ⊢
          exact .tag content (ih _ (length_lt_tag count _ _) _ rfl)
      | none =>
          cases count with
          | succ count =>
              exact .slashes ends found (ih _ (length_lt_slashes count rest) _ rfl)
          | zero =>
              cases rest with
              | nil => exact .nil
              | cons c rest =>
                  refine .char ?_ found (ih _ (Nat.lt_succ_self _) _ rfl)
                  simpa using ends

theorem head?_tag (content behind : List Char) :
    ('[' :: content ++ ']' :: behind).head? ≠ some '\\' := by
  simp

/-! ## Reading -/

variable {fuel position count : Nat} {plain content behind rest : List Char} {c : Char}

theorem piecesFrom_nil : piecesFrom fuel position plain [] = plainPiece plain := by
  cases fuel with
  | zero => exact congrArg plainPiece (List.append_nil plain)
  | succ fuel => rfl

theorem piecesFrom_char (other : c ≠ '\\') (untagged : tagContent? (c :: rest) = none) :
    piecesFrom (fuel + 1) position plain (c :: rest) =
      piecesFrom fuel (position + 1) (plain ++ [c]) rest := by
  rw [piecesFrom, span_noSlashes other]
  simp only [untagged, List.isEmpty_nil, if_true]

theorem piecesFrom_slashes (ends : rest.head? ≠ some '\\') (untagged : tagContent? rest = none) :
    piecesFrom (fuel + 1) position plain (slashes (count + 1) ++ rest) =
      piecesFrom fuel (position + (count + 1)) (plain ++ slashes (count + 1)) rest := by
  have span := span_slashes (count + 1) rest ends
  rw [slashes, List.replicate_succ, List.cons_append] at span ⊢
  rw [piecesFrom, span]
  simp only [untagged, List.isEmpty_cons, List.length_cons, List.length_replicate]
  rfl

/-- The piece of a tag behind some backslashes, each pair of which stands for one. -/
def tagPiece (position count : Nat) (content : List Char) : Piece :=
  if count % 2 = 1 then .text (['['] ++ content ++ [']'])
  else .tag (position + 2 * (count / 2)) (Tag.ofContent content)

theorem piecesFrom_tag (tag : IsTagContent content) :
    piecesFrom (fuel + 1) position plain (slashes count ++ '[' :: content ++ ']' :: behind) =
      plainPiece plain ++ (plainPiece (slashes (count / 2)) ++ tagPiece position count content ::
        piecesFrom fuel (position + count + content.length + 2) [] behind) := by
  have span := span_slashes count _ (head?_tag content behind)
  have found := tagContent?_of_isTagContent tag behind
  rw [List.append_assoc]
  cases shape : slashes count ++ ('[' :: content ++ ']' :: behind) with
  | nil => simp at shape
  | cons c rest =>
      rw [shape] at span
      rw [piecesFrom, span]
      simp only [found, slashes, List.length_replicate, List.append_assoc]
      rfl

/-! ## Showing -/

theorem toOption_map {ε α β : Type} (change : α → β) (result : Except ε α) :
    (result.map change).toOption = result.toOption.map change := by
  cases result <;> rfl

/-- The open styles behind a tag, unless there is none for it to close. -/
def restyle? (opened : List String) (tag : Tag) : Option (List String) :=
  (restyle 0 tag opened).toOption

/-- What pieces show, if they are not at fault. -/
def shown? (opened : List String) (pieces : List Piece) : Option (List Char) :=
  (textOf opened pieces).toOption

variable {opened : List String} {pieces : List Piece}

theorem toOption_restyle (position : Nat) (tag : Tag) :
    (restyle position tag opened).toOption = restyle? opened tag := by
  unfold restyle? restyle
  generalize Text.strip (String.ofList (tag.name.toList.drop 1)) = given
  by_cases closes : tag.name.startsWith "/" = true
  · simp only [if_pos closes]
    by_cases last : given = ""
    · simp only [if_pos last]
      cases opened <;> rfl
    · simp only [if_neg last]
      cases closeStyle? (standardName given) opened <;> rfl
  · simp only [if_neg closes]

theorem shown?_nil : shown? opened [] = some [] := rfl

theorem shown?_text :
    shown? opened (.text content :: pieces) =
      (shown? opened pieces).map (shownText content ++ ·) :=
  toOption_map _ _

theorem shown?_tag {tag : Tag} :
    shown? opened (.tag position tag :: pieces) =
      (restyle? opened tag).bind (shown? · pieces) := by
  rw [← toOption_restyle position]
  unfold shown?
  rw [textOf]
  cases restyle position tag opened <;> rfl

theorem shown?_plainPiece :
    shown? opened (plainPiece content ++ pieces) =
      (shown? opened pieces).map (shownText content ++ ·) := by
  cases content with
  | nil => exact Option.map_id'.symm
  | cons c rest => exact shown?_text

/-- What a text shows behind some plain text, with some styles open. -/
def read? (opened : List String) (plain text : List Char) : Option (List Char) :=
  shown? opened (piecesFrom (text.length + 1) 0 plain text)

/-- What is shown behind a tag that has some backslashes before it. -/
def readBehind? (opened : List String) (count : Nat) (content : List Char)
    (next : List String → Option (List Char)) : Option (List Char) :=
  if count % 2 = 1 then (next opened).map (shownText (['['] ++ content ++ [']']) ++ ·)
  else (restyle? opened (Tag.ofContent content)).bind next

theorem shown?_tagPiece :
    shown? opened (tagPiece position count content :: pieces) =
      readBehind? opened count content (shown? · pieces) := by
  unfold tagPiece readBehind?
  split
  · exact shown?_text
  · exact shown?_tag

theorem exists_fuel {size whole fuel : Nat} (shorter : size < whole) (enough : whole ≤ fuel) :
    ∃ less, fuel = less + 1 ∧ size ≤ less :=
  ⟨fuel - 1, by omega, by omega⟩

/-- Neither the fuel nor the position matters. -/
theorem shown?_piecesFrom_eq {text : List Char} {fuel other : Nat} (enough : text.length ≤ fuel)
    (plenty : text.length ≤ other) (position place : Nat) :
    shown? opened (piecesFrom fuel position plain text) =
      shown? opened (piecesFrom other place plain text) := by
  induction scan text generalizing fuel other position place plain opened with
  | nil => rw [piecesFrom_nil, piecesFrom_nil]
  | char noSlash untagged _ ih =>
      obtain ⟨fuel, rfl, first⟩ := exists_fuel (Nat.lt_succ_self _) enough
      obtain ⟨other, rfl, second⟩ := exists_fuel (Nat.lt_succ_self _) plenty
      rw [piecesFrom_char noSlash untagged, piecesFrom_char noSlash untagged]
      exact ih first second _ _
  | slashes ends untagged _ ih =>
      obtain ⟨fuel, rfl, first⟩ := exists_fuel (length_lt_slashes _ _) enough
      obtain ⟨other, rfl, second⟩ := exists_fuel (length_lt_slashes _ _) plenty
      rw [piecesFrom_slashes ends untagged, piecesFrom_slashes ends untagged]
      exact ih first second _ _
  | @tag count content behind isTag _ ih =>
      obtain ⟨fuel, rfl, first⟩ := exists_fuel (length_lt_tag _ _ _) enough
      obtain ⟨other, rfl, second⟩ := exists_fuel (length_lt_tag _ _ _) plenty
      rw [piecesFrom_tag isTag, piecesFrom_tag isTag]
      simp only [shown?_plainPiece, shown?_tagPiece, readBehind?,
        ih first second (position + count + content.length + 2)
          (place + count + content.length + 2)]

theorem read?_nil : read? opened plain [] = some (shownText plain) := by
  unfold read?
  rw [piecesFrom_nil, ← List.append_nil (plainPiece plain), shown?_plainPiece, shown?_nil]
  exact congrArg some (List.append_nil _)

theorem read?_char (noSlash : c ≠ '\\') (untagged : tagContent? (c :: rest) = none) :
    read? opened plain (c :: rest) = read? opened (plain ++ [c]) rest := by
  unfold read?
  rw [piecesFrom_char noSlash untagged]
  exact shown?_piecesFrom_eq (Nat.le_succ _) (Nat.le_succ _) _ _

theorem read?_slashes (ends : rest.head? ≠ some '\\') (untagged : tagContent? rest = none) :
    read? opened plain (slashes (count + 1) ++ rest) =
      read? opened (plain ++ slashes (count + 1)) rest := by
  unfold read?
  rw [piecesFrom_slashes ends untagged]
  exact shown?_piecesFrom_eq (Nat.le_of_lt (length_lt_slashes _ _)) (Nat.le_succ _) _ _

theorem read?_tag (isTag : IsTagContent content) :
    read? opened plain (slashes count ++ '[' :: content ++ ']' :: behind) =
      (readBehind? opened count content fun opened => read? opened [] behind).map
        (shownText plain ++ shownText (slashes (count / 2)) ++ ·) := by
  have next : (fun opened => shown? opened
      (piecesFrom (slashes count ++ '[' :: content ++ ']' :: behind).length
        (0 + count + content.length + 2) [] behind)) = fun opened => read? opened [] behind :=
    funext fun opened => shown?_piecesFrom_eq
      (Nat.le_of_lt (length_lt_tag count content behind)) (Nat.le_succ _) _ _
  rw [read?, piecesFrom_tag isTag, shown?_plainPiece, shown?_plainPiece, shown?_tagPiece, next,
    Option.map_map]
  apply congrFun
  apply congrArg
  funext shown
  exact (List.append_assoc _ _ _).symm

/-- A tag without backslashes before it changes the open styles for what follows. -/
theorem read?_opening (isTag : IsTagContent content) :
    read? opened plain ('[' :: content ++ ']' :: behind) =
      ((restyle? opened (Tag.ofContent content)).bind fun opened => read? opened [] behind).map
        (shownText plain ++ ·) := by
  have taken : read? opened plain (slashes 0 ++ '[' :: content ++ ']' :: behind) = _ :=
    read?_tag isTag
  have none_before : shownText (slashes (0 / 2)) = [] := rfl
  rw [none_before, List.append_nil] at taken
  exact taken

/-! ## Styled labels -/

/-- Text that has neither brackets to open tags nor backslashes stays plain. -/
theorem read?_append {before : List Char} (plainly : ∀ c ∈ before, c ≠ '[' ∧ c ≠ '\\')
    (plain text : List Char) :
    read? opened plain (before ++ text) = read? opened (plain ++ before) text := by
  induction before generalizing plain with
  | nil => rw [List.nil_append, List.append_nil]
  | cons c rest ih =>
      obtain ⟨noOpening, noSlash⟩ := plainly c List.mem_cons_self
      have untagged : tagContent? (c :: (rest ++ text)) = none := by
        apply tagContent?_eq_none_iff.mpr
        intro content behind shape
        exact absurd (List.cons.inj shape).1 noOpening
      rw [List.cons_append, read?_char noSlash untagged,
        ih fun c member => plainly c (List.mem_cons_of_mem _ member)]
      exact congrArg (read? opened · text) (List.append_assoc plain [c] rest)

theorem restyle?_opening {tag : Tag} (opens : tag.name.startsWith "/" = false) :
    restyle? opened tag = some (standardName tag.name :: opened) := by
  unfold restyle? restyle
  rw [if_neg (Bool.eq_false_iff.mp opens)]
  rfl

theorem closeStyle?_cons (name : String) (opened : List String) :
    closeStyle? name (name :: opened) = some opened := by
  rw [closeStyle?, List.contains_cons, beq_self_eq_true, Bool.true_or, if_pos rfl,
    List.erase_cons_head]

theorem restyle?_closing {tag : Tag} {style : String} (closes : tag.name.startsWith "/" = true)
    (names : Text.strip (String.ofList (tag.name.toList.drop 1)) = style) (isGiven : style ≠ "") :
    restyle? (standardName style :: opened) tag = some opened := by
  unfold restyle? restyle
  rw [if_pos closes, names]
  simp only [if_neg isGiven, closeStyle?_cons]
  rfl

/-- A style that a tag of its name opens, and a tag with a slash before it closes. -/
structure IsStyle (style : String) : Prop where
  isGiven : style ≠ ""
  opening : IsTagContent style.toList
  closing : IsTagContent ('/' :: style.toList)
  opens : (Tag.ofContent style.toList).name = style ∧ style.startsWith "/" = false
  closes : (Tag.ofContent ('/' :: style.toList)).name.startsWith "/" = true ∧
    Text.strip (String.ofList ((Tag.ofContent ('/' :: style.toList)).name.toList.drop 1)) = style

def isSmall (c : Char) : Bool := 'a' ≤ c && c ≤ 'z'

theorem isSmall_iff {c : Char} : isSmall c = true ↔ 97 ≤ c.toNat ∧ c.toNat ≤ 122 := by
  simp [isSmall, Char.le_def, UInt32.le_iff_toNat_le]

theorem opensTag_of_isSmall {c : Char} (small : isSmall c = true) : opensTag c = true := by
  unfold isSmall at small
  rw [opensTag, small]
  rfl

theorem isBlank_of_isSmall {c : Char} (small : isSmall c = true) : Text.isBlank c = false := by
  obtain ⟨least, greatest⟩ := isSmall_iff.mp small
  simp only [Text.isBlank, Bool.or_eq_false_iff, Bool.and_eq_false_iff, decide_eq_false_iff_not,
    beq_eq_false_iff_ne]
  omega

/-- Neither small letters nor blanks mean anything in a tag. -/
theorem apart_of_isSmall {c : Char} (isWord : isSmall c = true ∨ c = ' ') :
    isBracket c = false ∧ c ≠ '=' ∧ c ≠ '/' := by
  rcases isWord with small | rfl
  · refine ⟨isBracket_of_opensTag (opensTag_of_isSmall small), ?_, ?_⟩ <;>
      rintro rfl <;> cases small
  · decide

theorem name_ofContent {content : List Char} (bare : '=' ∉ content) :
    (Tag.ofContent content).name = String.ofList content := by
  have whole : content.takeWhile (· != '=') = content :=
    List.takeWhile_eq_self_iff.mpr fun c member => by
      simpa using ne_of_mem_of_not_mem member bare
  rw [Tag.ofContent, List.span_eq_takeWhile_dropWhile]
  dsimp only
  rw [whole]

/-- Small letters, with blanks at most between them. -/
structure IsWords (style : String) : Prop where
  among : style.toList.all (fun c => isSmall c || c == ' ') = true
  head : style.toList.head?.any isSmall = true
  last : style.toList.getLast?.any isSmall = true

namespace IsWords

variable {style : String}

theorem apart (words : IsWords style) :
    ∀ c ∈ style.toList, isBracket c = false ∧ c ≠ '=' ∧ c ≠ '/' := by
  intro c member
  exact apart_of_isSmall (by simpa using List.all_eq_true.mp words.among c member)

theorem isTagContent (words : IsWords style) : IsTagContent style.toList := by
  refine ⟨?_, fun c member => (words.apart c member).1⟩
  cases shape : style.toList with
  | nil => simpa [shape] using words.head
  | cons first inner =>
      exact ⟨first, inner, rfl, opensTag_of_isSmall (by simpa [shape] using words.head)⟩

theorem strip_eq (words : IsWords style) : Text.strip style = style := by
  obtain ⟨-, head, last⟩ := words
  apply Text.strip_eq_self
  · intro c isHead
    rw [isHead] at head
    exact isBlank_of_isSmall head
  · intro c isLast
    rw [isLast] at last
    exact isBlank_of_isSmall last

theorem isStyle (words : IsWords style) : IsStyle style := by
  have unassigned : '=' ∉ style.toList := fun member => (words.apart _ member).2.1 rfl
  have closing : (Tag.ofContent ('/' :: style.toList)).name.toList = '/' :: style.toList := by
    rw [name_ofContent (by simpa using unassigned), String.toList_ofList]
  refine ⟨?_, words.isTagContent, ?_, ⟨?_, ?_⟩, ?_, ?_⟩
  · rintro rfl
    cases words.head
  · refine ⟨⟨'/', _, rfl, rfl⟩, List.forall_mem_cons.mpr ⟨rfl, fun c member => ?_⟩⟩
    exact (words.apart c member).1
  · rw [name_ofContent unassigned, String.ofList_toList]
  · apply String.startsWith_string_eq_false_iff.mpr
    intro isPrefix
    exact (words.apart '/' (isPrefix.subset List.mem_cons_self)).2.2 rfl
  · apply String.startsWith_string_iff.mpr
    rw [closing]
    exact ⟨style.toList, rfl⟩
  · rw [closing, List.drop_one, List.tail_cons, String.ofList_toList, words.strip_eq]

end IsWords

/-- A styled word in front of a text. -/
def styled (style word : String) (text : List Char) : List Char :=
  '[' :: style.toList ++ ']' :: (word.toList ++
    ('[' :: ('/' :: style.toList) ++ ']' :: text))

theorem styled_append (style word : String) (text behind : List Char) :
    styled style word text ++ behind = styled style word (text ++ behind) := by
  simp [styled]

/-- A styled word shows without its tags, and nothing of it reaches into what follows. -/
theorem read?_styled {style word : String} (isStyle : IsStyle style)
    (plainly : ∀ c ∈ word.toList, c ≠ '[' ∧ c ≠ '\\') (text : List Char) :
    read? opened [] (styled style word text) =
      (read? opened [] text).map (shownText word.toList ++ ·) := by
  have opening : restyle? opened (Tag.ofContent style.toList) =
      some (standardName style :: opened) := by
    rw [restyle?_opening, isStyle.opens.1]
    rw [isStyle.opens.1]
    exact isStyle.opens.2
  unfold styled
  rw [read?_opening isStyle.opening, opening, Option.bind_some, read?_append plainly,
    List.nil_append, read?_opening isStyle.closing,
    restyle?_closing isStyle.closes.1 isStyle.closes.2 isStyle.isGiven, Option.bind_some]
  exact Option.map_id'

theorem toOption_plainText (markup : String) :
    (plainText markup).toOption = (read? [] [] markup.toList).map String.ofList :=
  toOption_map _ _

theorem eq_ok_of_toOption {ε α : Type} {result : Except ε α} {value : α}
    (given : result.toOption = some value) : result = .ok value := by
  cases result with
  | ok other =>
      cases given
      rfl
  | error problem => cases given

end AnalysisEngines.Console
