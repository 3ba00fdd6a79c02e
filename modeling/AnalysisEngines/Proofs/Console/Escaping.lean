import AnalysisEngines.Proofs.Console.Markup

/-!
# Escaped text

Escaping takes the same view of a text as reading it.  Behind it every tag has an odd number of
backslashes before it, and no other tag has come about, since the first bracket of a text and the
character that could open a tag stay what they were.  Escaped text is shown without a fault,
whatever styles are open: `printMarkup_escape`.
-/

set_option autoImplicit false

namespace AnalysisEngines.Console

variable {fuel count : Nat} {content behind rest : List Char} {c : Char}

/-! ## Escaped text -/

/-- A text in which every tag has an odd number of backslashes before it. -/
inductive Escaped : List Char → Prop
  | nil : Escaped []
  | char {c : Char} {rest : List Char} : c ≠ '\\' → tagContent? (c :: rest) = none →
      Escaped rest → Escaped (c :: rest)
  | slashes {count : Nat} {rest : List Char} : rest.head? ≠ some '\\' →
      tagContent? rest = none → Escaped rest → Escaped (slashes (count + 1) ++ rest)
  | tag {count : Nat} {content behind : List Char} : IsTagContent content → Escaped behind →
      Escaped (slashes (2 * count + 1) ++ '[' :: content ++ ']' :: behind)

/-- Escaped text is not at fault, whatever stands before it. -/
theorem Escaped.shows {text : List Char} (escaped : Escaped text) (opened : List String)
    (plain : List Char) : ∃ shown, read? opened plain text = some shown := by
  induction escaped generalizing plain with
  | nil => exact ⟨_, read?_nil⟩
  | char noSlash untagged _ ih =>
      rw [read?_char noSlash untagged]
      exact ih _
  | slashes ends untagged _ ih =>
      rw [read?_slashes ends untagged]
      exact ih _
  | @tag count _ _ isTag _ ih =>
      obtain ⟨shown, reads⟩ := ih []
      have odd : (2 * count + 1) % 2 = 1 := by omega
      rw [read?_tag isTag, readBehind?, if_pos odd, reads]
      exact ⟨_, rfl⟩

theorem escapeFrom_nil : escapeFrom fuel [] = [] := by
  cases fuel <;> rfl

theorem escapeFrom_char (noSlash : c ≠ '\\') (untagged : tagContent? (c :: rest) = none) :
    escapeFrom (fuel + 1) (c :: rest) = c :: escapeFrom fuel rest := by
  rw [escapeFrom, span_noSlashes noSlash]
  simp only [untagged, List.isEmpty_nil, if_true]

theorem escapeFrom_slashes (ends : rest.head? ≠ some '\\') (untagged : tagContent? rest = none) :
    escapeFrom (fuel + 1) (slashes (count + 1) ++ rest) =
      slashes (count + 1) ++ escapeFrom fuel rest := by
  have span := span_slashes (count + 1) rest ends
  rw [slashes, List.replicate_succ, List.cons_append] at span ⊢
  rw [escapeFrom, span]
  simp only [untagged, List.isEmpty_cons]
  rfl

theorem slashes_twice (count : Nat) :
    slashes (2 * count + 1) = slashes count ++ (slashes count ++ ['\\']) := by
  have one : ['\\'] = slashes 1 := rfl
  rw [one, slashes_append, slashes_append, ← Nat.add_assoc, Nat.two_mul]

theorem escapeFrom_tag (isTag : IsTagContent content) :
    escapeFrom (fuel + 1) (slashes count ++ '[' :: content ++ ']' :: behind) =
      slashes (2 * count + 1) ++ '[' :: content ++ ']' :: escapeFrom fuel behind := by
  have span := span_slashes count _ (head?_tag content behind)
  have found := tagContent?_of_isTagContent isTag behind
  rw [List.append_assoc]
  cases shape : slashes count ++ ('[' :: content ++ ']' :: behind) with
  | nil => simp at shape
  | cons c rest =>
      rw [shape] at span
      rw [escapeFrom, span, slashes_twice]
      simp only [found, escapePiece, List.append_assoc]
      rfl

theorem find?_slashes (count : Nat) (text : List Char) :
    (slashes count ++ text).find? isBracket = text.find? isBracket := by
  have none_there : (slashes count).find? isBracket = none := by
    apply List.find?_eq_none.mpr
    intro c member
    rw [(List.mem_replicate.mp member).2]
    decide
  rw [List.find?_append, none_there, Option.none_or]

/-- Escaping leaves the first bracket of a text the first. -/
theorem find?_escapeFrom {text : List Char} (enough : text.length ≤ fuel) :
    (escapeFrom fuel text).find? isBracket = text.find? isBracket := by
  induction scan text generalizing fuel with
  | nil => rw [escapeFrom_nil]
  | char noSlash untagged _ ih =>
      obtain ⟨fuel, rfl, fits⟩ := exists_fuel (Nat.lt_succ_self _) enough
      rw [escapeFrom_char noSlash untagged, List.find?_cons, List.find?_cons, ih fits]
  | slashes ends untagged _ ih =>
      obtain ⟨fuel, rfl, fits⟩ := exists_fuel (length_lt_slashes _ _) enough
      rw [escapeFrom_slashes ends untagged, find?_slashes, find?_slashes, ih fits]
  | tag isTag _ ih =>
      obtain ⟨fuel, rfl, -⟩ := exists_fuel (length_lt_tag _ _ _) enough
      rw [escapeFrom_tag isTag, List.append_assoc, List.append_assoc, find?_slashes, find?_slashes]
      rfl

theorem tagged_iff :
    tagContent? ('[' :: rest) ≠ none ↔
      (∃ first, rest.head? = some first ∧ opensTag first = true) ∧
        rest.find? isBracket = some ']' := by
  constructor
  · intro tagged
    obtain ⟨⟨content, behind⟩, found⟩ := Option.ne_none_iff_exists'.mp tagged
    obtain ⟨shape, ⟨first, inner, rfl, opens⟩, bare⟩ := isTagContent_of_tagContent? found
    have isRest : rest = (first :: inner) ++ ']' :: behind := (List.cons.inj shape).2
    subst isRest
    refine ⟨⟨first, rfl, opens⟩, ?_⟩
    have none_inside := List.find?_eq_none.mpr fun c member => Bool.eq_false_iff.mp (bare c member)
    rw [List.find?_append, none_inside]
    rfl
  · rintro ⟨⟨first, isHead, opens⟩, isClosed⟩
    obtain ⟨-, content, behind, rfl, bare⟩ := List.find?_eq_some_iff_append.mp isClosed
    cases content with
    | nil =>
        cases isHead
        cases not_opensTag.2.2.symm.trans opens
    | cons _ inner =>
        cases isHead
        have isTag : IsTagContent (first :: inner) :=
          ⟨⟨first, inner, rfl, opens⟩, fun c member => by simpa using bare c member⟩
        have found := tagContent?_of_isTagContent isTag behind
        rw [List.cons_append] at found
        rw [found]
        exact Option.some_ne_none _

theorem head?_slashes (count : Nat) (text : List Char) {first : Char}
    (isHead : (slashes (count + 1) ++ text).head? = some first) : opensTag first = false := by
  cases isHead
  exact not_opensTag.1

theorem head?_escapeFrom {text : List Char} (enough : text.length ≤ fuel) (count : Nat)
    {first : Char} (isHead : (escapeFrom fuel text ++ slashes count).head? = some first)
    (opens : opensTag first = true) : text.head? = some first := by
  cases scan text with
  | nil =>
      rw [escapeFrom_nil, List.nil_append] at isHead
      cases count with
      | zero => cases isHead
      | succ count =>
          rw [← List.append_nil (slashes _)] at isHead
          rw [head?_slashes count [] isHead] at opens
          cases opens
  | char noSlash untagged =>
      obtain ⟨fuel, rfl, -⟩ := exists_fuel (Nat.lt_succ_self _) enough
      rw [escapeFrom_char noSlash untagged] at isHead
      exact isHead
  | slashes ends untagged =>
      obtain ⟨fuel, rfl, -⟩ := exists_fuel (length_lt_slashes _ _) enough
      rw [escapeFrom_slashes ends untagged, List.append_assoc] at isHead
      rw [head?_slashes _ _ isHead] at opens
      cases opens
  | tag isTag =>
      obtain ⟨fuel, rfl, -⟩ := exists_fuel (length_lt_tag _ _ _) enough
      rw [escapeFrom_tag isTag, List.append_assoc, List.append_assoc] at isHead
      rw [head?_slashes _ _ isHead] at opens
      cases opens

/-- Escaping what follows a character makes no tag of it. -/
theorem tagContent?_escapeFrom (enough : rest.length ≤ fuel)
    (untagged : tagContent? (c :: rest) = none) (count : Nat) :
    tagContent? (c :: (escapeFrom fuel rest ++ slashes count)) = none := by
  by_cases isOpening : c = '['
  · subst isOpening
    by_contra tagged
    obtain ⟨⟨first, isHead, opens⟩, isClosed⟩ := tagged_iff.mp tagged
    refine tagged_iff.mpr ⟨⟨first, head?_escapeFrom enough count isHead opens, opens⟩, ?_⟩ untagged
    have noneBehind := find?_slashes count []
    rw [List.append_nil] at noneBehind
    rw [List.find?_append, noneBehind, List.find?_nil, Option.or_none] at isClosed
    exact (find?_escapeFrom enough).symm.trans isClosed
  · apply tagContent?_eq_none_iff.mpr
    intro content behind shape
    exact absurd (List.cons.inj shape).1 isOpening

/-- Escaping escapes, and so does escaping with backslashes behind it. -/
theorem escaped_escapeFrom {text : List Char} (enough : text.length ≤ fuel) (count : Nat) :
    Escaped (escapeFrom fuel text ++ slashes count) := by
  induction scan text generalizing fuel with
  | nil =>
      rw [escapeFrom_nil, List.nil_append]
      cases count with
      | zero => exact .nil
      | succ count =>
          rw [← List.append_nil (slashes (count + 1))]
          exact .slashes nofun rfl .nil
  | char noSlash untagged _ ih =>
      obtain ⟨fuel, rfl, fits⟩ := exists_fuel (Nat.lt_succ_self _) enough
      rw [escapeFrom_char noSlash untagged]
      exact .char noSlash (tagContent?_escapeFrom fits untagged count) (ih fits)
  | @slashes others rest ends untagged taken ih =>
      obtain ⟨fuel, rfl, fits⟩ := exists_fuel (length_lt_slashes _ _) enough
      rw [escapeFrom_slashes ends untagged, List.append_assoc]
      have later := ih fits
      cases taken with
      | nil =>
          rw [escapeFrom_nil, List.nil_append, slashes_append, Nat.add_right_comm,
            ← List.append_nil (slashes _)]
          exact .slashes nofun rfl .nil
      | @char c after noSlash _ =>
          obtain ⟨fuel, rfl, fitsBehind⟩ := exists_fuel (Nat.lt_succ_self _) fits
          rw [escapeFrom_char noSlash untagged] at later ⊢
          refine .slashes ?_ ?_ later
          · simpa using noSlash
          · exact tagContent?_escapeFrom fitsBehind untagged count
      | slashes => exact absurd rfl ends
      | @tag before content behind isTag =>
          cases before with
          | zero =>
              cases (tagContent?_of_isTagContent isTag behind).symm.trans untagged
          | succ before => exact absurd rfl ends
  | tag isTag _ ih =>
      obtain ⟨fuel, rfl, fits⟩ := exists_fuel (length_lt_tag _ _ _) enough
      rw [escapeFrom_tag isTag, List.append_assoc, List.cons_append]
      exact .tag isTag (ih fits)

theorem escaped_escape (text : String) : Escaped (escape text).toList := by
  have enough : text.toList.length ≤ text.length + 1 := by
    rw [String.length_toList]
    exact Nat.le_succ _
  have escaped := escaped_escapeFrom enough
  unfold escape
  dsimp only
  rw [String.toList_ofList]
  split
  · exact escaped 1
  · have plain := escaped 0
    rwa [slashes, List.replicate_zero, List.append_nil] at plain

/-! ## Labels -/

/-- A styled word and a gap, with an escaped text behind them, can be printed, whatever the text
is. -/
theorem printMarkup_escape {style word gap label : String} (isStyle : IsStyle style)
    (plainly : ∀ c ∈ word.toList ++ gap.toList, c ≠ '[' ∧ c ≠ '\\')
    (shape : label.toList = styled style word gap.toList) (message : String) (wraps : Bool) :
    ∃ lines, printMarkup wraps (label ++ escape message) = .ok lines := by
  obtain ⟨plainWord, plainGap⟩ := List.forall_mem_append.mp plainly
  obtain ⟨shown, reads⟩ := (escaped_escape message).shows [] gap.toList
  have given := toOption_plainText (label ++ escape message)
  rw [String.toList_append, shape, styled_append, read?_styled isStyle plainWord,
    read?_append plainGap, List.nil_append, reads] at given
  rw [printMarkup, eq_ok_of_toOption given]
  exact ⟨_, rfl⟩

end AnalysisEngines.Console
