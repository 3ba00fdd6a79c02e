import AnalysisEngines.Proofs.Console.Markup

/-!
# Plain text

Text that is not escaped shows itself if and only if it is plain: `plainText_eq_self_iff`.  If it
has a tag, a bracket behind a backslash or the code of an emoji in it, what it shows has fewer
marks, or it is at fault.
-/

set_option autoImplicit false

namespace AnalysisEngines.Console

variable {count : Nat} {plain content rest : List Char} {c : Char} {opened : List String}

/-! ## Text behind a prefix -/

theorem openBrackets_append {before : List Char} (unescaped : '\\' ∉ before) (text : List Char) :
    openBrackets (before ++ text) = before ++ openBrackets text := by
  induction before with
  | nil => rfl
  | cons c rest ih =>
      have noSlash : c ≠ '\\' := fun isSlash => unescaped (isSlash ▸ List.mem_cons_self)
      rw [List.cons_append, openBrackets, ih (mt (List.mem_cons_of_mem c) unescaped)]
      · rfl
      · rintro _ rfl
        exact absurd rfl noSlash

/-- Nothing is done to text without colons and backslashes before a piece. -/
theorem shownText_append {before : List Char} (uncoded : ':' ∉ before) (unescaped : '\\' ∉ before)
    (text : List Char) : shownText (before ++ text) = before ++ shownText text := by
  rw [shownText, openBrackets_append unescaped, showEmoji_append uncoded]
  rfl

theorem read?_behind {before : List Char} (uncoded : ':' ∉ before) (unescaped : '\\' ∉ before)
    (plain text : List Char) :
    read? opened (before ++ plain) text = (read? opened plain text).map (before ++ ·) := by
  induction scan text generalizing plain with
  | nil =>
      rw [read?_nil, read?_nil, shownText_append uncoded unescaped]
      rfl
  | char noSlash untagged _ ih =>
      rw [read?_char noSlash untagged, read?_char noSlash untagged, List.append_assoc, ih]
  | slashes ends untagged _ ih =>
      rw [read?_slashes ends untagged, read?_slashes ends untagged, List.append_assoc, ih]
  | tag isTag =>
      rw [read?_tag isTag, read?_tag isTag, shownText_append uncoded unescaped, Option.map_map]
      simp only [List.append_assoc]
      rfl

/-! ## Marks that are lost -/

/-- Brackets behind backslashes lose a backslash, and nothing else changes. -/
theorem openBrackets_cases (text : List Char) :
    (¬ ['\\', '['] <:+: text ∧ openBrackets text = text) ∨
      (['\\', '['] <:+: text ∧ weight (openBrackets text) < weight text) := by
  induction text using openBrackets.induct with
  | case1 rest ih =>
      have marks : isMark '[' = true ∧ isMark '\\' = true := by decide
      have atMost : weight (openBrackets rest) ≤ weight rest := by
        rcases ih with ⟨-, same⟩ | ⟨-, fewer⟩
        · rw [same]
        · exact Nat.le_of_lt fewer
      refine .inr ⟨(List.prefix_append ['\\', '['] rest).isInfix, ?_⟩
      rw [openBrackets, weight_cons, weight_cons, weight_cons, if_pos marks.1, if_pos marks.2]
      omega
  | case2 c rest other ih =>
      rw [openBrackets]
      · rcases ih with ⟨unescaped, same⟩ | ⟨escaped, fewer⟩
        · rw [same]
          refine .inl ⟨?_, rfl⟩
          intro escaped
          rcases List.infix_cons_iff.mp escaped with ⟨behind, shape⟩ | later
          · obtain ⟨rfl, isRest⟩ := List.cons.inj shape
            exact other behind rfl isRest.symm
          · exact unescaped later
        · refine .inr ⟨List.infix_cons escaped, ?_⟩
          rw [weight_cons, weight_cons]
          exact Nat.add_lt_add_right fewer _
      · exact other
  | case3 => exact .inl ⟨by simp, rfl⟩

theorem lightens_shownText (text : List Char) : Lightens text (shownText text) := by
  apply Lightens.trans _ (lightens_showEmoji _)
  rcases openBrackets_cases text with ⟨-, same⟩ | ⟨-, fewer⟩
  · rw [same]
    exact .refl text
  · exact .of_lt fewer

/-- A text without tags. -/
def IsTagless (text : List Char) : Prop := ∀ start, start <:+ text → tagContent? start = none

theorem isTagless_cons (untagged : tagContent? (c :: rest) = none) (tagless : IsTagless rest) :
    IsTagless (c :: rest) := by
  intro start isSuffix
  rcases List.suffix_cons_iff.mp isSuffix with rfl | later
  · exact untagged
  · exact tagless start later

theorem isTagless_slashes (tagless : IsTagless rest) (count : Nat) :
    IsTagless (slashes count ++ rest) := by
  induction count with
  | zero => exact tagless
  | succ count ih => exact isTagless_cons rfl ih

theorem weight_slashes (count : Nat) : weight (slashes count) = count := by
  rw [weight, slashes, List.countP_replicate]
  exact if_pos (by decide)

/-- A tag takes a mark away, be it its opening bracket or a backslash. -/
theorem weight_readBehind? {next : List String → Option (List Char)} {shown : List Char}
    {bound : Nat} (atMost : ∀ opened later, next opened = some later → weight later ≤ bound)
    (shows : readBehind? opened count content next = some shown) :
    weight shown + count / 2 < count + weight ('[' :: content ++ [']']) + bound := by
  have bracket : 1 ≤ weight ('[' :: content ++ [']']) := by
    rw [List.cons_append, weight_cons, if_pos (by decide : isMark '[' = true)]
    exact Nat.le_add_left 1 _
  unfold readBehind? at shows
  split at shows
  · rename_i odd
    obtain ⟨later, reads, rfl⟩ := Option.map_eq_some_iff.mp shows
    have inner :
        weight (shownText (['['] ++ content ++ [']'])) ≤ weight ('[' :: content ++ [']']) :=
      (lightens_shownText _).le
    have outer := atMost opened later reads
    rw [weight_append]
    omega
  · obtain ⟨styles, -, reads⟩ := Option.bind_eq_some_iff.mp shows
    have outer := atMost styles shown reads
    omega

/-- To read a text takes marks away if it has a tag in it. -/
theorem read?_cases {text shown : List Char} (reads : read? opened plain text = some shown) :
    (IsTagless text ∧ shown = shownText (plain ++ text)) ∨
      weight shown < weight (plain ++ text) := by
  induction scan text generalizing opened plain shown with
  | nil =>
      rw [read?_nil] at reads
      cases reads
      refine .inl ⟨?_, congrArg shownText (List.append_nil plain).symm⟩
      intro start isSuffix
      rw [List.suffix_nil.mp isSuffix]
      rfl
  | char noSlash untagged _ ih =>
      rw [read?_char noSlash untagged] at reads
      rw [List.append_cons]
      rcases ih reads with ⟨tagless, isShown⟩ | fewer
      · exact .inl ⟨isTagless_cons untagged tagless, isShown⟩
      · exact .inr fewer
  | slashes ends untagged _ ih =>
      rw [read?_slashes ends untagged] at reads
      rw [← List.append_assoc]
      rcases ih reads with ⟨tagless, isShown⟩ | fewer
      · exact .inl ⟨isTagless_slashes tagless _, isShown⟩
      · exact .inr fewer
  | @tag count content behind isTag _ ih =>
      have atMost : ∀ opened later, read? opened [] behind = some later →
          weight later ≤ weight behind := by
        intro opened later reads
        rcases ih reads with ⟨-, rfl⟩ | fewer
        · exact (lightens_shownText behind).le
        · exact Nat.le_of_lt fewer
      rw [read?_tag isTag] at reads
      obtain ⟨later, shows, rfl⟩ := Option.map_eq_some_iff.mp reads
      have fewer := weight_readBehind? atMost shows
      have before := (lightens_shownText plain).le
      have pairs := (lightens_shownText (slashes (count / 2))).le
      have closing : weight (']' :: behind) = weight behind + weight [']'] := by
        rw [weight_cons]
        rfl
      rw [weight_slashes] at pairs
      simp only [weight_append, weight_slashes, closing] at fewer ⊢
      omega

/-! ## Plain text -/

/-- A text without tags, brackets behind backslashes and codes of emoji. -/
structure IsPlain (text : List Char) : Prop where
  tagless : IsTagless text
  unescaped : ¬ ['\\', '['] <:+: text
  uncoded : showEmoji text = text

/-- It takes an opening bracket or two colons for a text not to be plain. -/
theorem isPlain_of_count {text : List Char} (unopened : '[' ∉ text) (few : text.count ':' ≤ 1) :
    IsPlain text := by
  refine ⟨?_, ?_, showEmoji_eq_self few⟩
  · intro start isSuffix
    apply tagContent?_eq_none_iff.mpr
    rintro content behind rfl
    exact absurd (isSuffix.subset List.mem_cons_self) unopened
  · intro escaped
    exact unopened (escaped.subset (by simp))

/-- What is shown of a text that is not plain has fewer marks. -/
theorem plainText_cases {text shown : String} (shows : plainText text = .ok shown) :
    (shown = text ∧ IsPlain text.toList) ∨ weight shown.toList < weight text.toList := by
  have given := toOption_plainText text
  rw [shows] at given
  obtain ⟨_, reads, rfl⟩ := Option.map_eq_some_iff.mp given.symm
  rw [String.toList_ofList]
  rcases read?_cases reads with ⟨tagless, rfl⟩ | fewer
  · rcases openBrackets_cases text.toList with ⟨unescaped, same⟩ | ⟨-, fewer⟩
    · rw [List.nil_append, shownText, same]
      rcases lightens_showEmoji text.toList with uncoded | fewer
      · exact .inl ⟨by rw [uncoded, String.ofList_toList], tagless, unescaped, uncoded⟩
      · exact .inr fewer
    · exact .inr (Nat.lt_of_le_of_lt (lightens_showEmoji _).le fewer)
  · exact .inr fewer

theorem IsTagless.reads {text : List Char} (tagless : IsTagless text) :
    read? opened plain text = some (shownText (plain ++ text)) := by
  induction scan text generalizing plain with
  | nil => rw [read?_nil, List.append_nil]
  | char noSlash untagged _ ih =>
      rw [List.append_cons, read?_char noSlash untagged]
      exact ih fun start isSuffix => tagless start (isSuffix.trans (List.suffix_cons _ _))
  | slashes ends untagged _ ih =>
      rw [read?_slashes ends untagged, ← List.append_assoc]
      exact ih fun start isSuffix => tagless start (isSuffix.trans (List.suffix_append _ _))
  | @tag count content behind isTag =>
      have untagged := tagless ('[' :: content ++ ']' :: behind)
        (by rw [List.append_assoc]; exact List.suffix_append _ _)
      rw [tagContent?_of_isTagContent isTag] at untagged
      cases untagged

/-- Text shows itself if and only if it is plain. -/
theorem plainText_eq_self_iff (text : String) :
    plainText text = .ok text ↔ IsPlain text.toList := by
  constructor
  · intro shows
    rcases plainText_cases shows with ⟨-, isPlain⟩ | fewer
    · exact isPlain
    · exact absurd fewer (Nat.lt_irrefl _)
  · intro isPlain
    rcases openBrackets_cases text.toList with ⟨-, same⟩ | ⟨escaped, -⟩
    · have shows := toOption_plainText text
      rw [isPlain.tagless.reads, List.nil_append, shownText, same, isPlain.uncoded, Option.map_some,
        String.ofList_toList] at shows
      exact eq_ok_of_toOption shows
    · exact absurd escaped isPlain.unescaped

end AnalysisEngines.Console
