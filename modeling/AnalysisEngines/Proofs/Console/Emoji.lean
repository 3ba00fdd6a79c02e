import AnalysisEngines.Console.Emoji
import Mathlib.Data.Bool.AllAny
import Mathlib.Data.List.TakeDrop
import Mathlib.Tactic.Common

/-!
# What codes of emoji show

Colons, opening brackets and backslashes are the marks of a text: whatever markup does to it begins
at one.  To show a text replaces marks by what is none, so that a text with as many marks as before
is as it was.  For emoji this is a fact about the table: no emoji has a mark in it.
-/

set_option autoImplicit false

namespace AnalysisEngines.Console

/-! ## Marks -/

/-- Characters that may stand for something else than themselves. -/
def isMark (c : Char) : Bool := c == ':' || c == '[' || c == '\\'

/-- How many marks a text has. -/
def weight (text : List Char) : Nat := text.countP isMark

@[simp]
theorem weight_append (first second : List Char) :
    weight (first ++ second) = weight first + weight second := List.countP_append

theorem weight_cons (c : Char) (text : List Char) :
    weight (c :: text) = weight text + if isMark c then 1 else 0 := List.countP_cons

theorem weight_eq_zero {text : List Char} : weight text = 0 ↔ ∀ c ∈ text, isMark c = false := by
  simp [weight, List.countP_eq_zero]

/-- A text shows itself, or something with fewer marks. -/
def Lightens (text shown : List Char) : Prop := shown = text ∨ weight shown < weight text

namespace Lightens

variable {text shown other otherShown : List Char}

theorem refl (text : List Char) : Lightens text text := .inl rfl

theorem of_lt (fewer : weight shown < weight text) : Lightens text shown := .inr fewer

theorem le (lightens : Lightens text shown) : weight shown ≤ weight text := by
  rcases lightens with rfl | fewer
  · exact Nat.le_refl _
  · exact Nat.le_of_lt fewer

theorem append (first : Lightens text shown) (second : Lightens other otherShown) :
    Lightens (text ++ other) (shown ++ otherShown) := by
  rcases first with rfl | fewer
  · rcases second with rfl | fewer
    · exact refl _
    · apply of_lt
      simpa using fewer
  · apply of_lt
    have atMost := second.le
    simp only [weight_append]
    omega

theorem trans (first : Lightens text shown) (second : Lightens shown other) :
    Lightens text other := by
  rcases second with rfl | fewer
  · exact first
  · exact of_lt (Nat.lt_of_lt_of_le fewer first.le)

end Lightens

/-! ## Emoji -/

theorem markless_plainEmoji :
    ∀ entry ∈ plainEmoji, ∀ code ∈ entry.2, isMark (Char.ofNat code) = false := by
  decide +kernel

theorem markless_tonedEmoji :
    ∀ entry ∈ tonedEmoji, ∀ code ∈ entry.2, isMark (Char.ofNat code) = false := by
  decide +kernel

theorem markless_skinTones : ∀ entry ∈ skinTones, isMark entry.2 = false := by
  decide

theorem mem_of_lookup {table : List (String × List Nat)} {name : String} {codes : List Nat}
    (found : table.lookup name = some codes) : (name, codes) ∈ table := by
  obtain ⟨before, after, rfl, -⟩ := List.lookup_eq_some_iff.mp found
  exact List.mem_append_right _ List.mem_cons_self

theorem weight_ofCodePoints {table : List (String × List Nat)} {name : String} {codes : List Nat}
    (markless : ∀ entry ∈ table, ∀ code ∈ entry.2, isMark (Char.ofNat code) = false)
    (found : table.lookup name = some codes) : weight (ofCodePoints codes) = 0 := by
  apply weight_eq_zero.mpr
  intro c member
  obtain ⟨code, isCode, rfl⟩ := List.mem_map.mp member
  exact markless _ (mem_of_lookup found) code isCode

theorem weight_withTone {tone : Char} {emoji : List Char} (toneless : isMark tone = false)
    (markless : weight emoji = 0) : weight (withTone tone emoji) = 0 := by
  cases emoji with
  | nil => rfl
  | cons first rest =>
      have parts := weight_eq_zero.mp markless
      apply weight_eq_zero.mpr
      intro c member
      rcases List.mem_cons.mp member with rfl | member
      · exact parts _ List.mem_cons_self
      · rcases List.mem_cons.mp member with rfl | member
        · exact toneless
        · exact parts c (List.mem_cons_of_mem _ ((List.dropWhile_suffix _).subset member))

theorem weight_emoji {name : String} {emoji : List Char} (found : emoji? name = some emoji) :
    weight emoji = 0 := by
  rcases Option.or_eq_some_iff.mp found with listed | ⟨-, toned⟩
  · obtain ⟨codes, known, rfl⟩ := Option.map_eq_some_iff.mp listed
    rcases Option.or_eq_some_iff.mp known with known | ⟨-, known⟩
    · exact weight_ofCodePoints markless_plainEmoji known
    · exact weight_ofCodePoints markless_tonedEmoji known
  · obtain ⟨⟨ending, tone⟩, given, toned⟩ := Option.bind_eq_some_iff.mp toned
    obtain ⟨codes, known, shown⟩ := Option.bind_eq_some_iff.mp toned
    cases shown
    exact weight_withTone (markless_skinTones _ (List.mem_of_find?_eq_some given))
      (weight_ofCodePoints markless_tonedEmoji known)

/-! ## Codes -/

theorem weight_form (name : List Char) : weight (splitForm name).2 = 0 := by
  have colored : weight [coloredForm] = 0 := by decide
  have plain : weight [plainForm] = 0 := by decide
  unfold splitForm
  split
  · exact colored
  · split
    · exact plain
    · rfl

/-- A code shows its emoji, or itself. -/
theorem lightens_codeText (name : List Char) :
    Lightens (':' :: name ++ [':']) (codeText name) := by
  cases found : emoji? (Text.lower (String.ofList (splitForm name).1)) with
  | none =>
      simp only [codeText, found]
      exact .refl _
  | some emoji =>
      apply Lightens.of_lt
      have colons : isMark ':' = true := by decide
      simp only [codeText, found, weight_append, weight_emoji found, weight_form, List.cons_append,
        weight_cons, colons, if_true]
      omega

theorem code?_eq_some {text name behind : List Char} (found : code? text = some (name, behind)) :
    text = ':' :: name ++ ':' :: behind := by
  unfold code? at found
  split at found
  · rename_i rest
    rw [List.span_eq_takeWhile_dropWhile] at found
    dsimp only at found
    split at found
    · rename_i after isClosed
      cases found
      rw [List.cons_append, ← isClosed, List.takeWhile_append_dropWhile]
    · cases found
  · cases found

theorem lightens_showEmojiFrom (fuel : Nat) (text : List Char) :
    Lightens text (showEmojiFrom fuel text) := by
  induction fuel generalizing text with
  | zero => exact .refl _
  | succ fuel ih =>
      cases text with
      | nil => exact .refl _
      | cons c rest =>
          unfold showEmojiFrom
          cases found : code? (c :: rest) with
          | none => exact .append (.refl [c]) (ih rest)
          | some code =>
              obtain ⟨name, behind⟩ := code
              have parts : c :: rest = (':' :: name ++ [':']) ++ behind := by
                rw [code?_eq_some found]
                simp
              rw [parts]
              exact .append (lightens_codeText name) (ih behind)

theorem lightens_showEmoji (text : List Char) : Lightens text (showEmoji text) :=
  lightens_showEmojiFrom text.length text

/-- It takes two colons to make a code. -/
theorem showEmoji_eq_self {text : List Char} (few : text.count ':' ≤ 1) :
    showEmoji text = text := by
  have same (fuel : Nat) : showEmojiFrom fuel text = text := by
    induction fuel generalizing text with
    | zero => rfl
    | succ fuel ih =>
        cases text with
        | nil => rfl
        | cons c rest =>
            have uncoded : code? (c :: rest) = none := by
              cases found : code? (c :: rest) with
              | none => rfl
              | some code =>
                  rw [code?_eq_some found] at few
                  simp only [List.cons_append, List.count_append, List.count_cons_self] at few
                  omega
            have fewer : rest.count ':' ≤ 1 := Nat.le_trans (List.count_le_count_cons) few
            rw [showEmojiFrom, uncoded]
            exact congrArg (c :: ·) (ih fewer)
  exact same text.length

/-- What stands before all colons stays as it is. -/
theorem showEmoji_append {before : List Char} (uncoded : ':' ∉ before) (text : List Char) :
    showEmoji (before ++ text) = before ++ showEmoji text := by
  induction before with
  | nil => rfl
  | cons c rest ih =>
      have notColon : c ≠ ':' := fun isColon => uncoded (isColon ▸ List.mem_cons_self)
      have none_found : code? (c :: (rest ++ text)) = none := by
        unfold code?
        split
        · rename_i isColon
          exact absurd (List.cons.inj isColon).1 notColon
        · rfl
      have later := ih (mt (List.mem_cons_of_mem c) uncoded)
      unfold showEmoji at later ⊢
      rw [List.cons_append, List.length_cons, showEmojiFrom, none_found]
      exact congrArg (c :: ·) later

end AnalysisEngines.Console
