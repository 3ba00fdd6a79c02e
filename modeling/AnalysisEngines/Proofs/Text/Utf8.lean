import AnalysisEngines.Text.Utf8
import Mathlib.Tactic.Common

/-!
# Strict decoding

A byte list is decoded to a text exactly if the text is encoded as that list.  One step takes the
first character of a list, and takes it exactly if the list starts with a sequence that encodes it.
-/

set_option autoImplicit false

namespace AnalysisEngines.Utf8

/-! ## Sequences -/

def IsTail (byte : UInt8) : Prop := 0x80 ≤ byte.toNat ∧ byte.toNat ≤ 0xbf

/-- A sequence of bytes for one code point.  The second byte of a longer one is limited further: no
code point has two sequences, and surrogates and numbers behind the last code point have none. -/
inductive Sequence : Bytes → Nat → Prop
  | one {a : UInt8} {code : Nat} : a.toNat < 0x80 → code = a.toNat → Sequence [a] code
  | two {a b : UInt8} {code : Nat} : 0xc2 ≤ a.toNat → a.toNat < 0xe0 → IsTail b →
      code = (a.toNat - 0xc0) * 64 + b.toNat % 64 → Sequence [a, b] code
  | three {a b c : UInt8} {code : Nat} :
      0xe0 ≤ a.toNat → a.toNat < 0xf0 → IsTail b → IsTail c →
      (a.toNat = 0xe0 → 0xa0 ≤ b.toNat) → (a.toNat = 0xed → b.toNat ≤ 0x9f) →
      code = ((a.toNat - 0xe0) * 64 + b.toNat % 64) * 64 + c.toNat % 64 → Sequence [a, b, c] code
  | four {a b c d : UInt8} {code : Nat} :
      0xf0 ≤ a.toNat → a.toNat < 0xf5 → IsTail b → IsTail c → IsTail d →
      (a.toNat = 0xf0 → 0x90 ≤ b.toNat) → (a.toNat = 0xf4 → b.toNat ≤ 0x8f) →
      code = (((a.toNat - 0xf0) * 64 + b.toNat % 64) * 64 + c.toNat % 64) * 64 + d.toNat % 64 →
      Sequence [a, b, c, d] code

theorem Sequence.isValidChar {bytes : Bytes} {code : Nat} (sequence : Sequence bytes code) :
    code.isValidChar := by
  unfold Nat.isValidChar
  cases sequence with
  | one => omega
  | two low high second =>
      unfold IsTail at second
      omega
  | three low high second third =>
      unfold IsTail at second third
      omega
  | four low high second third fourth =>
      unfold IsTail at second third fourth
      omega

theorem toNat_ofNat {code : Nat} (valid : code.isValidChar) : (Char.ofNat code).toNat = code := by
  unfold Char.ofNat
  rw [dif_pos valid]
  rfl

theorem utf8EncodeChar_of_sequence {bytes : Bytes} {code : Nat} (sequence : Sequence bytes code) :
    String.utf8EncodeChar (Char.ofNat code) = bytes := by
  have value : (Char.ofNat code).val.toNat = code := toNat_ofNat sequence.isValidChar
  unfold String.utf8EncodeChar
  rw [value]
  cases sequence with
  | one low same => rw [if_pos (by omega), same, UInt8.ofNat_toNat]
  | two low high second same =>
      unfold IsTail at second
      rw [if_neg (by omega), if_pos (by omega)]
      simp only [List.cons.injEq, ← UInt8.toNat_inj, UInt8.toNat_ofNat', and_true]
      omega
  | three low high second third least most same =>
      unfold IsTail at second third
      rw [if_neg (by omega), if_neg (by omega), if_pos (by omega)]
      simp only [List.cons.injEq, ← UInt8.toNat_inj, UInt8.toNat_ofNat', and_true]
      omega
  | four low high second third fourth least most same =>
      unfold IsTail at second third fourth
      rw [if_neg (by omega), if_neg (by omega), if_neg (by omega)]
      simp only [List.cons.injEq, ← UInt8.toNat_inj, UInt8.toNat_ofNat', and_true]
      omega

theorem sequence_utf8EncodeChar (c : Char) : Sequence (String.utf8EncodeChar c) c.toNat := by
  have valid : c.toNat < 0xd800 ∨ 0xdfff < c.toNat ∧ c.toNat < 0x110000 := c.valid
  have value : c.val.toNat = c.toNat := rfl
  unfold String.utf8EncodeChar
  rw [value]
  generalize c.toNat = code at valid
  dsimp only
  split
  · apply Sequence.one <;> simp only [UInt8.toNat_ofNat'] <;> omega
  split
  · apply Sequence.two <;> simp only [IsTail, UInt8.toNat_ofNat'] <;> omega
  split
  · apply Sequence.three <;> simp only [IsTail, UInt8.toNat_ofNat'] <;> omega
  · apply Sequence.four <;> simp only [IsTail, UInt8.toNat_ofNat'] <;> omega

/-! ## Steps -/

theorem secondByteRange_iff (lead : Nat) {byte : UInt8} :
    (secondByteRange lead).1 ≤ byte.toNat ∧ byte.toNat ≤ (secondByteRange lead).2 ↔
      IsTail byte ∧ (lead = 0xe0 → 0xa0 ≤ byte.toNat) ∧ (lead = 0xed → byte.toNat ≤ 0x9f) ∧
        (lead = 0xf0 → 0x90 ≤ byte.toNat) ∧ (lead = 0xf4 → byte.toNat ≤ 0x8f) := by
  unfold secondByteRange IsTail
  split
  · omega
  split
  · omega
  split
  · omega
  split <;> omega

theorem isContinuation_iff {byte : UInt8} : isContinuation byte = true ↔ IsTail byte := by
  simp [isContinuation, IsTail]

/-- A step takes the character of the sequence that a list starts with. -/
theorem step_of_sequence {first : UInt8} {more rest : Bytes} {code : Nat}
    (sequence : Sequence (first :: more) code) :
    step first (more ++ rest) = .char (Char.ofNat code) (more.length + 1) := by
  unfold step
  dsimp only
  cases sequence with
  | one low same =>
      rw [if_pos low, same]
      rfl
  | @two a b code low high second same =>
      rw [if_neg (by omega), if_neg (by omega), if_pos high, same]
      have inRange := (secondByteRange_iff first.toNat).mpr
        ⟨second, by omega, by omega, by omega, by omega⟩
      exact if_pos inRange
  | @three a b c code low high second third least most same =>
      rw [if_neg (by omega), if_neg (by omega), if_neg (by omega), if_pos high, same]
      have inRange := (secondByteRange_iff first.toNat).mpr
        ⟨second, least, most, by omega, by omega⟩
      refine (if_pos inRange).trans ?_
      exact if_pos (isContinuation_iff.mpr third)
  | @four a b c d code low high second third fourth least most same =>
      rw [if_neg (by omega), if_neg (by omega), if_neg (by omega), if_neg (by omega), if_pos high,
        same]
      have inRange := (secondByteRange_iff first.toNat).mpr
        ⟨second, by omega, by omega, least, most⟩
      refine (if_pos inRange).trans ?_
      refine (if_pos (isContinuation_iff.mpr third)).trans ?_
      exact if_pos (isContinuation_iff.mpr fourth)

theorem continuation_eq_char {needed code taken length : Nat} {bytes : Bytes} {c : Char}
    (taking : continuation (needed + 1) code taken bytes = .char c length) :
    ∃ byte rest, bytes = byte :: rest ∧ IsTail byte ∧
      continuation needed (code * 64 + byte.toNat % 64) (taken + 1) rest = .char c length := by
  cases bytes with
  | nil => cases taking
  | cons byte rest =>
      rw [continuation] at taking
      split at taking
      · rename_i tail
        exact ⟨byte, rest, rfl, isContinuation_iff.mp tail, taking⟩
      · cases taking

theorem multiByte_eq_char {lead needed start length : Nat} {bytes : Bytes} {c : Char}
    (taking : multiByte lead needed start bytes = .char c length) :
    ∃ second rest, bytes = second :: rest ∧
      ((secondByteRange lead).1 ≤ second.toNat ∧ second.toNat ≤ (secondByteRange lead).2) ∧
      continuation (needed - 1) (start * 64 + second.toNat % 64) 2 rest = .char c length := by
  cases bytes with
  | nil => cases taking
  | cons second rest =>
      rw [multiByte] at taking
      split at taking
      · rename_i inRange
        exact ⟨second, rest, rfl, inRange, taking⟩
      · cases taking

/-- A list whose first step takes a character starts with a sequence for it. -/
theorem sequence_of_step {first : UInt8} {rest : Bytes} {c : Char} {length : Nat}
    (taking : step first rest = .char c length) :
    ∃ more tail code, rest = more ++ tail ∧ Sequence (first :: more) code ∧ c = Char.ofNat code ∧
      length = more.length + 1 := by
  unfold step at taking
  dsimp only at taking
  split at taking
  · rename_i low
    cases taking
    exact ⟨[], rest, first.toNat, rfl, .one low rfl, rfl, rfl⟩
  split at taking
  · cases taking
  split at taking
  · rename_i _ low high
    obtain ⟨b, tail, rfl, inRange, taking⟩ := multiByte_eq_char taking
    obtain ⟨second, -⟩ := (secondByteRange_iff _).mp inRange
    cases taking
    exact ⟨[b], tail, _, rfl, .two (by omega) high second rfl, rfl, rfl⟩
  split at taking
  · rename_i _ _ low high
    obtain ⟨b, tail, rfl, inRange, taking⟩ := multiByte_eq_char taking
    obtain ⟨second, least, most, -⟩ := (secondByteRange_iff _).mp inRange
    obtain ⟨c, tail, rfl, third, taking⟩ := continuation_eq_char taking
    cases taking
    exact ⟨[b, c], tail, _, rfl, .three (by omega) high second third least most rfl, rfl, rfl⟩
  split at taking
  · rename_i _ _ _ low high
    obtain ⟨b, tail, rfl, inRange, taking⟩ := multiByte_eq_char taking
    obtain ⟨second, -, -, least, most⟩ := (secondByteRange_iff _).mp inRange
    obtain ⟨c, tail, rfl, third, taking⟩ := continuation_eq_char taking
    obtain ⟨d, tail, rfl, fourth, taking⟩ := continuation_eq_char taking
    cases taking
    exact ⟨[b, c, d], tail, _, rfl, .four (by omega) high second third fourth least most rfl, rfl,
      rfl⟩
  · cases taking

/-! ## Decoding -/

theorem toList_loop_eq (bytes : ByteArray) (i : Nat) (seen : List UInt8) :
    ByteArray.toList.loop bytes i seen = seen.reverse ++ bytes.data.toList.drop i := by
  fun_induction ByteArray.toList.loop bytes i seen with
  | case1 i seen inside ih =>
      have bound : i < bytes.data.toList.length := inside
      have byte : bytes.get! i = bytes.data.toList[i] := by
        rw [Array.getElem_toList]
        exact getElem!_pos bytes.data i inside
      rw [ih, List.drop_eq_getElem_cons bound, byte, List.reverse_cons, List.append_assoc]
      rfl
  | case2 i seen outside =>
      have bound : bytes.data.toList.length ≤ i := Nat.le_of_not_lt outside
      rw [List.drop_of_length_le bound, List.append_nil]

theorem encode_eq (text : String) : encode text = text.toList.flatMap String.utf8EncodeChar := by
  have bytes : text.toByteArray = text.toList.utf8Encode := by
    rw [← String.toByteArray_ofList, String.ofList_toList]
  unfold encode
  rw [ByteArray.toList, toList_loop_eq, String.toUTF8, bytes, List.utf8Encode,
    List.toList_data_toByteArray]
  rfl

/-- The rest of a sequence whose character was taken is skipped. -/
theorem decodeFrom_append (position : Nat) (seen : List Char) (more rest : Bytes) :
    decodeFrom position more.length seen (more ++ rest) =
      decodeFrom (position + more.length) 0 seen rest := by
  induction more generalizing position with
  | nil => rfl
  | cons byte others ih =>
      change decodeFrom (position + 1) others.length seen (others ++ rest) = _
      rw [ih, List.length_cons]
      congr 1
      omega

theorem decodeFrom_flatMap (chars seen : List Char) (position : Nat) :
    decodeFrom position 0 seen (chars.flatMap String.utf8EncodeChar) =
      .ok (seen.reverse ++ chars) := by
  induction chars generalizing seen position with
  | nil => rw [List.append_nil]; rfl
  | cons c rest ih =>
      have sequence := sequence_utf8EncodeChar c
      rw [List.flatMap_cons]
      cases encoded : String.utf8EncodeChar c with
      | nil =>
          rw [encoded] at sequence
          cases sequence
      | cons first more =>
          rw [encoded] at sequence
          rw [List.cons_append, decodeFrom, step_of_sequence sequence, Char.ofNat_toNat]
          dsimp only
          rw [Nat.add_sub_cancel, decodeFrom_append, ih, List.reverse_cons, List.append_assoc]
          rfl

theorem flatMap_of_decodeFrom {position : Nat} {seen result : List Char} {bytes : Bytes}
    (decoded : decodeFrom position 0 seen bytes = .ok result) :
    ∃ chars, bytes = chars.flatMap String.utf8EncodeChar ∧ result = seen.reverse ++ chars := by
  -- a step takes a whole sequence off the list
  induction counted : bytes.length using Nat.strongRecOn generalizing position seen bytes with
  | ind size ih =>
      cases bytes with
      | nil =>
          cases decoded
          exact ⟨[], rfl, (List.append_nil _).symm⟩
      | cons first rest =>
          rw [decodeFrom] at decoded
          cases taken : step first rest with
          | fault why length =>
              rw [taken] at decoded
              cases decoded
          | char c length =>
              obtain ⟨more, tail, code, rfl, sequence, rfl, rfl⟩ := sequence_of_step taken
              rw [taken] at decoded
              dsimp only at decoded
              rw [Nat.add_sub_cancel, decodeFrom_append] at decoded
              have shorter : tail.length < size := by
                rw [← counted, List.length_cons, List.length_append]
                omega
              obtain ⟨chars, rfl, rfl⟩ := ih _ shorter decoded rfl
              refine ⟨Char.ofNat code :: chars, ?_, ?_⟩
              · rw [List.flatMap_cons, utf8EncodeChar_of_sequence sequence]
                rfl
              · rw [List.reverse_cons, List.append_assoc]
                rfl

/-- Decoding inverts encoding: it gives the text that is encoded as the bytes, if there is one. -/
theorem decode_eq_ok_iff {bytes : Bytes} {text : String} :
    decode bytes = .ok text ↔ encode text = bytes := by
  rw [encode_eq, decode]
  constructor
  · intro decoded
    cases taken : decodeFrom 0 0 [] bytes with
    | error fault =>
        rw [taken] at decoded
        cases decoded
    | ok chars =>
        rw [taken] at decoded
        cases decoded
        obtain ⟨chars, rfl, rfl⟩ := flatMap_of_decodeFrom taken
        simp
  · rintro rfl
    rw [decodeFrom_flatMap]
    exact congrArg Except.ok (String.ofList_toList ..)

end AnalysisEngines.Utf8
