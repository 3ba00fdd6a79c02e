import AnalysisEngines.Location.Description
import AnalysisEngines.Proofs.SourceBuffer.Lines

/-!
# Which locations are refused

A location is read by what is there: lines win over positions, and a line over an offset.  What is
malformed is refused when it is read, and an offset that leads nowhere when it is rendered; nothing
else fails, and all that fails does so as an invalid location.
-/

set_option autoImplicit false

namespace AnalysisEngines

/-! ## What a location has to be -/

/-- A mapping that has a line or an offset. -/
inductive Position.IsWritten : Value → Prop
  | map {entries : List (Value × Value)} :
      Value.member "line" entries ≠ .null ∨ Value.member "offset" entries ≠ .null →
      IsWritten (.map entries)

inductive Position.IsReadAs : Value → Position → Prop
  | line {entries : List (Value × Value)} :
      Value.member "line" entries ≠ .null →
      IsReadAs (.map entries) (.line (Value.member "line" entries))
  | offset {entries : List (Value × Value)} :
      Value.member "line" entries = .null → Value.member "offset" entries ≠ .null →
      IsReadAs (.map entries) (.offset (Value.member "offset" entries))

namespace Location

/-- A mapping that has a position at either end. -/
inductive ArePositions : Value → Prop
  | map {ends : List (Value × Value)} :
      Position.IsWritten (Value.member "begin" ends) →
      Position.IsWritten (Value.member "end" ends) → ArePositions (.map ends)

inductive IsMalformed : Value → Prop
  | foreign {given : Value} : (∀ entries, given ≠ .map entries) → IsMalformed given
  | lines {entries : List (Value × Value)} :
      Value.member "lines" entries ≠ .null → (∀ ends, Value.member "lines" entries ≠ .map ends) →
      IsMalformed (.map entries)
  | positions {entries : List (Value × Value)} :
      Value.member "lines" entries = .null → ¬ ArePositions (Value.member "positions" entries) →
      IsMalformed (.map entries)

inductive IsReadAs : Value → Location → Prop
  | lines {entries ends : List (Value × Value)} :
      Value.member "lines" entries = .map ends →
      IsReadAs (.map entries) (.lines (Value.member "begin" ends) (Value.member "end" ends))
  | positions {entries ends : List (Value × Value)} {first last : Position} :
      Value.member "lines" entries = .null → Value.member "positions" entries = .map ends →
      Position.IsReadAs (Value.member "begin" ends) first →
      Position.IsReadAs (Value.member "end" ends) last →
      IsReadAs (.map entries) (.positions first last)

/-- The positions that a location has at its ends. -/
def ends : Location → List Position
  | .lines .. => []
  | .positions first last => [first, last]

/-- An offset that leads nowhere: without a buffer, not an integer, or outside of the text. -/
inductive IsUnresolved (buffer : Option SourceBuffer) : Value → Prop
  | noBuffer {offset : Value} : buffer = none → IsUnresolved buffer offset
  | notAnInteger {offset : Value} : (∀ number, offset ≠ .int number) → IsUnresolved buffer offset
  | outside {source : SourceBuffer} {number : Int} :
      buffer = some source → source.IsOutside number → IsUnresolved buffer (.int number)

end Location

/-! ## Failing exactly in some case -/

theorem LocationFault.kind_failure (fault : LocationFault) :
    fault.failure.kind = .invalidLocation := by
  cases fault <;> rfl

/-- To fail exactly in some case, and then as an invalid location. -/
structure FailsIff {α : Type} (result : Except LocationFault α) (offends : Prop) : Prop where
  refused : offends → ∃ fault, result = .error fault ∧ fault.failure.kind = .invalidLocation
  accepted : ¬ offends → ∃ value, result = .ok value

namespace FailsIff

variable {α β : Type} {result : Except LocationFault α} {offends : Prop}

theorem ok {value : α} (isOk : result = .ok value) (fits : ¬ offends) : FailsIff result offends :=
  ⟨fun offence => absurd offence fits, fun _ => ⟨value, isOk⟩⟩

theorem error {fault : LocationFault} (failed : result = .error fault) (offence : offends) :
    FailsIff result offends :=
  ⟨fun _ => ⟨fault, failed, fault.kind_failure⟩, fun fits => absurd offence fits⟩

/-- A result that is told by a relation, but for a case in which it fails. -/
theorem of_reads {Reads : α → Prop} (reads : ∀ value, Reads value → result = .ok value)
    (exists_reads : ¬ offends → ∃ value, Reads value)
    (fails : offends → ∃ fault, result = .error fault) :
    FailsIff result offends ∧ ∀ value, result = .ok value ↔ Reads value := by
  by_cases offence : offends
  · obtain ⟨fault, failed⟩ := fails offence
    refine ⟨error failed offence, fun value => ⟨?_, reads value⟩⟩
    intro isOk
    rw [failed] at isOk
    cases isOk
  · obtain ⟨value, isRead⟩ := exists_reads offence
    refine ⟨ok (reads value isRead) offence, fun other => ⟨?_, reads other⟩⟩
    intro isOk
    rw [reads value isRead] at isOk
    cases isOk
    exact isRead

theorem congr {other : Prop} (fails : FailsIff result offends) (same : offends ↔ other) :
    FailsIff result other :=
  ⟨fun offence => fails.refused (same.mpr offence), fun fits => fails.accepted fun offence =>
    fits (same.mp offence)⟩

theorem map (fails : FailsIff result offends) (next : α → β) :
    FailsIff (result.map next) offends := by
  by_cases offence : offends
  · obtain ⟨fault, rfl, -⟩ := fails.refused offence
    exact error rfl offence
  · obtain ⟨value, rfl⟩ := fails.accepted offence
    exact ok rfl offence

/-- Two results in a row fail if either does. -/
theorem seq {second : Except LocationFault β} {γ : Type} {offendsToo : Prop}
    (fails : FailsIff result offends) (failsToo : FailsIff second offendsToo)
    (combine : α → β → γ) :
    FailsIff (do return combine (← result) (← second)) (offends ∨ offendsToo) := by
  by_cases offence : offends
  · obtain ⟨fault, rfl, -⟩ := fails.refused offence
    exact error rfl (.inl offence)
  · obtain ⟨value, rfl⟩ := fails.accepted offence
    by_cases offenceToo : offendsToo
    · obtain ⟨fault, rfl, -⟩ := failsToo.refused offenceToo
      exact error rfl (.inr offenceToo)
    · obtain ⟨other, rfl⟩ := failsToo.accepted offenceToo
      exact ok rfl (not_or_intro offence offenceToo)

end FailsIff

/-! ## Reading -/

namespace Position

theorem parse_of_isReadAs {given : Value} {position : Position} (reads : IsReadAs given position) :
    parse given = .ok position := by
  cases reads with
  | @line entries given =>
      unfold parse
      dsimp only
      generalize Value.member "line" entries = line at given ⊢
      cases line with
      | null => exact absurd rfl given
      | _ => rfl
  | @offset entries absent given =>
      unfold parse
      dsimp only
      rw [absent]
      generalize Value.member "offset" entries = offset at given ⊢
      cases offset with
      | null => exact absurd rfl given
      | _ => rfl

theorem parse_of_not_isWritten {given : Value} (unwritten : ¬ IsWritten given) :
    ∃ fault, parse given = .error fault := by
  cases given with
  | map entries =>
      have noLine : Value.member "line" entries = .null := by
        by_contra line
        exact unwritten (.map (.inl line))
      have noOffset : Value.member "offset" entries = .null := by
        by_contra offset
        exact unwritten (.map (.inr offset))
      refine ⟨.positionEmpty (.map entries), ?_⟩
      unfold parse
      dsimp only
      rw [noLine, noOffset]
  | _ => exact ⟨.positionNotMapping _, rfl⟩

theorem exists_isReadAs {given : Value} (written : IsWritten given) :
    ∃ position, IsReadAs given position := by
  cases written with
  | @map entries either =>
      by_cases line : Value.member "line" entries = .null
      · exact ⟨_, .offset line (either.resolve_left (not_not.mpr line))⟩
      · exact ⟨_, .line line⟩

theorem parse_reads (given : Value) :
    FailsIff (parse given) (¬ IsWritten given) ∧
      ∀ position, parse given = .ok position ↔ IsReadAs given position :=
  FailsIff.of_reads (fun _ => parse_of_isReadAs)
    (fun written => exists_isReadAs (not_not.mp written)) parse_of_not_isWritten

end Position

namespace Location

variable {entries ends : List (Value × Value)}

theorem parse_of_lines (held : Value.member "lines" entries = .map ends) :
    parse (.map entries) =
      .ok (.lines (Value.member "begin" ends) (Value.member "end" ends)) := by
  unfold parse
  dsimp only
  rw [held]

theorem parse_of_positions (absent : Value.member "lines" entries = .null)
    (held : Value.member "positions" entries = .map ends) :
    parse (.map entries) = do
      return .positions (← Position.parse (Value.member "begin" ends))
        (← Position.parse (Value.member "end" ends)) := by
  unfold parse
  dsimp only
  rw [absent, held]

theorem parse_of_foreign_lines (given : Value.member "lines" entries ≠ .null)
    (foreign : ∀ ends, Value.member "lines" entries ≠ .map ends) :
    parse (.map entries) = .error (.linesNotMapping (.map entries)) := by
  unfold parse
  dsimp only
  generalize Value.member "lines" entries = lines at given foreign ⊢
  cases lines with
  | null => exact absurd rfl given
  | map ends => exact absurd rfl (foreign ends)
  | _ => rfl

theorem parse_of_foreign_positions (absent : Value.member "lines" entries = .null)
    (foreign : ∀ ends, Value.member "positions" entries ≠ .map ends) :
    ∃ fault, parse (.map entries) = .error fault := by
  unfold parse
  dsimp only
  rw [absent]
  generalize Value.member "positions" entries = positions at foreign ⊢
  cases positions with
  | map ends => exact absurd rfl (foreign ends)
  | _ => exact ⟨_, rfl⟩

theorem parse_of_isReadAs {given : Value} {location : Location} (reads : IsReadAs given location) :
    parse given = .ok location := by
  cases reads with
  | lines held => exact parse_of_lines held
  | positions absent held first last =>
      rw [parse_of_positions absent held, Position.parse_of_isReadAs first,
        Position.parse_of_isReadAs last]
      rfl

theorem parse_of_isMalformed {given : Value} (malformed : IsMalformed given) :
    ∃ fault, parse given = .error fault := by
  cases malformed with
  | foreign foreign =>
      cases given with
      | map entries => exact absurd rfl (foreign entries)
      | _ => exact ⟨_, rfl⟩
  | lines given foreign => exact ⟨_, parse_of_foreign_lines given foreign⟩
  | @positions entries absent unfit =>
      by_cases isMap : ∃ ends, Value.member "positions" entries = .map ends
      · obtain ⟨ends, held⟩ := isMap
        have either : ¬ Position.IsWritten (Value.member "begin" ends) ∨
            ¬ Position.IsWritten (Value.member "end" ends) := by
          rw [← not_and_or]
          rintro ⟨first, last⟩
          exact unfit (held ▸ .map first last)
        have fails := (Position.parse_reads (Value.member "begin" ends)).1.seq
          (Position.parse_reads (Value.member "end" ends)).1 Location.positions
        obtain ⟨fault, failed, -⟩ := fails.refused either
        exact ⟨fault, (parse_of_positions absent held).trans failed⟩
      · exact parse_of_foreign_positions absent (not_exists.mp isMap)

theorem exists_isReadAs {given : Value} (formed : ¬ IsMalformed given) :
    ∃ location, IsReadAs given location := by
  cases given with
  | map entries =>
      by_cases absent : Value.member "lines" entries = .null
      · have positions : ArePositions (Value.member "positions" entries) := by
          by_contra unfit
          exact formed (.positions absent unfit)
        generalize held : Value.member "positions" entries = value at positions
        cases positions with
        | map first last =>
            obtain ⟨first, readsFirst⟩ := Position.exists_isReadAs first
            obtain ⟨last, readsLast⟩ := Position.exists_isReadAs last
            exact ⟨_, .positions absent held readsFirst readsLast⟩
      · by_cases isMap : ∃ ends, Value.member "lines" entries = .map ends
        · obtain ⟨ends, held⟩ := isMap
          exact ⟨_, .lines held⟩
        · exact absurd (.lines absent (not_exists.mp isMap)) formed
  | _ => exact absurd (.foreign fun _ => Value.noConfusion) formed

theorem parse_reads (given : Value) :
    FailsIff (parse given) (IsMalformed given) ∧
      ∀ location, parse given = .ok location ↔ IsReadAs given location :=
  FailsIff.of_reads (fun _ => parse_of_isReadAs) exists_isReadAs parse_of_isMalformed

end Location

/-! ## Rendering -/

/-- Only an offset can fail to be resolved. -/
theorem Position.resolve_failsIff (position : Position) (buffer : Option SourceBuffer) :
    FailsIff (position.resolve buffer)
      (∃ offset, position = .offset offset ∧ Location.IsUnresolved buffer offset) := by
  cases position with
  | line line =>
      refine .ok rfl ?_
      rintro ⟨offset, ⟨⟩, -⟩
  | offset offset =>
      cases buffer with
      | none => exact .error rfl ⟨offset, rfl, .noBuffer rfl⟩
      | some source =>
          by_cases isInteger : ∃ number, offset = .int number
          · obtain ⟨number, rfl⟩ := isInteger
            by_cases outside : source.IsOutside number
            · have failed := SourceBuffer.place_of_isOutside outside
              exact .error (by rw [resolve, failed]) ⟨_, rfl, .outside rfl outside⟩
            · have resolved := SourceBuffer.place_of_inside outside
              refine .ok (by rw [resolve, resolved]) ?_
              rintro ⟨_, ⟨⟩, ⟨⟨⟩⟩ | foreign | ⟨⟨⟩, beyond⟩⟩
              · exact foreign number rfl
              · exact outside beyond
          · have foreign := not_exists.mp isInteger
            have failed := @SourceBuffer.place_of_not_integer source offset foreign
            exact .error (by rw [resolve, failed]) ⟨_, rfl, .notAnInteger foreign⟩

namespace Location

theorem range_failsIff (location : Location) (buffer : Option SourceBuffer) :
    FailsIff (location.range buffer)
      (∃ offset, .offset offset ∈ location.ends ∧ IsUnresolved buffer offset) := by
  cases location with
  | lines first last =>
      refine .ok rfl ?_
      rintro ⟨offset, ⟨⟩, -⟩
  | positions first last =>
      have fails := (first.resolve_failsIff buffer).seq (last.resolve_failsIff buffer) Prod.mk
      apply fails.congr
      simp [ends, or_and_right, exists_or, eq_comm]

theorem render_eq_map (location : Location) (buffer : Option SourceBuffer) (suffix : String) :
    location.render buffer suffix = (location.range buffer).map fun (first, last) =>
      let text := rangeText first last
      if Text.isBlankText text then "" else text ++ suffix := by
  unfold render
  cases location.range buffer <;> rfl

/-- A value is refused as a location exactly if it is malformed, and read by what is there
otherwise.  What is read is refused when it is rendered exactly if it has an offset that leads
nowhere.  Nothing else fails, and each failure is that of an invalid location. -/
theorem malformed_isRefused (given : Value) (buffer : Option SourceBuffer) (suffix : String) :
    FailsIff (parse given) (IsMalformed given) ∧
    FailsIff (LocationDescription.ofValue buffer given suffix) (IsMalformed given) ∧
    (∀ location, parse given = .ok location ↔ IsReadAs given location) ∧
    ∀ location : Location, FailsIff (location.render buffer suffix)
      (∃ offset, .offset offset ∈ location.ends ∧ IsUnresolved buffer offset) := by
  obtain ⟨fails, reads⟩ := parse_reads given
  refine ⟨fails, fails.map _, reads, ?_⟩
  intro location
  rw [render_eq_map]
  exact (range_failsIff location buffer).map _

/-- Lines that are null, a first position with a null line and a truth value for its offset, and a
last one with both a line and an offset. -/
def clouded : List (Value × Value) :=
  [(.text "lines", .null),
    (.text "positions", .textMap [("begin", .textMap [("line", .null), ("offset", .bool true)]),
      ("end", .textMap [("line", .int 3), ("offset", .int 99)])])]

/-- Lines that are a list, beside positions that could be read. -/
def enumerated : List (Value × Value) :=
  [(.text "lines", .list []),
    (.text "positions", .textMap [("begin", .textMap [("line", .int 1)]),
      ("end", .textMap [("line", .int 2)])])]

theorem enumerated_isMalformed : IsMalformed (.map enumerated) := by
  have held : Value.member "lines" enumerated = .list [] := by
    with_unfolding_all rfl
  refine .lines ?_ ?_
  · rw [held]
    exact Value.noConfusion
  · intro ends
    rw [held]
    exact Value.noConfusion

/-- A truth value is read as an offset, and refused when it is rendered, with a text or without one;
lines that are a list are refused at once. -/
theorem clouded_isRefused :
    IsReadAs (.map clouded) (.positions (.offset (.bool true)) (.line (.int 3))) ∧
      (∃ fault, (Location.positions (.offset (.bool true)) (.line (.int 3))).render
        (some (.ofText "clouded.txt" "a")) ":" = .error fault ∧
          fault.failure.kind = .invalidLocation) ∧
      IsMalformed (.map enumerated) ∧
      ∃ fault, parse (.map enumerated) = .error fault ∧ fault.failure.kind = .invalidLocation := by
  have parsed : parse (.map clouded) =
      .ok (.positions (.offset (.bool true)) (.line (.int 3))) := by
    with_unfolding_all rfl
  obtain ⟨-, -, reads, renders⟩ :=
    malformed_isRefused (.map clouded) (some (.ofText "clouded.txt" "a")) ":"
  refine ⟨(reads _).mp parsed, (renders _).refused ?_, enumerated_isMalformed,
    (malformed_isRefused (.map enumerated) none "").1.refused enumerated_isMalformed⟩
  exact ⟨.bool true, List.mem_cons_self, .notAnInteger nofun⟩

end Location

end AnalysisEngines
