import AnalysisEngines.Run.Capture
import AnalysisEngines.Proofs.Run.Process

/-!
# When the reader of standard output is done

However the written bytes are cut into reads, the reader passes the ceiling at the first instant at
which more has been written than the ceiling allows.  If that never happens, it is done when the
pipe is closed.
-/

set_option autoImplicit false

namespace AnalysisEngines

namespace Pipe

/-- The first piece that brings the bytes past a ceiling, if `total` bytes came before. -/
def passes? (ceiling : Nat) : Nat → List (Rat × Bytes) → Option Rat
  | _, [] => none
  | total, (instant, bytes) :: rest =>
      if ceiling < total + bytes.length then some instant
      else passes? ceiling (total + bytes.length) rest

/-- What the pieces up to an instant carry. -/
def bytesBy (now : Rat) (pieces : List (Rat × Bytes)) : Bytes :=
  (pieces.filter fun piece => piece.1 ≤ now).flatMap (·.2)

/-- Before the first piece there is nothing. -/
theorem bytesBy_eq_nil {pieces : List (Rat × Bytes)} {now : Rat}
    (late : ∀ piece ∈ pieces, now < piece.1) : bytesBy now pieces = [] := by
  have nothing : pieces.filter (fun piece => decide (piece.1 ≤ now)) = [] := by
    apply List.filter_eq_nil_iff.mpr
    intro piece member
    simpa using late piece member
  rw [bytesBy, nothing, List.flatMap_nil]

/-- Where the first piece is late, all are. -/
theorem late_of_pairwise {piece : Rat × Bytes} {rest : List (Rat × Bytes)} {now : Rat}
    (ordered : (piece :: rest).Pairwise fun earlier later => earlier.1 ≤ later.1)
    (late : ¬ piece.1 ≤ now) : ∀ other ∈ piece :: rest, now < other.1 :=
  List.forall_mem_cons.mpr ⟨not_le.mp late, fun other member =>
    (not_le.mp late).trans_le ((List.pairwise_cons.mp ordered).1 other member)⟩

theorem bytesBy_cons (now : Rat) (piece : Rat × Bytes) (rest : List (Rat × Bytes)) :
    bytesBy now (piece :: rest) =
      (if piece.1 ≤ now then piece.2 else []) ++ bytesBy now rest := by
  by_cases reached : piece.1 ≤ now <;> simp [bytesBy, reached]

theorem bytesBy_append (now : Rat) (first second : List (Rat × Bytes)) :
    bytesBy now (first ++ second) = bytesBy now first ++ bytesBy now second := by
  rw [bytesBy, List.filter_append, List.flatMap_append]
  rfl

theorem bytesBy_of_le {pieces : List (Rat × Bytes)} {now : Rat}
    (early : ∀ piece ∈ pieces, piece.1 ≤ now) : bytesBy now pieces = pieces.flatMap (·.2) := by
  rw [bytesBy, List.filter_eq_self.mpr fun piece member => decide_eq_true (early piece member)]

section Ordered

variable {pieces : List (Rat × Bytes)}
  (ordered : pieces.Pairwise fun earlier later => earlier.1 ≤ later.1)

include ordered

theorem bytesBy_prefix (now : Rat) : bytesBy now pieces <+: pieces.flatMap (·.2) := by
  induction pieces with
  | nil => exact List.prefix_rfl
  | cons piece rest ih =>
      have tail := (List.pairwise_cons.mp ordered).2
      by_cases reached : piece.1 ≤ now
      · rw [bytesBy_cons, if_pos reached, List.flatMap_cons]
        exact (List.prefix_append_right_inj _).mpr (ih tail)
      · rw [bytesBy_eq_nil (late_of_pairwise ordered reached)]
        exact List.nil_prefix

theorem bytesBy_prefix_bytesBy {now later : Rat} (order : now ≤ later) :
    bytesBy now pieces <+: bytesBy later pieces := by
  have same : bytesBy now (pieces.filter fun piece => piece.1 ≤ later) = bytesBy now pieces := by
    unfold bytesBy
    rw [List.filter_filter]
    congr 2
    funext piece
    simpa using fun reached : piece.1 ≤ now => reached.trans order
  rw [← same]
  exact bytesBy_prefix (ordered.filter _) now

/-- For pieces in order of time, `passes?` is the first instant at which more than the ceiling has
been written. -/
theorem passes?_eq_some_iff {ceiling total : Nat} (allowed : total ≤ ceiling) {instant : Rat} :
    passes? ceiling total pieces = some instant ↔
      IsLeast {now | ceiling < total + (bytesBy now pieces).length} instant := by
  induction pieces generalizing total with
  | nil =>
      simp only [passes?, bytesBy, List.filter_nil, List.flatMap_nil, List.length_nil,
        Nat.add_zero, reduceCtorEq, false_iff]
      intro least
      exact absurd least.1 (Nat.not_lt.mpr allowed)
  | cons piece rest ih =>
      obtain ⟨time, bytes⟩ := piece
      obtain ⟨bounds, tail⟩ := List.pairwise_cons.mp ordered
      have before : ∀ now, now < time → bytesBy now ((time, bytes) :: rest) = [] ∧
          bytesBy now rest = [] := by
        intro now early
        have later : ∀ piece ∈ rest, now < piece.1 :=
          fun piece member => lt_of_lt_of_le early (bounds piece member)
        exact ⟨bytesBy_eq_nil (List.forall_mem_cons.mpr ⟨early, later⟩), bytesBy_eq_nil later⟩
      have reached : ∀ now, time ≤ now → (bytesBy now ((time, bytes) :: rest)).length =
          bytes.length + (bytesBy now rest).length := by
        intro now late
        rw [bytesBy_cons, if_pos late, List.length_append]
      rw [passes?]
      by_cases past : ceiling < total + bytes.length
      · have attained : IsLeast
            {now | ceiling < total + (bytesBy now ((time, bytes) :: rest)).length} time := by
          constructor
          · simp only [Set.mem_ofPred_eq, reached time (le_refl time)]
            omega
          · intro now passed
            apply not_lt.mp
            intro early
            simp only [Set.mem_ofPred_eq, (before now early).1, List.length_nil] at passed
            omega
        rw [if_pos past, Option.some.injEq]
        exact ⟨fun same => same ▸ attained, fun least => attained.unique least⟩
      · have same : {now | ceiling < total + bytes.length + (bytesBy now rest).length} =
            {now | ceiling < total + (bytesBy now ((time, bytes) :: rest)).length} := by
          ext now
          simp only [Set.mem_ofPred_eq]
          by_cases late : time ≤ now
          · rw [reached now late, Nat.add_assoc]
          · obtain ⟨nothing, nothingLater⟩ := before now (not_le.mp late)
            rw [nothing, nothingLater, List.length_nil]
            omega
        rw [if_neg past, ih tail (Nat.not_lt.mp past), same]

end Ordered

theorem passes?_eq_none_iff {ceiling total : Nat} (allowed : total ≤ ceiling)
    (pieces : List (Rat × Bytes)) :
    passes? ceiling total pieces = none ↔
      total + (pieces.flatMap (·.2)).length ≤ ceiling := by
  induction pieces generalizing total with
  | nil => simpa [passes?] using allowed
  | cons piece rest ih =>
      obtain ⟨instant, bytes⟩ := piece
      rw [passes?, List.flatMap_cons, List.length_append]
      by_cases past : ceiling < total + bytes.length
      · simp only [past, if_true, reduceCtorEq, false_iff]
        omega
      · rw [if_neg past, ih (Nat.not_lt.mp past), Nat.add_assoc]

theorem mem_of_passes? {ceiling total : Nat} {pieces : List (Rat × Bytes)} {instant : Rat}
    (passes : passes? ceiling total pieces = some instant) :
    ∃ bytes, (instant, bytes) ∈ pieces := by
  induction pieces generalizing total with
  | nil => simp [passes?] at passes
  | cons piece rest ih =>
      obtain ⟨time, bytes⟩ := piece
      rw [passes?] at passes
      split at passes
      · simp only [Option.some.injEq] at passes
        exact ⟨bytes, by simp [passes]⟩
      · obtain ⟨more, member⟩ := ih passes
        exact ⟨more, List.mem_cons_of_mem _ member⟩

/-! ## Reads -/

/-- Reads that return by every instant what has been written by then, in whatever portions. -/
structure IsCut (pipe : Pipe) (reads : List (Rat × Bytes)) : Prop where
  ordered : reads.Pairwise fun earlier later => earlier.1 ≤ later.1
  same : ∀ now, bytesBy now reads = bytesBy now pipe.pieces

/-- However the written bytes are cut into reads, the ceiling is passed at the same instant. -/
theorem IsCut.passes? {pipe : Pipe} {reads : List (Rat × Bytes)} (isCut : pipe.IsCut reads)
    (ordered : pipe.pieces.Pairwise fun earlier later => earlier.1 ≤ later.1) (ceiling : Nat) :
    passes? ceiling 0 reads = passes? ceiling 0 pipe.pieces := by
  refine Option.ext fun instant => ?_
  rw [passes?_eq_some_iff isCut.ordered (Nat.zero_le _),
    passes?_eq_some_iff ordered (Nat.zero_le _)]
  simp only [isCut.same]

theorem flatten_cut (size : Nat) (bytes : Bytes) : (cut size bytes).flatten = bytes := by
  fun_induction cut size bytes with
  | case1 bytes small empty => simp_all
  | case2 bytes small nonempty => simp_all
  | case3 bytes large ih => rw [List.flatten_cons, ih, List.take_append_drop]

theorem bytesBy_joinPieces (now : Rat) (pieces : List (Rat × Bytes)) :
    bytesBy now (joinPieces pieces) = bytesBy now pieces := by
  induction pieces with
  | nil => rfl
  | cons piece rest ih =>
      obtain ⟨instant, bytes⟩ := piece
      rw [bytesBy_cons, ← ih, joinPieces]
      cases joinPieces rest with
      | nil => simp [bytesBy_cons]
      | cons next others =>
          obtain ⟨time, more⟩ := next
          by_cases same : time = instant
          · subst same
            by_cases reached : time ≤ now <;> simp [bytesBy_cons, reached]
          · simp [bytesBy_cons, same]

theorem exists_of_mem_joinPieces {pieces : List (Rat × Bytes)} {piece : Rat × Bytes}
    (member : piece ∈ joinPieces pieces) : ∃ other ∈ pieces, other.1 = piece.1 := by
  induction pieces generalizing piece with
  | nil => simp [joinPieces] at member
  | cons first rest ih =>
      obtain ⟨instant, bytes⟩ := first
      rw [joinPieces] at member
      cases joined : joinPieces rest with
      | nil =>
          simp only [joined, List.mem_singleton] at member
          exact ⟨_, List.mem_cons_self, by rw [member]⟩
      | cons next others =>
          obtain ⟨time, more⟩ := next
          have inRest : ∀ {entry}, entry ∈ (time, more) :: others →
              ∃ other ∈ (instant, bytes) :: rest, other.1 = entry.1 := by
            intro entry inJoined
            obtain ⟨other, known, same⟩ := ih (joined ▸ inJoined)
            exact ⟨other, List.mem_cons_of_mem _ known, same⟩
          by_cases same : time = instant
          · simp only [joined, same, if_true, List.mem_cons] at member
            rcases member with rfl | later
            · exact ⟨_, List.mem_cons_self, rfl⟩
            · exact inRest (List.mem_cons_of_mem _ later)
          · simp only [joined, same, if_false] at member
            rcases List.mem_cons.mp member with rfl | later
            · exact ⟨_, List.mem_cons_self, rfl⟩
            · exact inRest later

theorem pairwise_joinPieces {pieces : List (Rat × Bytes)}
    (ordered : pieces.Pairwise fun earlier later => earlier.1 ≤ later.1) :
    (joinPieces pieces).Pairwise fun earlier later => earlier.1 ≤ later.1 := by
  induction pieces with
  | nil => exact .nil
  | cons first rest ih =>
      obtain ⟨bounds, tail⟩ := List.pairwise_cons.mp ordered
      obtain ⟨instant, bytes⟩ := first
      have later : ∀ piece ∈ joinPieces rest, instant ≤ piece.1 := by
        intro piece member
        obtain ⟨other, known, same⟩ := exists_of_mem_joinPieces member
        exact same ▸ bounds other known
      have joinedOrdered := ih tail
      rw [joinPieces]
      cases joined : joinPieces rest with
      | nil => exact List.pairwise_singleton _ _
      | cons next others =>
          rw [joined] at later joinedOrdered
          obtain ⟨time, more⟩ := next
          by_cases same : time = instant
          · simp only [same, if_true]
            exact List.pairwise_cons.mpr ⟨fun piece member =>
              later piece (List.mem_cons_of_mem _ member), (List.pairwise_cons.mp joinedOrdered).2⟩
          · simp only [same, if_false]
            exact List.pairwise_cons.mpr ⟨later, joinedOrdered⟩

theorem bytesBy_parts (now instant : Rat) (parts : List Bytes) :
    bytesBy now (parts.map fun part => (instant, part)) =
      if instant ≤ now then parts.flatten else [] := by
  induction parts with
  | nil => simp [bytesBy]
  | cons part rest ih =>
      rw [List.map_cons, bytesBy_cons, ih]
      by_cases reached : instant ≤ now <;> simp [reached]

theorem isCut_reads {pipe : Pipe}
    (ordered : pipe.pieces.Pairwise fun earlier later => earlier.1 ≤ later.1) :
    pipe.IsCut pipe.reads where
  ordered := by
    refine List.pairwise_flatMap.mpr ⟨fun piece _ => ?_, (pairwise_joinPieces ordered).imp ?_⟩
    · exact List.pairwise_map.mpr (List.pairwise_of_forall fun _ _ => le_refl _)
    · intro earlier later order
      simpa using fun _ _ _ _ => order
  same now := by
    rw [← bytesBy_joinPieces now pipe.pieces, reads]
    induction joinPieces pipe.pieces with
    | nil => rfl
    | cons piece rest ih =>
        rw [List.flatMap_cons, bytesBy_append, bytesBy_parts, flatten_cut, ih, bytesBy_cons]

/-! ## The events of a stream -/

theorem mem_pieces {stream : Stream} {holdsPipes : Bool} {events : List (Rat × Effect)}
    {piece : Rat × Bytes} (member : piece ∈ (ofEvents stream holdsPipes events).pieces) :
    (piece.1, Effect.write stream piece.2) ∈ events := by
  induction events with
  | nil => simp [ofEvents] at member
  | cons event rest ih =>
      rcases event with ⟨instant, ⟨target, bytes⟩ | target | status⟩
      · by_cases same : target = stream
        · simp only [ofEvents, same, if_true, List.mem_cons] at member
          rcases member with rfl | later
          · simp [same]
          · exact List.mem_cons_of_mem _ (ih later)
        · simp only [ofEvents, same, if_false] at member
          exact List.mem_cons_of_mem _ (ih member)
      · by_cases same : target = stream
        · simp [ofEvents, same] at member
        · simp only [ofEvents, same, if_false] at member
          exact List.mem_cons_of_mem _ (ih member)
      · cases holdsPipes with
        | false => simp [ofEvents] at member
        | true =>
            simp only [ofEvents, if_true] at member
            exact List.mem_cons_of_mem _ (ih member)

theorem pairwise_pieces {stream : Stream} {holdsPipes : Bool} {events : List (Rat × Effect)}
    (ordered : events.Pairwise fun earlier later => earlier.1 ≤ later.1) :
    (ofEvents stream holdsPipes events).pieces.Pairwise
      fun earlier later => earlier.1 ≤ later.1 := by
  induction events with
  | nil => exact .nil
  | cons event rest ih =>
      obtain ⟨bounds, tail⟩ := List.pairwise_cons.mp ordered
      rcases event with ⟨instant, ⟨target, bytes⟩ | target | status⟩
      · by_cases same : target = stream
        · simp only [ofEvents, same, if_true, List.pairwise_cons]
          exact ⟨fun piece member => bounds _ (mem_pieces member), ih tail⟩
        · simpa only [ofEvents, same, if_false] using ih tail
      · by_cases same : target = stream
        · simp [ofEvents, same]
        · simpa only [ofEvents, same, if_false] using ih tail
      · cases holdsPipes with
        | false => simp [ofEvents]
        | true => simpa only [ofEvents, if_true] using ih tail

theorem le_closedAt {stream : Stream} {holdsPipes : Bool} {events : List (Rat × Effect)}
    (ordered : events.Pairwise fun earlier later => earlier.1 ≤ later.1) {last : Rat}
    (closed : (ofEvents stream holdsPipes events).closedAt = some last)
    {piece : Rat × Bytes} (member : piece ∈ (ofEvents stream holdsPipes events).pieces) :
    piece.1 ≤ last := by
  have from_events : ∀ {others : List (Rat × Effect)},
      (ofEvents stream holdsPipes others).closedAt = some last →
        ∃ effect, (last, effect) ∈ others := by
    intro others found
    induction others with
    | nil => simp [ofEvents] at found
    | cons event rest ih => rcases event with ⟨instant, ⟨target, bytes⟩ | target | status⟩ <;>
        grind [ofEvents]
  induction events with
  | nil => simp [ofEvents] at member
  | cons event rest ih =>
      obtain ⟨bounds, tail⟩ := List.pairwise_cons.mp ordered
      rcases event with ⟨instant, ⟨target, bytes⟩ | target | status⟩
      · by_cases same : target = stream
        · simp only [ofEvents, same, if_true] at closed member
          rcases List.mem_cons.mp member with rfl | later
          · obtain ⟨effect, inRest⟩ := from_events closed
            exact bounds _ inRest
          · exact ih tail closed later
        · simp only [ofEvents, same, if_false] at closed member
          exact ih tail closed member
      · by_cases same : target = stream
        · simp [ofEvents, same] at member
        · simp only [ofEvents, same, if_false] at closed member
          exact ih tail closed member
      · cases holdsPipes with
        | false => simp [ofEvents] at member
        | true =>
            simp only [ofEvents, if_true] at closed member
            exact ih tail closed member

end Pipe

/-- A consumer that takes every chunk. -/
def Consumer.IsSteady (consumer : Consumer) : Prop := ∀ index, consumer.failsOn index = false

namespace Capture

theorem finish_ofReads {ceiling : Nat} {consumer : Consumer} (steady : consumer.IsSteady)
    (closedAt : Option Rat) {total : Nat} (allowed : total ≤ ceiling) (count : Nat)
    (reads : List (Rat × Bytes)) :
    (ofReads ceiling consumer none closedAt total count reads).finish =
      match Pipe.passes? ceiling total reads with
      | some instant => some (instant, .exceeded)
      | none => closedAt.map fun instant => (instant, .closed) := by
  induction reads generalizing total count with
  | nil => cases closedAt <;> simp [ofReads, Pipe.passes?, isWithin]
  | cons read rest ih =>
      obtain ⟨instant, bytes⟩ := read
      rw [ofReads, Pipe.passes?]
      by_cases past : ceiling < total + bytes.length
      · simp only [isWithin, Bool.not_true, Bool.false_eq_true, if_false, past, if_true,
          steady count]
        split <;> rfl
      · simp only [isWithin, Bool.not_true, Bool.false_eq_true, if_false, past, steady count]
        split <;> exact ih (Nat.not_lt.mp past) _

end Capture

namespace Process

theorem pairwise_pieces (process : Process) (stream : Stream) :
    (process.pipe stream).pieces.Pairwise fun earlier later => earlier.1 ≤ later.1 :=
  Pipe.pairwise_pieces process.timeline.ordered

/-- When the process has first written more to standard output than a ceiling allows. -/
def passesAt? (ceiling : Nat) (process : Process) : Option Rat :=
  Pipe.passes? ceiling 0 (process.pipe .stdout).pieces

theorem capture_finish {consumer : Consumer} (steady : consumer.IsSteady) (ceiling : Nat)
    (process : Process) :
    (process.capture ceiling consumer none).finish =
      match process.passesAt? ceiling with
      | some instant => some (instant, .exceeded)
      | none => (process.pipe .stdout).closedAt.map fun instant => (instant, .closed) := by
  have ordered := process.pairwise_pieces .stdout
  unfold capture passesAt?
  rw [Capture.finish_ofReads steady _ (Nat.zero_le _), (Pipe.isCut_reads ordered).passes? ordered]

/-- `passesAt?` is the least instant by which the bytes before the end of the pipe exceed the
ceiling. -/
theorem passesAt?_eq_some_iff {ceiling : Nat} {process : Process} {instant : Rat} :
    process.passesAt? ceiling = some instant ↔
      IsLeast {now | ceiling < (Pipe.bytesBy now (process.pipe .stdout).pieces).length} instant := by
  simpa [passesAt?] using
    Pipe.passes?_eq_some_iff (process.pairwise_pieces .stdout) (Nat.zero_le ceiling)

theorem passesAt?_le_closedAt {ceiling : Nat} {process : Process} {instant last : Rat}
    (passes : process.passesAt? ceiling = some instant)
    (closed : (process.pipe .stdout).closedAt = some last) : instant ≤ last := by
  obtain ⟨bytes, member⟩ := Pipe.mem_of_passes? passes
  exact Pipe.le_closedAt process.timeline.ordered closed member

end Process

end AnalysisEngines
