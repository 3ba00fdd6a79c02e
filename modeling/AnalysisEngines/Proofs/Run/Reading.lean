import AnalysisEngines.Proofs.Run.Output

/-!
# What the reader of standard output passes on

A reader passes on what has been written, up to the ceiling, in chunks that are not empty.  However
the written bytes are cut into reads, it has passed on the same bytes by every instant.
-/

set_option autoImplicit false

namespace AnalysisEngines

namespace Capture

/-- No consumer has failed at what has been read. -/
def IsUnfailing (capture : Capture) : Prop :=
  ∀ instant, capture.finish ≠ some (instant, .consumerFailed)

variable {ceiling : Nat} {consumer : Consumer} {horizon closedAt : Option Rat}
  {reads : List (Rat × Bytes)}

theorem isUnfailing_of_isSteady (steady : consumer.IsSteady) (total count : Nat) :
    (ofReads ceiling consumer horizon closedAt total count reads).IsUnfailing := by
  induction reads generalizing total count with
  | nil =>
      intro instant
      cases closedAt with
      | none => simp [ofReads]
      | some last => cases within : isWithin horizon last <;> simp [ofReads, within]
  | cons read rest ih =>
      intro instant
      rw [ofReads]
      simp only [steady count, Bool.false_eq_true, if_false]
      split_ifs with late empty past past
      · simp
      · simp
      · exact ih _ _ instant
      · simp
      · exact ih _ _ instant

/-- A consumer that has not failed has got what one gets that never does. -/
theorem ofReads_of_isUnfailing {total count : Nat}
    (unfailing : (ofReads ceiling consumer horizon closedAt total count reads).IsUnfailing) :
    ofReads ceiling consumer horizon closedAt total count reads =
      ofReads ceiling .result horizon closedAt total count reads := by
  induction reads generalizing total count with
  | nil => rfl
  | cons read rest ih =>
      have steady : Consumer.result.failsOn count = false := rfl
      rw [ofReads] at unfailing
      rw [ofReads, ofReads]
      dsimp only at unfailing ⊢
      simp only [steady, Bool.false_eq_true, if_false]
      split_ifs at unfailing ⊢
      · rfl
      · rfl
      · exact ih unfailing
      · exact absurd rfl (unfailing _)
      · exact absurd rfl (unfailing _)
      · rfl
      · rw [ih unfailing]

/-- A consumer that takes every chunk gets all bytes up to the ceiling. -/
theorem flatten_chunks (steady : consumer.IsSteady) (now : Rat)
    (ordered : reads.Pairwise fun earlier later => earlier.1 ≤ later.1) {total : Nat}
    (allowed : total ≤ ceiling) (count : Nat) :
    (ofReads ceiling consumer (some now) closedAt total count reads).chunks.flatten =
      (Pipe.bytesBy now reads).take (ceiling - total) := by
  induction reads generalizing total count with
  | nil =>
      cases closedAt with
      | none => simp [ofReads, Pipe.bytesBy]
      | some instant => by_cases within : instant ≤ now <;>
          simp [ofReads, Pipe.bytesBy, isWithin, within]
  | cons read rest ih =>
      obtain ⟨instant, bytes⟩ := read
      have tail := (List.pairwise_cons.mp ordered).2
      by_cases reached : instant ≤ now
      · have room : (Pipe.bytesBy now ((instant, bytes) :: rest)).take (ceiling - total) =
            bytes.take (ceiling - total) ++
              (Pipe.bytesBy now rest).take (ceiling - (total + bytes.length)) := by
          rw [Pipe.bytesBy_cons, if_pos reached, List.take_append, Nat.sub_sub]
        rw [room, ofReads]
        simp only [isWithin, reached, decide_true, Bool.not_true, Bool.false_eq_true, if_false,
          steady count]
        by_cases past : ceiling < total + bytes.length
        · have spent : ceiling - (total + bytes.length) = 0 := by omega
          rw [spent, List.take_zero, List.append_nil]
          cases empty : (bytes.take (ceiling - total)).isEmpty with
          | true => simp [past, List.isEmpty_iff.mp empty]
          | false => simp [past]
        · have later := fun count => ih tail (Nat.not_lt.mp past) count
          cases empty : (bytes.take (ceiling - total)).isEmpty with
          | true => simp [past, later, List.isEmpty_iff.mp empty]
          | false => simp [past, later]
      · rw [Pipe.bytesBy_eq_nil (Pipe.late_of_pairwise ordered reached)]
        simp [ofReads, isWithin, reached]

/-- No consumer gets an empty chunk. -/
theorem nil_notMem_chunks (horizon : Option Rat) (total count : Nat) :
    [] ∉ (ofReads ceiling consumer horizon closedAt total count reads).chunks := by
  induction reads generalizing total count with
  | nil =>
      cases closedAt with
      | none => simp [ofReads]
      | some instant => cases within : isWithin horizon instant <;> simp [ofReads, within]
  | cons read rest ih =>
      obtain ⟨instant, bytes⟩ := read
      have solid : ¬ (bytes.take (ceiling - total)).isEmpty = true →
          [] ≠ bytes.take (ceiling - total) := fun full same => full (by rw [← same]; rfl)
      rw [ofReads]
      dsimp only
      split_ifs with late empty past failed past
      · exact List.not_mem_nil
      · exact List.not_mem_nil
      · exact ih _ _
      · exact List.not_mem_nil
      · exact fun member => solid empty (List.mem_singleton.mp member)
      · exact List.not_mem_cons_of_ne_of_not_mem (solid empty) (ih _ _)

end Capture

namespace Process

variable {ceiling : Nat} {consumer : Consumer} {process : Process} {reads : List (Rat × Bytes)}
  {instant : Rat}

theorem capture_of_isUnfailing {horizon : Option Rat}
    (unfailing : (process.capture ceiling consumer horizon).IsUnfailing) :
    process.capture ceiling consumer horizon = process.capture ceiling .result horizon :=
  Capture.ofReads_of_isUnfailing unfailing

theorem passesAt?_of_exceeded
    (exceeded : (process.capture ceiling consumer none).finish = some (instant, .exceeded)) :
    process.passesAt? ceiling = some instant := by
  have unfailing : (process.capture ceiling consumer none).IsUnfailing := by
    intro other failed
    cases exceeded.symm.trans failed
  rw [capture_of_isUnfailing unfailing, capture_finish fun _ => rfl] at exceeded
  cases passes : process.passesAt? ceiling with
  | some other => simpa [passes] using exceeded
  | none => simp [passes] at exceeded

theorem closedAt_of_closed
    (closed : (process.capture ceiling consumer none).finish = some (instant, .closed)) :
    process.passesAt? ceiling = none ∧ (process.pipe .stdout).closedAt = some instant := by
  have unfailing : (process.capture ceiling consumer none).IsUnfailing := by
    intro other failed
    cases closed.symm.trans failed
  rw [capture_of_isUnfailing unfailing, capture_finish fun _ => rfl] at closed
  cases passes : process.passesAt? ceiling with
  | some other => simp [passes] at closed
  | none => exact ⟨rfl, by simpa [passes] using closed⟩

/-- What a reader has passed on depends on when the bytes were written, not on how they are cut. -/
theorem flatten_chunks_of_isCut (isCut : (process.pipe .stdout).IsCut reads)
    {closedAt : Option Rat} {now : Rat}
    (unfailing : (Capture.ofReads ceiling consumer (some now) closedAt 0 0 reads).IsUnfailing) :
    (Capture.ofReads ceiling consumer (some now) closedAt 0 0 reads).chunks.flatten =
      (Pipe.bytesBy now (process.pipe .stdout).pieces).take ceiling := by
  rw [Capture.ofReads_of_isUnfailing unfailing,
    Capture.flatten_chunks (fun _ => rfl) now isCut.ordered (Nat.zero_le _), isCut.same,
    Nat.sub_zero]

theorem flatten_capture {now : Rat}
    (unfailing : (process.capture ceiling consumer (some now)).IsUnfailing) :
    (process.capture ceiling consumer (some now)).chunks.flatten =
      (Pipe.bytesBy now (process.pipe .stdout).pieces).take ceiling :=
  flatten_chunks_of_isCut (Pipe.isCut_reads (process.pairwise_pieces .stdout)) unfailing

/-- With other reads a reader is done when it is with those of the process, and by every instant it
has passed on the same bytes, in chunks that are not empty, unless the consumer fails. -/
structure IsReadAlike (process : Process) (ceiling : Nat) (consumer : Consumer)
    (reads : List (Rat × Bytes)) : Prop where
  finish :
    let other := Capture.ofReads ceiling consumer none (process.pipe .stdout).closedAt 0 0 reads
    let own := process.capture ceiling consumer none
    other.IsUnfailing → own.IsUnfailing → other.finish = own.finish
  chunks : ∀ now,
    let other :=
      Capture.ofReads ceiling consumer (some now) (process.pipe .stdout).closedAt 0 0 reads
    let own := process.capture ceiling consumer (some now)
    other.IsUnfailing → own.IsUnfailing → other.chunks.flatten = own.chunks.flatten
  solid : ∀ horizon,
    [] ∉ (Capture.ofReads ceiling consumer horizon (process.pipe .stdout).closedAt 0 0 reads).chunks

theorem isReadAlike_of_isCut (isCut : (process.pipe .stdout).IsCut reads) (ceiling : Nat)
    (consumer : Consumer) : process.IsReadAlike ceiling consumer reads where
  finish other own := by
    rw [Capture.ofReads_of_isUnfailing other, capture_of_isUnfailing own,
      process.capture_finish fun _ => rfl, Capture.finish_ofReads (fun _ => rfl) _ (Nat.zero_le _),
      isCut.passes? (process.pairwise_pieces .stdout), passesAt?]
  chunks now other own := by
    rw [flatten_chunks_of_isCut isCut other, flatten_capture own]
  solid horizon := Capture.nil_notMem_chunks horizon 0 0

end Process

end AnalysisEngines
