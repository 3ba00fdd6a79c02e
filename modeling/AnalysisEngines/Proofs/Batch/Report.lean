import AnalysisEngines.Proofs.Batch.Performance
import AnalysisEngines.Proofs.Batch.Schedule
import AnalysisEngines.Proofs.Run.Execution

/-!
# The report of a batch

The notes of a batch about one job are the notes of its performance, and the slots of a batch are
those that its performances fill, in the order of the jobs.
-/

set_option autoImplicit false

namespace AnalysisEngines

namespace BatchNote

/-- The notes about the job at a place. -/
def notesOf (place : Nat) (notes : List (Moment × BatchNote)) : List (Moment × BatchNote) :=
  notes.filter fun entry => entry.2.job? = some place

theorem notesOf_append (place : Nat) (earlier later : List (Moment × BatchNote)) :
    notesOf place (earlier ++ later) = notesOf place earlier ++ notesOf place later :=
  List.filter_append ..

theorem notesOf_eq_self {place : Nat} {notes : List (Moment × BatchNote)}
    (about : ∀ entry ∈ notes, entry.2.job? = some place) : notesOf place notes = notes :=
  List.filter_eq_self.mpr fun entry member => decide_eq_true (about entry member)

theorem notesOf_eq_nil {place : Nat} {notes : List (Moment × BatchNote)}
    (about : ∀ entry ∈ notes, entry.2.job? ≠ some place) : notesOf place notes = [] :=
  List.filter_eq_nil_iff.mpr fun entry member => by simpa using about entry member

/-- Only the notes about a job are told of it. -/
theorem told_notesOf (place : Nat) (notes : List (Moment × BatchNote)) :
    told place (notesOf place notes) = told place notes := by
  unfold told notesOf
  rw [List.filterMap_filter]
  apply List.filterMap_congr
  intro entry _
  obtain ⟨moment, note⟩ := entry
  cases note <;> simp [told?, job?]

end BatchNote

namespace Batch

variable {batch : Batch}

theorem performs_of_getElem? {place : Nat} {grant : Grant}
    (found : batch.schedule.granted[place]? = some grant) :
    batch.Performs place grant.job grant.moment grant.performance := by
  rw [batch.isOf_schedule.performed place grant found]
  exact performs ..

/-- A job that was granted a slot is one of the batch, and it is performed in its place. -/
theorem performs_of_mem {grant : Grant} (member : grant ∈ batch.schedule.granted) :
    grant.job ∈ batch.jobs ∧ ∃ place, batch.Performs place grant.job grant.moment grant.performance := by
  obtain ⟨place, found⟩ := List.mem_iff_getElem?.mp member
  refine ⟨?_, place, performs_of_getElem? found⟩
  rw [← batch.isOf_schedule.jobs]
  exact List.mem_append_left _ (List.mem_map_of_mem member)

/-! ## Notes -/

/-- Sorting notes by time does not disturb those that are in order. -/
theorem filter_inOrder {keeps : Moment × BatchNote → Bool} {notes : List (Moment × BatchNote)}
    (ordered : (notes.filter keeps).Pairwise fun earlier later => earlier.1 ≤ later.1) :
    (inOrder notes).filter keeps = notes.filter keeps := by
  have kept : List.Sublist (notes.filter keeps) (inOrder notes) := by
    refine List.sublist_mergeSort ?_ ?_ ordered List.filter_sublist
    · intro first second third before after
      exact le_trans (α := Moment) before after
    · intro left right
      exact by
        rw [Bool.or_eq_true]
        exact le_total (α := Moment) left.1 right.1
  have within := kept.filter keeps
  rw [List.filter_filter] at within
  simp only [Bool.and_self] at within
  refine (within.eq_of_length ?_).symm
  exact (((List.mergeSort_perm notes _).filter _).length_eq).symm

/-- Among the notes of several performances, those about one job are of its performance. -/
theorem notesOf_flatMap {performances : List Performance} {first place : Nat}
    {performance : Performance}
    (about : ∀ later other, performances[later]? = some other →
      ∀ entry ∈ other.notes, entry.2.job? = some (first + later))
    (found : performances[place]? = some performance) :
    BatchNote.notesOf (first + place) (performances.flatMap (·.notes)) = performance.notes := by
  induction performances generalizing first place with
  | nil => cases found
  | cons head rest ih =>
      have headNotes : ∀ entry ∈ head.notes, entry.2.job? = some first := about 0 head rfl
      have restNotes : ∀ later other, rest[later]? = some other →
          ∀ entry ∈ other.notes, entry.2.job? = some (first + 1 + later) := by
        intro later other foundOther
        rw [Nat.add_assoc, Nat.add_comm 1]
        exact about (later + 1) other foundOther
      rw [List.flatMap_cons, BatchNote.notesOf_append]
      cases place with
      | zero =>
          cases found
          rw [Nat.add_zero, BatchNote.notesOf_eq_self headNotes, BatchNote.notesOf_eq_nil,
            List.append_nil]
          intro entry member
          obtain ⟨other, inRest, noted⟩ := List.mem_flatMap.mp member
          obtain ⟨later, foundOther⟩ := List.mem_iff_getElem?.mp inRest
          rw [restNotes later other foundOther entry noted]
          simp
          omega
      | succ place =>
          rw [BatchNote.notesOf_eq_nil, List.nil_append, ← Nat.add_assoc, Nat.add_right_comm]
          · exact ih restNotes found
          · intro entry member
            rw [headNotes entry member]
            simp

/-- The notes of a batch about a job that was granted a slot. -/
theorem notesOf_granted {place : Nat} {grant : Grant}
    (found : batch.schedule.granted[place]? = some grant) :
    BatchNote.notesOf place
        (inOrder ((batch.schedule.granted.map (·.performance)).flatMap (·.notes))) =
      grant.performance.notes := by
  have areOf : ∀ later other, (batch.schedule.granted.map (·.performance))[later]? = some other →
      ∃ finish origin, AreOf later origin finish other.notes := by
    intro later other foundOther
    rw [List.getElem?_map] at foundOther
    obtain ⟨granted, foundGrant, rfl⟩ := Option.map_eq_some_iff.mp foundOther
    obtain ⟨finish, areOf⟩ := (performs_of_getElem? foundGrant).areOf
    exact ⟨finish, _, areOf⟩
  have performance : (batch.schedule.granted.map (·.performance))[place]? =
      some grant.performance := by
    rw [List.getElem?_map, found, Option.map_some]
  have unsorted := @notesOf_flatMap _ 0 place _ (fun later other foundOther => by
    obtain ⟨_, _, areOf⟩ := areOf later other foundOther
    rw [Nat.zero_add]
    exact areOf.job) performance
  rw [Nat.zero_add] at unsorted
  obtain ⟨_, _, own⟩ := areOf place _ performance
  refine (filter_inOrder ?_).trans unsorted
  change (BatchNote.notesOf place _).Pairwise _
  rw [unsorted]
  exact own.ordered

theorem mem_inOrder {notes : List (Moment × BatchNote)} {entry : Moment × BatchNote} :
    entry ∈ inOrder notes ↔ entry ∈ notes := List.mem_mergeSort

/-- What a batch notes is noted by its jobs, but for what it says of itself in the end. -/
theorem mem_notes_report {entry : Moment × BatchNote} (member : entry ∈ batch.report.notes) :
    (∃ grant ∈ batch.schedule.granted, entry ∈ grant.performance.notes) ∨
      ∃ jobs failed skipped, entry.2 = .complete jobs failed skipped := by
  have noted : ∀ entry ∈ (batch.schedule.granted.map (·.performance)).flatMap (·.notes),
      ∃ grant ∈ batch.schedule.granted, entry ∈ grant.performance.notes := by
    intro entry inNotes
    obtain ⟨performance, performed, own⟩ := List.mem_flatMap.mp inNotes
    obtain ⟨grant, granted, rfl⟩ := List.mem_map.mp performed
    exact ⟨grant, granted, own⟩
  unfold report at member
  dsimp only at member
  cases ended : Moment.earliest? (batch.cancellations batch.schedule) with
  | some first =>
      rw [ended] at member
      exact .inl (noted entry (List.mem_filter.mp (mem_inOrder.mp member)).1)
  | none =>
      rw [ended] at member
      dsimp only at member
      split at member
      · exact .inl (noted entry (mem_inOrder.mp member))
      · split at member
        · exact .inl (noted entry (mem_inOrder.mp member))
        · rcases List.mem_append.mp member with inNotes | last
          · exact .inl (noted entry (mem_inOrder.mp inNotes))
          · rw [List.mem_singleton.mp last]
            exact .inr ⟨_, _, _, rfl⟩

/-! ## Slots -/

/-- The slots that have been filled, in the order of the grants. -/
def filled (batch : Batch) : List (Moment × Slot) :=
  (batch.schedule.granted.map (·.performance)).filterMap (·.settled)

/-- A batch that returns has filled a slot for each of its jobs, and says so last. -/
theorem report_of_result {slots : List Slot} (returned : batch.report.result = .ok slots) :
    slots = batch.filled.map (·.2) ∧ batch.jobs.length ≤ batch.filled.length ∧
      batch.report.notes =
        inOrder ((batch.schedule.granted.map (·.performance)).flatMap (·.notes)) ++
          [(batch.report.finish,
            .complete slots.length (slots.countP (·.isProblem)) (slots.countP (·.isSkipped)))] := by
  unfold report at returned ⊢
  dsimp only at returned ⊢
  cases ended : Moment.earliest? (batch.cancellations batch.schedule) with
  | some first =>
      rw [ended] at returned
      cases returned
  | none =>
      rw [ended] at returned
      dsimp only at returned ⊢
      split at returned
      · cases returned
      · rename_i all
        split at returned
        · cases returned
        · rename_i inTime
          cases returned
          rw [if_neg all, if_neg inTime]
          exact ⟨rfl, not_lt.mp all, rfl⟩

/-- A batch that has filled a slot for each of its jobs has granted one to each of them, and they
have all settled. -/
theorem settled_of_filled (all : batch.jobs.length ≤ batch.filled.length) :
    batch.schedule.waiting = [] ∧
      ∀ grant ∈ batch.schedule.granted, grant.performance.settled.isSome := by
  have count := congrArg List.length batch.isOf_schedule.jobs
  rw [List.length_append, List.length_map] at count
  have most : batch.filled.length ≤ batch.schedule.granted.length := by
    unfold filled
    simpa only [List.length_map] using List.length_filterMap_le Performance.settled
      (batch.schedule.granted.map (·.performance))
  have even : batch.filled.length = (batch.schedule.granted.map (·.performance)).length := by
    rw [List.length_map]
    omega
  refine ⟨List.eq_nil_of_length_eq_zero (by omega), fun grant member => ?_⟩
  exact List.filterMap_length_eq_length.mp even _ (List.mem_map_of_mem member)

/-- Every job of a batch that returns was granted a slot in its turn, and has filled it. -/
theorem granted_of_result {slots : List Slot} (returned : batch.report.result = .ok slots) :
    batch.schedule.granted.map (·.job) = batch.jobs ∧
      slots.map some = batch.schedule.granted.map fun grant =>
        grant.performance.settled.map (·.2) := by
  obtain ⟨rfl, all, -⟩ := report_of_result returned
  obtain ⟨noneWaits, settled⟩ := settled_of_filled all
  refine ⟨by rw [← batch.isOf_schedule.jobs, noneWaits, List.append_nil], ?_⟩
  have kept : batch.filled.map some =
      (batch.schedule.granted.map (·.performance)).map (·.settled) := by
    unfold filled
    rw [List.map_filterMap_some_eq_filter_map_isSome, List.filter_eq_self]
    intro filled member
    obtain ⟨_, performed, rfl⟩ := List.mem_map.mp member
    obtain ⟨grant, granted, rfl⟩ := List.mem_map.mp performed
    exact settled grant granted
  calc
    (batch.filled.map (·.2)).map some = (batch.filled.map some).map (Option.map (·.2)) := by
      simp only [List.map_map, Function.comp_def, Option.map_some]
    _ = batch.schedule.granted.map fun grant => grant.performance.settled.map (·.2) := by
      simp only [kept, List.map_map, Function.comp_def]

/-- A batch ends with the first of its jobs that ends cancelled. -/
theorem report_of_cancellation {first : Moment}
    (ended : Moment.earliest? (batch.cancellations batch.schedule) = some first) :
    batch.report.result = .error .cancelled ∧ batch.report.finish = first.pass unwindTurns := by
  unfold report
  dsimp only
  rw [ended]
  exact ⟨rfl, rfl⟩

/-- A batch that is cancelled when all its jobs have ended otherwise ends with the last of them. -/
theorem report_of_overrun (cancelled : batch.report.result = .error .cancelled)
    (ended : Moment.earliest? (batch.cancellations batch.schedule) = none) :
    batch.jobs.length ≤ batch.filled.length ∧
      batch.report.finish = latest (batch.filled.map (·.1)) := by
  unfold report at cancelled ⊢
  dsimp only at cancelled ⊢
  rw [ended] at cancelled ⊢
  dsimp only at cancelled ⊢
  split at cancelled
  · cases cancelled
  · rename_i all
    split at cancelled
    · rename_i overrun
      rw [if_neg all, if_pos overrun]
      exact ⟨not_lt.mp all, rfl⟩
    · cases cancelled

theorem le_latest {moments : List Moment} {moment : Moment} (member : moment ∈ moments) :
    moment ≤ latest moments := by
  have onward : ∀ known : Moment, known ≤ moments.foldl Moment.later known ∧
      ∀ other ∈ moments, other ≤ moments.foldl Moment.later known := by
    clear member
    induction moments with
    | nil => simp
    | cons first rest ih =>
        intro known
        obtain ⟨seed, others⟩ := ih (known.later first)
        rw [Moment.later_eq_max] at seed
        refine ⟨(le_max_left _ _).trans seed, fun other member => ?_⟩
        rcases List.mem_cons.mp member with rfl | inRest
        · exact (le_max_right _ _).trans seed
        · exact others other inRest
  exact (onward .start).2 moment member

/-- A batch that nobody cancels returns if every job that is granted a slot settles. -/
theorem result_of_settles (slots : 1 ≤ batch.slots) (uncancelled : batch.cancelAt = none)
    (settles : ∀ grant ∈ batch.schedule.granted, grant.performance.settled ≠ none)
    (kept : ∀ grant ∈ batch.schedule.granted, ∀ finish slot,
      grant.performance.settled = some (finish, slot) → slot.isCancelled = false) :
    ∃ slots, batch.report.result = .ok slots := by
  have noneWaits := waiting_schedule slots uncancelled settles
  have noneCancelled : batch.cancellations batch.schedule = [] := by
    unfold cancellations
    rw [uncancelled, List.append_nil]
    apply List.filterMap_eq_nil_iff.mpr
    intro grant member
    cases settled : grant.performance.settled with
    | none => rfl
    | some settlement => simp [kept grant member _ _ settled]
  have all : batch.filled.length = batch.jobs.length := by
    rw [← batch.isOf_schedule.jobs, noneWaits, List.append_nil, List.length_map]
    unfold filled
    rw [List.filterMap_length_eq_length.mpr, List.length_map]
    intro performance member
    obtain ⟨grant, granted, rfl⟩ := List.mem_map.mp member
    exact Option.isSome_iff_ne_none.mpr (settles grant granted)
  have inTime : ∀ finishes, batch.isOverrun finishes = false := fun finishes => by
    simp [isOverrun, uncancelled]
  refine ⟨batch.filled.map (·.2), ?_⟩
  unfold report
  simp only [noneCancelled, Moment.earliest?, inTime, Bool.false_eq_true, if_false]
  rw [if_neg (by rw [← all]; exact lt_irrefl _)]
  rfl

end Batch

end AnalysisEngines
