import AnalysisEngines.Batch.Schedule
import AnalysisEngines.Proofs.Run.Passage

/-!
# What a job notes

A job notes nothing but what concerns it, in order of time.  Its listeners are told of a start, and
of a finish where the job has a result.
-/

set_option autoImplicit false

namespace AnalysisEngines

/-- What listeners are told of the job at a place. -/
def BatchNote.told? (place : Nat) : BatchNote → Option Happening
  | .happening job what => if job = place then some what else none
  | _ => none

namespace BatchNote

/-- What listeners are told of the job at a place, in order. -/
def told (place : Nat) (notes : List (Moment × BatchNote)) : List Happening :=
  notes.filterMap fun entry => entry.2.told? place

theorem told_cons (place : Nat) (entry : Moment × BatchNote) (notes : List (Moment × BatchNote)) :
    told place (entry :: notes) = (entry.2.told? place).toList ++ told place notes := by
  cases happens : entry.2.told? place <;> simp [told, happens]

theorem told_append (place : Nat) (earlier later : List (Moment × BatchNote)) :
    told place (earlier ++ later) = told place earlier ++ told place later :=
  List.filterMap_append

end BatchNote

namespace Batch

variable {batch : Batch} {place : Nat} {job : Job} {origin : Moment} {performance : Performance}

/-- Notes about one job, in order of time, none of them outside a span of time. -/
structure AreOf (place : Nat) (origin finish : Moment) (notes : List (Moment × BatchNote)) :
    Prop where
  job : ∀ entry ∈ notes, entry.2.job? = some place
  ordered : notes.Pairwise fun earlier later => earlier.1 ≤ later.1
  bounded : ∀ entry ∈ notes, origin ≤ entry.1 ∧ entry.1 ≤ finish

/-- Notes of one moment. -/
theorem AreOf.atOnce {moment : Moment} {notes : List BatchNote}
    (job : ∀ note ∈ notes, note.job? = some place) :
    AreOf place moment moment (notes.map fun note => (moment, note)) := by
  constructor
  · intro entry member
    obtain ⟨note, noted, rfl⟩ := List.mem_map.mp member
    exact job note noted
  · exact List.pairwise_map.mpr (List.pairwise_of_forall fun _ _ => le_refl _)
  · intro entry member
    obtain ⟨_, -, rfl⟩ := List.mem_map.mp member
    exact ⟨le_refl _, le_refl _⟩

theorem AreOf.single {moment : Moment} {note : BatchNote} (job : note.job? = some place) :
    AreOf place moment moment [(moment, note)] :=
  @AreOf.atOnce place moment [note] (by simpa using job)

theorem AreOf.append {middle finish : Moment} {earlier later : List (Moment × BatchNote)}
    (before : AreOf place origin middle earlier) (after : AreOf place middle finish later)
    (order : origin ≤ middle) (order' : middle ≤ finish) :
    AreOf place origin finish (earlier ++ later) := by
  constructor
  · intro entry member
    exact (List.mem_append.mp member).elim (before.job entry) (after.job entry)
  · refine List.pairwise_append.mpr ⟨before.ordered, after.ordered, fun entry member other inLater => ?_⟩
    exact (before.bounded entry member).2.trans (after.bounded other inLater).1
  · intro entry member
    rcases List.mem_append.mp member with inEarlier | inLater
    · exact ⟨(before.bounded entry inEarlier).1, (before.bounded entry inEarlier).2.trans order'⟩
    · exact ⟨order.trans (after.bounded entry inLater).1, (after.bounded entry inLater).2⟩

/-- The notes of a run are about its job. -/
theorem areOf_run (place : Nat) (engine : String) (request : Request) (origin : Moment) :
    AreOf place origin (Execution.run request origin).finish
      ((Execution.run request origin).notes.map fun entry =>
        (entry.1, BatchNote.run place engine entry.2)) := by
  constructor
  · intro entry member
    obtain ⟨_, -, rfl⟩ := List.mem_map.mp member
    rfl
  · exact List.pairwise_map.mpr (Execution.pairwise_notes request origin)
  · intro entry member
    obtain ⟨note, noted, rfl⟩ := List.mem_map.mp member
    exact Execution.mem_notes_le noted

/-! ## How a job is performed -/

/-- The note with which a job begins. -/
def begun (place : Nat) (job : Job) (origin : Moment) : Moment × BatchNote :=
  (origin, .happening place (.started job.engine job.details))

/-- What a job notes when its run has ended, and the slot that it fills, if the run ever ends. -/
inductive Closes (batch : Batch) (place : Nat) (job : Job) :
    Except RunProblem RunResult → List BatchNote → Option Slot → Prop where
  | unending : Closes batch place job (.error .unending) [] none
  | cancelled : Closes batch place job (.error .cancelled) [] (some (.problem (.run .cancelled)))
  | failed (problem : RunProblem) : problem ≠ .unending → problem ≠ .cancelled →
      Closes batch place job (.error problem) [.failed place job.engine problem.message]
        (some (.problem (.run problem)))
  | raised (result : RunResult) (problem : ListenerProblem) :
      batch.listener.raises? .finished = some problem →
      Closes batch place job (.ok result)
        [.happening place (.finished job.engine job.details result),
          .failed place job.engine problem.message] (some (.problem (.listener problem)))
  | finished (result : RunResult) : batch.listener.raises? .finished = none →
      Closes batch place job (.ok result)
        [.happening place (.finished job.engine job.details result)] (some (.result result))

/-- How a job is performed whose turn comes at a moment: it is skipped, its listener raises at once,
or it is run. -/
inductive Performs (batch : Batch) (place : Nat) (job : Job) (origin : Moment) :
    Performance → Prop where
  | skipped : batch.isAbortedBy origin.instant = true →
      Performs batch place job origin
        { notes := [(origin, .skipped place job.engine)], settled := some (origin, .skipped) }
  | raised (problem : ListenerProblem) : batch.isAbortedBy origin.instant = false →
      batch.listener.raises? .started = some problem →
      Performs batch place job origin
        { notes := [begun place job origin, (origin, .failed place job.engine problem.message)]
          settled := some (origin, .problem (.listener problem)) }
  | run {execution : Execution} {closing : List BatchNote} {slot : Option Slot} :
      batch.isAbortedBy origin.instant = false → batch.listener.raises? .started = none →
      execution = Execution.run (batch.request job) origin →
      Closes batch place job execution.result closing slot →
      Performs batch place job origin
        { notes := begun place job origin :: (execution.notes.map fun entry =>
              (entry.1, BatchNote.run place job.spec.name entry.2)) ++
            closing.map fun note => (execution.finish, note)
          settled := slot.map fun slot => (execution.finish, slot)
          execution := some execution }

theorem performs (batch : Batch) (place : Nat) (job : Job) (origin : Moment) :
    batch.Performs place job origin (batch.perform place job origin) := by
  cases aborted : batch.isAbortedBy origin.instant with
  | true =>
      rw [perform, if_pos aborted]
      exact .skipped aborted
  | false =>
      cases heard : batch.listener.raises? .started with
      | some problem =>
          simp only [perform, runJob, aborted, heard]
          exact .raised problem aborted heard
      | none =>
          have runs := fun closing slot => @Performs.run batch place job origin _ closing slot
            aborted heard rfl
          simp only [perform, runJob, aborted, heard]
          generalize Execution.run (batch.request job) origin = execution at runs ⊢
          cases ended : execution.result with
          | error problem =>
              rw [ended] at runs
              by_cases unending : problem = .unending
              · subst unending
                simpa [begun] using runs _ _ .unending
              by_cases cancelled : problem = .cancelled
              · subst cancelled
                simpa [begun] using runs _ _ .cancelled
              have failed := runs _ _ (.failed problem unending cancelled)
              cases problem <;> simp_all [begun, JobProblem.message]
          | ok result =>
              rw [ended] at runs
              cases told : batch.listener.raises? .finished with
              | some problem =>
                  simpa [begun, told, JobProblem.message] using runs _ _ (.raised result problem told)
              | none => simpa [begun, told] using runs _ _ (.finished result told)

namespace Closes

variable {ended : Except RunProblem RunResult} {notes : List BatchNote} {slot : Option Slot}

theorem job?_eq (closes : batch.Closes place job ended notes slot) :
    ∀ note ∈ notes, note.job? = some place := by
  cases closes <;> simp [BatchNote.job?]

/-- A job settles unless its run never ends. -/
theorem eq_none_iff (closes : batch.Closes place job ended notes slot) :
    slot = none ↔ ended = .error .unending := by
  cases closes <;> simp_all

/-- A job ends cancelled if its run does. -/
theorem isCancelled_iff {filled : Slot} (closes : batch.Closes place job ended notes (some filled)) :
    filled.isCancelled = true ↔ ended = .error .cancelled := by
  cases closes with
  | cancelled => simp [Slot.isCancelled]
  | failed problem _ uncancelled => cases problem <;> simp_all [Slot.isCancelled]
  | raised => simp [Slot.isCancelled]
  | finished => simp [Slot.isCancelled]

theorem isSkipped_eq {filled : Slot} (closes : batch.Closes place job ended notes (some filled)) :
    filled.isSkipped = false := by
  cases closes <;> rfl

theorem not_started (closes : batch.Closes place job ended notes slot) {engine : EngineLabel}
    {details : List (Value × Value)} :
    ∀ note ∈ notes, note.happening? ≠ some (.started engine details) := by
  cases closes <;> simp [BatchNote.happening?]

end Closes

namespace Performs

/-- The notes of a performance are about its job. -/
theorem areOf (performs : batch.Performs place job origin performance) :
    ∃ finish, AreOf place origin finish performance.notes := by
  have starts : AreOf place origin origin [begun place job origin] := .single rfl
  cases performs with
  | skipped => exact ⟨origin, .single rfl⟩
  | raised problem => exact ⟨origin, starts.append (.single rfl) (le_refl _) (le_refl _)⟩
  | run _ _ began closes =>
      have order := Execution.le_finish (batch.request job) origin
      have runs := areOf_run place job.spec.name (batch.request job) origin
      rw [← began] at order runs
      exact ⟨_, (starts.append runs (le_refl _) order).append (.atOnce closes.job?_eq) order
        (le_refl _)⟩

/-- A job that is run is run from the moment of its grant, and settles when its run ends. -/
theorem of_execution (performs : batch.Performs place job origin performance)
    {execution : Execution} (runs : performance.execution = some execution) :
    execution = Execution.run (batch.request job) origin ∧
      ∃ closing slot, batch.Closes place job execution.result closing slot ∧
        performance.settled = slot.map fun slot => (execution.finish, slot) := by
  cases performs with
  | skipped => cases runs
  | raised => cases runs
  | run _ _ began closes =>
      cases runs
      exact ⟨began, _, _, closes, rfl⟩

/-- A job settles unless it is run and its run never ends. -/
theorem settled_iff (performs : batch.Performs place job origin performance) :
    performance.settled ≠ none ↔
      ∀ execution, performance.execution = some execution →
        execution.result ≠ .error .unending := by
  cases performs with
  | skipped => simp
  | raised => simp
  | run _ _ _ closes => simp [closes.eq_none_iff]

/-- A job ends cancelled only if its run does. -/
theorem of_isCancelled (performs : batch.Performs place job origin performance) {finish : Moment}
    {slot : Slot} (settles : performance.settled = some (finish, slot))
    (cancelled : slot.isCancelled = true) :
    (Execution.run (batch.request job) origin).result = .error .cancelled := by
  cases performs with
  | skipped =>
      cases settles
      cases cancelled
  | raised =>
      cases settles
      cases cancelled
  | run _ _ began closes =>
      obtain ⟨filled, rfl, same⟩ := Option.map_eq_some_iff.mp settles
      cases same
      rw [← began]
      exact closes.isCancelled_iff.mp cancelled

/-- A job is skipped exactly if its turn comes after the abort. -/
theorem isSkipped_eq (performs : batch.Performs place job origin performance) {finish : Moment}
    {slot : Slot} (settles : performance.settled = some (finish, slot)) :
    slot.isSkipped = batch.isAbortedBy origin.instant := by
  cases performs with
  | skipped aborted =>
      cases settles
      exact aborted.symm
  | raised _ unaborted =>
      cases settles
      exact unaborted.symm
  | run unaborted _ _ closes =>
      obtain ⟨filled, rfl, same⟩ := Option.map_eq_some_iff.mp settles
      cases same
      rw [closes.isSkipped_eq, unaborted]

/-- A job whose turn comes after the abort notes nothing else. -/
theorem notes_of_isAbortedBy (performs : batch.Performs place job origin performance)
    (aborted : batch.isAbortedBy origin.instant = true) :
    performance.notes = [(origin, .skipped place job.engine)] := by
  cases performs with
  | skipped => rfl
  | raised _ unaborted => cases aborted.symm.trans unaborted
  | run unaborted => cases aborted.symm.trans unaborted

end Performs

/-! ## What listeners are told -/

/-- What listeners are told of a job that fills a slot. -/
inductive Brackets (job : Job) : Slot → List Happening → Prop where
  | result (result : RunResult) :
      Brackets job (.result result)
        [.started job.engine job.details, .finished job.engine job.details result]
  | problem (problem : JobProblem) :
      Brackets job (.problem problem) [.started job.engine job.details]
  | skipped : Brackets job .skipped []

/-- Nothing that a run notes is for listeners. -/
theorem told_run (place : Nat) (engine : String) (notes : List (Moment × Note)) :
    BatchNote.told place (notes.map fun entry => (entry.1, BatchNote.run place engine entry.2)) =
      [] := by
  apply List.filterMap_eq_nil_iff.mpr
  intro entry member
  obtain ⟨_, -, rfl⟩ := List.mem_map.mp member
  rfl

/-- Without a listener that raises, a job tells of its finish exactly where it has a result. -/
theorem Closes.brackets {ended : Except RunProblem RunResult} {notes : List BatchNote} {slot : Slot}
    (closes : batch.Closes place job ended notes (some slot))
    (silent : batch.listener.raises? .finished = none) (moment : Moment) :
    Brackets job slot (.started job.engine job.details ::
      BatchNote.told place (notes.map fun note => (moment, note))) := by
  cases closes with
  | cancelled => exact .problem _
  | failed problem => exact .problem _
  | raised _ _ raises => cases silent.symm.trans raises
  | finished result => simpa [BatchNote.told, BatchNote.told?] using Brackets.result result

/-- A job that settles has told its listeners what belongs to its slot. -/
theorem Performs.brackets (performs : batch.Performs place job origin performance)
    (silent : ∀ hook, batch.listener.raises? hook = none) {finish : Moment} {slot : Slot}
    (settles : performance.settled = some (finish, slot)) :
    Brackets job slot (BatchNote.told place performance.notes) := by
  cases performs with
  | skipped =>
      cases settles
      exact .skipped
  | raised _ _ raises => cases (silent .started).symm.trans raises
  | @run execution _ _ _ _ _ closes =>
      obtain ⟨filled, rfl, same⟩ := Option.map_eq_some_iff.mp settles
      cases same
      have begins : (begun place job origin).2.told? place =
          some (.started job.engine job.details) := if_pos rfl
      have told := closes.brackets (silent .finished) execution.finish
      rwa [List.cons_append, BatchNote.told_cons, begins, BatchNote.told_append, told_run]

/-- No start is told after the abort. -/
theorem Performs.unaborted (performs : batch.Performs place job origin performance)
    {entry : Moment × BatchNote} {engine : EngineLabel} {details : List (Value × Value)}
    (member : entry ∈ performance.notes)
    (starts : entry.2.happening? = some (.started engine details)) :
    batch.isAbortedBy entry.1.instant = false := by
  cases performs with
  | skipped =>
      rw [List.mem_singleton.mp member] at starts
      cases starts
  | raised _ unaborted => rcases List.mem_pair.mp member with rfl | rfl <;> exact unaborted
  | run unaborted _ _ closes =>
      simp only [List.cons_append, List.mem_cons, List.mem_append, List.mem_map] at member
      rcases member with rfl | ⟨_, -, rfl⟩ | ⟨note, noted, rfl⟩
      · exact unaborted
      · cases starts
      · exact absurd starts (closes.not_started note noted)

end Batch

end AnalysisEngines
