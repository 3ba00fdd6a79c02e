import AnalysisEngines.Batch.Log
import AnalysisEngines.Proofs.Batch.Report
import AnalysisEngines.Proofs.Log.Isolation
import AnalysisEngines.Proofs.Run.Scope
import Mathlib.Data.List.Sort

/-!
# The steps of a batch in order of time

What the tasks of a batch note, in the order in which they take their steps, is what the batch
reports: `map_notesUnder`.
-/

set_option autoImplicit false

namespace AnalysisEngines

namespace Chronology

variable {α β : Type}

/-- Reading what stands at each moment, where there is something to read. -/
def readAt (read : α → Option β) (entry : Moment × α) : Option (Moment × β) :=
  (read entry.2).map fun value => (entry.1, value)

/-- Entries by their moments. -/
def NotAfter (left right : Moment × α) : Prop := left.1 ≤ right.1

instance : DecidableRel (@NotAfter α) := fun left right => inferInstanceAs (Decidable (left.1 ≤ right.1))

theorem readAt_moment {read : α → Option β} {entry : Moment × α} {value : Moment × β}
    (reads : readAt read entry = some value) : value.1 = entry.1 := by
  obtain ⟨_, -, rfl⟩ := Option.map_eq_some_iff.mp reads
  rfl

/-- Of an entry that is put in its place by time, what is read stands in its place by time. -/
theorem filterMap_orderedInsert (read : α → Option β) (entry : Moment × α)
    {entries : List (Moment × α)} (ordered : entries.Pairwise NotAfter) :
    (entries.orderedInsert NotAfter entry).filterMap (readAt read) =
      match readAt read entry with
      | some value => (entries.filterMap (readAt read)).orderedInsert NotAfter value
      | none => entries.filterMap (readAt read) := by
  induction entries with
  | nil => cases reads : readAt read entry <;> simp [reads]
  | cons first rest ih =>
      obtain ⟨bounds, tail⟩ := List.pairwise_cons.mp ordered
      by_cases before : NotAfter entry first
      · rw [List.orderedInsert_cons_of_le _ _ before]
        cases reads : readAt read entry with
        | none => simp [reads]
        | some value =>
            have later : ∀ other ∈ (first :: rest).filterMap (readAt read), NotAfter value other := by
              intro other member
              obtain ⟨source, inEntries, found⟩ := List.mem_filterMap.mp member
              unfold NotAfter
              rw [readAt_moment reads, readAt_moment found]
              rcases List.mem_cons.mp inEntries with rfl | inRest
              · exact before
              · exact le_trans before (bounds source inRest)
            rw [List.filterMap_cons, reads]
            cases listed : (first :: rest).filterMap (readAt read) with
            | nil => rfl
            | cons second others =>
                rw [listed] at later
                exact (List.orderedInsert_cons_of_le _ _ (later second List.mem_cons_self)).symm
      · rw [List.orderedInsert_of_not_le _ _ before, List.filterMap_cons, ih tail]
        cases reads : readAt read entry with
        | none => cases known : readAt read first <;> simp [known]
        | some value =>
            cases known : readAt read first with
            | none => simp [known]
            | some other =>
                have behind : ¬ NotAfter value other := by
                  unfold NotAfter
                  rw [readAt_moment reads, readAt_moment known]
                  exact before
                simp [known, List.orderedInsert_of_not_le _ _ behind]

/-- Reading commutes with what is kept by its moment. -/
theorem filterMap_filter_moment (read : α → Option β) (keeps : Moment → Bool)
    (entries : List (Moment × α)) :
    (entries.filter fun entry => keeps entry.1).filterMap (readAt read) =
      (entries.filterMap (readAt read)).filter fun entry => keeps entry.1 := by
  rw [List.filterMap_filter, List.filter_filterMap]
  apply List.filterMap_congr
  intro entry _
  cases reads : readAt read entry with
  | none => simp
  | some value => simp [readAt_moment reads, Option.filter]

/-- Entries in order of time; those of one moment stay as they stand. -/
def sorted (entries : List (Moment × α)) : List (Moment × α) :=
  entries.mergeSort fun left right => left.1.le right.1

theorem pairwise_sorted (entries : List (Moment × α)) : (sorted entries).Pairwise NotAfter := by
  refine List.pairwise_mergeSort (fun first second third before after => ?_) (fun left right => ?_) _
  · exact le_trans (α := Moment) before after
  · rw [Bool.or_eq_true]
    exact le_total (α := Moment) left.1 right.1

/-- One entry more is put in front of those that are not earlier. -/
theorem sorted_cons (entry : Moment × α) (rest : List (Moment × α)) :
    sorted (entry :: rest) = (sorted rest).orderedInsert NotAfter entry := by
  obtain ⟨earlier, later, whole, rests, before⟩ := @List.mergeSort_cons _
    (fun left right : Moment × α => left.1.le right.1)
    (fun _ _ _ first second => le_trans (α := Moment) first second)
    (fun left right => by
      rw [Bool.or_eq_true]
      exact le_total (α := Moment) left.1 right.1) entry rest
  have ordered := pairwise_sorted (entry :: rest)
  unfold sorted at ordered ⊢
  rw [whole] at ordered ⊢
  rw [rests]
  clear whole rests
  induction earlier with
  | nil =>
      cases later with
      | nil => rfl
      | cons second others =>
          have bound := (List.pairwise_cons.mp ordered).1 second List.mem_cons_self
          exact (List.orderedInsert_cons_of_le _ _ bound).symm
  | cons first others ih =>
      have behind : ¬ NotAfter entry first := by
        unfold NotAfter
        rw [Moment.le_def]
        simpa using before first List.mem_cons_self
      have rests := ih (fun other member => before other (List.mem_cons_of_mem _ member))
        (List.pairwise_cons.mp ordered).2
      simp only [List.cons_append, List.orderedInsert_of_not_le _ _ behind, rests]

/-- What is read of entries in order of time is what is read of them, in order of time. -/
theorem filterMap_sorted (read : α → Option β) (entries : List (Moment × α)) :
    (sorted entries).filterMap (readAt read) = sorted (entries.filterMap (readAt read)) := by
  induction entries with
  | nil => simp [sorted]
  | cons entry rest ih =>
      rw [sorted_cons, filterMap_orderedInsert _ _ (pairwise_sorted rest), ih]
      cases reads : readAt read entry with
      | none => rw [List.filterMap_cons_none reads]
      | some value => rw [List.filterMap_cons_some reads, sorted_cons]

end Chronology

open Log Log.Step Chronology

/-! ## The steps of one job -/

/-- Whether a note is one of a run. -/
def BatchNote.isOfRun : BatchNote → Bool
  | .run .. => true
  | _ => false

namespace Batch

variable {batch : Batch} {place : Nat} {grant : Grant}

/-- The steps of a job: notes of its own, or its run between notes of its own. -/
inductive Takes (batch : Batch) (place : Nat) (grant : Grant) :
    List (Moment × Step BatchNote) → Prop where
  | idle : (∀ entry ∈ grant.performance.notes, entry.2.isOfRun = false) →
      Takes batch place grant (ofNotes grant.performance.notes)
  | run {execution : Execution} {closing : List BatchNote} :
      execution = Execution.run (batch.request grant.job) grant.moment →
      grant.performance.notes = begun place grant.job grant.moment ::
        (execution.notes.map fun entry =>
          (entry.1, BatchNote.run place grant.job.spec.name entry.2)) ++
        closing.map (fun note => (execution.finish, note)) →
      (∀ note ∈ closing, note.isOfRun = false) →
      (execution.result = .error .unending → closing = []) →
      Takes batch place grant (ofNotes [begun place grant.job grant.moment] ++
        ((execution.steps (batch.request grant.job) grant.moment).map fun entry =>
          (entry.1, entry.2.map (BatchNote.run place grant.job.spec.name))) ++
        ofNotes (closing.map fun note => (execution.finish, note)))

theorem Closes.isOfRun_eq {job : Job} {ended : Except RunProblem RunResult}
    {notes : List BatchNote} {slot : Option Slot} (closes : batch.Closes place job ended notes slot) :
    (∀ note ∈ notes, note.isOfRun = false) ∧ (ended = .error .unending → notes = []) := by
  cases closes <;> simp_all [BatchNote.isOfRun]

theorem takes (found : batch.schedule.granted[place]? = some grant) :
    batch.Takes place grant (grant.steps batch place) := by
  have performs := performs_of_getElem? found
  generalize performed : grant.performance = performance at performs
  cases performs with
  | skipped =>
      have idle : ∀ entry ∈ grant.performance.notes, entry.2.isOfRun = false := by
        simp [performed, BatchNote.isOfRun]
      simpa only [Grant.steps, performed] using Takes.idle idle
  | raised =>
      have idle : ∀ entry ∈ grant.performance.notes, entry.2.isOfRun = false := by
        simp [performed, BatchNote.isOfRun, begun]
      simpa only [Grant.steps, performed] using Takes.idle idle
  | @run execution closing slot _ _ began closes =>
      obtain ⟨apart, silent⟩ := closes.isOfRun_eq
      have notes : grant.performance.notes = begun place grant.job grant.moment ::
          (execution.notes.map fun entry =>
            (entry.1, BatchNote.run place grant.job.spec.name entry.2)) ++
          closing.map fun note => (execution.finish, note) := by rw [performed]
      have first : grant.performance.notes.take 1 = [begun place grant.job grant.moment] := by
        rw [notes]
        rfl
      have behind : grant.performance.notes.drop (1 + execution.notes.length) =
          closing.map fun note => (execution.finish, note) := by
        rw [notes, Nat.add_comm, List.cons_append, List.drop_succ_cons]
        exact List.drop_left' (List.length_map _)
      have runs : grant.performance.execution = some execution := by rw [performed]
      have steps := Takes.run began notes apart silent
      simpa only [Grant.steps, runs, behind, first] using steps

theorem filterMap_ofNotes {α : Type} (notes : List (Moment × α)) :
    (ofNotes notes).filterMap (readAt noted?) = notes := by
  unfold ofNotes
  rw [List.filterMap_map]
  exact List.filterMap_some

theorem filterMap_steps (request : Request) (origin : Moment) (execution : Execution) :
    (execution.steps request origin).filterMap (readAt noted?) = execution.notes := by
  have runs := filterMap_ofNotes execution.notes
  have entered : readAt noted? (origin, (Step.enter request.bindings : Step Note)) = none := rfl
  have left : readAt noted? (execution.finish, (Step.leave : Step Note)) = none := rfl
  rcases execution.steps_cases request origin with ⟨-, steps⟩ | ⟨-, steps⟩
  · rw [steps, List.filterMap_cons_none entered, runs]
  · rw [steps, List.filterMap_cons_none entered, List.filterMap_append, runs,
      List.filterMap_cons_none left, List.filterMap_nil, List.append_nil]

/-- The steps of a job note what the job notes. -/
theorem Takes.notes {steps : List (Moment × Step BatchNote)} (takes : batch.Takes place grant steps) :
    steps.filterMap (readAt noted?) = grant.performance.notes := by
  cases takes with
  | idle => exact filterMap_ofNotes _
  | @run execution _ _ notes =>
      have renamed : ∀ entry : Moment × Step Note,
          readAt noted? (entry.1, entry.2.map (BatchNote.run place grant.job.spec.name)) =
            (readAt noted? entry).map fun noted =>
              (noted.1, BatchNote.run place grant.job.spec.name noted.2) := by
        rintro ⟨moment, step⟩
        cases step <;> rfl
      have runs := filterMap_steps (batch.request grant.job) grant.moment execution
      rw [notes, List.filterMap_append, List.filterMap_append, filterMap_ofNotes,
        filterMap_ofNotes, List.filterMap_map, Function.comp_def]
      simp only [renamed]
      rw [← List.map_filterMap, runs]
      rfl

/-! ## The steps of all jobs -/

/-- The steps of all jobs note what all jobs note. -/
theorem filterMap_jobSteps (batch : Batch) :
    batch.jobSteps.filterMap (readAt fun step => step.2.noted?) =
      (batch.schedule.granted.map (·.performance)).flatMap (·.notes) := by
  have own : ∀ entry ∈ batch.schedule.granted.zipIdx,
      ((entry.1.steps batch entry.2).map fun step => (step.1, some entry.2, step.2)).filterMap
          (readAt fun step => step.2.noted?) = entry.1.performance.notes := by
    rintro ⟨grant, place⟩ member
    rw [List.filterMap_map]
    exact (takes (List.mem_zipIdx_iff_getElem?.mp member)).notes
  unfold jobSteps
  rw [List.filterMap_flatMap, List.flatMap_congr own, List.flatMap_map]
  calc
    batch.schedule.granted.zipIdx.flatMap (fun entry => entry.1.performance.notes) =
        (batch.schedule.granted.zipIdx.map (·.1)).flatMap (·.performance.notes) := by
      rw [List.flatMap_map]
    _ = batch.schedule.granted.flatMap (·.performance.notes) := by rw [List.zipIdx_map_fst]

/-- What is noted until the batch ends, in order of time, and then what the caller notes. -/
theorem report_notes (batch : Batch) :
    ∃ own, batch.report.notes = inOrder
        (((batch.schedule.granted.map (·.performance)).flatMap (·.notes)).filter fun entry =>
          batch.lastsUntil entry.1) ++ own ∧
      ∀ entry ∈ own, entry.2.job? = none := by
  unfold report lastsUntil
  dsimp only
  cases ended : Moment.earliest? (batch.cancellations batch.schedule) with
  | some first => exact ⟨[], (List.append_nil _).symm, by simp⟩
  | none =>
      dsimp only
      rw [List.filter_true]
      split
      · exact ⟨[], (List.append_nil _).symm, by simp⟩
      · split
        · exact ⟨[], (List.append_nil _).symm, by simp⟩
        · exact ⟨_, rfl, by simp [BatchNote.job?]⟩

/-- All that a job notes is about it. -/
theorem isAbout_flatMap (batch : Batch) :
    ∀ entry ∈ (batch.schedule.granted.map (·.performance)).flatMap (·.notes),
      entry.2.job? ≠ none := by
  intro entry member
  obtain ⟨performance, performed, noted⟩ := List.mem_flatMap.mp member
  obtain ⟨grant, granted, rfl⟩ := List.mem_map.mp performed
  obtain ⟨place, performs⟩ := (performs_of_mem granted).2
  obtain ⟨_, areOf⟩ := performs.areOf
  rw [areOf.job entry noted]
  simp

/-- The steps of a batch note what it reports. -/
theorem filterMap_trace (batch : Batch) :
    batch.trace.filterMap (readAt fun step => step.2.noted?) = batch.report.notes := by
  obtain ⟨own, reported, ofCaller⟩ := report_notes batch
  have callers : batch.report.notes.filter (fun entry => entry.2.job?.isNone) = own := by
    rw [reported, List.filter_append, List.filter_eq_nil_iff.mpr, List.nil_append]
    · exact List.filter_eq_self.mpr fun entry member => by simp [ofCaller entry member]
    · intro entry member
      have about := isAbout_flatMap batch entry (List.mem_filter.mp (mem_inOrder.mp member)).1
      simpa [Option.isNone_iff_eq_none] using about
  have noted : batch.ownSteps.filterMap (readAt fun step => step.2.noted?) = own := by
    unfold ownSteps
    rw [callers, List.filterMap_map]
    exact List.filterMap_some
  have jobs := filterMap_sorted (fun step : Option Nat × Step BatchNote => step.2.noted?)
    (batch.jobSteps.filter fun step => batch.lastsUntil step.1)
  have kept : (batch.jobSteps.filter fun step => batch.lastsUntil step.1).filterMap
        (readAt fun step => step.2.noted?) =
      ((batch.schedule.granted.map (·.performance)).flatMap (·.notes)).filter fun entry =>
        batch.lastsUntil entry.1 := by
    rw [← filterMap_jobSteps]
    exact filterMap_filter_moment _ _ _
  rw [kept] at jobs
  unfold trace
  rw [List.filterMap_append, noted, reported]
  exact congrArg (· ++ own) jobs

/-- What the tasks of a batch note is what it reports, in the same order. -/
theorem map_notesUnder (batch : Batch) (caller : Journal) :
    (batch.notesUnder caller).map (·.2.1) = batch.report.notes := by
  unfold notesUnder tasks
  rw [Journals.map_notesUnder, List.filterMap_map, ← filterMap_trace]
  apply List.filterMap_congr
  rintro ⟨moment, task, step⟩ _
  cases step <;> rfl

/-! ## The steps of one job in order of time -/

/-- Entries in order of time, none of them outside a span of time. -/
structure Spans {α : Type} (origin finish : Moment) (entries : List (Moment × α)) : Prop where
  ordered : entries.Pairwise NotAfter
  bounded : ∀ entry ∈ entries, origin ≤ entry.1 ∧ entry.1 ≤ finish

namespace Spans

variable {α β : Type} {origin middle finish : Moment} {earlier later entries : List (Moment × α)}

theorem nil : Spans (α := α) origin finish [] := ⟨.nil, by simp⟩

theorem single (moment : Moment) (value : α) : Spans moment moment [(moment, value)] :=
  ⟨List.pairwise_singleton .., by simp⟩

theorem append (before : Spans origin middle earlier) (after : Spans middle finish later)
    (order : origin ≤ middle) (order' : middle ≤ finish) :
    Spans origin finish (earlier ++ later) := by
  constructor
  · refine List.pairwise_append.mpr ⟨before.ordered, after.ordered, ?_⟩
    intro entry member other inLater
    exact (before.bounded entry member).2.trans (after.bounded other inLater).1
  · intro entry member
    rcases List.mem_append.mp member with inEarlier | inLater
    · exact ⟨(before.bounded entry inEarlier).1, (before.bounded entry inEarlier).2.trans order'⟩
    · exact ⟨order.trans (after.bounded entry inLater).1, (after.bounded entry inLater).2⟩

/-- What changes the values only keeps the moments. -/
theorem map (spans : Spans origin finish entries) (change : α → β) :
    Spans origin finish (entries.map fun entry => (entry.1, change entry.2)) := by
  constructor
  · exact List.pairwise_map.mpr spans.ordered
  · intro entry member
    obtain ⟨source, inEntries, rfl⟩ := List.mem_map.mp member
    exact spans.bounded source inEntries

end Spans

/-- A run takes its steps in order of time, from its beginning to its end. -/
theorem spans_steps (request : Request) (origin : Moment) :
    Spans origin (Execution.run request origin).finish
      ((Execution.run request origin).steps request origin) := by
  have order := Execution.le_finish request origin
  have notes : Spans origin (Execution.run request origin).finish
      (ofNotes (Execution.run request origin).notes) :=
    Spans.map ⟨Execution.pairwise_notes request origin, fun _ => Execution.mem_notes_le⟩ Step.note
  have enters := Spans.single origin (Step.enter request.bindings : Step Note)
  rcases (Execution.run request origin).steps_cases request origin with ⟨-, steps⟩ | ⟨-, steps⟩
  · rw [steps]
    exact enters.append notes (le_refl _) order
  · rw [steps]
    exact enters.append (notes.append (.single _ _) order (le_refl _)) (le_refl _) order

/-- A job takes its steps in order of time. -/
theorem Takes.pairwise {steps : List (Moment × Step BatchNote)}
    (takes : batch.Takes place grant steps)
    (performs : batch.Performs place grant.job grant.moment grant.performance) :
    steps.Pairwise NotAfter := by
  cases takes with
  | idle =>
      obtain ⟨_, areOf⟩ := performs.areOf
      exact List.pairwise_map.mpr areOf.ordered
  | @run execution closing began =>
      have order := Execution.le_finish (batch.request grant.job) grant.moment
      have runs := (spans_steps (batch.request grant.job) grant.moment).map fun step =>
        step.map (BatchNote.run place grant.job.spec.name)
      rw [← began] at order runs
      have begins := Spans.single grant.moment (Step.note (begun place grant.job grant.moment).2)
      have closes : Spans execution.finish execution.finish
          (ofNotes (closing.map fun note => (execution.finish, note))) := by
        constructor
        · exact List.pairwise_map.mpr (List.pairwise_map.mpr
            (List.pairwise_of_forall fun _ _ => le_refl _))
        · simp [ofNotes]
      exact ((begins.append runs (le_refl _) order).append closes order (le_refl _)).ordered

/-- What is not later than a moment stands in front, in a list in order of time. -/
theorem filter_prefix {α : Type} {entries : List (Moment × α)} {keeps : Moment → Bool}
    (ordered : entries.Pairwise NotAfter)
    (early : ∀ first second, first ≤ second → keeps second = true → keeps first = true) :
    (entries.filter fun entry => keeps entry.1) <+: entries := by
  induction entries with
  | nil => exact List.prefix_refl _
  | cons entry rest ih =>
      obtain ⟨bounds, tail⟩ := List.pairwise_cons.mp ordered
      cases kept : keeps entry.1 with
      | true =>
          rw [List.filter_cons, if_pos kept]
          exact (List.prefix_cons_inj _).mpr (ih tail)
      | false =>
          have none : (entry :: rest).filter (fun entry => keeps entry.1) = [] := by
            apply List.filter_eq_nil_iff.mpr
            intro other member holds
            rcases List.mem_cons.mp member with rfl | inRest
            · rw [kept] at holds
              cases holds
            · rw [early _ _ (bounds other inRest) holds] at kept
              cases kept
          rw [none]
          exact List.nil_prefix

theorem lastsUntil_mono {first second : Moment} (order : first ≤ second)
    (lasts : batch.lastsUntil second = true) : batch.lastsUntil first = true := by
  unfold lastsUntil at lasts ⊢
  cases ended : Moment.earliest? (batch.cancellations batch.schedule) with
  | none => rfl
  | some last =>
      rw [ended] at lasts
      exact le_trans (α := Moment) order lasts

/-- Among entries spread out in their places, those of one place. -/
theorem flatMap_zipIdx_at {γ δ : Type} (entries : List γ) (spread : γ → List δ) (first place : Nat) :
    (entries.zipIdx first).flatMap (fun entry =>
        if entry.2 = first + place then spread entry.1 else []) =
      (entries[place]?).elim [] spread := by
  induction entries generalizing first place with
  | nil => rfl
  | cons entry rest ih =>
      rw [List.zipIdx_cons, List.flatMap_cons]
      cases place with
      | zero =>
          have others : (rest.zipIdx (first + 1)).flatMap (fun entry =>
              if entry.2 = first + 0 then spread entry.1 else []) = [] := by
            apply List.flatMap_eq_nil_iff.mpr
            intro other member
            have later := List.le_snd_of_mem_zipIdx member
            exact if_neg (by omega)
          rw [others, List.append_nil, if_pos (Nat.add_zero first).symm]
          rfl
      | succ place =>
          have rests := ih (first + 1) place
          rw [Nat.add_right_comm] at rests
          rw [if_neg (by omega), List.nil_append, ← Nat.add_assoc, rests]
          rfl

/-- The steps of one job among those of all jobs. -/
theorem jobSteps_at (batch : Batch) (place : Nat) :
    batch.jobSteps.filterMap (readAt fun step =>
        if step.1 = some place then some step.2 else none) =
      (batch.schedule.granted[place]?).elim [] fun grant => grant.steps batch place := by
  have spread := flatMap_zipIdx_at batch.schedule.granted (fun grant => grant.steps batch place) 0 place
  rw [← spread]
  unfold jobSteps
  rw [List.filterMap_flatMap]
  apply List.flatMap_congr
  rintro ⟨grant, other⟩ _
  rw [List.filterMap_map]
  by_cases same : other = place
  · subst same
    simp [readAt, Function.comp_def]
  · simp [readAt, Function.comp_def, same]

theorem stepsOf_tasks (batch : Batch) (task : Option Nat) :
    Journals.stepsOf task batch.tasks =
      (batch.trace.filterMap (readAt fun step =>
        if step.1 = task then some step.2 else none)).map keyed := by
  unfold Journals.stepsOf tasks
  rw [List.filterMap_map, List.map_filterMap]
  apply List.filterMap_congr
  rintro ⟨moment, other, step⟩ _
  by_cases same : other = task <;> simp [readAt, same]

/-- A job takes its steps as it would alone, until the batch ends. -/
theorem stepsOf_tasks_prefix (batch : Batch) (place : Nat) :
    Journals.stepsOf (some place) batch.tasks <+:
      ((batch.schedule.granted[place]?).elim [] fun grant => grant.steps batch place).map keyed := by
  have ordered : ((batch.schedule.granted[place]?).elim [] fun grant =>
      grant.steps batch place).Pairwise NotAfter := by
    cases found : batch.schedule.granted[place]? with
    | none => exact .nil
    | some grant => exact (takes found).pairwise (performs_of_getElem? found)
  have early := filter_prefix ordered fun _ _ => @lastsUntil_mono batch _ _
  have callers : batch.ownSteps.filterMap (readAt fun step =>
      if step.1 = some place then some step.2 else none) = [] := by
    apply List.filterMap_eq_nil_iff.mpr
    intro step member
    obtain ⟨entry, -, rfl⟩ := List.mem_map.mp member
    rfl
  have kept : (sorted (batch.jobSteps.filter fun step => batch.lastsUntil step.1)).filterMap
        (readAt fun step => if step.1 = some place then some step.2 else none) =
      ((batch.schedule.granted[place]?).elim [] fun grant =>
        grant.steps batch place).filter fun step => batch.lastsUntil step.1 := by
    rw [filterMap_sorted, filterMap_filter_moment, jobSteps_at]
    exact List.mergeSort_of_pairwise (ordered.filter _)
  unfold sorted at kept
  rw [stepsOf_tasks, trace, List.filterMap_append, kept, callers, List.append_nil]
  exact early.map keyed

/-- The caller notes what it notes, and enters no scope. -/
theorem stepsOf_tasks_none (batch : Batch) :
    ∃ notes : List (Moment × BatchNote),
      Journals.stepsOf none batch.tasks = notes.map Step.note ∧
      ∀ entry ∈ notes, entry.2.job? = none := by
  refine ⟨batch.report.notes.filter fun entry => entry.2.job?.isNone, ?_, ?_⟩
  · have jobs : (sorted (batch.jobSteps.filter fun step => batch.lastsUntil step.1)).filterMap
        (readAt fun step => if step.1 = none then some step.2 else none) = [] := by
      apply List.filterMap_eq_nil_iff.mpr
      intro step member
      have inJobs := (List.mem_filter.mp (List.mem_mergeSort.mp member)).1
      obtain ⟨_, -, own⟩ := List.mem_flatMap.mp inJobs
      obtain ⟨_, -, rfl⟩ := List.mem_map.mp own
      rfl
    unfold sorted at jobs
    rw [stepsOf_tasks, trace, List.filterMap_append, jobs, List.nil_append, ownSteps,
      List.filterMap_map, List.map_filterMap, ← List.filterMap_eq_map]
    apply List.filterMap_congr
    intro entry _
    rfl
  · intro entry member
    simpa using (List.mem_filter.mp member).2

end Batch

end AnalysisEngines
