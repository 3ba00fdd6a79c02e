import AnalysisEngines.Proofs.Batch.Bookkeeping

/-!
# All that is told

What listeners are told in a call, of all its jobs, is what belongs to the slots that the call has
filled.  Only the order is the order of time.
-/

set_option autoImplicit false

namespace AnalysisEngines

/-- What listeners are told of a job that fills a slot. -/
def Job.told (job : Job) : Slot → List Happening
  | .result result => [.started job.engine job.details, .finished job.engine job.details result]
  | .problem _ => [.started job.engine job.details]
  | .skipped => []

namespace BatchNote

/-- What listeners are told in notes. -/
def happenings (notes : List (Moment × BatchNote)) : List Happening :=
  notes.filterMap fun entry => entry.2.happening?

theorem happenings_cons (entry : Moment × BatchNote) (notes : List (Moment × BatchNote)) :
    happenings (entry :: notes) = entry.2.happening?.toList ++ happenings notes := by
  cases happens : entry.2.happening? <;> simp [happenings, happens]

theorem happenings_append (earlier later : List (Moment × BatchNote)) :
    happenings (earlier ++ later) = happenings earlier ++ happenings later :=
  List.filterMap_append

theorem happenings_flatMap {α : Type} (items : List α) (notes : α → List (Moment × BatchNote)) :
    happenings (items.flatMap notes) = items.flatMap fun item => happenings (notes item) :=
  List.filterMap_flatMap

/-- Nothing that a run notes is for listeners. -/
theorem happenings_run (place : Nat) (engine : String) (notes : List (Moment × Note)) :
    happenings (notes.map fun entry => (entry.1, BatchNote.run place engine entry.2)) = [] := by
  refine List.filterMap_eq_nil_iff.mpr fun entry member => ?_
  obtain ⟨_, -, rfl⟩ := List.mem_map.mp member
  rfl

/-- Of notes about one job all that is told is told of it. -/
theorem told_eq_happenings {place : Nat} {notes : List (Moment × BatchNote)}
    (about : ∀ entry ∈ notes, entry.2.job? = some place) : told place notes = happenings notes := by
  refine List.filterMap_congr fun entry member => ?_
  have own := about entry member
  obtain ⟨moment, note⟩ := entry
  cases note with
  | happening job what => exact if_pos (Option.some.inj own)
  | _ => rfl

end BatchNote

namespace Batch

variable {batch : Batch} {job : Job} {slot : Slot}

theorem Brackets.eq_told {happenings : List Happening} (brackets : Brackets job slot happenings) :
    happenings = job.told slot := by
  cases brackets <;> rfl

/-! ## A job that is run alone -/

/-- A job that is run alone tells what belongs to its slot. -/
theorem happenings_runJob (silent : ∀ hook, batch.listener.raises? hook = none) {place : Nat}
    {origin finish : Moment}
    (settles : (batch.runJob place job origin).settled = some (finish, slot)) :
    BatchNote.happenings (batch.runJob place job origin).notes = job.told slot := by
  have begins (notes : List (Moment × Note)) (later : List (Moment × BatchNote)) :
      BatchNote.happenings ((origin, .happening place (.started job.engine job.details)) ::
        (notes.map fun entry => (entry.1, BatchNote.run place job.spec.name entry.2)) ++ later) =
          .started job.engine job.details :: BatchNote.happenings later := by
    rw [BatchNote.happenings_append, BatchNote.happenings_cons, BatchNote.happenings_run]
    rfl
  unfold runJob at settles ⊢
  simp only [silent] at settles ⊢
  generalize Execution.run (batch.request job) origin = execution at settles ⊢
  obtain ⟨result, notes, last, engine⟩ := execution
  cases result with
  | ok result =>
      cases settles
      exact begins notes _
  | error problem =>
      have failed := begins notes []
      rw [List.append_nil] at failed
      cases problem <;> cases settles <;> exact failed

/-- A job that is run alone and comes to an end has settled. -/
theorem settled_of_single (returns : (batch.single job).slot ≠ .problem (.run .unending)) :
    ∃ finish, (batch.runJob 0 job .start).settled = some (finish, (batch.single job).slot) := by
  unfold single at returns ⊢
  cases settles : (batch.runJob 0 job .start).settled with
  | none => simp [settles] at returns
  | some settlement =>
      simp only [settles, Option.elim_some]
      exact ⟨settlement.1, rfl⟩

/-- A job that is run alone is not skipped. -/
theorem single_not_skipped (job : Job) : (batch.single job).slot ≠ .skipped := by
  unfold single runJob
  cases batch.listener.raises? .started with
  | some problem => simp
  | none =>
      dsimp only
      cases (Execution.run (batch.request job) .start).result with
      | ok result => cases batch.listener.raises? .finished <;> simp
      | error problem => cases problem <;> simp

/-! ## A batch -/

theorem happenings_granted (silent : ∀ hook, batch.listener.raises? hook = none) {grant : Grant}
    (member : grant ∈ batch.schedule.granted) {finish : Moment}
    (settles : grant.performance.settled = some (finish, slot)) :
    BatchNote.happenings grant.performance.notes = grant.job.told slot := by
  obtain ⟨-, place, performs⟩ := performs_of_mem member
  obtain ⟨_, areOf⟩ := performs.areOf
  rw [← BatchNote.told_eq_happenings areOf.job]
  exact (performs.brackets silent settles).eq_told

/-- What is told of jobs with slots is told of each of them with its own. -/
theorem flatMap_happenings {grants : List Grant} {slots : List Slot}
    (fills : slots.map some = grants.map fun grant => grant.performance.settled.map (·.2))
    (tells : ∀ grant ∈ grants, ∀ finish slot, grant.performance.settled = some (finish, slot) →
      BatchNote.happenings grant.performance.notes = grant.job.told slot) :
    (grants.flatMap fun grant => BatchNote.happenings grant.performance.notes) =
      ((grants.map (·.job)).zip slots).flatMap fun entry => entry.1.told entry.2 := by
  induction grants generalizing slots with
  | nil => rfl
  | cons grant rest ih =>
      cases slots with
      | nil => cases fills
      | cons slot later =>
          obtain ⟨own, others⟩ := List.cons.inj fills
          obtain ⟨⟨finish, _⟩, settles, rfl⟩ := Option.map_eq_some_iff.mp own.symm
          rw [List.flatMap_cons, tells grant List.mem_cons_self finish _ settles,
            ih others fun grant member => tells grant (List.mem_cons_of_mem _ member)]
          rfl

/-- A batch that returns has told, in some order, what belongs to its slots. -/
theorem perm_happenings (silent : ∀ hook, batch.listener.raises? hook = none) {slots : List Slot}
    (returned : batch.report.result = .ok slots) :
    (BatchNote.happenings batch.report.notes).Perm
      ((batch.jobs.zip slots).flatMap fun entry => entry.1.told entry.2) := by
  obtain ⟨-, -, notes⟩ := report_of_result returned
  obtain ⟨jobs, fills⟩ := granted_of_result returned
  have unordered : (BatchNote.happenings batch.report.notes).Perm
      (BatchNote.happenings ((batch.schedule.granted.map (·.performance)).flatMap (·.notes))) := by
    rw [notes, BatchNote.happenings_append]
    exact (List.append_nil _).symm ▸ (List.mergeSort_perm _ _).filterMap _
  rw [List.flatMap_map, BatchNote.happenings_flatMap] at unordered
  rw [← jobs, ← flatMap_happenings fills fun grant member finish slot settles =>
    happenings_granted silent member settles]
  exact unordered

/-- No listener is told of a job that a batch skips. -/
theorem told_of_skipped (silent : ∀ hook, batch.listener.raises? hook = none) {slots : List Slot}
    (returned : batch.report.result = .ok slots) {place : Nat}
    (skipped : slots[place]? = some .skipped) :
    ∀ entry ∈ batch.report.notes, entry.2.job? = some place → entry.2.happening? = none := by
  intro entry member about
  obtain ⟨grant, -, accounts⟩ := accounts_of_result silent returned skipped
  have idle := accounts.idle rfl
  have own : entry ∈ BatchNote.notesOf place batch.report.notes :=
    List.mem_filter.mpr ⟨member, decide_eq_true about⟩
  rw [idle, List.mem_singleton] at own
  rw [own]
  rfl

end Batch

end AnalysisEngines
