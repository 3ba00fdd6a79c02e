import AnalysisEngines.Proofs.Batch.Chronology

/-!
# Attribution of log entries in a batch

Whatever the other jobs of a batch log, bind or unbind in between, what a job logs during its run
carries the name of its engine, and the caller keeps the variables that it had:
`log_isAttributed`.
-/

set_option autoImplicit false

namespace AnalysisEngines

open Log Log.Step

/-- What a run reports about itself says nothing of its engine. -/
theorem Notice.engine_notMem_fields (notice : Notice) :
    "engine" ∉ notice.entry.fields.map (·.1) := by
  cases notice <;> simp [Notice.entry, Container.callEntry, RunResult.summary]

/-- A notice that is written in the scope of a run carries the engine of the run. -/
theorem Notice.lookup_engine (notice : Notice) (request : Request) (known : Fields) :
    (notice.entry.under (assignFields request.bindings known)).fields.lookup "engine" =
      some request.engineText := by
  unfold Entry.under
  rw [lookup_assignFields _ notice.engine_notMem_fields]
  exact (lookup_assignField ..).trans (if_pos rfl)

namespace Batch

variable {batch : Batch} {place : Nat} {grant : Grant}

/-! ## One job -/

theorem keyed_map (change : Note → BatchNote) (steps : List (Moment × Step Note)) :
    (steps.map fun entry => (entry.1, entry.2.map change)).map keyed =
      steps.map fun entry => entry.2.map fun note => (entry.1, change note) := by
  rw [List.map_map]
  apply List.map_congr_left
  rintro ⟨moment, step⟩ _
  cases step <;> rfl

/-- What a run notes is noted with its variables bound over those of its caller. -/
theorem mem_notesUnder_steps {request : Request} {origin : Moment} {execution : Execution}
    {change : Moment × Note → Moment × BatchNote} {caller : Journal}
    {noted : (Moment × BatchNote) × Fields}
    (member : noted ∈ caller.notesUnder ((execution.steps request origin).map fun entry =>
      entry.2.map fun note => change (entry.1, note))) :
    (∃ entry ∈ execution.notes, noted.1 = change entry) ∧
      noted.2 = assignFields request.bindings caller.bound := by
  rw [Execution.notesUnder_steps] at member
  obtain ⟨entry, inNotes, rfl⟩ := List.mem_map.mp member
  exact ⟨⟨entry, inNotes, rfl⟩, rfl⟩

/-- What a job notes of its run is noted with the variables of its run bound. -/
theorem Takes.bound_of_isOfRun {steps : List (Moment × Step BatchNote)}
    (takes : batch.Takes place grant steps) {caller : Journal} {noted : (Moment × BatchNote) × Fields}
    (member : noted ∈ caller.notesUnder (steps.map keyed)) (ofRun : noted.1.2.isOfRun = true) :
    noted.2 = assignFields (batch.request grant.job).bindings caller.bound ∧
      ∃ note, noted.1.2 = .run place grant.job.spec.name note := by
  have other : ∀ {notes : List (Moment × BatchNote)} {journal : Journal},
      (∀ entry ∈ notes, entry.2.isOfRun = false) →
        noted ∉ journal.notesUnder (notes.map Step.note) := by
    intro notes journal apart inNotes
    rw [Journal.notesUnder_map_note] at inNotes
    obtain ⟨entry, known, rfl⟩ := List.mem_map.mp inNotes
    rw [apart entry known] at ofRun
    cases ofRun
  cases takes with
  | idle apart =>
      rw [keyed_ofNotes] at member
      exact absurd member (other apart)
  | @run execution closing _ _ apart =>
      rw [List.map_append, List.map_append, keyed_ofNotes, keyed_ofNotes, keyed_map,
        Journal.notesUnder_append, Journal.notesUnder_append] at member
      rcases List.mem_append.mp member with early | behind
      · rcases List.mem_append.mp early with first | inRun
        · exact absurd first (other (by simp [begun, BatchNote.isOfRun]))
        · rw [Journal.follow_map_note] at inRun
          obtain ⟨⟨entry, -, same⟩, bound⟩ := @mem_notesUnder_steps _ _ _
            (fun entry => (entry.1, BatchNote.run place grant.job.spec.name entry.2)) _ _ inRun
          exact ⟨bound, entry.2, by rw [same]⟩
      · refine absurd behind (other ?_)
        intro entry inClosing
        obtain ⟨note, closes, rfl⟩ := List.mem_map.mp inClosing
        exact apart note closes

/-! ## All jobs -/

/-- What is noted of the run of a job carries, in the log, the name of the job's engine. -/
def IsAttributed (batch : Batch) (noted : Option Nat × (Moment × BatchNote) × Fields) : Prop :=
  ∀ place engine notice, noted.2.1.2 = .run place engine (.notice notice) →
    ∃ job, batch.jobs[place]? = some job ∧
      (notice.entry.under noted.2.2).fields.lookup "engine" = some (.text job.spec.name)

/-- A job that takes its steps, or some of the first of them, has its run attributed, whatever other
tasks do in between. -/
theorem isAttributed_of_prefix (found : batch.schedule.granted[place]? = some grant)
    {trace : List (Option Nat × Step (Moment × BatchNote))}
    (initial : Journals.stepsOf (some place) trace <+: (grant.steps batch place).map keyed)
    {caller : Journal} {noted : Option Nat × (Moment × BatchNote) × Fields}
    (member : noted ∈ Journals.notesUnder trace fun _ => caller) (own : noted.1 = some place) :
    batch.IsAttributed noted := by
  obtain ⟨task, entry, bound⟩ := noted
  cases own
  intro other engine notice ofRun
  have alone := (Journals.mem_notesUnder_iff _ _ _ _ _).mp member
  have inJob := Journal.mem_notesUnder_of_prefix initial alone
  obtain ⟨bindings, note, same⟩ := (takes found).bound_of_isOfRun inJob (by
    dsimp only at ofRun
    rw [ofRun]
    rfl)
  cases ofRun.symm.trans same
  refine ⟨grant.job, ?_, ?_⟩
  · rw [← batch.isOf_schedule.jobs]
    have granted : (batch.schedule.granted.map (·.job))[place]? = some grant.job := by
      rw [List.getElem?_map, found, Option.map_some]
    rw [List.getElem?_append_left (List.getElem?_eq_some_iff.mp granted).1]
    exact granted
  · dsimp only at bindings ⊢
    rw [bindings]
    exact notice.lookup_engine (batch.request grant.job) caller.bound

/-- Every note in the log of a batch that a run has made carries the engine of its job; the log notes
all that the batch reports, in the same order; and the caller has the journal from before.  This does
not depend on the order in which the tasks take their steps, nor on what the others do: a job that
takes its own steps in any trace of tasks has its run attributed. -/
theorem log_isAttributed (batch : Batch) (caller : Journal) :
    (∀ noted ∈ batch.notesUnder caller, batch.IsAttributed noted) ∧
    (batch.notesUnder caller).map (·.2.1) = batch.report.notes ∧
    batch.callerAfter caller = caller ∧
    ∀ (trace : List (Option Nat × Step (Moment × BatchNote))) (place : Nat) (grant : Grant),
      batch.schedule.granted[place]? = some grant →
      Journals.stepsOf (some place) trace <+: (grant.steps batch place).map keyed →
      ∀ noted ∈ Journals.notesUnder trace (fun _ => caller), noted.1 = some place →
        batch.IsAttributed noted := by
  obtain ⟨ofCaller, callers, silent⟩ := stepsOf_tasks_none batch
  refine ⟨?_, map_notesUnder batch caller, ?_, ?_⟩
  · rintro ⟨task, entry, bound⟩ member
    cases task with
    | none =>
        have own := (Journals.mem_notesUnder_iff _ _ _ _ _).mp member
        rw [callers, Journal.notesUnder_map_note] at own
        obtain ⟨known, inNotes, same⟩ := List.mem_map.mp own
        cases same
        intro place engine notice ofRun
        have about := silent entry inNotes
        dsimp only at ofRun
        rw [ofRun] at about
        cases about
    | some place =>
        have initial := stepsOf_tasks_prefix batch place
        cases found : batch.schedule.granted[place]? with
        | none =>
            have own := (Journals.mem_notesUnder_iff _ _ _ _ _).mp member
            rw [found] at initial
            rw [List.prefix_nil.mp initial] at own
            cases own
        | some grant =>
            rw [found] at initial
            exact isAttributed_of_prefix found initial member rfl
  · unfold callerAfter
    rw [Journals.follow_apply, callers, Journal.follow_map_note]
  · intro trace place grant found initial noted member own
    exact isAttributed_of_prefix found initial member own

/-- Two jobs that run at the same time. -/
def crossing : Batch :=
  let lasting (name : String) (span : Rat) : Job :=
    { engine := { name }
      image := "image"
      spec := { name, command := some [name] }
      launch := { process := { name, timeline := Timeline.empty.schedule span (.exit 0) } } }
  { runtime := .host false []
    limits := {}
    jobs := [lasting "long" 9, lasting "short" 1] }

/-- The short job leaves its scope while the long one is in the middle of its own. -/
theorem crossing_isAttributed :
    (∃ grant, crossing.schedule.granted[0]? = some grant ∧
      ∀ noted ∈ Journals.notesUnder
          (((grant.steps crossing 0).take 2).map (fun step => (some 0, keyed step)) ++
            [(some 1, .enter [("engine", .text "short")]), (some 1, .leave)] ++
            ((grant.steps crossing 0).drop 2).map fun step => (some 0, keyed step))
          (fun _ => { bound := [("engine", .text "outer")] }),
        noted.1 = some 0 → crossing.IsAttributed noted) ∧
    crossing.callerAfter { bound := [("engine", .text "outer")] } =
      { bound := [("engine", .text "outer")] } := by
  obtain ⟨-, -, kept, attributed⟩ := log_isAttributed crossing { bound := [("engine", .text "outer")] }
  have granted : (crossing.schedule.granted[0]?).isSome = true := by decide +kernel
  obtain ⟨grant, found⟩ := Option.isSome_iff_exists.mp granted
  refine ⟨⟨grant, found, fun noted member ofLong => ?_⟩, kept⟩
  refine attributed _ 0 grant found ?_ noted member ofLong
  have own : ∀ steps : List (Moment × Step BatchNote),
      Journals.stepsOf (some 0) (steps.map fun step => (some 0, keyed step)) =
        steps.map keyed := by
    intro steps
    simp [Journals.stepsOf, List.filterMap_map]
  have others : Journals.stepsOf (some 0) [(some 1, (.enter [("engine", .text "short")] :
      Step (Moment × BatchNote))), (some 1, .leave)] = [] := rfl
  refine ⟨[], ?_⟩
  rw [List.append_nil, Journals.stepsOf_append, Journals.stepsOf_append, own, own, others,
    List.append_nil, ← List.map_append, List.take_append_drop]

end Batch

end AnalysisEngines
