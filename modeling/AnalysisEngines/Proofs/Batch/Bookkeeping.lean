import AnalysisEngines.Proofs.Batch.Logging
import AnalysisEngines.Proofs.Batch.Report

/-!
# The books of a batch

A batch that nobody cancels returns a slot for each job, and what its listeners and its log are told
agrees with the slots: `report_isBalanced`.
-/

set_option autoImplicit false

namespace AnalysisEngines

open Log

/-- No notice of a run says that a batch is complete. -/
theorem Notice.event_ne_complete (notice : Notice) :
    notice.entry.event ≠ "engine_batch_complete" := by
  cases notice <;> simp [Notice.entry, Container.callEntry]

/-- Nor does anything that listeners log. -/
theorem Listener.writes_other :
    Listener.Writes fun entry => entry.event ≠ "engine_batch_complete" where
  heard happening := by cases happening <;> simp [logEntry]
  raised _ _ _ := by simp [problemEntry]

namespace Aftermath

/-! ## What is added note by note -/

/-- What is seen of what is left behind, if each note adds to it. -/
theorem foldl_of_adds {α β : Type} {step : Aftermath → α → Aftermath} {view : Aftermath → List β}
    {added : α → List β} (adds : ∀ past item, view (step past item) = view past ++ added item)
    (items : List α) (past : Aftermath) :
    view (items.foldl step past) = view past ++ items.flatMap added := by
  have along : items.foldl (fun known item => known ++ added item) (view past) =
      view (items.foldl step past) := List.foldl_hom view fun known item => (adds known item).symm
  rw [← along, List.foldl_append_eq_append, List.flatMap_def]

/-- What the recording listeners of a name have heard, and when. -/
def heardBy (id : String) (past : Aftermath) : List (Rat × Happening) :=
  past.calls.filterMap fun call => (call.2.heardBy? id).map fun happening => (call.1, happening)

/-- What each of a number of ears hears of a note. -/
def heardOf (ears : Nat) (entry : Moment × BatchNote) : List (Rat × Happening) :=
  match entry.2.happening? with
  | some happening => List.replicate ears (entry.1.instant, happening)
  | none => []

theorem heardBy_append (id : String) (past : Aftermath) (instant : Rat) (audience : Audience) :
    heardBy id { past with
        calls := past.calls ++ audience.calls.map fun call => (instant, call) } =
      past.heardBy id ++ (audience.heardBy id).map fun happening => (instant, happening) := by
  unfold heardBy Audience.heardBy
  rw [List.filterMap_append, List.filterMap_map, List.map_filterMap]
  rfl

theorem heardBy_hearUnder (id : String) (listener : Listener) (past : Aftermath)
    (entry : Moment × BatchNote) (bound : Fields) :
    (past.hearUnder listener entry bound).heardBy id =
      past.heardBy id ++ heardOf (listener.ears id) entry := by
  obtain ⟨moment, note⟩ := entry
  cases note with
  | happening job happening =>
      have heard := Listener.heardBy_notify id happening listener { store := past.store }
      have empty : Audience.heardBy id { store := past.store } = [] := rfl
      rw [empty, List.nil_append] at heard
      have appended := heardBy_append id past moment.instant
        ((listener.notify happening).after { store := past.store })
      rw [heard, List.map_replicate] at appended
      exact appended
  | _ => exact (List.append_nil _).symm

/-- The log entries that say that a batch is complete. -/
def completions (past : Aftermath) : List Entry :=
  past.logs.filter fun entry => entry.event == "engine_batch_complete"

theorem completions_append (past : Aftermath) (entries : List Entry) :
    completions { past with logs := past.logs ++ entries } =
      past.completions ++ entries.filter (·.event == "engine_batch_complete") :=
  List.filter_append ..

/-- Of a note, what the log says of the whole batch. -/
def completionOf (noted : (Moment × BatchNote) × Fields) : List Entry :=
  if noted.1.2.job?.isNone then (noted.1.2.written?.map (·.under noted.2)).toList else []

theorem flatMap_completionOf (noted : List ((Moment × BatchNote) × Fields)) :
    noted.flatMap completionOf =
      (noted.filter (·.1.2.job?.isNone)).flatMap completionOf := by
  induction noted with
  | nil => rfl
  | cons first rest ih =>
      rw [List.flatMap_cons, ih, List.filter_cons]
      split
      · rw [List.flatMap_cons]
      · rw [completionOf, if_neg ‹_›, List.nil_append]

theorem completions_hearUnder (listener : Listener) (past : Aftermath)
    (noted : (Moment × BatchNote) × Fields) :
    (past.hearUnder listener noted.1 noted.2).completions =
      past.completions ++ completionOf noted := by
  obtain ⟨⟨moment, note⟩, bound⟩ := noted
  cases note with
  | run place engine note =>
      cases note with
      | notice notice =>
          rw [hearUnder, completions_append]
          simp [completionOf, BatchNote.job?, BatchNote.written?, Entry.under,
            notice.event_ne_complete]
      | _ => exact (completions_append ..).trans rfl
  | happening place happening =>
      have others := Listener.logsOnly_notify_nil Listener.writes_other happening listener past.store
      have none : (((listener.notify happening).after { store := past.store }).logs.map
          (·.under bound)).filter (·.event == "engine_batch_complete") = [] := by
        apply List.filter_eq_nil_iff.mpr
        intro entry member
        obtain ⟨written, logged, rfl⟩ := List.mem_map.mp member
        exact not_beq_of_ne (others written logged)
      have appended := completions_append past
        (((listener.notify happening).after { store := past.store }).logs.map (·.under bound))
      rw [none] at appended
      exact appended
  | _ => exact (completions_append ..).trans rfl

end Aftermath

namespace Batch

variable {batch : Batch}

/-- A job with a result, or with another end of its own, has settled. -/
theorem settles_iff (batch : Batch) :
    (∀ grant ∈ batch.schedule.granted, grant.performance.settled ≠ none) ↔
      ∀ grant ∈ batch.schedule.granted, ∀ execution,
        grant.performance.execution = some execution → execution.result ≠ .error .unending := by
  apply forall₂_congr
  intro grant member
  obtain ⟨-, place, performs⟩ := performs_of_mem member
  exact performs.settled_iff

/-- Nobody is told of a cancellation that does not happen. -/
theorem isCancelled_eq_false (uncancelled : batch.cancelAt = none) {grant : Grant}
    (member : grant ∈ batch.schedule.granted) {finish : Moment} {slot : Slot}
    (settles : grant.performance.settled = some (finish, slot)) : slot.isCancelled = false := by
  obtain ⟨-, place, performs⟩ := performs_of_mem member
  cases cancelled : slot.isCancelled with
  | false => rfl
  | true =>
      have ended := performs.of_isCancelled settles cancelled
      exact absurd ended (Execution.result_ne_cancelled uncancelled)

/-- No job of a batch that nobody cancels ends cancelled. -/
theorem cancellations_eq_nil (uncancelled : batch.cancelAt = none) :
    batch.cancellations batch.schedule = [] := by
  unfold cancellations
  rw [uncancelled, List.append_nil]
  apply List.filterMap_eq_nil_iff.mpr
  intro grant member
  cases settles : grant.performance.settled with
  | none => rfl
  | some settlement => simp [isCancelled_eq_false uncancelled member settles]

/-- A batch that nobody cancels returns exactly if no run of a job of it goes on for ever. -/
theorem returns_iff (slots : 1 ≤ batch.slots) (uncancelled : batch.cancelAt = none) :
    (∃ filled, batch.report.result = .ok filled) ↔
      ∀ grant ∈ batch.schedule.granted, ∀ execution,
        grant.performance.execution = some execution → execution.result ≠ .error .unending := by
  rw [← settles_iff]
  constructor
  · rintro ⟨filled, returned⟩ grant member endless
    obtain ⟨-, slots⟩ := granted_of_result returned
    have unfilled : none ∈ batch.schedule.granted.map fun grant =>
        grant.performance.settled.map (·.2) :=
      List.mem_map.mpr ⟨grant, member, by rw [endless, Option.map_none]⟩
    rw [← slots] at unfilled
    simp at unfilled
  · intro settles
    exact result_of_settles slots uncancelled settles
      fun grant member _ _ => isCancelled_eq_false uncancelled member

/-- A batch of jobs with a time limit returns if their processes come to an end. -/
theorem returns_of_isStoppable (slots : 1 ≤ batch.slots) (uncancelled : batch.cancelAt = none)
    (limited : batch.limits.timeout.IsFinite)
    (stoppable : ∀ job ∈ batch.jobs, (batch.request job).IsStoppable) :
    ∃ filled, batch.report.result = .ok filled := by
  apply (returns_iff slots uncancelled).mpr
  intro grant member execution runs
  obtain ⟨ordered, place, performs⟩ := performs_of_mem member
  rw [(performs.of_execution runs).1]
  exact Execution.result_ne_unending uncancelled (stoppable _ ordered) limited

/-- The books of one job: its slot is empty exactly if its turn came after the abort, and then the
job has caused nothing; otherwise its listeners are told what belongs to its slot. -/
structure Accounts (batch : Batch) (place : Nat) (grant : Grant) (slot : Slot) : Prop where
  granted : batch.schedule.granted[place]? = some grant
  skipped : slot.isSkipped = batch.isAbortedBy grant.moment.instant
  idle : slot.isSkipped = true → BatchNote.notesOf place batch.report.notes =
    [(grant.moment, .skipped place grant.job.engine)]
  told : Brackets grant.job slot (BatchNote.told place batch.report.notes)

theorem accounts_of_result (silent : ∀ hook, batch.listener.raises? hook = none)
    {filled : List Slot} (returned : batch.report.result = .ok filled) {place : Nat} {slot : Slot}
    (fills : filled[place]? = some slot) :
    ∃ grant, batch.jobs[place]? = some grant.job ∧ batch.Accounts place grant slot := by
  obtain ⟨jobs, slots⟩ := granted_of_result returned
  have filledAt := congrArg (·[place]?) slots
  simp only [List.getElem?_map, fills, Option.map_some] at filledAt
  obtain ⟨grant, found, settlement⟩ := Option.map_eq_some_iff.mp filledAt.symm
  obtain ⟨⟨finish, own⟩, settles, rfl⟩ := Option.map_eq_some_iff.mp settlement
  have performs := performs_of_getElem? found
  have notes : BatchNote.notesOf place batch.report.notes = grant.performance.notes := by
    obtain ⟨-, -, all⟩ := report_of_result returned
    rw [all, BatchNote.notesOf_append, notesOf_granted found]
    exact List.append_nil _
  refine ⟨grant, ?_, found, performs.isSkipped_eq settles, fun skipped => ?_, ?_⟩
  · rw [← jobs, List.getElem?_map, found, Option.map_some]
  · rw [performs.isSkipped_eq settles] at skipped
    rw [notes, performs.notes_of_isAbortedBy skipped]
  · rw [← BatchNote.told_notesOf, notes]
    exact performs.brackets silent settles

/-- Of the notes of a batch that returns, only the last is about no job. -/
theorem complete_of_result {filled : List Slot} (returned : batch.report.result = .ok filled) :
    batch.report.notes.filter (fun entry => entry.2.job?.isNone) =
      [(batch.report.finish,
        .complete filled.length (filled.countP (·.isProblem)) (filled.countP (·.isSkipped)))] := by
  obtain ⟨-, -, all⟩ := report_of_result returned
  have owned : ∀ entry ∈ inOrder ((batch.schedule.granted.map (·.performance)).flatMap (·.notes)),
      ¬ entry.2.job?.isNone = true := by
    intro entry member
    obtain ⟨performance, performed, own⟩ := List.mem_flatMap.mp (mem_inOrder.mp member)
    obtain ⟨grant, granted, rfl⟩ := List.mem_map.mp performed
    obtain ⟨-, place, performs⟩ := performs_of_mem granted
    obtain ⟨_, areOf⟩ := performs.areOf
    simp [areOf.job entry own]
  rw [all, List.filter_append, List.filter_eq_nil_iff.mpr owned]
  rfl

/-- A log entry gives the numbers of jobs, and of slots that hold a failure or nothing. -/
structure Totals (batch : Batch) (filled : List Slot) (entry : Entry) : Prop where
  jobs : entry.fields.lookup "jobs" = some (.ofNat batch.jobs.length)
  failed : entry.fields.lookup "failed" = some (.ofNat (filled.countP (·.isProblem)))
  skipped : entry.fields.lookup "skipped" = some (.ofNat (filled.countP (·.isSkipped)))

theorem totals_under {filled : List Slot} {entry : Entry}
    (written : (BatchNote.complete batch.jobs.length (filled.countP (·.isProblem))
      (filled.countP (·.isSkipped))).written? = some entry) (bound : Fields) :
    batch.Totals filled (entry.under bound) := by
  cases written
  constructor <;>
    simp [Entry.under, assignFields, lookup_assignField]

/-- What listeners hear does not depend on what the caller has bound. -/
theorem heardBy_aftermath (batch : Batch) (caller : Journal) (id : String) :
    (batch.aftermath caller).heardBy id =
      batch.report.notes.flatMap (Aftermath.heardOf (batch.listener.ears id)) := by
  unfold aftermath
  have heard := Aftermath.foldl_of_adds (fun past noted =>
    Aftermath.heardBy_hearUnder id batch.listener past noted.2.1 noted.2.2)
    (batch.notesUnder caller) {}
  rw [heard, ← map_notesUnder batch caller, List.flatMap_map]
  rfl

/-- The log of a batch says that the batch is complete where a note about no job says so. -/
theorem completions_aftermath (batch : Batch) (caller : Journal) :
    (batch.aftermath caller).completions =
      (((batch.notesUnder caller).map (·.2)).filter (·.1.2.job?.isNone)).flatMap
        Aftermath.completionOf := by
  rw [← Aftermath.flatMap_completionOf, List.flatMap_map]
  exact Aftermath.foldl_of_adds (fun past noted =>
    Aftermath.completions_hearUnder batch.listener past noted.2) _ {}

/-- The log of a batch that returns says so once and with its totals, whatever its caller has
bound. -/
theorem completions_of_result {filled : List Slot} (returned : batch.report.result = .ok filled)
    (length : filled.length = batch.jobs.length) (caller : Journal) :
    ∃ entry, (batch.aftermath caller).completions = [entry] ∧ batch.Totals filled entry := by
  have notes : ((batch.notesUnder caller).map (·.2)).map (·.1) = batch.report.notes := by
    rw [List.map_map]
    exact map_notesUnder batch caller
  have complete := complete_of_result returned
  rw [length, ← notes, List.filter_map] at complete
  obtain ⟨⟨_, bound⟩, only, rfl⟩ := List.map_eq_singleton_iff.mp complete
  refine ⟨_, ?_, totals_under rfl bound⟩
  rw [completions_aftermath]
  exact congrArg (List.flatMap Aftermath.completionOf) only

theorem unaborted_of_started_report {entry : Moment × BatchNote} {engine : EngineLabel}
    {details : List (Value × Value)} (member : entry ∈ batch.report.notes)
    (starts : entry.2.happening? = some (.started engine details)) :
    batch.isAbortedBy entry.1.instant = false := by
  rcases mem_notes_report member with ⟨grant, granted, own⟩ | ⟨_, _, _, complete⟩
  · obtain ⟨-, place, performs⟩ := performs_of_mem granted
    exact performs.unaborted own starts
  · rw [complete] at starts
    cases starts

/-- The books of a batch whose listeners are told by a dispatcher. -/
theorem report_isBalanced (batch : Batch) (listeners : List Listener)
    (dispatched : batch.listener = .dispatcher listeners) (slots : 1 ≤ batch.slots)
    (uncancelled : batch.cancelAt = none) :
    ((∃ filled, batch.report.result = .ok filled) ↔
      ∀ grant ∈ batch.schedule.granted, ∀ execution,
        grant.performance.execution = some execution → execution.result ≠ .error .unending) ∧
    (batch.limits.timeout.IsFinite → (∀ job ∈ batch.jobs, (batch.request job).IsStoppable) →
      ∃ filled, batch.report.result = .ok filled) ∧
    (∀ filled, batch.report.result = .ok filled →
      filled.length = batch.jobs.length ∧
      (∀ place slot, filled[place]? = some slot →
        ∃ grant, batch.jobs[place]? = some grant.job ∧ batch.Accounts place grant slot) ∧
      batch.report.notes.filter (fun entry => entry.2.job?.isNone) =
        [(batch.report.finish, .complete batch.jobs.length (filled.countP (·.isProblem))
          (filled.countP (·.isSkipped)))] ∧
      ∀ caller : Journal, ∃ entry,
        (batch.aftermath caller).completions = [entry] ∧ batch.Totals filled entry) ∧
    (∀ entry ∈ batch.report.notes, ∀ engine details,
      entry.2.happening? = some (.started engine details) →
        batch.isAbortedBy entry.1.instant = false) ∧
    (∀ (caller : Journal) (id : String), (batch.aftermath caller).heardBy id =
      batch.report.notes.flatMap (Aftermath.heardOf (Listener.earsOf id listeners))) ∧
    (∀ caller : Journal, caller.bound = [] →
      batch.aftermath caller = .ofNotes batch.listener batch.report.notes) := by
  have silent : ∀ hook, batch.listener.raises? hook = none := by
    intro hook
    rw [dispatched]
    rfl
  refine ⟨returns_iff slots uncancelled,
    fun limited stoppable => returns_of_isStoppable slots uncancelled limited stoppable,
    fun filled returned => ?_, fun entry member _ _ => unaborted_of_started_report member,
    fun caller id => ?_, fun _ unset => aftermath_eq batch unset⟩
  · have length : filled.length = batch.jobs.length := by
      obtain ⟨jobs, slots⟩ := granted_of_result returned
      have count := congrArg List.length slots
      rwa [List.length_map, List.length_map, ← List.length_map (f := Grant.job), jobs] at count
    refine ⟨length, fun place slot => accounts_of_result silent returned, ?_,
      completions_of_result returned length⟩
    rw [← length]
    exact complete_of_result returned
  · rw [heardBy_aftermath, dispatched, Listener.ears]

/-- Two jobs and one slot: the first job runs into the abort, and the second one's turn comes after
it. -/
def aborted : Batch where
  runtime := .host false []
  limits := {}
  slots := 1
  listener := .dispatcher [.recording "ear"]
  jobs := ["first", "second"].map fun name =>
    { engine := { name }
      image := "image"
      spec := { name, command := some [name] }
      launch := { process := { name } } }
  canAbort := true
  abortAt := some 1

/-- The log says that there were two jobs, and that one of them was skipped and none failed. -/
theorem aborted_isBalanced :
    ∃ filled, aborted.report.result = .ok filled ∧ filled.map Slot.isSkipped = [false, true] ∧
      (∀ place slot, filled[place]? = some slot →
        ∃ grant, aborted.jobs[place]? = some grant.job ∧ aborted.Accounts place grant slot) ∧
      ∃ entry, (aborted.aftermath { bound := [("failed", .ofNat 9)] }).completions = [entry] ∧
        ["jobs", "failed", "skipped"].map (entry.fields.lookup ·) =
          [some (.ofNat 2), some (.ofNat 0), some (.ofNat 1)] := by
  have stoppable : ∀ job ∈ aborted.jobs, (aborted.request job).IsStoppable := by
    intro job member
    obtain ⟨name, -, rfl⟩ := List.mem_map.mp member
    exact ⟨.inr ⟨by simp [request], 0, -9, rfl⟩, ⟨10, rfl⟩, fun contained => by cases contained⟩
  obtain ⟨-, returns, books, -⟩ := report_isBalanced aborted [.recording "ear"] rfl (le_refl 1) rfl
  obtain ⟨filled, returned⟩ := returns ⟨900, rfl⟩ stoppable
  obtain ⟨-, accounts, -, totals⟩ := books filled returned
  obtain ⟨entry, completions, jobs, failed, skipped⟩ := totals { bound := [("failed", .ofNat 9)] }
  have kinds : aborted.report.result.toOption.map
      (·.map fun slot => (slot.isSkipped, slot.isProblem)) =
        some [(false, false), (true, false)] := by decide +kernel
  rw [returned] at kinds
  have slots : filled.map (fun slot => (slot.isSkipped, slot.isProblem)) =
      [(false, false), (true, false)] := Option.some.inj kinds
  have skips := congrArg (List.map Prod.fst) slots
  have noFailure := congrArg (List.countP (·.2)) slots
  have oneSkip := congrArg (List.countP (·.1)) slots
  rw [List.map_map] at skips
  rw [List.countP_map] at noFailure oneSkip
  refine ⟨filled, returned, skips, accounts, entry, completions, ?_⟩
  rw [List.map_cons, List.map_cons, List.map_cons, jobs, failed, skipped]
  exact congrArg₂ (fun failures skips => [some (Value.ofNat 2), some (.ofNat failures),
    some (.ofNat skips)]) noFailure oneSkip

end Batch

end AnalysisEngines
