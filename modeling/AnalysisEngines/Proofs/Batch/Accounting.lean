import AnalysisEngines.Proofs.Batch.Telling
import AnalysisEngines.Proofs.Metrics.Measuring
import AnalysisEngines.Settings.Basic

/-!
# The account of all calls

Runners that are made under settings measure into one store, call after call.  What is read under
the label set of an engine is told by the slots that the calls have filled for it, and by nothing
else.
-/

set_option autoImplicit false

namespace AnalysisEngines

open Metrics (Operation Labels)

/-! ## What is recorded of a slot -/

/-- The names on which a job with a result of that outcome is recorded. -/
def Outcome.recorded (outcome : Outcome) : List String :=
  ["engines.started", "engines.time", "engines.finished"] ++ match outcome with
    | .timeout => ["engines.result.error", "engines.result.error.timeout"]
    | .outputExceeded => ["engines.result.error", "engines.result.error.output_exceeded"]
    | .error => ["engines.result.error"]
    | .success => ["engines.result.success"]

namespace Slot

/-- The names on which a job that fills a slot is recorded. -/
def recorded : Slot → List String
  | .result ended => ended.outcome.recorded
  | .problem _ => ["engines.started"]
  | .skipped => []

def result? : Slot → Option RunResult
  | .result ended => some ended
  | _ => none

/-- The results among slots. -/
def results (slots : List Slot) : List RunResult := slots.filterMap (·.result?)

/-- How many of the slots tell that a job was run: those with a result, and those of jobs that
raised. -/
def started (slots : List Slot) : Nat := (results slots).length + slots.countP (·.isProblem)

@[simp]
theorem results_cons (slot : Slot) (rest : List Slot) :
    results (slot :: rest) = slot.result?.toList ++ results rest := by
  cases slot <;> rfl

/-- A name on which results with some of the outcomes are recorded, and nothing else, counts these
results. -/
theorem sum_recorded {name : String} {counts : Outcome → Bool}
    (ofOutcome : ∀ outcome : Outcome, outcome.recorded.count name = if counts outcome then 1 else 0)
    (unstarted : name ≠ "engines.started") (slots : List Slot) :
    (slots.map fun slot => slot.recorded.count name).sum =
      (results slots).countP fun ended => counts ended.outcome := by
  induction slots with
  | nil => rfl
  | cons slot rest ih =>
      rw [List.map_cons, List.sum_cons, ih, results_cons, List.countP_append]
      cases slot with
      | result ended => rw [recorded, ofOutcome, result?, Option.toList_some, List.countP_singleton]
      | problem problem => simp [recorded, result?, unstarted.symm]
      | skipped => rfl

/-- Starts are counted of jobs with a result and of those that raised. -/
theorem sum_started (slots : List Slot) :
    (slots.map fun slot => slot.recorded.count "engines.started").sum = started slots := by
  have once (outcome : Outcome) : outcome.recorded.count "engines.started" = 1 := by
    cases outcome <;> decide
  induction slots with
  | nil => rfl
  | cons slot rest ih =>
      rw [List.map_cons, List.sum_cons, ih]
      cases slot <;> simp [recorded, once, started, result?, isProblem]
      all_goals omega

end Slot

namespace Listener

variable {repository : Option String}

/-- The measuring listener, which sorts results by itself, agrees with their outcome. -/
theorem names_finished (engine : EngineLabel) (details : List (Value × Value))
    (result : RunResult) :
    "engines.started" :: names (.finished engine details result) = result.outcome.recorded := by
  simp only [names, measurements, RunResult.outcome, Bool.false_eq_true, if_false,
    List.nil_append]
  split_ifs <;> rfl

theorem flatMap_names_told (job : Job) (slot : Slot) :
    (job.told slot).flatMap names = slot.recorded := by
  cases slot with
  | result result =>
      rw [Slot.recorded, ← names_finished job.engine job.details]
      simp only [Job.told, List.flatMap_cons, List.flatMap_nil, List.append_nil]
      rfl
  | problem problem => rfl
  | skipped => rfl

/-- What is told of a job is counted under the label set of its engine. -/
theorem countOf_told (name : String) (account : Account) (job : Job) (slot : Slot) :
    countOf name account
        ((job.told slot).flatMap fun happening =>
          (measuring none repository false).operations happening) =
      if Account.ofEngine job.engine repository = account then slot.recorded.count name else 0 := by
  have own : ∀ happening ∈ job.told slot, happening.engine = job.engine := by
    cases slot <;> simp [Job.told, Happening.engine]
  rw [← flatMap_names_told job]
  generalize job.told slot = happenings at own ⊢
  induction happenings with
  | nil => simp [countOf]
  | cons happening rest ih =>
      rw [List.flatMap_cons, countOf_append, countOf_operations, own happening List.mem_cons_self,
        ih fun other member => own other (List.mem_cons_of_mem _ member), List.flatMap_cons,
        List.count_append]
      split <;> rfl

end Listener

/-! ## Calls -/

/-- What a runner is called for. -/
inductive Errand.Task where
  | run (job : Job)
  | runAll (jobs : List Job)

/-- A call of a runner that is made under settings, with other listeners told last. -/
structure Errand where
  settings : Settings
  runtime : Runtime
  others : List Listener := []
  task : Errand.Task
  canAbort : Bool := false
  abortAt : Option Rat := none

namespace Errand

def jobs (errand : Errand) : List Job :=
  match errand.task with
  | .run job => [job]
  | .runAll jobs => jobs

def batch (errand : Errand) : Batch :=
  { errand.settings.batch errand.runtime errand.others errand.jobs with
    canAbort := errand.canAbort
    abortAt := errand.abortAt }

def notes (errand : Errand) : List (Moment × BatchNote) :=
  match errand.task with
  | .run job => (errand.batch.single job).notes
  | .runAll _ => errand.batch.report.notes

/-- The slots that a call fills, one for each of its jobs, unless it goes on for ever. -/
def slots? (errand : Errand) : Option (List Slot) :=
  match errand.task with
  | .run job =>
      match (errand.batch.single job).slot with
      | .problem (.run .unending) => none
      | slot => some [slot]
  | .runAll _ => errand.batch.report.result.toOption

/-- The slots that a call fills, with the engines that they are recorded under. -/
def outcomes (errand : Errand) : List (Account × Slot) :=
  (errand.jobs.zip (errand.slots?.getD [])).map fun entry =>
    (Account.ofEngine entry.1.engine errand.settings.repository, entry.2)

/-- What has been left behind after one more call. -/
def follow (past : Aftermath) (errand : Errand) : Aftermath :=
  errand.notes.foldl (Aftermath.hear errand.batch.listener) past

/-- What calls leave behind, one after the other. -/
def aftermath (errands : List Errand) : Aftermath := errands.foldl follow {}

/-- The slots that calls have filled for an engine. -/
def slotsOf (account : Account) (errands : List Errand) : List Slot :=
  (errands.flatMap outcomes).filterMap fun outcome =>
    if outcome.1 = account then some outcome.2 else none

variable {errand : Errand} {slots : List Slot}

theorem silent (errand : Errand) (hook : Hook) : errand.batch.listener.raises? hook = none := rfl

/-- One job that is run fills a slot of its own. -/
theorem slots?_run {job : Job} (task : errand.task = .run job)
    (returns : errand.slots? = some slots) :
    slots = [(errand.batch.single job).slot] ∧
      (errand.batch.single job).slot ≠ .problem (.run .unending) := by
  simp only [slots?, task] at returns
  split at returns
  · cases returns
  · rename_i ends
    exact ⟨(Option.some.inj returns).symm, ends⟩

theorem slots?_runAll {jobs : List Job} (task : errand.task = .runAll jobs)
    (returns : errand.slots? = some slots) : errand.batch.report.result = .ok slots := by
  simp only [slots?, task] at returns
  cases result : errand.batch.report.result with
  | error problem => simp [result, Except.toOption] at returns
  | ok filled =>
      rw [result] at returns
      exact congrArg _ (Option.some.inj returns)

/-- A call that returns has told, in some order, what belongs to its slots. -/
theorem perm_told (returns : errand.slots? = some slots) :
    (BatchNote.happenings errand.notes).Perm
      ((errand.jobs.zip slots).flatMap fun entry => entry.1.told entry.2) := by
  cases task : errand.task with
  | run job =>
      obtain ⟨rfl, ends⟩ := slots?_run task returns
      obtain ⟨finish, settles⟩ := Batch.settled_of_single ends
      have told := Batch.happenings_runJob errand.silent settles
      simp only [notes, jobs, task, Batch.single, List.zip_cons_cons, List.zip_nil_right,
        List.flatMap_cons, List.flatMap_nil, List.append_nil]
      exact .of_eq told
  | runAll jobs =>
      simp only [notes, task]
      exact Batch.perm_happenings errand.silent (slots?_runAll task returns)

/-- Nobody is told of a job that a call skips. -/
theorem untold_of_skipped (returns : errand.slots? = some slots) {place : Nat}
    (skipped : slots[place]? = some .skipped) :
    ∀ entry ∈ errand.notes, entry.2.job? = some place → entry.2.happening? = none := by
  cases task : errand.task with
  | run job =>
      obtain ⟨rfl, -⟩ := slots?_run task returns
      rw [List.getElem?_singleton] at skipped
      split at skipped
      · exact absurd (Option.some.inj skipped) (Batch.single_not_skipped job)
      · cases skipped
  | runAll jobs =>
      simp only [notes, task]
      exact Batch.told_of_skipped errand.silent (slots?_runAll task returns) skipped

/-! ## What calls record -/

/-- The operations by which a call is recorded in the store, whatever its other listeners do. -/
def operations (errand : Errand) : List Operation :=
  (BatchNote.happenings errand.notes).flatMap fun happening =>
    errand.batch.listener.operations happening

theorem store_hear (listener : Listener) (past : Aftermath) (entry : Moment × BatchNote) :
    (Aftermath.hear listener past entry).store =
      entry.2.happening?.elim past.store fun happening =>
        ((listener.notify happening).after { store := past.store }).store := by
  obtain ⟨moment, note⟩ := entry
  cases note <;> rfl

theorem isMeasured_follow {known : List Operation} {past : Aftermath}
    (measured : Listener.IsMeasured known past.store) (errand : Errand) :
    Listener.IsMeasured (known ++ errand.operations) (follow past errand).store := by
  unfold operations follow
  induction errand.notes generalizing known past with
  | nil => simpa [BatchNote.happenings] using measured
  | cons entry rest ih =>
      have heard := store_hear errand.batch.listener past entry
      rw [List.foldl_cons]
      cases told : entry.2.happening? with
      | none =>
          rw [told, Option.elim_none] at heard
          rw [BatchNote.happenings_cons, told, Option.toList_none, List.nil_append]
          exact ih (heard ▸ measured)
      | some happening =>
          rw [told, Option.elim_some] at heard
          rw [BatchNote.happenings_cons, told, Option.toList_some, List.singleton_append,
            List.flatMap_cons, ← List.append_assoc]
          refine ih ?_
          rw [heard]
          exact @Listener.IsMeasured.notify _ { store := past.store } measured happening _

theorem isMeasured_aftermath (errands : List Errand) :
    Listener.IsMeasured (errands.flatMap operations) (aftermath errands).store := by
  have onward : ∀ (known : List Operation) (past : Aftermath),
      Listener.IsMeasured known past.store →
        Listener.IsMeasured (known ++ errands.flatMap operations)
          (errands.foldl follow past).store := by
    induction errands with
    | nil =>
        intro known past measured
        simpa using measured
    | cons errand rest ih =>
        intro known past measured
        rw [List.flatMap_cons, ← List.append_assoc]
        exact ih _ _ (isMeasured_follow measured errand)
  exact onward [] {} Listener.isMeasured_empty

/-- A call whose other listeners stand apart is recorded for its repository, once. -/
theorem operations_eq (apart : Listener.areApart errand.others = true) :
    errand.operations = (BatchNote.happenings errand.notes).flatMap fun happening =>
      (Listener.measuring none errand.settings.repository false).operations happening := by
  refine List.flatMap_congr fun happening _ => ?_
  have others := Listener.operations_of_areApart happening errand.others apart
  change [] ++ (_ ++ Listener.operationsOf happening errand.others) = _
  rw [others, List.nil_append, List.append_nil]

/-- How often a call is recorded on a name, for an engine. -/
theorem countOf_operations (apart : Listener.areApart errand.others = true)
    (returns : errand.slots? ≠ none) (name : String) (account : Account) :
    Listener.countOf name account errand.operations =
      ((slotsOf account [errand]).map fun slot => slot.recorded.count name).sum := by
  obtain ⟨slots, filled⟩ := Option.ne_none_iff_exists'.mp returns
  have told := (perm_told filled).flatMap_right fun happening =>
    (Listener.measuring none errand.settings.repository false).operations happening
  rw [operations_eq apart, Listener.countOf, told.countP_eq, ← Listener.countOf]
  simp only [slotsOf, outcomes, filled, List.flatMap_cons, List.flatMap_nil, List.append_nil,
    Option.getD_some, List.flatMap_assoc]
  induction errand.jobs.zip slots with
  | nil => rfl
  | cons entry rest ih =>
      rw [List.flatMap_cons, Listener.countOf_append, ih, Listener.countOf_told, List.map_cons,
        List.filterMap_cons]
      split <;> simp

theorem countOf_flatMap {errands : List Errand}
    (apart : ∀ errand ∈ errands, Listener.areApart errand.others = true)
    (returns : ∀ errand ∈ errands, errand.slots? ≠ none) (name : String) (account : Account) :
    Listener.countOf name account (errands.flatMap operations) =
      ((slotsOf account errands).map fun slot => slot.recorded.count name).sum := by
  induction errands with
  | nil => rfl
  | cons errand rest ih =>
      have split : slotsOf account (errand :: rest) =
          slotsOf account [errand] ++ slotsOf account rest := by
        rw [slotsOf, slotsOf, slotsOf, ← List.filterMap_append, ← List.flatMap_append]
        rfl
      rw [List.flatMap_cons, Listener.countOf_append, split, List.map_append, List.sum_append,
        countOf_operations (apart errand List.mem_cons_self) (returns errand List.mem_cons_self),
        ih (fun other member => apart other (List.mem_cons_of_mem _ member))
          fun other member => returns other (List.mem_cons_of_mem _ member)]

/-! ## What is read -/

/-- What is read of a counter under the label set of an engine. -/
def Reads (store : Metrics.Store Binary64) (account : Account) (name : String) (count : Nat) :
    Prop :=
  ∃ last, Metrics.Recording.value name account.entries store = .ok (.finite count) last

/-- What is read for an engine agrees with the slots that have been filled for it. -/
structure Tallies (account : Account) (slots : List Slot) (store : Metrics.Store Binary64) :
    Prop where
  finished : Reads store account "engines.finished" (Slot.results slots).length
  timed : ∃ snapshot last, Metrics.Recording.snapshot "engines.time" Metrics.runTimeBounds
    account.entries store = .ok snapshot last ∧ snapshot.count = (Slot.results slots).length
  sorted : ∃ succeeded failed, Reads store account "engines.result.success" succeeded ∧
    Reads store account "engines.result.error" failed ∧
      Reads store account "engines.finished" (succeeded + failed)
  succeeded : Reads store account "engines.result.success"
    ((Slot.results slots).countP (·.outcome = .success))
  timedOut : Reads store account "engines.result.error.timeout"
    ((Slot.results slots).countP (·.outcome = .timeout))
  outputExceeded : Reads store account "engines.result.error.output_exceeded"
    ((Slot.results slots).countP (·.outcome = .outputExceeded))
  started : Reads store account "engines.started"
    ((Slot.results slots).length + slots.countP (·.isProblem))

/-- What a store holds when it has been measured into by calls, starting from nothing. -/
structure AreTallied (errands : List Errand) (store : Metrics.Store Binary64) : Prop where
  tallies : ∀ account, Slot.started (slotsOf account errands) < 2 ^ 53 →
    Tallies account (slotsOf account errands) store
  /-- Nothing that is noted of a job that is skipped changes what is measured. -/
  idle : ∀ errand ∈ errands, ∀ slots, errand.slots? = some slots →
    ∀ place, slots[place]? = some .skipped →
      ∀ entry ∈ errand.notes, entry.2.job? = some place →
        ∀ past, (Aftermath.hear errand.batch.listener past entry).store = past.store
  /-- Engines with a name or a channel of their own have label sets of their own. -/
  distinct : ∀ left right : EngineLabel, ∀ leftChannel rightChannel : String,
    left.channel = .text leftChannel → right.channel = .text rightChannel →
      ∀ leftRepository rightRepository : Option String,
        Labels.ofTags (Listener.tags left leftRepository) =
          Labels.ofTags (Listener.tags right rightRepository) →
            left.name = right.name ∧ leftChannel = rightChannel

section Measured

variable {errands : List Errand} {store : Metrics.Store Binary64} {account : Account}
  {name : String} {counts : Outcome → Bool}

/-- What is recorded on a name for results only is recorded once for each of them. -/
theorem countOf_results
    (counted : Listener.countOf name account (errands.flatMap operations) =
      ((slotsOf account errands).map fun slot => slot.recorded.count name).sum)
    (ofOutcome : ∀ outcome : Outcome, outcome.recorded.count name = if counts outcome then 1 else 0)
    (unstarted : name ≠ "engines.started") :
    Listener.countOf name account (errands.flatMap operations) =
      (Slot.results (slotsOf account errands)).countP fun ended => counts ended.outcome :=
  counted.trans (Slot.sum_recorded ofOutcome unstarted _)

theorem reads_results (measured : Listener.IsMeasured (errands.flatMap operations) store)
    (counted : Listener.countOf name account (errands.flatMap operations) =
      ((slotsOf account errands).map fun slot => slot.recorded.count name).sum)
    (small : Slot.started (slotsOf account errands) < 2 ^ 53)
    (counter : Listener.kindOf name = .counter)
    (ofOutcome : ∀ outcome : Outcome, outcome.recorded.count name = if counts outcome then 1 else 0)
    (unstarted : name ≠ "engines.started") :
    Reads store account name
      ((Slot.results (slotsOf account errands)).countP fun ended => counts ended.outcome) := by
  have results := countOf_results counted ofOutcome unstarted
  have few : Listener.countOf name account (errands.flatMap operations) < 2 ^ 53 := by
    calc
      Listener.countOf name account (errands.flatMap operations)
        = (Slot.results (slotsOf account errands)).countP fun ended => counts ended.outcome :=
          results
      _ ≤ (Slot.results (slotsOf account errands)).length := List.countP_le_length
      _ ≤ Slot.started (slotsOf account errands) := Nat.le_add_right _ _
      _ < 2 ^ 53 := small
  rw [← results]
  exact measured.value counter few

theorem tallies_of_measured
    (measured : Listener.IsMeasured (errands.flatMap operations) store)
    (counted : ∀ name, Listener.countOf name account (errands.flatMap operations) =
      ((slotsOf account errands).map fun slot => slot.recorded.count name).sum)
    (small : Slot.started (slotsOf account errands) < 2 ^ 53) :
    Tallies account (slotsOf account errands) store := by
  have reads (name : String) (counts : Outcome → Bool) :=
    @reads_results errands store account name counts measured (counted name) small
  have finished := reads "engines.finished" (fun _ => true) (by decide)
    (fun outcome => by cases outcome <;> decide) (by decide)
  have succeeded := reads "engines.result.success" (fun outcome => decide (outcome = .success))
    (by decide) (fun outcome => by cases outcome <;> decide) (by decide)
  have failed := reads "engines.result.error" (fun outcome => !decide (outcome = .success))
    (by decide) (fun outcome => by cases outcome <;> decide) (by decide)
  rw [List.countP_true] at finished
  constructor
  case finished => exact finished
  case timed =>
    have times := @countOf_results errands account "engines.time" (fun _ => true)
      (counted "engines.time") (fun outcome => by cases outcome <;> decide) (by decide)
    have histogram : Listener.kindOf "engines.time" = .histogram := by decide
    obtain ⟨snapshot, last, returned, count⟩ := measured.snapshot histogram account
    exact ⟨snapshot, last, returned, count.trans (times.trans (congrFun List.countP_true _))⟩
  case sorted =>
    refine ⟨_, _, succeeded, failed, ?_⟩
    rw [List.length_eq_countP_add_countP fun ended => decide (ended.outcome = .success)] at finished
    simpa using finished
  case succeeded => exact succeeded
  case timedOut =>
    exact reads _ (fun outcome => decide (outcome = .timeout)) (by decide)
      (fun outcome => by cases outcome <;> decide) (by decide)
  case outputExceeded =>
    exact reads _ (fun outcome => decide (outcome = .outputExceeded)) (by decide)
      (fun outcome => by cases outcome <;> decide) (by decide)
  case started =>
    have starts := (counted "engines.started").trans (Slot.sum_started _)
    have counter : Listener.kindOf "engines.started" = .counter := by decide
    have read := measured.value counter (starts ▸ small)
    rwa [starts] at read

end Measured

/-- What is read after calls is told by their slots, whatever their processes and their other
listeners do, unless these measure into the store as well. -/
theorem aftermath_areTallied (errands : List Errand)
    (apart : ∀ errand ∈ errands, Listener.areApart errand.others = true)
    (returns : ∀ errand ∈ errands, errand.slots? ≠ none) :
    AreTallied errands (aftermath errands).store where
  tallies account :=
    tallies_of_measured (isMeasured_aftermath errands) fun name =>
      countOf_flatMap apart returns name account
  idle errand _ slots filled place skipped entry member about past := by
    rw [store_hear, untold_of_skipped filled skipped entry member about, Option.elim_none]
  distinct _ _ _ _ leftIs rightIs _ _ := Listener.eq_of_ofTags_eq leftIs rightIs

/-- A job for an engine of a name and a channel. -/
def toolJob (name channel : String) (launch : Launch) : Job where
  engine := { name, channel := .text channel }
  image := "image"
  spec := { name := "tool", command := some ["tool"] }
  launch

/-- A process that exits by itself. -/
def exits (status : Int) : Launch where
  process := { name := "tool", timeline := .ofEvents [(1, .exit status)] }

/-- A batch of two, of which one cannot be started and listeners raise, and then a job of an engine
whose name holds a colon. -/
def mixed : List Errand :=
  [{ settings := {}
     runtime := .host false []
     others := [.failing [.started, .finished] "broken"]
     task := .runAll
      [toolJob "tool" "stable" (exits 0),
       toolJob "tool" "stable" { process := { name := "tool" }, fault := some .notFound }] },
   { settings := { repository := some "repository" }
     runtime := .host false []
     task := .run (toolJob "tool:2" "" (exits 3)) }]

theorem mixed_areTallied :
    ((slotsOf { engine := "tool", channel := some "stable" } mixed).map (·.isProblem) =
      [false, true]) ∧ AreTallied mixed (aftermath mixed).store := by
  have apart : ∀ errand ∈ mixed, Listener.areApart errand.others = true := by decide
  have returns : (mixed.all fun errand => errand.slots?.isSome) = true := by decide +kernel
  exact ⟨by decide +kernel, aftermath_areTallied mixed apart fun errand member =>
    Option.isSome_iff_ne_none.mp (List.all_eq_true.mp returns errand member)⟩

/-- One job, and another listener that measures into the store. -/
def doubled : Errand where
  settings := { timeout := .finite 10 }
  runtime := .host false []
  others := [.measuring none none false]
  task := .run (toolJob "tool" "stable" (exits 0))

/-- A result is counted twice if it is measured twice. -/
theorem doubled_not_areTallied :
    doubled.slots? ≠ none ∧ ¬AreTallied [doubled] (aftermath [doubled]).store := by
  refine ⟨Option.isSome_iff_ne_none.mp (by decide +kernel), fun tallied => ?_⟩
  have once : (Slot.results (slotsOf ⟨"tool", some "stable", none⟩ [doubled])).length = 1 := by
    decide +kernel
  have twice : Listener.countOf "engines.finished" ⟨"tool", some "stable", none⟩
      ([doubled].flatMap operations) = 2 := by
    decide +kernel
  obtain ⟨_, one⟩ := (tallied.tallies ⟨"tool", some "stable", none⟩ (by decide +kernel)).finished
  have counter : Listener.kindOf "engines.finished" = .counter := by decide
  obtain ⟨_, two⟩ := (isMeasured_aftermath [doubled]).value counter (twice.trans_lt (by decide))
  rw [once] at one
  rw [twice, one] at two
  cases two

end Errand

end AnalysisEngines
