import AnalysisEngines.Proofs.Listener
import AnalysisEngines.Proofs.Metrics.Reading
import AnalysisEngines.Proofs.Number.Binary64

/-!
# What measuring listeners record

The listener that measures into the shared store makes operations of what it is told, under the
label set of the engine.  None of them fails on a store that has heard of nothing else.
-/

set_option autoImplicit false

namespace AnalysisEngines

/-- An engine as it is told apart in the store: a channel or repository only if there is one. -/
structure Account where
  engine : String
  channel : Option String := none
  repository : Option String := none
  deriving DecidableEq

namespace Account

def ofEngine (engine : EngineLabel) (repository : Option String) : Account where
  engine := engine.name
  channel := if engine.channel.isGiven then some engine.channel.display else none
  repository := given? repository

def entries (account : Account) : List (String × String) :=
  ("engine", account.engine) ::
    (account.channel.toList.map fun channel => ("channel", channel)) ++
      account.repository.toList.map fun repository => ("repo_id", repository)

/-- The tags of an engine are read back as they were meant, whatever its name contains. -/
theorem map_parseTag_tags (engine : EngineLabel) (repository : Option String) :
    (Listener.tags engine repository).map Metrics.Labels.parseTag =
      (ofEngine engine repository).entries := by
  have read {name head : String} (plain : ':' ∉ name.toList) (colon : head = name ++ ":")
      (text : String) : Metrics.Labels.parseTag (head ++ text) = (name, text) := by
    rw [colon]
    exact Metrics.Labels.parseTag_append plain text
  have engineTag := @read "engine" "engine:" (by decide) (by decide)
  have channelTag := @read "channel" "channel:" (by decide) (by decide)
  have repositoryTag := @read "repo_id" "repo_id:" (by decide) (by decide)
  unfold Listener.tags entries ofEngine
  cases engine.channel.isGiven <;> cases given? repository <;>
    simp [engineTag, channelTag, repositoryTag]

theorem isReadable_entries (account : Account) : Metrics.Labels.IsReadable account.entries := by
  intro entry member
  obtain ⟨engine, channel, repository⟩ := account
  cases channel <;> cases repository <;> simp [entries] at member <;>
    rcases member with rfl | rfl | rfl <;> simp

theorem text?_entries (account : Account) :
    Metrics.Labels.text? account.entries "engine" = some account.engine ∧
      Metrics.Labels.text? account.entries "channel" = account.channel ∧
        Metrics.Labels.text? account.entries "repo_id" = account.repository := by
  obtain ⟨engine, channel, repository⟩ := account
  cases channel <;> cases repository <;> exact ⟨rfl, rfl, rfl⟩

/-- Engines that are told apart have label sets of their own. -/
theorem same_entries_iff {left right : Account} :
    Metrics.Labels.Same left.entries right.entries ↔ left = right := by
  constructor
  · intro same
    obtain ⟨engine, channel, repository⟩ := text?_entries left
    obtain ⟨engine', channel', repository'⟩ := text?_entries right
    obtain ⟨leftEngine, leftChannel, leftRepository⟩ := left
    obtain ⟨rightEngine, rightChannel, rightRepository⟩ := right
    obtain rfl := Option.some.inj (engine.symm.trans ((same _).trans engine'))
    obtain rfl := channel.symm.trans ((same _).trans channel')
    obtain rfl := repository.symm.trans ((same _).trans repository')
    rfl
  · rintro rfl name
    rfl

end Account

namespace Listener

variable {repository : Option String} {happening : Happening}

/-- The operation by which a measurement is recorded in the shared store. -/
def operation (tags : List String) (happening : Happening) : Measurement → Metrics.Operation
  | .count action => .increment ("engines." ++ action) tags
  | .time action => .timing ("engines." ++ action) (.float (millis happening)) tags

mutual

/-- The operations by which a listener records a happening in the shared store. -/
def operations (happening : Happening) : Listener → List Metrics.Operation
  | .measuring none repository timesTwice =>
      (measurements timesTwice happening).map
        (operation (tags happening.engine repository) happening)
  | .dispatcher listeners => operationsOf happening listeners
  | _ => []

def operationsOf (happening : Happening) : List Listener → List Metrics.Operation
  | [] => []
  | listener :: rest => operations happening listener ++ operationsOf happening rest

end

theorem measure_none (tags : List String) (happening : Happening) (measurement : Measurement) :
    measure none tags happening measurement = record (operation tags happening measurement).run := by
  cases measurement <;> rfl

theorem entries_operation (engine : EngineLabel) (repository : Option String)
    (happening : Happening) (measurement : Measurement) :
    (operation (tags engine repository) happening measurement).entries =
      (Account.ofEngine engine repository).entries := by
  cases measurement <;> exact Account.map_parseTag_tags engine repository

theorem ofTags_tags (engine : EngineLabel) (repository : Option String) :
    Metrics.Labels.ofTags (tags engine repository) =
      .ok (Metrics.Labels.ofEntries (Account.ofEngine engine repository).entries) := by
  rw [Metrics.Labels.ofTags, Account.map_parseTag_tags]
  exact Metrics.Labels.ofMap_of_free fun entry member =>
    (Account.isReadable_entries _ entry member).1

/-- Engines with a name or a channel of their own have label sets of their own, whatever the names
contain. -/
theorem eq_of_ofTags_eq {left right : EngineLabel} {leftChannel rightChannel : String}
    (leftIs : left.channel = .text leftChannel) (rightIs : right.channel = .text rightChannel)
    {leftRepository rightRepository : Option String}
    (same : Metrics.Labels.ofTags (tags left leftRepository) =
      Metrics.Labels.ofTags (tags right rightRepository)) :
    left.name = right.name ∧ leftChannel = rightChannel := by
  rw [ofTags_tags, ofTags_tags, Except.ok.injEq, Metrics.Labels.ofEntries_eq_iff,
    Account.same_entries_iff] at same
  refine ⟨congrArg Account.engine same, ?_⟩
  have channels := congrArg Account.channel same
  simp only [Account.ofEngine, leftIs, rightIs, Value.isGiven, bne_iff_ne] at channels
  by_cases leftEmpty : leftChannel = "" <;> by_cases rightEmpty : rightChannel = ""
  · rw [leftEmpty, rightEmpty]
  · simp [leftEmpty, rightEmpty] at channels
  · simp [leftEmpty, rightEmpty] at channels
  · simpa [leftEmpty, rightEmpty, Value.display] using channels

/-- Run times are timed, all else is counted. -/
def kindOf (name : String) : Metrics.MetricKind :=
  if name = "engines.time" then .histogram else .counter

/-- An operation as measuring listeners make them. -/
structure IsMeasurement (operation : Metrics.Operation) : Prop where
  kind : operation.kind = kindOf operation.name
  gives : operation.amount? ≠ none
  counts : operation.kind = .counter → operation.amount? = some (.float (.finite 1))
  addable : ∀ amount ∈ operation.amount?, Metrics.IsAddable Binary64 amount

/-- Only run times are timed. -/
theorem measurements_cases {timesTwice : Bool} {measurement : Measurement}
    (member : measurement ∈ measurements timesTwice happening) :
    measurement = .time "time" ∨ ∃ action ≠ "time", measurement = .count action := by
  cases happening with
  | started engine details =>
      obtain rfl := List.mem_singleton.mp member
      exact .inr ⟨"started", by decide, rfl⟩
  | finished engine details result =>
      have listed : measurement ∈ ([.time "time", .count "finished", .count "result.error",
          .count "result.error.timeout", .count "result.error.output_exceeded",
          .count "result.success"] : List Measurement) := by
        cases timesTwice <;> cases timedOut : result.timedOut <;>
          cases exceeded : result.outputExceeded <;> by_cases succeeded : result.exitStatus = 0 <;>
          simp [measurements, timedOut, exceeded, succeeded] at member ⊢ <;> tauto
      simp only [List.mem_cons, List.not_mem_nil, or_false] at listed
      rcases listed with rfl | rfl | rfl | rfl | rfl | rfl
      · exact .inl rfl
      all_goals exact .inr ⟨_, by decide, rfl⟩

/-- The amount that a measurement gives: one, or a time. -/
def given (happening : Happening) : Measurement → Number
  | .count _ => .float (.finite 1)
  | .time _ => .float (millis happening)

theorem amount?_operation (engine : EngineLabel) (repository : Option String)
    (happening : Happening) (measurement : Measurement) :
    (operation (tags engine repository) happening measurement).amount? =
      some (given happening measurement) := by
  have free : Metrics.Labels.IsFree
      (operation (tags engine repository) happening measurement).entries := by
    rw [entries_operation]
    exact fun entry member => (Account.isReadable_entries _ entry member).1
  rw [Metrics.Operation.amount?_of_free free]
  cases measurement <;> rfl

theorem isMeasurement_operation {timesTwice : Bool} {measurement : Measurement}
    (measured : measurement ∈ measurements timesTwice happening) (engine : EngineLabel)
    (repository : Option String) :
    IsMeasurement (operation (tags engine repository) happening measurement) := by
  have amount := amount?_operation engine repository happening measurement
  constructor
  case kind =>
    rcases measurements_cases measured with rfl | ⟨action, counted, rfl⟩
    · rfl
    · have other : "engines." ++ action ≠ "engines.time" := fun same =>
        counted ((String.append_right_inj "engines.").mp same)
      exact (if_neg other).symm
  case gives => simp [amount]
  case counts =>
    intro counter
    rw [amount]
    cases measurement with
    | count action => rfl
    | time action => cases counter
  case addable =>
    intro given member
    rw [amount] at member
    obtain rfl := Option.some.inj member
    intro total
    cases measurement <;> rfl

/-- A store that has heard of measurements only. -/
structure IsMeasured (operations : List Metrics.Operation) (store : Metrics.Store Binary64) :
    Prop where
  told : store.IsTold operations
  measured : ∀ operation ∈ operations, IsMeasurement operation

theorem isMeasured_empty : IsMeasured [] .empty where
  told := Metrics.Store.isTold_empty
  measured _ member := nomatch member

section Measured

variable {known : List Metrics.Operation} {store : Metrics.Store Binary64}

/-- A name is created with the kind that measurements want. -/
theorem IsMeasured.kindIn_eq (measured : IsMeasured known store) {name : String}
    {kind : Metrics.MetricKind} (created : Metrics.Operation.kindIn known name = some kind) :
    kind = kindOf name := by
  obtain ⟨first, found, rfl⟩ := Option.map_eq_some_iff.mp created
  have named : first.name = name := by simpa using List.find?_some found
  rw [(measured.measured first (List.mem_of_find?_eq_some found)).kind, named]

/-- A metric of a store that has heard of measurements only has the kind that they want. -/
theorem IsMeasured.kind (measured : IsMeasured known store) {operation : Metrics.Operation}
    (own : IsMeasurement operation) :
    ((store.metric? operation.name).getD (.new operation.kind)).kind = operation.kind := by
  have created := measured.told.kind operation.name
  cases found : store.metric? operation.name with
  | none => rw [Option.getD_none, Metrics.Metric.kind_new]
  | some metric =>
      rw [found, Option.map_some] at created
      rw [Option.getD_some, measured.kindIn_eq created.symm, own.kind]

/-- A measurement does not fail. -/
theorem IsMeasured.run (measured : IsMeasured known store) {operation : Metrics.Operation}
    (own : IsMeasurement operation) :
    operation.run store = .ok () (operation.run.leave store) ∧
      IsMeasured (known ++ [operation]) (operation.run.leave store) := by
  refine ⟨(Metrics.Operation.run_gives rfl (measured.kind own) own.addable).returns own.gives,
    measured.told.leave own.addable, fun other member => ?_⟩
  rcases List.mem_append.mp member with earlier | last
  · exact measured.measured other earlier
  · rw [List.mem_singleton.mp last]
    exact own

theorem IsMeasured.forM {tags : List String} {items : List Measurement} {audience : Audience}
    (measured : IsMeasured known audience.store)
    (own : ∀ item ∈ items, IsMeasurement (operation tags happening item)) :
    ∃ last, items.forM (measure none tags happening) audience = .ok () { audience with store := last } ∧
      IsMeasured (known ++ items.map (operation tags happening)) last := by
  induction items generalizing known audience with
  | nil => exact ⟨audience.store, rfl, by simpa using measured⟩
  | cons item rest ih =>
      obtain ⟨runs, next⟩ := measured.run (own item List.mem_cons_self)
      have records : measure none tags happening item audience =
          .ok () { audience with store := (operation tags happening item).run.leave audience.store } := by
        rw [measure_none, record, runs]
      obtain ⟨last, returns, lastMeasured⟩ := @ih _ { audience with store := _ } next
        fun other member => own other (List.mem_cons_of_mem _ member)
      refine ⟨last, (bind_of_ok records).trans returns, ?_⟩
      rwa [List.map_cons, List.append_cons]

end Measured

mutual

/-- What a listener is told, a store hears of by the operations of the listener. -/
theorem IsMeasured.notify {known : List Metrics.Operation} {audience : Audience}
    (measured : IsMeasured known audience.store) (happening : Happening) (listener : Listener) :
    IsMeasured (known ++ listener.operations happening)
      ((notify happening listener).after audience).store := by
  cases listener with
  | measuring client repository timesTwice =>
      cases client with
      | none =>
          obtain ⟨last, returns, lastMeasured⟩ := measured.forM fun measurement member =>
            isMeasurement_operation member happening.engine repository
          rw [Reaction.after, Listener.notify, returns]
          exact lastMeasured
      | some client =>
          have keeps : Reaction.Keeps Audience.store
              (Listener.notify happening (.measuring (some client) repository timesTwice)) :=
            .forM fun measurement audience => by cases measurement <;> rfl
          rw [keeps]
          exact (List.append_nil known).symm ▸ measured
  | dispatcher listeners =>
      simp only [Reaction.after, Listener.notify, notifyAll_eq]
      exact measured.tell happening listeners
  | failing hooks message =>
      simp only [Reaction.after, Listener.notify, operations, List.append_nil]
      cases hooks.contains happening.hook <;> exact measured
  | _ => exact (List.append_nil known).symm ▸ measured

theorem IsMeasured.tell {known : List Metrics.Operation} {audience : Audience}
    (measured : IsMeasured known audience.store) (happening : Happening)
    (listeners : List Listener) :
    IsMeasured (known ++ operationsOf happening listeners)
      (listeners.foldl (tell happening) audience).store := by
  cases listeners with
  | nil => exact (List.append_nil known).symm ▸ measured
  | cons listener rest =>
      have unlogged (audience : Audience) (logs : List Log.Entry) :
          Audience.store { audience with logs } = audience.store := rfl
      have first := measured.notify happening listener
      rw [← tell_view unlogged] at first
      rw [operationsOf, List.foldl_cons, ← List.append_assoc]
      exact first.tell happening rest

end

/-! ## Listeners that leave the store alone -/

mutual

/-- A listener that does not measure into the shared store. -/
def isApart : Listener → Bool
  | .measuring none _ _ => false
  | .dispatcher listeners => areApart listeners
  | _ => true

def areApart : List Listener → Bool
  | [] => true
  | listener :: rest => isApart listener && areApart rest

end

mutual

theorem operations_of_isApart (happening : Happening) (listener : Listener)
    (apart : isApart listener = true) : operations happening listener = [] := by
  cases listener with
  | measuring client => cases client with
    | none => cases apart
    | some client => rfl
  | dispatcher listeners => exact operations_of_areApart happening listeners apart
  | _ => rfl

theorem operations_of_areApart (happening : Happening) (listeners : List Listener)
    (apart : areApart listeners = true) : operationsOf happening listeners = [] := by
  cases listeners with
  | nil => rfl
  | cons listener rest =>
      obtain ⟨first, later⟩ := Bool.and_eq_true_iff.mp apart
      rw [operationsOf, operations_of_isApart happening listener first,
        operations_of_areApart happening rest later, List.append_nil]

end

/-! ## Counts -/

/-- How many operations there are on a name under the label set of an engine. -/
def countOf (name : String) (account : Account) (operations : List Metrics.Operation) : Nat :=
  operations.countP fun operation =>
    operation.name = name ∧ Metrics.Labels.Same operation.entries account.entries

theorem foldl_ones (ones before : Nat) (small : before + ones < 2 ^ 53) :
    (List.replicate ones (Number.float (.finite 1))).foldl Metrics.plus (Binary64.finite before) =
      .finite (before + ones : Nat) := by
  induction ones generalizing before with
  | zero => rfl
  | succ ones ih =>
      have added : Metrics.plus (Binary64.finite before) (.float (.finite 1)) =
          .finite (before + 1 : Nat) := Binary64.add_one (by omega)
      rw [List.replicate_succ, List.foldl_cons, added, ih (before + 1) (by omega), Nat.add_assoc,
        Nat.add_comm 1]

section Counts

variable {known : List Metrics.Operation} {store : Metrics.Store Binary64}

theorem IsMeasured.length_amountsUnder (measured : IsMeasured known store) (name : String)
    (account : Account) :
    (Metrics.amountsUnder (Metrics.Labels.ofEntries account.entries)
      (Metrics.Operation.givenTo (kindOf name) name known)).length = countOf name account known := by
  rw [Metrics.Operation.length_amountsUnder, countOf]
  refine List.countP_congr fun operation member => ?_
  obtain ⟨kind, gives, -, -⟩ := measured.measured operation member
  simp only [decide_eq_true_eq, Metrics.Labels.ofEntries_eq_iff]
  refine and_congr_right fun named => ?_
  rw [named] at kind
  simp [kind, Option.isSome_iff_ne_none.mpr gives]

/-- What has been counted under the label set of an engine. -/
theorem IsMeasured.value (measured : IsMeasured known store) {name : String}
    (counted : kindOf name = .counter) {account : Account}
    (small : countOf name account known < 2 ^ 53) :
    ∃ last, Metrics.Recording.value name account.entries store =
      .ok (.finite (countOf name account known : Nat)) last := by
  have fits : Metrics.Operation.kindIn known name ≠ some .histogram := fun created =>
    nomatch counted.symm.trans (measured.kindIn_eq created).symm
  obtain ⟨last, returned⟩ := measured.told.exists_value fits account.isReadable_entries
  have length := measured.length_amountsUnder name account
  rw [counted] at length
  have ones : Metrics.amountsUnder (Metrics.Labels.ofEntries account.entries)
      (Metrics.Operation.givenTo .counter name known) =
        List.replicate (countOf name account known) (.float (.finite 1)) := by
    refine List.eq_replicate_iff.mpr ⟨length, fun amount member => ?_⟩
    obtain ⟨given, held, rfl⟩ := List.mem_map.mp member
    obtain ⟨operation, own, gives⟩ := List.mem_filterMap.mp (List.mem_of_mem_filter held)
    obtain ⟨within, right⟩ := List.mem_filter.mp own
    obtain ⟨amount, amounts, rfl⟩ := Option.map_eq_some_iff.mp gives
    have one := (measured.measured operation within).counts (of_decide_eq_true right).2
    exact Option.some.inj (amounts.symm.trans one)
  have sum := foldl_ones (countOf name account known) 0 (by omega)
  rw [Nat.zero_add] at sum
  rw [ones] at returned
  exact ⟨last, returned.trans (congrArg (EStateM.Result.ok · last) sum)⟩

/-- How many run times have been taken under the label set of an engine. -/
theorem IsMeasured.snapshot (measured : IsMeasured known store) {name : String}
    (timed : kindOf name = .histogram) (account : Account) :
    ∃ snapshot last, Metrics.Recording.snapshot name Metrics.runTimeBounds account.entries store =
      .ok snapshot last ∧ snapshot.count = countOf name account known := by
  have fits : Metrics.Operation.kindIn known name ≠ some .counter := fun created =>
    nomatch timed.symm.trans (measured.kindIn_eq created).symm
  obtain ⟨last, returned⟩ := measured.told.exists_snapshot fits account.isReadable_entries
  have length := measured.length_amountsUnder name account
  rw [timed] at length
  rw [Metrics.Snapshot.foldl_observe_empty] at returned
  exact ⟨_, last, returned, length⟩

end Counts

/-- The names on which a happening is recorded. -/
def names (happening : Happening) : List String :=
  (measurements false happening).map fun measurement => (operation [] happening measurement).name

theorem countOf_operations (name : String) (account : Account) (repository : Option String)
    (happening : Happening) :
    countOf name account ((measuring none repository false).operations happening) =
      if Account.ofEngine happening.engine repository = account then (names happening).count name
      else 0 := by
  have named (measurement : Measurement) :
      (operation (tags happening.engine repository) happening measurement).name =
        (operation [] happening measurement).name := by
    cases measurement <;> rfl
  simp only [countOf, operations, List.countP_map, Function.comp_def, entries_operation,
    Account.same_entries_iff, named]
  by_cases own : Account.ofEngine happening.engine repository = account
  · simp only [own, and_true, if_true, names, List.count, List.countP_map]
    rfl
  · simp [own]

theorem countOf_append (name : String) (account : Account)
    (earlier later : List Metrics.Operation) :
    countOf name account (earlier ++ later) =
      countOf name account earlier + countOf name account later :=
  List.countP_append

end Listener

end AnalysisEngines
