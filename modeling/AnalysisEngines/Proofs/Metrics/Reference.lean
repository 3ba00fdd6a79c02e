import AnalysisEngines.Proofs.Metrics.Reading
import Mathlib.Algebra.BigOperators.Group.List.Basic
import Mathlib.Algebra.Order.Ring.Rat

/-!
# The store as a function of its history

In exact sums the whole store is told by the operations on it: the names, their kinds, and under each
name and label map the amounts that were given.
-/

set_option autoImplicit false

namespace AnalysisEngines.Metrics

/-- The exact sum of finite amounts. -/
def exactSum : List Number → Option Rat
  | [] => some 0
  | amount :: rest => do
      let value ← amount.exact.toRat?
      let sum ← exactSum rest
      return value + sum

/-- Amounts that have an exact value. -/
def AreFinite (amounts : List Number) : Prop := ∀ amount ∈ amounts, amount.exact.toRat?.isSome

/-- The exact value of a finite amount. -/
def exactly (amount : Number) : Rat := amount.exact.toRat?.getD 0

theorem isAddable_exactly (amount : Number) : IsAddable Rat amount := fun _ => rfl

theorem foldl_plus (amounts : List Number) (total : Rat) :
    amounts.foldl plus total = total + (amounts.map exactly).sum := by
  induction amounts generalizing total with
  | nil => simp
  | cons amount rest ih =>
      rw [List.foldl_cons, ih, List.map_cons, List.sum_cons, ← add_assoc]
      rfl

theorem exactSum_of_finite {amounts : List Number} (finite : AreFinite amounts) :
    exactSum amounts = some (amounts.map exactly).sum := by
  induction amounts with
  | nil => rfl
  | cons amount rest ih =>
      obtain ⟨value, valued⟩ := Option.isSome_iff_exists.mp (finite amount List.mem_cons_self)
      have ih := ih fun other member => finite other (List.mem_cons_of_mem _ member)
      rw [exactSum, valued, ih, List.map_cons, List.sum_cons, exactly, valued]
      rfl

section Total

variable {given : List (List (String × String) × Number)} {series : List (Labels × Rat)}
  {labels : Labels} {value : Rat}

/-- The rest of a series holds what was not given under the first label set. -/
theorem IsTold.rest (told : IsTold 0 plus given ((labels, value) :: series)) :
    IsTold 0 plus (given.filter fun entry => Labels.ofEntries entry.1 ≠ labels) series := by
  obtain ⟨fresh, distinct⟩ := List.nodup_cons.mp told.distinct
  refine ⟨distinct, fun other => ?_⟩
  by_cases own : other = labels
  · rw [own, find?, find?_eq_none_iff.mpr fresh, eq_comm, tally_eq_none_iff, amountsUnder,
      List.map_eq_nil_iff, List.filter_filter, List.filter_eq_nil_iff]
    simp
  · have passed : find? other ((labels, value) :: series) = find? other series := by
      simp [find?, Ne.symm own]
    rw [← passed, told.found, amountsUnder, amountsUnder, List.filter_filter]
    congr 3
    funext entry
    by_cases under : Labels.ofEntries entry.1 = other <;> simp [under, own]

theorem IsTold.sum (told : IsTold 0 plus given series) :
    (series.map (·.2)).sum = ((given.map (·.2)).map exactly).sum := by
  induction series generalizing given with
  | nil =>
      have nothing : given = [] := by
        refine List.eq_nil_iff_forall_not_mem.mpr fun entry member => ?_
        have none := tally_eq_none_iff.mp (told.found (Labels.ofEntries entry.1)).symm
        rw [amountsUnder, List.map_eq_nil_iff, List.filter_eq_nil_iff] at none
        exact none entry member (by simp)
      simp [nothing]
  | cons first rest ih =>
      obtain ⟨labels, value⟩ := first
      have own : value = ((amountsUnder labels given).map exactly).sum := by
        have found : some value = tally 0 plus (amountsUnder labels given) := by
          rw [← told.found]
          simp [find?]
        have value := congrArg (·.getD 0) found
        rw [getD_tally, foldl_plus, zero_add] at value
        exact value
      have split := ((List.filter_append_perm (fun entry => Labels.ofEntries entry.1 = labels)
        given).map fun entry => exactly entry.2).sum_eq
      rw [List.map_append, List.sum_append] at split
      rw [List.map_cons, List.sum_cons, ih told.rest, own, amountsUnder, List.map_map, List.map_map,
        List.map_map, Function.comp_def, ← split]
      simp

end Total

/-- Amounts that were given under one label map. -/
def amountsFor (entries : List (String × String)) (given : List (List (String × String) × Number)) :
    List Number :=
  (given.filter fun entry => Labels.Same entry.1 entries).map (·.2)

theorem amountsUnder_ofEntries (entries : List (String × String))
    (given : List (List (String × String) × Number)) :
    amountsUnder (Labels.ofEntries entries) given = amountsFor entries given := by
  simp only [amountsUnder, amountsFor, Labels.ofEntries_eq_iff]

theorem foldl_merge (series : List (Labels × Rat)) (total : Rat) :
    series.foldl (fun sum entry => Accumulator.merge sum entry.2) total =
      total + (series.map (·.2)).sum := by
  induction series generalizing total with
  | nil => simp
  | cons first rest ih =>
      rw [List.foldl_cons, ih, List.map_cons, List.sum_cons, ← add_assoc]
      rfl

namespace Operation

/-- An operation whose amount, if it gives one, has an exact value. -/
def IsFinite (operation : Operation) : Prop :=
  ∀ amount ∈ operation.amount?, amount.exact.toRat?.isSome

/-- A store in which the operations on it can be read off.  Label names are those that a reading
takes. -/
structure AreReflected (operations : List Operation) (store : Store Rat) : Prop where
  names_ascend : store.names.Pairwise (· < ·)
  mem_names : ∀ name, name ∈ store.names ↔ ∃ operation ∈ operations, operation.name = name
  /-- A name has the kind that its first operation asked for, whatever comes later. -/
  keeps : ∀ name kind later, kindIn operations name = some kind →
    ((after store later).metric? name).map Metric.kind = some kind
  refuses : ∀ (operation : Operation) kind, kindIn operations operation.name = some kind →
    kind ≠ operation.kind →
    operation.run store = .error (.wrongKind operation.name kind operation.kind) store
  /-- A negative amount is refused after the lookup, which changes nothing if the name is there. -/
  declines : ∀ name entries amount, Labels.IsFree entries → amount < .int 0 →
    kindIn operations name ≠ some .histogram →
    (Operation.inc name entries amount).run store =
        .error (.decreasing name) ((Operation.counter name).run.leave store) ∧
      (kindIn operations name = some .counter → (Operation.counter name).run.leave store = store)
  value : ∀ name entries, kindIn operations name = some .counter → Labels.IsReadable entries →
    ∃ sum, exactSum (amountsFor entries (givenTo .counter name operations)) = some sum ∧
      Recording.value name entries store = .ok sum store
  total : ∀ name, kindIn operations name = some .counter →
    ∃ sum, exactSum ((givenTo .counter name operations).map (·.2)) = some sum ∧
      Recording.total name store = .ok sum store
  snapshot : ∀ name entries, kindIn operations name = some .histogram →
    Labels.IsReadable entries →
    ∃ sum, exactSum (amountsFor entries (givenTo .histogram name operations)) = some sum ∧
      Recording.snapshot name runTimeBounds entries store =
        .ok { count := (amountsFor entries (givenTo .histogram name operations)).length
              sum
              buckets := runTimeBounds.map fun bound =>
                (bound, (amountsFor entries (givenTo .histogram name operations)).countP
                  (· ≤ bound)) } store
  collect_ascends : store.collect.Pairwise fun earlier later =>
    earlier.name < later.name ∨ earlier.name = later.name ∧ earlier.labels ≠ later.labels
  /-- The collection has the readings of the label maps under which something was given. -/
  collect : ∀ name entries, Labels.IsReadable entries →
    (∀ sum, Sample.counter name (Labels.ofEntries entries) sum ∈ store.collect ↔
      kindIn operations name = some .counter ∧
        amountsFor entries (givenTo .counter name operations) ≠ [] ∧
        Recording.value name entries store = .ok sum store) ∧
    (∀ snapshot, Sample.histogram name (Labels.ofEntries entries) snapshot ∈ store.collect ↔
      kindIn operations name = some .histogram ∧
        amountsFor entries (givenTo .histogram name operations) ≠ [] ∧
        Recording.snapshot name runTimeBounds entries store = .ok snapshot store)
  /-- An operation changes nothing that is read under another name or label map. -/
  frame : ∀ (operation : Operation) name entries,
    (name ≠ operation.name ∨ ¬Labels.Same operation.entries entries) → Labels.IsReadable entries →
    (kindIn operations name = some .counter → ∃ sum, Recording.value name entries store = .ok sum store ∧
      Recording.value name entries (operation.run.leave store) =
        .ok sum (operation.run.leave store)) ∧
    (kindIn operations name = some .histogram → ∃ snapshot,
      Recording.snapshot name runTimeBounds entries store = .ok snapshot store ∧
        Recording.snapshot name runTimeBounds entries (operation.run.leave store) =
          .ok snapshot (operation.run.leave store)) ∧
    ∀ sample : Sample Rat, sample.name = name → sample.labels = Labels.ofEntries entries →
      (sample ∈ (operation.run.leave store).collect ↔ sample ∈ store.collect)

section Given

variable {kind : MetricKind} {name : String} {operations : List Operation}

theorem areFinite_givenTo (finite : ∀ operation ∈ operations, operation.IsFinite) :
    AreFinite ((givenTo kind name operations).map (·.2)) := by
  intro amount member
  obtain ⟨given, held, rfl⟩ := List.mem_map.mp member
  obtain ⟨operation, filtered, gives⟩ := List.mem_filterMap.mp held
  obtain ⟨amount, own, rfl⟩ := Option.map_eq_some_iff.mp gives
  exact finite operation (List.mem_of_mem_filter filtered) amount own

theorem areFinite_amountsFor (finite : ∀ operation ∈ operations, operation.IsFinite)
    (entries : List (String × String)) :
    AreFinite (amountsFor entries (givenTo kind name operations)) := by
  intro amount member
  obtain ⟨given, filtered, rfl⟩ := List.mem_map.mp member
  exact areFinite_givenTo finite given.2
    (List.mem_map.mpr ⟨given, List.mem_of_mem_filter filtered, rfl⟩)

theorem amountsFor_append_of_other {operation : Operation} {entries : List (String × String)}
    (other : name ≠ operation.name ∨ ¬Labels.Same operation.entries entries) :
    amountsFor entries (givenTo kind name (operations ++ [operation])) =
      amountsFor entries (givenTo kind name operations) := by
  rw [givenTo_append_singleton]
  split
  case isFalse => rw [List.append_nil]
  case isTrue own =>
    have differs := other.resolve_left (not_not_intro own.1.symm)
    rw [given?]
    cases operation.amount? with
    | none => rw [Option.map_none, Option.toList_none, List.append_nil]
    | some amount =>
        rw [Option.map_some, Option.toList_some, amountsFor, List.filter_append,
          List.filter_cons_of_neg (by simpa using differs), List.filter_nil, List.append_nil,
          amountsFor]

end Given

section Reflected

variable {operations : List Operation} {store : Store Rat}

theorem value_eq (told : store.IsTold operations) {name : String}
    {entries : List (String × String)} (created : kindIn operations name = some .counter)
    (readable : Labels.IsReadable entries) :
    Recording.value name entries store =
      .ok ((amountsFor entries (givenTo .counter name operations)).map exactly).sum store := by
  rw [told.value created readable, amountsUnder_ofEntries, foldl_plus]
  exact congrArg (EStateM.Result.ok · store) (zero_add _)

theorem snapshot_eq (told : store.IsTold operations) {name : String}
    {entries : List (String × String)} (created : kindIn operations name = some .histogram)
    (readable : Labels.IsReadable entries) :
    Recording.snapshot name runTimeBounds entries store =
      .ok { count := (amountsFor entries (givenTo .histogram name operations)).length
            sum := ((amountsFor entries (givenTo .histogram name operations)).map exactly).sum
            buckets := runTimeBounds.map fun bound =>
              (bound, (amountsFor entries (givenTo .histogram name operations)).countP
                (· ≤ bound)) } store := by
  rw [told.snapshot created readable, amountsUnder_ofEntries, Snapshot.foldl_observe_empty,
    foldl_plus]
  exact congrArg (fun sum => EStateM.Result.ok (Snapshot.mk _ sum _) store) (zero_add _)

theorem total_eq (told : store.IsTold operations) {name : String}
    (created : kindIn operations name = some .counter) :
    Recording.total name store =
      .ok (((givenTo .counter name operations).map (·.2)).map exactly).sum store := by
  obtain ⟨series, found, holds⟩ := told.counter created
  rw [Recording.total_of_found found, foldl_merge, IsTold.sum holds]
  exact congrArg (EStateM.Result.ok · store) (zero_add _)

theorem declines_negative (told : store.IsTold operations) {name : String}
    {entries : List (String × String)} {amount : Number} (free : Labels.IsFree entries)
    (negative : amount < .int 0) (fits : kindIn operations name ≠ some .histogram) :
    (Operation.inc name entries amount).run store =
        .error (.decreasing name) ((Operation.counter name).run.leave store) ∧
      (kindIn operations name = some .counter → (Operation.counter name).run.leave store = store) := by
  have counts : ∃ series, (store.metric? name).getD (.new .counter) = .counter series := by
    cases created : kindIn operations name with
    | none => exact ⟨[], by rw [told.absent name created]; rfl⟩
    | some kind =>
        cases kind with
        | counter =>
            obtain ⟨series, found, -⟩ := told.counter created
            exact ⟨series, by rw [found]; rfl⟩
        | histogram => exact absurd created fits
  obtain ⟨series, found⟩ := counts
  obtain ⟨middle, looked, -⟩ := Recording.counter_eq_ok found
  have returns : (Operation.counter name).run store = .ok () middle := bind_of_ok looked
  constructor
  · rw [Recording.leave_of_ok returns, run, Labels.ofMap_of_free free]
    exact Recording.inc_of_negative looked negative
  · intro created
    obtain ⟨series, found, -⟩ := told.counter created
    have stays : (Operation.counter name).run store = .ok () store :=
      bind_of_ok (Recording.counter_of_found found)
    rw [Recording.leave_of_ok stays]

theorem counter_mem_collect (told : store.IsTold operations) {name : String}
    {entries : List (String × String)} (readable : Labels.IsReadable entries) {sum : Rat} :
    Sample.counter name (Labels.ofEntries entries) sum ∈ store.collect ↔
      kindIn operations name = some .counter ∧
        amountsFor entries (givenTo .counter name operations) ≠ [] ∧
        Recording.value name entries store = .ok sum store := by
  rw [told.counter_mem_collect, amountsUnder_ofEntries]
  refine and_congr_right fun created => and_congr_right fun _ => ?_
  rw [told.value created readable, amountsUnder_ofEntries, EStateM.Result.ok.injEq,
    and_iff_left rfl]

theorem histogram_mem_collect (told : store.IsTold operations) {name : String}
    {entries : List (String × String)} (readable : Labels.IsReadable entries)
    {snapshot : Snapshot Rat} :
    Sample.histogram name (Labels.ofEntries entries) snapshot ∈ store.collect ↔
      kindIn operations name = some .histogram ∧
        amountsFor entries (givenTo .histogram name operations) ≠ [] ∧
        Recording.snapshot name runTimeBounds entries store = .ok snapshot store := by
  rw [told.histogram_mem_collect, amountsUnder_ofEntries]
  refine and_congr_right fun created => and_congr_right fun _ => ?_
  rw [told.snapshot created readable, amountsUnder_ofEntries, EStateM.Result.ok.injEq,
    and_iff_left rfl]

/-- The readings under another name or label map. -/
theorem readings_leave (told : store.IsTold operations) {operation : Operation} {name : String}
    {entries : List (String × String)}
    (other : name ≠ operation.name ∨ ¬Labels.Same operation.entries entries)
    (readable : Labels.IsReadable entries) :
    (kindIn operations name = some .counter → ∃ sum, Recording.value name entries store = .ok sum store ∧
      Recording.value name entries (operation.run.leave store) =
        .ok sum (operation.run.leave store)) ∧
    (kindIn operations name = some .histogram → ∃ snapshot,
      Recording.snapshot name runTimeBounds entries store = .ok snapshot store ∧
        Recording.snapshot name runTimeBounds entries (operation.run.leave store) =
          .ok snapshot (operation.run.leave store)) := by
  have later := told.leave fun amount (_ : amount ∈ operation.amount?) => isAddable_exactly amount
  have stays {kind : MetricKind} (created : kindIn operations name = some kind) :
      kindIn (operations ++ [operation]) name = some kind := by
    rw [kindIn_append, created, Option.some_or]
  constructor
  · intro created
    refine ⟨_, value_eq told created readable, ?_⟩
    rw [value_eq later (stays created) readable, amountsFor_append_of_other other]
  · intro created
    refine ⟨_, snapshot_eq told created readable, ?_⟩
    rw [snapshot_eq later (stays created) readable, amountsFor_append_of_other other]

end Reflected

/-- After any history of finite amounts the store is what the history makes it.  The tags of an
increment or a timing are read up to their first colon; a tag without one is true. -/
theorem after_areReflected (operations : List Operation)
    (finite : ∀ operation ∈ operations, operation.IsFinite) :
    AreReflected operations (after .empty operations) ∧
      ∀ name text : String, ':' ∉ name.toList →
        Labels.parseTag (name ++ ":" ++ text) = (name, text) ∧
          Labels.parseTag name = (name, "true") := by
  have told (operations : List Operation) : (after .empty operations : Store Rat).IsTold operations :=
    Store.isTold_after operations fun _ _ amount _ => isAddable_exactly amount
  refine ⟨?_, fun name text plain =>
    ⟨Labels.parseTag_append plain text, Labels.parseTag_of_bare plain⟩⟩
  constructor
  case names_ascend => exact Store.pairwise_names (told operations).distinct
  case mem_names => exact fun name => (told operations).mem_names
  case keeps =>
    intro name kind later created
    have whole := (told (operations ++ later)).kind name
    rw [kindIn_append, created, Option.some_or, after, List.foldl_append] at whole
    exact whole
  case refuses => exact fun operation kind => (told operations).run_of_other
  case declines =>
    exact fun name entries amount free negative fits =>
      declines_negative (told operations) free negative fits
  case value =>
    exact fun name entries created readable =>
      ⟨_, exactSum_of_finite (areFinite_amountsFor finite entries),
        value_eq (told operations) created readable⟩
  case total =>
    exact fun name created =>
      ⟨_, exactSum_of_finite (areFinite_givenTo finite), total_eq (told operations) created⟩
  case snapshot =>
    exact fun name entries created readable =>
      ⟨_, exactSum_of_finite (areFinite_amountsFor finite entries),
        snapshot_eq (told operations) created readable⟩
  case collect_ascends => exact (told operations).pairwise_collect
  case collect =>
    exact fun name entries readable =>
      ⟨fun sum => counter_mem_collect (told operations) readable,
        fun snapshot => histogram_mem_collect (told operations) readable⟩
  case frame =>
    intro operation name entries other readable
    obtain ⟨value, snapshot⟩ := readings_leave (told operations) other readable
    refine ⟨value, snapshot, ?_⟩
    rintro sample rfl labelled
    refine (told operations).mem_collect_leave (fun amount _ => isAddable_exactly amount) ?_
    refine other.imp_right fun differs same => differs ?_
    rwa [labelled, eq_comm, Labels.ofEntries_eq_iff] at same

/-- A counter and a histogram, with a decrease and an increment that are refused. -/
def runs : List Operation :=
  [.increment "runs" ["engine:linter", "nightly"],
    .inc "runs" [("nightly", "true"), ("engine", "linter")] (.float (.finite (5 / 2))),
    .inc "runs" [("engine", "linter")] (.int (-1)),
    .timing "time" (.float (.finite 120)) ["engine:tidier", "engine:linter"],
    .increment "time" [],
    .observe "time" [("engine", "linter")] (.int 600)]

instance (operation : Operation) : Decidable operation.IsFinite :=
  inferInstanceAs (Decidable (∀ amount ∈ operation.amount?, amount.exact.toRat?.isSome))

theorem runs_areReflected :
    (∀ operation ∈ runs, operation.IsFinite) ∧
      (after .empty runs : Store Rat).names.Pairwise (· < ·) ∧
      (∃ store, Recording.value "runs" [("engine", "linter"), ("nightly", "true")]
        (after .empty runs : Store Rat) = .ok (7 / 2) store) ∧
      ∃ store, (Operation.increment "time" []).run (after .empty runs : Store Rat) =
        .error (.wrongKind "time" .histogram .counter) store := by
  have finite : ∀ operation ∈ runs, operation.IsFinite := by decide +kernel
  obtain ⟨reflected, -⟩ := after_areReflected runs finite
  refine ⟨finite, reflected.names_ascend, ?_, ?_⟩
  · obtain ⟨sum, summed, returned⟩ := reflected.value "runs"
      [("engine", "linter"), ("nightly", "true")] (by decide) (by unfold Labels.IsReadable; decide)
    have known : exactSum (amountsFor [("engine", "linter"), ("nightly", "true")]
        (givenTo .counter "runs" runs)) = some (7 / 2) := by decide +kernel
    rw [known] at summed
    rw [← Option.some.inj summed] at returned
    exact ⟨_, returned⟩
  · exact ⟨_, reflected.refuses (.increment "time" []) .histogram (by decide) (by decide)⟩

end Operation

end AnalysisEngines.Metrics
