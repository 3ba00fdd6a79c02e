import AnalysisEngines.Proofs.Metrics.History

/-!
# What is read from a store after a history

The reading of one label set and the collection of all of them find the same series.  An operation
on one name and label set leaves every other series as it is.
-/

set_option autoImplicit false

namespace AnalysisEngines.Metrics

namespace Sample

def name {σ : Type} : Sample σ → String
  | .counter name _ _ | .histogram name _ _ => name

def labels {σ : Type} : Sample σ → Labels
  | .counter _ labels _ | .histogram _ labels _ => labels

end Sample

variable {σ : Type} [Accumulator σ] {store : Store σ} {operations : List Operation}
  {operation : Operation} {name : String}

namespace Store.IsTold

variable (told : store.IsTold operations)

include told

theorem kind (name : String) :
    (store.metric? name).map Metric.kind = Operation.kindIn operations name := by
  cases created : Operation.kindIn operations name with
  | none => rw [told.absent name created, Option.map_none]
  | some kind =>
      obtain ⟨metric, found, rfl, -⟩ := told.held name kind created
      rw [found, Option.map_some]

theorem of_found {metric : Metric σ} (found : store.metric? name = some metric) :
    metric.IsTold (Operation.givenTo metric.kind name operations) := by
  have created := told.kind name
  rw [found, Option.map_some] at created
  obtain ⟨held, found', -, holds⟩ := told.held name metric.kind created.symm
  obtain rfl := Option.some.inj (found.symm.trans found')
  exact holds

theorem mem_names : name ∈ store.names ↔ ∃ operation ∈ operations, operation.name = name := by
  rw [Store.mem_names, ← not_iff_not, Option.not_isSome_iff_eq_none, ← Option.map_eq_none_iff,
    told.kind, Operation.kindIn_eq_none_iff]
  simp

theorem counter (created : Operation.kindIn operations name = some .counter) :
    ∃ series, store.metric? name = some (.counter series) ∧
      Metrics.IsTold Accumulator.zero plus (Operation.givenTo .counter name operations) series := by
  obtain ⟨metric, found, kind, holds⟩ := told.held name .counter created
  cases metric with
  | counter series => exact ⟨series, found, holds⟩
  | histogram => cases kind

theorem histogram (created : Operation.kindIn operations name = some .histogram) :
    ∃ series, store.metric? name = some (.histogram runTimeBounds series) ∧
      Metrics.IsTold (Snapshot.empty runTimeBounds)
        (fun before amount => before.observe runTimeBounds amount)
        (Operation.givenTo .histogram name operations) series := by
  obtain ⟨metric, found, kind, holds⟩ := told.held name .histogram created
  cases metric with
  | counter => cases kind
  | histogram bounds series =>
      obtain ⟨rfl, holds⟩ := holds
      exact ⟨series, found, holds⟩

theorem value (created : Operation.kindIn operations name = some .counter)
    {entries : List (String × String)} (readable : Labels.IsReadable entries) :
    Recording.value name entries store =
      .ok ((amountsUnder (Labels.ofEntries entries)
        (Operation.givenTo .counter name operations)).foldl plus Accumulator.zero) store := by
  obtain ⟨series, found, holds⟩ := told.counter created
  rw [Recording.value_of_found found readable, holds.found, getD_tally]

theorem snapshot (created : Operation.kindIn operations name = some .histogram)
    {entries : List (String × String)} (readable : Labels.IsReadable entries)
    (bounds : List Number) :
    Recording.snapshot name bounds entries store =
      .ok ((amountsUnder (Labels.ofEntries entries)
        (Operation.givenTo .histogram name operations)).foldl
          (fun before amount => before.observe runTimeBounds amount)
          (Snapshot.empty runTimeBounds)) store := by
  obtain ⟨series, found, holds⟩ := told.histogram created
  rw [Recording.snapshot_of_found found bounds readable, holds.found, getD_tally]

/-- A reading of a name that may be new, which the reading creates. -/
theorem exists_value (fits : Operation.kindIn operations name ≠ some .histogram)
    {entries : List (String × String)} (readable : Labels.IsReadable entries) :
    ∃ last, Recording.value name entries store =
      .ok ((amountsUnder (Labels.ofEntries entries)
        (Operation.givenTo .counter name operations)).foldl plus Accumulator.zero) last := by
  cases created : Operation.kindIn operations name with
  | none =>
      rw [Operation.givenTo_eq_nil created]
      exact ⟨_, Recording.value_of_new (told.absent name created) readable⟩
  | some kind =>
      cases kind with
      | counter => exact ⟨store, told.value created readable⟩
      | histogram => exact absurd created fits

theorem exists_snapshot (fits : Operation.kindIn operations name ≠ some .counter)
    {entries : List (String × String)} (readable : Labels.IsReadable entries) :
    ∃ last, Recording.snapshot name runTimeBounds entries store =
      .ok ((amountsUnder (Labels.ofEntries entries)
        (Operation.givenTo .histogram name operations)).foldl
          (fun before amount => before.observe runTimeBounds amount)
          (Snapshot.empty runTimeBounds)) last := by
  cases created : Operation.kindIn operations name with
  | none =>
      rw [Operation.givenTo_eq_nil created]
      exact ⟨_, Recording.snapshot_of_new (told.absent name created) readable⟩
  | some kind =>
      cases kind with
      | counter => exact absurd created fits
      | histogram => exact ⟨store, told.snapshot created readable _⟩

theorem run_of_other {kind : MetricKind}
    (created : Operation.kindIn operations operation.name = some kind)
    (other : kind ≠ operation.kind) :
    operation.run store = .error (.wrongKind operation.name kind operation.kind) store := by
  obtain ⟨metric, found, rfl, -⟩ := told.held _ _ created
  exact Operation.run_of_other found other

end Store.IsTold

/-- The sample of a label set. -/
def Metric.sample? (name : String) (labels : Labels) : Metric σ → Option (Sample σ)
  | .counter series => (find? labels series).map (.counter name labels)
  | .histogram _ series => (find? labels series).map (.histogram name labels)

theorem Metric.mem_samples {given : List (List (String × String) × Number)} {metric : Metric σ}
    (holds : metric.IsTold given) {sample : Sample σ} :
    sample ∈ metric.samples name ↔
      sample.name = name ∧ metric.sample? name sample.labels = some sample := by
  cases metric with
  | counter series =>
      simp only [samples, List.mem_map, sample?, Option.map_eq_some_iff]
      constructor
      · rintro ⟨⟨labels, value⟩, member, rfl⟩
        exact ⟨rfl, value, (map_find?_eq_some_iff holds.distinct).mpr member, rfl⟩
      · rintro ⟨-, value, found, made⟩
        exact ⟨(sample.labels, value), (map_find?_eq_some_iff holds.distinct).mp found, made⟩
  | histogram bounds series =>
      simp only [samples, List.mem_map, sample?, Option.map_eq_some_iff]
      constructor
      · rintro ⟨⟨labels, snapshot⟩, member, rfl⟩
        exact ⟨rfl, snapshot, (map_find?_eq_some_iff holds.2.distinct).mpr member, rfl⟩
      · rintro ⟨-, snapshot, found, made⟩
        exact ⟨(sample.labels, snapshot), (map_find?_eq_some_iff holds.2.distinct).mp found, made⟩

/-- The collection has the samples of all label sets of all names. -/
theorem Store.IsTold.mem_collect (told : store.IsTold operations) {sample : Sample σ} :
    sample ∈ store.collect ↔
      ((store.metric? sample.name).bind fun metric =>
        metric.sample? sample.name sample.labels) = some sample := by
  simp only [collect, List.mem_flatMap, mem_sortedByName, Option.bind_eq_some_iff]
  constructor
  · rintro ⟨⟨name, metric⟩, member, sampled⟩
    have found := (metric?_eq_some_iff told.distinct).mpr member
    obtain ⟨rfl, own⟩ := (Metric.mem_samples (told.of_found found)).mp sampled
    exact ⟨metric, found, own⟩
  · rintro ⟨metric, found, own⟩
    exact ⟨(sample.name, metric), (metric?_eq_some_iff told.distinct).mp found,
      (Metric.mem_samples (told.of_found found)).mpr ⟨rfl, own⟩⟩

/-- Samples are collected in ascending order of their names, each label set of a name once. -/
theorem Store.IsTold.pairwise_collect (told : store.IsTold operations) :
    store.collect.Pairwise fun earlier later =>
      earlier.name < later.name ∨ earlier.name = later.name ∧ earlier.labels ≠ later.labels := by
  have named {entry : String × Metric σ} (member : entry ∈ store.metrics) {sample : Sample σ}
      (sampled : sample ∈ entry.2.samples entry.1) : sample.name = entry.1 :=
    ((Metric.mem_samples (told.of_found ((metric?_eq_some_iff told.distinct).mpr member))).mp
      sampled).1
  refine List.pairwise_flatMap.mpr ⟨fun entry member => ?_, ?_⟩
  · rw [mem_sortedByName] at member
    have holds := told.of_found ((metric?_eq_some_iff told.distinct).mpr member)
    obtain ⟨name, metric⟩ := entry
    cases metric with
    | counter series =>
        exact List.pairwise_map.mpr
          ((List.pairwise_map.mp holds.distinct).imp fun apart => .inr ⟨rfl, apart⟩)
    | histogram bounds series =>
        exact List.pairwise_map.mpr
          ((List.pairwise_map.mp holds.2.distinct).imp fun apart => .inr ⟨rfl, apart⟩)
  · refine (pairwise_sortedByName told.distinct).imp_of_mem ?_
    intro before after early late ascends first sampled second sampled'
    rw [mem_sortedByName] at early late
    rw [named early sampled, named late sampled']
    exact .inl ascends

theorem Store.IsTold.counter_mem_collect (told : store.IsTold operations) {labels : Labels}
    {value : σ} :
    Sample.counter name labels value ∈ store.collect ↔
      Operation.kindIn operations name = some .counter ∧
        amountsUnder labels (Operation.givenTo .counter name operations) ≠ [] ∧
        (amountsUnder labels (Operation.givenTo .counter name operations)).foldl plus
          Accumulator.zero = value := by
  rw [told.mem_collect, ← told.kind]
  cases found : store.metric? name with
  | none => simp [Sample.name, found]
  | some metric =>
      cases metric with
      | histogram bounds series => simp [Sample.name, found, Metric.sample?, Metric.kind]
      | counter series =>
          have holds : Metrics.IsTold _ _ _ _ := told.of_found found
          simp [Sample.name, Sample.labels, found, Metric.sample?, Metric.kind, holds.found,
            tally_eq_some_iff]

theorem Store.IsTold.histogram_mem_collect (told : store.IsTold operations) {labels : Labels}
    {snapshot : Snapshot σ} :
    Sample.histogram name labels snapshot ∈ store.collect ↔
      Operation.kindIn operations name = some .histogram ∧
        amountsUnder labels (Operation.givenTo .histogram name operations) ≠ [] ∧
        (amountsUnder labels (Operation.givenTo .histogram name operations)).foldl
          (fun before amount => before.observe runTimeBounds amount)
          (Snapshot.empty runTimeBounds) = snapshot := by
  rw [told.mem_collect, ← told.kind]
  cases found : store.metric? name with
  | none => simp [Sample.name, found]
  | some metric =>
      cases metric with
      | counter series => simp [Sample.name, found, Metric.sample?, Metric.kind]
      | histogram bounds series =>
          obtain ⟨rfl, holds⟩ : _ ∧ Metrics.IsTold _ _ _ _ := told.of_found found
          simp [Sample.name, Sample.labels, found, Metric.sample?, Metric.kind, holds.found,
            tally_eq_some_iff]

omit [Accumulator σ] in
theorem Metric.sample?_new (kind : MetricKind) (name : String) (labels : Labels) :
    (Metric.new kind : Metric σ).sample? name labels = none := by
  cases kind <;> rfl

theorem Metric.sample?_giveAny {metric : Metric σ} {entries : List (String × String)}
    {amount : Option Number} {labels : Labels} (other : labels ≠ Labels.ofEntries entries) :
    (metric.giveAny entries amount).sample? name labels = metric.sample? name labels := by
  cases amount with
  | none => rfl
  | some amount =>
      cases metric with
      | counter series => simp only [giveAny, give, sample?, find?_update, if_neg other]
      | histogram bounds series => simp only [giveAny, give, sample?, find?_update, if_neg other]

/-- An operation changes the sample of its own name and label set only. -/
theorem Store.IsTold.mem_collect_leave (told : store.IsTold operations)
    (addable : ∀ amount ∈ operation.amount?, IsAddable σ amount) {sample : Sample σ}
    (other : sample.name ≠ operation.name ∨ sample.labels ≠ Labels.ofEntries operation.entries) :
    sample ∈ (operation.run.leave store).collect ↔ sample ∈ store.collect := by
  rw [(told.leave addable).mem_collect, told.mem_collect]
  by_cases same : ((store.metric? operation.name).getD (.new operation.kind)).kind = operation.kind
  case neg =>
    cases found : store.metric? operation.name with
    | none => rw [found, Option.getD_none, Metric.kind_new] at same; exact absurd rfl same
    | some metric =>
        rw [found, Option.getD_some] at same
        rw [Recording.leave_of_error (Operation.run_of_other found same)]
  case pos =>
    rw [(Operation.run_gives rfl same addable).sets.metric?]
    by_cases own : sample.name = operation.name
    case neg => rw [if_neg own]
    case pos =>
      have other := other.resolve_left (not_not_intro own)
      rw [if_pos own, Option.bind_some, Metric.sample?_giveAny other, own]
      cases found : store.metric? operation.name with
      | none => rw [Option.getD_none, Metric.sample?_new, Option.bind_none]
      | some metric => rw [Option.getD_some, Option.bind_some]

end AnalysisEngines.Metrics
