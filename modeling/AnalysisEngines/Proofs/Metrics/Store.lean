import AnalysisEngines.Proofs.Composition
import AnalysisEngines.Proofs.Metrics.Buckets
import AnalysisEngines.Proofs.Metrics.Labels

/-!
# What recordings do to the store

A store is told by the metric that each name has, and a series by the value that each label set has.
A recording sets the metric of its own name and nothing else.
-/

set_option autoImplicit false

namespace AnalysisEngines.Metrics

section Entries

variable {κ α : Type} [BEq κ] [LawfulBEq κ]

/-- Entries with keys of their own are told by what is found under each key. -/
theorem map_find?_eq_some_iff {entries : List (κ × α)} (distinct : (entries.map (·.1)).Nodup)
    {key : κ} {value : α} :
    (entries.find? fun entry => entry.1 == key).map (·.2) = some value ↔
      (key, value) ∈ entries := by
  induction entries with
  | nil => simp
  | cons first rest ih =>
      obtain ⟨known, held⟩ := first
      obtain ⟨fresh, distinct⟩ := List.nodup_cons.mp distinct
      by_cases same : known = key
      · subst same
        have absent : (known, value) ∉ rest := fun member =>
          fresh (List.mem_map.mpr ⟨(known, value), member, rfl⟩)
        rw [List.find?_cons_of_pos (by exact beq_self_eq_true known), Option.map_some,
          Option.some_inj, List.mem_cons, or_iff_left absent, Prod.mk.injEq, eq_comm]
        exact (and_iff_right rfl).symm
      · rw [List.find?_cons_of_neg (by simpa using same), ih distinct, List.mem_cons,
          Prod.mk.injEq, or_iff_right fun equal => same equal.1.symm]

theorem find?_eq_none_iff {entries : List (κ × α)} {key : κ} :
    (entries.find? fun entry => entry.1 == key).map (·.2) = none ↔ key ∉ entries.map (·.1) := by
  simp only [Option.map_eq_none_iff, List.find?_eq_none, beq_iff_eq, List.mem_map, not_exists,
    not_and]

end Entries

theorem nodup_append_singleton {κ : Type} {keys : List κ} {key : κ} (distinct : keys.Nodup)
    (fresh : key ∉ keys) : (keys ++ [key]).Nodup := by
  rw [← List.concat_eq_append]
  exact distinct.concat fresh

section Series

variable {α : Type} {labels other : Labels} {initial : α} {change : α → α}
  {series : List (Labels × α)}

theorem find?_update :
    find? other (update labels initial change series) =
      if other = labels then some (change ((find? labels series).getD initial))
      else find? other series := by
  induction series with
  | nil =>
      by_cases own : other = labels
      · simp [find?, update, own]
      · simp [find?, update, own, Ne.symm own]
  | cons first rest ih =>
      obtain ⟨known, value⟩ := first
      by_cases same : known = labels
      · subst same
        by_cases own : other = known
        · simp [find?, update, own]
        · simp [find?, update, own, Ne.symm own]
      · have skipped : find? labels ((known, value) :: rest) = find? labels rest := by
          simp [find?, same]
        rw [skipped, update, if_neg (by simpa using same)]
        by_cases own : other = known
        · subst own
          rw [if_neg same]
          simp [find?]
        · have passed (entries : List (Labels × α)) :
              find? other ((known, value) :: entries) = find? other entries := by
            simp [find?, Ne.symm own]
          rw [passed, passed, ih]

theorem keys_update :
    (update labels initial change series).map (·.1) =
      if labels ∈ series.map (·.1) then series.map (·.1) else series.map (·.1) ++ [labels] := by
  induction series with
  | nil => simp [update]
  | cons first rest ih =>
      obtain ⟨known, value⟩ := first
      by_cases same : known = labels
      · simp [update, same]
      · rw [update, if_neg (by simpa using same)]
        simp only [List.map_cons, ih]
        by_cases held : labels ∈ rest.map (·.1)
        · rw [if_pos held, if_pos (List.mem_cons_of_mem _ held)]
        · rw [if_neg held, if_neg (List.not_mem_cons_of_ne_of_not_mem (Ne.symm same) held),
            List.cons_append]

theorem nodup_keys_update (distinct : (series.map (·.1)).Nodup) :
    ((update labels initial change series).map (·.1)).Nodup := by
  rw [keys_update]
  split
  case isTrue => exact distinct
  case isFalse fresh => exact nodup_append_singleton distinct fresh

/-- A change of what is there sets what it makes of it. -/
theorem update_eq_update :
    update labels initial change series =
      update labels (change ((find? labels series).getD initial))
        (fun _ => change ((find? labels series).getD initial)) series := by
  induction series with
  | nil => rfl
  | cons first rest ih =>
      obtain ⟨known, value⟩ := first
      by_cases same : known = labels
      · simp [update, find?, same]
      · have skipped : find? labels ((known, value) :: rest) = find? labels rest := by
          simp [find?, same]
        rw [skipped, update, if_neg (by simpa using same), update, if_neg (by simpa using same), ← ih]

end Series

variable {σ : Type}

namespace Store

variable {store middle last : Store σ} {name other : String} {metric : Metric σ}

/-- No name is held twice. -/
def IsDistinct (store : Store σ) : Prop := (store.metrics.map (·.1)).Nodup

theorem metric?_eq_some_iff (distinct : store.IsDistinct) :
    store.metric? name = some metric ↔ (name, metric) ∈ store.metrics :=
  map_find?_eq_some_iff distinct

theorem metric?_isSome_iff : (store.metric? name).isSome ↔ name ∈ store.metrics.map (·.1) := by
  rw [← not_iff_not, Option.not_isSome_iff_eq_none, metric?, find?_eq_none_iff]

/-- The last store holds a metric under a name, and otherwise what the first one holds. -/
structure Sets (store : Store σ) (name : String) (metric : Metric σ) (last : Store σ) : Prop where
  metric? : ∀ other, last.metric? other = if other = name then some metric else store.metric? other
  distinct : store.IsDistinct → last.IsDistinct

theorem Sets.of_found (found : store.metric? name = some metric) :
    store.Sets name metric store where
  metric? other := by
    by_cases own : other = name
    · rw [if_pos own, own, found]
    · rw [if_neg own]
  distinct := id

theorem Sets.trans {first : Metric σ} (sets : store.Sets name first middle)
    (sets' : middle.Sets name metric last) : store.Sets name metric last where
  metric? other := by
    rw [sets'.metric?, sets.metric?]
    by_cases own : other = name
    · rw [if_pos own, if_pos own]
    · rw [if_neg own, if_neg own, if_neg own]
  distinct := sets'.distinct ∘ sets.distinct

/-- Setting the metric of a name that is there. -/
theorem sets_replace (held : name ∈ store.metrics.map (·.1)) :
    store.Sets name metric { store with
      metrics := store.metrics.map fun entry =>
        if entry.1 == name then (name, metric) else entry } := by
  have key (entry : String × Metric σ) :
      (if entry.1 == name then (name, metric) else entry).1 = entry.1 := by
    by_cases own : entry.1 = name <;> simp [own]
  constructor
  case metric? =>
    intro other
    simp only [Store.metric?, List.find?_map, Function.comp_def, key, Option.map_map]
    by_cases own : other = name
    · subst own
      rw [if_pos rfl]
      obtain ⟨entry, member, rfl⟩ := List.mem_map.mp held
      have held : (store.metrics.find? fun other => other.1 == entry.1).isSome :=
        List.find?_isSome.mpr ⟨entry, member, by exact beq_self_eq_true entry.1⟩
      obtain ⟨first, found⟩ := Option.isSome_iff_exists.mp held
      rw [found, Option.map_some, if_pos (List.find?_some found)]
    · rw [if_neg own]
      refine Option.map_congr fun entry found => ?_
      have named : entry.1 = other := by simpa using List.find?_some found
      rw [if_neg (by simpa [named] using own)]
  case distinct =>
    intro distinct
    simpa only [IsDistinct, List.map_map, Function.comp_def, key] using distinct

/-- Setting the metric of a new name. -/
theorem sets_append (absent : name ∉ store.metrics.map (·.1)) :
    store.Sets name metric { store with metrics := store.metrics ++ [(name, metric)] } := by
  constructor
  case metric? =>
    intro other
    rw [Store.metric?, List.find?_append, Option.map_or, ← Store.metric?]
    by_cases own : other = name
    · rw [own, Store.metric?, find?_eq_none_iff.mpr absent]
      simp
    · rw [if_neg own, List.find?_cons_of_neg (by simpa using Ne.symm own)]
      exact Option.or_none
  case distinct =>
    intro distinct
    rw [IsDistinct, List.map_append]
    exact nodup_append_singleton distinct absent

theorem sets_setMetric (store : Store σ) (name : String) (metric : Metric σ) :
    store.Sets name metric (store.setMetric name metric) := by
  by_cases held : name ∈ store.metrics.map (·.1)
  · rw [setMetric, if_pos (by simpa using held)]
    exact sets_replace held
  · rw [setMetric, if_neg (by simpa using held)]
    exact sets_append held

theorem mem_names : name ∈ store.names ↔ (store.metric? name).isSome := by
  rw [metric?_isSome_iff, names, ((sortedByName_perm store.metrics).map _).mem_iff]

theorem pairwise_names (distinct : store.IsDistinct) : store.names.Pairwise (· < ·) :=
  List.pairwise_map.mpr (pairwise_sortedByName distinct)

end Store

/-- A metric as it is created. -/
def Metric.new : MetricKind → Metric σ
  | .counter => .counter []
  | .histogram => .histogram runTimeBounds []

theorem Metric.kind_new (kind : MetricKind) : (Metric.new kind : Metric σ).kind = kind := by
  cases kind <;> rfl

namespace Recording

section Lookup

variable {store : Store σ} {name : String} {metric : Metric σ}

theorem counter_of_found {series : List (Labels × σ)}
    (found : store.metric? name = some (.counter series)) :
    counter name store = .ok series store := by
  rw [counter, bind_of_ok (get_apply store), found]
  rfl

theorem counter_of_new (absent : store.metric? name = none) :
    counter name store = .ok [] (store.setMetric name (.counter [])) := by
  rw [counter, bind_of_ok (get_apply store), absent]
  rfl

theorem counter_of_other (found : store.metric? name = some metric) (other : metric.kind ≠ .counter) :
    counter name store = .error (.wrongKind name metric.kind .counter) store := by
  rw [counter, bind_of_ok (get_apply store), found]
  cases metric with
  | counter => exact absurd rfl other
  | histogram => rfl

theorem histogram_of_found {known : List Number} {series : List (Labels × Snapshot σ)}
    (found : store.metric? name = some (.histogram known series)) (bounds : List Number) :
    histogram name bounds store = .ok (known, series) store := by
  rw [histogram, bind_of_ok (get_apply store), found]
  rfl

theorem histogram_of_new (absent : store.metric? name = none) :
    histogram name runTimeBounds store =
      .ok (runTimeBounds, []) (store.setMetric name (.histogram runTimeBounds [])) := by
  rw [histogram, bind_of_ok (get_apply store), absent]
  rfl

theorem histogram_of_other (found : store.metric? name = some metric)
    (other : metric.kind ≠ .histogram) (bounds : List Number) :
    histogram name bounds store = .error (.wrongKind name metric.kind .histogram) store := by
  rw [histogram, bind_of_ok (get_apply store), found]
  cases metric with
  | counter => rfl
  | histogram => exact absurd rfl other

/-- A counter is looked up or created. -/
theorem counter_eq_ok {series : List (Labels × σ)}
    (found : (store.metric? name).getD (.new .counter) = .counter series) :
    ∃ middle, counter name store = .ok series middle ∧ store.Sets name (.counter series) middle := by
  cases held : store.metric? name with
  | none =>
      rw [held] at found
      cases found
      exact ⟨_, counter_of_new held, store.sets_setMetric name _⟩
  | some metric =>
      rw [held] at found
      cases found
      exact ⟨store, counter_of_found held, .of_found held⟩

/-- A histogram is looked up, or created with the bounds of run times. -/
theorem histogram_eq_ok {known : List Number} {series : List (Labels × Snapshot σ)}
    (found : (store.metric? name).getD (.new .histogram) = .histogram known series) :
    ∃ middle, histogram name runTimeBounds store = .ok (known, series) middle ∧
      store.Sets name (.histogram known series) middle := by
  cases held : store.metric? name with
  | none =>
      rw [held] at found
      cases found
      exact ⟨_, histogram_of_new held, store.sets_setMetric name _⟩
  | some metric =>
      rw [held] at found
      cases found
      exact ⟨store, histogram_of_found held _, .of_found held⟩

/-- A histogram that is asked for is there. -/
theorem metric?_of_histogram {created : Store σ} {bounds known : List Number}
    {series : List (Labels × Snapshot σ)}
    (looked : histogram name bounds store = .ok (known, series) created) :
    created.metric? name = some (.histogram known series) := by
  cases held : store.metric? name with
  | some metric =>
      by_cases kind : metric.kind = .histogram
      · cases metric with
        | counter => cases kind
        | histogram =>
            rw [histogram_of_found held] at looked
            cases looked
            exact held
      · rw [histogram_of_other held kind] at looked
        cases looked
  | none =>
      rw [histogram, bind_of_ok (get_apply store), held] at looked
      by_cases refused : bounds.isEmpty || !isAscending bounds
      · simp only [if_pos refused] at looked
        cases looked
      · simp only [if_neg refused] at looked
        cases looked
        rw [(store.sets_setMetric name _).metric?, if_pos rfl]

theorem readingLabels_of_readable {entries : List (String × String)}
    (readable : Labels.IsReadable entries) {reserved : ReservedLabel} (own : reserved.name = "self")
    (store : Store σ) :
    readingLabels reserved entries store = .ok (Labels.ofEntries entries) store := by
  have free : ¬(entries.any fun entry => entry.1 == reserved.name) := by
    intro taken
    obtain ⟨entry, member, named⟩ := List.any_eq_true.mp taken
    exact (readable entry member).2 ((eq_of_beq named).trans own)
  rw [readingLabels, if_neg free,
    Labels.ofMap_of_free fun entry member => (readable entry member).1]
  rfl

end Lookup

end Recording

variable [Accumulator σ]

/-- A sum and one more amount. -/
def plus (total : σ) (amount : Number) : σ := (Accumulator.add total amount).getD total

/-- An amount that every sum takes. -/
def IsAddable (σ : Type) [Accumulator σ] (amount : Number) : Prop :=
  ∀ total : σ, Accumulator.add total amount = some (plus total amount)

/-- A number that is or rounds to a double-precision number can be summed. -/
theorem isAddable_of_isSome {amount : Number} (rounds : amount.toBinary64?.isSome) :
    IsAddable Binary64 amount := by
  obtain ⟨rounded, rounds⟩ := Option.isSome_iff_exists.mp rounds
  intro total
  simp [plus, Accumulator.add, rounds]

theorem isAddable_float (value : Binary64) : IsAddable Binary64 (.float value) :=
  isAddable_of_isSome rfl

/-- A snapshot with one more observation. -/
def Snapshot.observe (bounds : List Number) (amount : Number) (before : Snapshot σ) : Snapshot σ where
  count := before.count + 1
  sum := plus before.sum amount
  buckets := countIn bounds amount before.buckets

/-- Observations are counted, summed and distributed over the buckets. -/
theorem Snapshot.foldl_observe {keys : List Number} (apart : AreApart keys)
    (bounds amounts : List Number) (counts : Number → Nat) (before : Snapshot σ)
    (counted : before.buckets = keys.map fun key => (key, counts key)) :
    amounts.foldl (fun before amount => before.observe bounds amount) before =
      { count := before.count + amounts.length
        sum := amounts.foldl plus before.sum
        buckets := keys.map fun key =>
          (key, counts key + amounts.countP (· ≤ key) * times bounds key) } := by
  induction amounts generalizing counts before with
  | nil =>
      simp only [List.countP_nil, Nat.zero_mul, Nat.add_zero, ← counted]
      rfl
  | cons amount rest ih =>
      have observed : (before.observe bounds amount).buckets = keys.map fun key =>
          (key, counts key + if amount ≤ key then times bounds key else 0) := by
        rw [observe, counted, countIn_map apart]
      have counted (key : Number) :
          counts key + (if amount ≤ key then times bounds key else 0) +
              rest.countP (· ≤ key) * times bounds key =
            counts key + (amount :: rest).countP (· ≤ key) * times bounds key := by
        rw [List.countP_cons]
        by_cases within : amount ≤ key
        · rw [if_pos within, if_pos (by simpa using within), Nat.add_mul, Nat.one_mul,
            Nat.add_assoc, Nat.add_comm (times bounds key)]
        · rw [if_neg within, if_neg (by simpa using within), Nat.add_zero, Nat.add_zero]
      have length : before.count + 1 + rest.length = before.count + (amount :: rest).length := by
        rw [List.length_cons]
        omega
      rw [List.foldl_cons, ih _ _ observed]
      simp only [counted, observe, length, List.foldl_cons]

/-- What observations come to in a new histogram. -/
theorem Snapshot.foldl_observe_new (bounds amounts : List Number) :
    amounts.foldl (fun before amount => before.observe bounds amount)
        (Snapshot.empty bounds : Snapshot σ) =
      { count := amounts.length
        sum := amounts.foldl plus Accumulator.zero
        buckets := (distinctBounds bounds).map fun key =>
          (key, amounts.countP (· ≤ key) * times bounds key) } := by
  rw [foldl_observe (areApart_distinctBounds bounds) bounds amounts (fun _ => 0) _
    (emptyBuckets_eq bounds)]
  simp only [Snapshot.empty, Nat.zero_add]

theorem Snapshot.foldl_observe_empty (amounts : List Number) :
    amounts.foldl (fun before amount => before.observe runTimeBounds amount)
        (Snapshot.empty runTimeBounds : Snapshot σ) =
      { count := amounts.length
        sum := amounts.foldl plus Accumulator.zero
        buckets := runTimeBounds.map fun bound => (bound, amounts.countP (· ≤ bound)) } := by
  have apart : distinctBounds runTimeBounds = runTimeBounds := by decide
  have once : ∀ bound ∈ runTimeBounds, times runTimeBounds bound = 1 := by decide
  rw [foldl_observe_new, apart]
  congr 1
  refine List.map_congr_left fun bound listed => ?_
  rw [once bound listed, Nat.mul_one]

/-- A metric with one more amount under a label set. -/
def Metric.give (labels : Labels) (amount : Number) : Metric σ → Metric σ
  | .counter series => .counter (update labels Accumulator.zero (plus · amount) series)
  | .histogram bounds series =>
      .histogram bounds (update labels (Snapshot.empty bounds) (·.observe bounds amount) series)

theorem Metric.kind_give (labels : Labels) (amount : Number) (metric : Metric σ) :
    (metric.give labels amount).kind = metric.kind := by cases metric <;> rfl

namespace Recording

section Counter

variable {store middle : Store σ} {name : String} {labels : Labels} {amount : Number}
  {series : List (Labels × σ)}

theorem inc_of_reserved {reserved : ReservedLabel}
    (looked : counter name store = .ok series middle) (amount : Value) :
    inc name (.error reserved) amount store = .error (.reservedLabel reserved) middle := by
  rw [inc, bind_of_ok looked]
  rfl

theorem inc_of_negative (looked : counter name store = .ok series middle)
    (negative : amount < .int 0) :
    inc name (.ok labels) (.number amount) store = .error (.decreasing name) middle := by
  rw [inc, bind_of_ok looked]
  simp only [Recording.labels, pure_bind, Value.number?, if_pos negative]
  rfl

theorem inc_of_addable (looked : counter name store = .ok series middle)
    (allowed : ¬amount < .int 0) (addable : IsAddable σ amount) :
    inc name (.ok labels) (.number amount) store =
      .ok () (middle.setMetric name ((Metric.counter series).give labels amount)) := by
  rw [inc, bind_of_ok looked, Metric.give, update_eq_update]
  simp only [Recording.labels, pure_bind, Value.number?, if_neg allowed, addable _]
  rfl

theorem value_of_found (found : store.metric? name = some (.counter series))
    {entries : List (String × String)} (readable : Labels.IsReadable entries) :
    value name entries store =
      .ok ((find? (Labels.ofEntries entries) series).getD Accumulator.zero) store := by
  rw [value, bind_of_ok (counter_of_found found), bind_of_ok (readingLabels_of_readable readable rfl _)]
  rfl

theorem value_of_new (absent : store.metric? name = none) {entries : List (String × String)}
    (readable : Labels.IsReadable entries) :
    value name entries store =
      .ok (Accumulator.zero : σ) (store.setMetric name (.counter [])) := by
  rw [value, bind_of_ok (counter_of_new absent), bind_of_ok (readingLabels_of_readable readable rfl _)]
  rfl

theorem total_of_found (found : store.metric? name = some (.counter series)) :
    total name store =
      .ok (series.foldl (fun sum entry => Accumulator.merge sum entry.2) Accumulator.zero) store := by
  rw [total, bind_of_ok (counter_of_found found)]
  rfl

end Counter

section Histogram

variable {store middle : Store σ} {name : String} {labels : Labels} {amount : Number}
  {known bounds : List Number} {series : List (Labels × Snapshot σ)}

theorem observe_of_reserved {reserved : ReservedLabel}
    (looked : histogram name bounds store = .ok (known, series) middle) (observed : Value) :
    observe name bounds (.error reserved) observed store =
      .error (.reservedLabel reserved) middle := by
  rw [observe, bind_of_ok looked]
  rfl

theorem observe_of_addable (looked : histogram name bounds store = .ok (known, series) middle)
    (addable : IsAddable σ amount) :
    observe name bounds (.ok labels) (.number amount) store =
      .ok () (middle.setMetric name ((Metric.histogram known series).give labels amount)) := by
  rw [observe, bind_of_ok looked, Metric.give, update_eq_update]
  simp only [Recording.labels, pure_bind, Value.number?, addable _]
  rfl

theorem snapshot_of_found (found : store.metric? name = some (.histogram known series))
    (bounds : List Number) {entries : List (String × String)}
    (readable : Labels.IsReadable entries) :
    snapshot name bounds entries store =
      .ok ((find? (Labels.ofEntries entries) series).getD (Snapshot.empty known)) store := by
  rw [snapshot, bind_of_ok (histogram_of_found found bounds)]
  exact bind_of_ok (readingLabels_of_readable readable rfl store)

theorem snapshot_of_new (absent : store.metric? name = none) {entries : List (String × String)}
    (readable : Labels.IsReadable entries) :
    snapshot name runTimeBounds entries store =
      .ok (Snapshot.empty runTimeBounds : Snapshot σ)
        (store.setMetric name (.histogram runTimeBounds [])) := by
  rw [snapshot, bind_of_ok (histogram_of_new absent)]
  exact bind_of_ok (readingLabels_of_readable readable rfl _)

theorem timing_of_unmeasured {millis : Value} {fault : MetricFault}
    (looked : histogram name runTimeBounds store = .ok (known, series) middle)
    (unmeasured : measure millis = .error fault) (tags : List String) :
    timing name millis tags store = .error fault middle := by
  rw [timing, bind_of_ok looked, unmeasured]
  rfl

theorem timing_of_measured {millis : Value} {observed : Binary64}
    (looked : histogram name runTimeBounds store = .ok (known, series) middle)
    (measured : measure millis = .ok observed) (tags : List String) :
    timing name millis tags store =
      observe name runTimeBounds (Labels.ofTags tags) (.float observed) middle := by
  rw [timing, bind_of_ok looked, measured]

end Histogram

end Recording

end AnalysisEngines.Metrics
