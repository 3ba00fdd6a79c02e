import AnalysisEngines.Proofs.Metrics.Store

/-!
# What a refused report leaves

A report looks its metric up first, which creates it if its name is new, and may be refused after
that: for its tags or for a time that is no number.  A refused report leaves what the lookup leaves
and nothing else.
-/

set_option autoImplicit false

namespace AnalysisEngines.Metrics

/-! ## Requests -/

/-- What can be asked of a client and its store. -/
inductive Request where
  | increment (name : String) (tags : List String)
  | timing (name : String) (millis : Value) (tags : List String)
  | counter (name : String)
  | histogram (name : String) (bounds : List Number)
  | inc (name : String) (entries : List (String × String)) (amount : Value)
  | observe (name : String) (bounds : List Number) (entries : List (String × String))
      (observed : Value)
  | value (name : String) (entries : List (String × String))
  | total (name : String)
  | snapshot (name : String) (bounds : List Number) (entries : List (String × String))
  | names
  | collect

inductive Answer where
  | done
  | bounds (known : List Number)
  | sum (value : Binary64)
  | snapshot (snapshot : Snapshot Binary64)
  | names (names : List String)
  | samples (samples : List (Sample Binary64))

namespace Request

def run : Request → Recording Binary64 Answer
  | .increment name tags => do
      Metrics.increment name tags
      return .done
  | .timing name millis tags => do
      Metrics.timing name millis tags
      return .done
  | .counter name => do
      let _ ← Recording.counter name
      return .done
  | .histogram name bounds => do
      let (known, _) ← Recording.histogram name bounds
      return .bounds known
  | .inc name entries amount => do
      Recording.inc name (Labels.ofMap entries) amount
      return .done
  | .observe name bounds entries observed => do
      Recording.observe name bounds (Labels.ofMap entries) observed
      return .done
  | .value name entries => return .sum (← Recording.value name entries)
  | .total name => return .sum (← Recording.total name)
  | .snapshot name bounds entries => return .snapshot (← Recording.snapshot name bounds entries)
  | .names => return .names (← get).names
  | .collect => return .samples (← get).collect

/-- The answer or fault, and the store that is left. -/
def step (request : Request) (store : Store Binary64) :
    Except MetricFault Answer × Store Binary64 :=
  match request.run store with
  | .ok answer last => (.ok answer, last)
  | .error fault last => (.error fault, last)

theorem step_of_ok {request : Request} {store last : Store Binary64} {answer : Answer}
    (returns : request.run store = .ok answer last) : request.step store = (.ok answer, last) := by
  rw [step, returns]

theorem step_of_error {request : Request} {store last : Store Binary64} {fault : MetricFault}
    (refused : request.run store = .error fault last) :
    request.step store = (.error fault, last) := by
  rw [step, refused]

/-- What requests come to, one after the other. -/
def outcomes : List Request → Store Binary64 → List (Except MetricFault Answer)
  | [], _ => []
  | request :: rest, store => (request.step store).1 :: outcomes rest (request.step store).2

/-- The store that requests leave, one after the other. -/
def after (requests : List Request) (store : Store Binary64) : Store Binary64 :=
  requests.foldl (fun store request => (request.step store).2) store

/-- The kind and name of the metric that a client reports to. -/
def reported? : Request → Option (MetricKind × String)
  | .increment name _ => some (.counter, name)
  | .timing name .. => some (.histogram, name)
  | _ => none

/-- Asks for a metric, which is created if its name is new. -/
def lookup : MetricKind → String → Request
  | .counter, name => .counter name
  | .histogram, name => .histogram name runTimeBounds

end Request

namespace Store

/-- A store that requests have left. -/
def IsReachable (store : Store Binary64) : Prop :=
  ∃ requests, store = Request.after requests .empty

/-- Stores that no later requests tell apart. -/
structure AreAlike (left right : Store Binary64) : Prop where
  names : left.names = right.names
  collect : left.collect = right.collect
  outcomes : ∀ requests, Request.outcomes requests left = Request.outcomes requests right

theorem AreAlike.refl (store : Store Binary64) : store.AreAlike store where
  names := rfl
  collect := rfl
  outcomes _ := rfl

end Store

/-! ## Names -/

namespace Recording

variable {σ α β : Type}

/-- A recording after which no name is held twice if none was before, whether or not it fails. -/
def KeepsDistinct (recording : Recording σ α) : Prop :=
  ∀ store, store.IsDistinct → match recording store with
    | .ok _ last | .error _ last => last.IsDistinct

theorem KeepsDistinct.pure (value : α) : KeepsDistinct (pure value : Recording σ α) :=
  fun _ distinct => distinct

theorem KeepsDistinct.get : KeepsDistinct (get : Recording σ (Store σ)) :=
  fun _ distinct => distinct

theorem KeepsDistinct.throw (fault : MetricFault) :
    KeepsDistinct (throw fault : Recording σ α) :=
  fun _ distinct => distinct

theorem KeepsDistinct.set (name : String) (metric : Metric σ) :
    KeepsDistinct (modify (Store.setMetric name metric) : Recording σ Unit) :=
  fun store distinct => (store.sets_setMetric name metric).distinct distinct

theorem KeepsDistinct.bind {first : Recording σ α} {next : α → Recording σ β}
    (keeps : first.KeepsDistinct) (keeps' : ∀ value, (next value).KeepsDistinct) :
    KeepsDistinct (first >>= next) := by
  intro store distinct
  have before := keeps store distinct
  cases outcome : first store with
  | ok value middle =>
      rw [outcome] at before
      rw [bind_of_ok outcome]
      exact keeps' value middle before
  | error fault last =>
      rw [outcome] at before
      rw [bind_of_error outcome]
      exact before

theorem keepsDistinct_counter (name : String) : (counter name : Recording σ _).KeepsDistinct := by
  refine .bind .get fun store => ?_
  split
  · exact .pure _
  · exact .throw _
  · exact .bind (.set _ _) fun _ => .pure _

theorem keepsDistinct_histogram (name : String) (bounds : List Number) :
    (histogram name bounds : Recording σ _).KeepsDistinct := by
  refine .bind .get fun store => ?_
  split
  · exact .pure _
  · exact .throw _
  · split
    · exact .bind (.throw _) fun _ => .bind (.set _ _) fun _ => .pure _
    · exact .bind (.set _ _) fun _ => .pure _

theorem keepsDistinct_labels (built : Except ReservedLabel Labels) :
    (labels built : Recording σ _).KeepsDistinct := by
  cases built with
  | ok labels => exact .pure _
  | error reserved => exact .throw _

theorem keepsDistinct_readingLabels (reserved : ReservedLabel)
    (entries : List (String × String)) :
    (readingLabels reserved entries : Recording σ _).KeepsDistinct := by
  unfold readingLabels
  split
  · exact .throw _
  · exact keepsDistinct_labels _

variable [Accumulator σ]

theorem keepsDistinct_inc (name : String) (labelSet : Except ReservedLabel Labels)
    (amount : Value) : (inc name labelSet amount : Recording σ _).KeepsDistinct := by
  refine .bind (keepsDistinct_counter name) fun series =>
    .bind (keepsDistinct_labels labelSet) fun labels => ?_
  split
  · dsimp only
    split
    · refine .bind (.throw _) fun _ => ?_
      split
      · exact .throw _
      · exact .set _ _
    · split
      · exact .throw _
      · exact .set _ _
  · exact .throw _

theorem keepsDistinct_observe (name : String) (bounds : List Number)
    (labelSet : Except ReservedLabel Labels) (observed : Value) :
    (observe name bounds labelSet observed : Recording σ _).KeepsDistinct := by
  refine .bind (keepsDistinct_histogram name bounds) fun looked =>
    .bind (keepsDistinct_labels labelSet) fun labels => ?_
  dsimp only
  split
  · exact .bind (.set _ _) fun _ => .throw _
  · split
    · exact .bind (.set _ _) fun _ => .throw _
    · exact .set _ _

theorem keepsDistinct_timing (name : String) (millis : Value) (tags : List String) :
    (timing name millis tags : Recording σ _).KeepsDistinct := by
  refine .bind (keepsDistinct_histogram _ _) fun looked => ?_
  split
  · exact .throw _
  · exact keepsDistinct_observe _ _ _ _

theorem keepsDistinct_value (name : String) (entries : List (String × String)) :
    (value name entries : Recording σ _).KeepsDistinct :=
  .bind (keepsDistinct_counter name) fun _ =>
    .bind (keepsDistinct_readingLabels _ _) fun _ => .pure _

theorem keepsDistinct_snapshot (name : String) (bounds : List Number)
    (entries : List (String × String)) :
    (snapshot name bounds entries : Recording σ _).KeepsDistinct :=
  .bind (keepsDistinct_histogram name bounds) fun _ =>
    .bind (keepsDistinct_readingLabels _ _) fun _ => .pure _

end Recording

section Reachable

variable {store last : Store Binary64} {request : Request}

theorem Request.keepsDistinct_run (request : Request) : request.run.KeepsDistinct := by
  cases request with
  | increment name tags => exact .bind (Recording.keepsDistinct_inc _ _ _) fun _ => .pure _
  | timing name millis tags => exact .bind (Recording.keepsDistinct_timing _ _ _) fun _ => .pure _
  | counter name => exact .bind (Recording.keepsDistinct_counter _) fun _ => .pure _
  | histogram name bounds => exact .bind (Recording.keepsDistinct_histogram _ _) fun _ => .pure _
  | inc name entries amount => exact .bind (Recording.keepsDistinct_inc _ _ _) fun _ => .pure _
  | observe name bounds entries observed =>
      exact .bind (Recording.keepsDistinct_observe _ _ _ _) fun _ => .pure _
  | value name entries => exact .bind (Recording.keepsDistinct_value _ _) fun _ => .pure _
  | total name =>
      exact .bind (.bind (Recording.keepsDistinct_counter _) fun _ => .pure _) fun _ => .pure _
  | snapshot name bounds entries =>
      exact .bind (Recording.keepsDistinct_snapshot _ _ _) fun _ => .pure _
  | names => exact .bind .get fun _ => .pure _
  | collect => exact .bind .get fun _ => .pure _

theorem Request.isDistinct_step (request : Request) (distinct : store.IsDistinct) :
    (request.step store).2.IsDistinct := by
  have kept := request.keepsDistinct_run store distinct
  cases outcome : request.run store with
  | ok answer last =>
      rw [outcome] at kept
      rw [step_of_ok outcome]
      exact kept
  | error fault last =>
      rw [outcome] at kept
      rw [step_of_error outcome]
      exact kept

/-- No name is held twice, whatever was requested. -/
theorem Store.IsReachable.isDistinct (reached : store.IsReachable) : store.IsDistinct := by
  obtain ⟨requests, rfl⟩ := reached
  induction requests using List.reverseRecOn with
  | nil => exact List.nodup_nil
  | append_singleton requests request ih =>
      rw [Request.after, List.foldl_append, List.foldl_cons, List.foldl_nil]
      exact request.isDistinct_step ih

end Reachable

/-! ## Lookups -/

section Lookup

variable {σ : Type} {store last : Store σ} {name : String} {kind : MetricKind}

/-- The store with a metric of a name, which is created if the name is new. -/
def Store.opened (kind : MetricKind) (name : String) (store : Store σ) : Store σ :=
  if (store.metric? name).isSome then store else store.setMetric name (.new kind)

theorem Store.opened_of_mem (known : name ∈ store.names) : store.opened kind name = store :=
  if_pos (mem_names.mp known)

theorem Store.opened_of_not_mem (new : name ∉ store.names) :
    store.opened kind name = store.setMetric name (.new kind) :=
  if_neg (mem_names.not.mp new)

theorem Store.mem_names_opened (other : String) :
    other ∈ (store.opened kind name).names ↔ other = name ∨ other ∈ store.names := by
  by_cases known : name ∈ store.names
  · rw [opened_of_mem known]
    exact (or_iff_right_of_imp fun own => own ▸ known).symm
  · rw [opened_of_not_mem known, mem_names, mem_names, (store.sets_setMetric _ _).metric?]
    by_cases own : other = name <;> simp [own]

theorem flatMap_filter {α β : Type} {keep : α → Bool} {parts : α → List β} {items : List α}
    (nothing : ∀ item ∈ items, keep item = false → parts item = []) :
    (items.filter keep).flatMap parts = items.flatMap parts := by
  induction items with
  | nil => rfl
  | cons item rest ih =>
      have ih := ih fun other member => nothing other (List.mem_cons_of_mem _ member)
      cases kept : keep item with
      | true => rw [List.filter_cons_of_pos kept, List.flatMap_cons, List.flatMap_cons, ih]
      | false =>
          rw [List.filter_cons_of_neg (by simp [kept]), List.flatMap_cons,
            nothing item List.mem_cons_self kept, ih, List.nil_append]

/-- A metric that is created has nothing to collect. -/
theorem Store.collect_opened (distinct : store.IsDistinct) (kind : MetricKind) (name : String) :
    (store.opened kind name).collect = store.collect := by
  by_cases known : name ∈ store.names
  case pos => rw [opened_of_mem known]
  case neg =>
    have absent : name ∉ store.metrics.map (·.1) := by
      rwa [mem_names, metric?_isSome_iff] at known
    have distinct' := (store.sets_setMetric name (.new kind)).distinct distinct
    rw [opened_of_not_mem known]
    rw [setMetric, if_neg (by simpa using absent)] at distinct' ⊢
    -- without the new metric the metrics are in their old order
    have others : (sortedByName (store.metrics ++ [(name, .new kind)])).filter (·.1 ≠ name) =
        sortedByName store.metrics := by
      refine eq_of_mem_iff_of_pairwise ((pairwise_sortedByName distinct').filter _)
        (pairwise_sortedByName distinct) fun entry => ?_
      rw [List.mem_filter, mem_sortedByName, mem_sortedByName, List.mem_append,
        List.mem_singleton, decide_eq_true_iff]
      constructor
      · rintro ⟨member | rfl, other⟩
        · exact member
        · exact absurd rfl other
      · intro member
        exact ⟨.inl member, fun own => absent (List.mem_map.mpr ⟨entry, member, own⟩)⟩
    rw [collect, collect, ← others, flatMap_filter]
    intro entry member own
    rw [mem_sortedByName, List.mem_append, List.mem_singleton] at member
    rcases member with member | rfl
    · rw [decide_eq_false_iff_not, not_not] at own
      exact absurd (List.mem_map.mpr ⟨entry, member, own⟩) absent
    · cases kind <;> rfl

/-- A lookup leaves the store with the metric, or as it is if that is of the other kind. -/
theorem Recording.counter_opens (name : String) (store : Store σ) :
    (∃ series, counter name store = .ok series (store.opened .counter name)) ∨
      ∃ fault, counter name store = .error fault store ∧ name ∈ store.names := by
  cases held : store.metric? name with
  | none =>
      refine .inl ⟨[], ?_⟩
      rw [counter_of_new held, Store.opened, held]
      rfl
  | some metric =>
      have known : name ∈ store.names := Store.mem_names.mpr (by rw [held]; rfl)
      by_cases same : metric.kind = .counter
      · cases metric with
        | counter series =>
            rw [Store.opened_of_mem known]
            exact .inl ⟨series, counter_of_found held⟩
        | histogram => cases same
      · exact .inr ⟨_, counter_of_other held same, known⟩

theorem Recording.histogram_opens (name : String) (store : Store σ) :
    (∃ looked, histogram name runTimeBounds store = .ok looked (store.opened .histogram name)) ∨
      ∃ fault, histogram name runTimeBounds store = .error fault store ∧ name ∈ store.names := by
  cases held : store.metric? name with
  | none =>
      refine .inl ⟨(runTimeBounds, []), ?_⟩
      rw [histogram_of_new held, Store.opened, held]
      rfl
  | some metric =>
      have known : name ∈ store.names := Store.mem_names.mpr (by rw [held]; rfl)
      by_cases same : metric.kind = .histogram
      · cases metric with
        | counter => cases same
        | histogram bounds series =>
            rw [Store.opened_of_mem known]
            exact .inl ⟨(bounds, series), histogram_of_found held _⟩
      · exact .inr ⟨_, histogram_of_other held same _, known⟩

end Lookup

/-! ## Reports -/

section Report

variable {store last : Store Binary64} {request : Request} {kind : MetricKind} {name : String}
  {fault : MetricFault}

/-- The metric that was asked for is of the other kind. -/
def MetricFault.IsConflict : MetricFault → Prop
  | .wrongKind .. => True
  | _ => False

theorem increment_refused {tags : List String}
    (refused : increment name tags store = .error fault last) :
    last = store.opened .counter name ∧ (fault.IsConflict → name ∈ store.names) := by
  rcases Recording.counter_opens name store with ⟨series, looked⟩ | ⟨wrong, looked, known⟩
  · rw [increment] at refused
    cases built : Labels.ofTags tags with
    | error reserved =>
        rw [built, Recording.inc_of_reserved looked] at refused
        cases refused
        exact ⟨rfl, False.elim⟩
    | ok labels =>
        have counts := @Recording.inc_of_addable _ _ _ _ _ labels _ _ looked
          (by decide : ¬Number.float (.finite 1) < .int 0) (isAddable_float _)
        rw [built, Value.float, counts] at refused
        cases refused
  · rw [increment, Recording.inc, bind_of_error looked] at refused
    cases refused
    exact ⟨(Store.opened_of_mem known).symm, fun _ => known⟩

theorem not_isConflict_of_measure {millis : Value} (unmeasured : measure millis = .error fault) :
    ¬fault.IsConflict := by
  unfold measure at unmeasured
  repeat' split at unmeasured
  all_goals cases unmeasured
  all_goals exact not_false

theorem timing_refused {millis : Value} {tags : List String}
    (refused : timing name millis tags store = .error fault last) :
    last = store.opened .histogram name ∧ (fault.IsConflict → name ∈ store.names) := by
  rcases Recording.histogram_opens name store with ⟨⟨known, series⟩, looked⟩ | ⟨wrong, looked, known⟩
  · cases measured : measure millis with
    | error unmeasured =>
        rw [Recording.timing_of_unmeasured looked measured] at refused
        cases refused
        exact ⟨rfl, fun conflict => absurd conflict (not_isConflict_of_measure measured)⟩
    | ok observed =>
        have again := Recording.histogram_of_found (Recording.metric?_of_histogram looked) runTimeBounds
        rw [Recording.timing_of_measured looked measured] at refused
        cases built : Labels.ofTags tags with
        | error reserved =>
            rw [built, Recording.observe_of_reserved again] at refused
            cases refused
            exact ⟨rfl, False.elim⟩
        | ok labels =>
            rw [built, Value.float, Recording.observe_of_addable again (isAddable_float _)] at refused
            cases refused
  · rw [timing, bind_of_error looked] at refused
    cases refused
    exact ⟨(Store.opened_of_mem known).symm, fun _ => known⟩

theorem Request.report_refused (reports : request.reported? = some (kind, name))
    (refused : request.run store = .error fault last) :
    last = store.opened kind name ∧ (fault.IsConflict → name ∈ store.names) := by
  cases request with
  | increment other tags =>
      cases reports
      rw [run] at refused
      rcases bind_eq_error.mp refused with refused | ⟨_, _, _, returns⟩
      · exact increment_refused refused
      · cases returns
  | timing other millis tags =>
      cases reports
      rw [run] at refused
      rcases bind_eq_error.mp refused with refused | ⟨_, _, _, returns⟩
      · exact timing_refused refused
      · cases returns
  | _ => cases reports

theorem Request.step_lookup (kind : MetricKind) (name : String) (store : Store Binary64) :
    ((lookup kind name).step store).2 = store.opened kind name := by
  cases kind with
  | counter =>
      rcases Recording.counter_opens name store with ⟨series, looked⟩ | ⟨wrong, looked, known⟩
      · have returns : (lookup .counter name).run store = .ok .done _ := bind_of_ok looked
        rw [step_of_ok returns]
      · have refused : (lookup .counter name).run store = .error wrong _ := bind_of_error looked
        rw [step_of_error refused, Store.opened_of_mem known]
  | histogram =>
      rcases Recording.histogram_opens name store with ⟨known, looked⟩ | ⟨wrong, looked, known⟩
      · have returns : (lookup .histogram name).run store = .ok (.bounds known.1) _ :=
          bind_of_ok looked
        rw [step_of_ok returns]
      · have refused : (lookup .histogram name).run store = .error wrong _ := bind_of_error looked
        rw [step_of_error refused, Store.opened_of_mem known]

/-- A refused report leaves what the bare lookup of its metric leaves, with nothing new to collect.  So
it leaves no trace exactly if the name was there, as it is for a metric of the other kind. -/
theorem Request.refused_leavesLookup (reached : store.IsReachable)
    (reports : request.reported? = some (kind, name))
    (refused : request.run store = .error fault last) :
    last = ((lookup kind name).step store).2 ∧ last.collect = store.collect ∧
      (∀ other, other ∈ last.names ↔ other = name ∨ other ∈ store.names) ∧
      (store.AreAlike last ↔ name ∈ store.names) ∧ (fault.IsConflict → store.AreAlike last) := by
  obtain ⟨rfl, conflicts⟩ := report_refused reports refused
  have known (known : name ∈ store.names) : store.AreAlike (store.opened kind name) := by
    rw [Store.opened_of_mem known]
    exact .refl store
  refine ⟨(step_lookup kind name store).symm, Store.collect_opened reached.isDistinct kind name,
    Store.mem_names_opened, ⟨fun alike => ?_, known⟩, known ∘ conflicts⟩
  rw [alike.names, Store.mem_names_opened]
  exact .inl rfl

end Report

/-- A store with a counter. -/
def countedStore : Store Binary64 := Request.after [.increment "runs" []] .empty

/-- A time that is no number leaves the name of its histogram, and nothing to collect. -/
theorem Request.unmeasured_leavesName :
    ∃ last, (timing "time" .null []).run countedStore = .error (.notANumber "NoneType") last ∧
      last = ((histogram "time" runTimeBounds).step countedStore).2 ∧
      last.collect = countedStore.collect ∧
      ∀ other, other ∈ last.names ↔ other = "time" ∨ other ∈ countedStore.names := by
  have refused : ∃ last, (timing "time" .null []).run countedStore =
      .error (.notANumber "NoneType") last := ⟨_, rfl⟩
  obtain ⟨last, refused⟩ := refused
  obtain ⟨leaves, collects, names, -⟩ := refused_leavesLookup ⟨_, rfl⟩ rfl refused
  exact ⟨last, refused, leaves, collects, names⟩

/-- An event with a reserved tag leaves a counter, which refuses times from then on. -/
theorem Request.reserved_leavesCounter :
    ∃ last, (increment "runs" ["cls:a"]).run .empty = .error (.reservedLabel .labelSet) last ∧
      "runs" ∉ (Store.empty : Store Binary64).names ∧ "runs" ∈ last.names ∧
      (∃ after, (histogram "runs" runTimeBounds).run .empty = .ok (.bounds runTimeBounds) after) ∧
      (histogram "runs" runTimeBounds).run last =
        .error (.wrongKind "runs" .counter .histogram) last ∧
      ¬Store.empty.AreAlike last := by
  have known : "runs" ∈ (Store.empty.setMetric "runs" (.new .counter) : Store Binary64).names :=
    Store.mem_names.mpr rfl
  have new : "runs" ∉ (Store.empty : Store Binary64).names := Store.mem_names.not.mpr nofun
  refine ⟨_, rfl, new, known, ⟨_, rfl⟩, rfl, fun alike => new ?_⟩
  rw [alike.names]
  exact known

end AnalysisEngines.Metrics
