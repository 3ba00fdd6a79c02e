import AnalysisEngines.Proofs.Metrics.Store

/-!
# What a history leaves in the store

The first operation on a name creates its metric, of the kind it asks for.  From then on the series
of a label set holds what the operations of that kind gave to the name under that label set, in
their order, and nothing else.
-/

set_option autoImplicit false

namespace AnalysisEngines.Metrics

/-- The store that a recording leaves, whether or not it fails. -/
def Recording.leave {σ : Type} (recording : Recording σ Unit) (store : Store σ) : Store σ :=
  match recording store with
  | .ok _ last => last
  | .error _ last => last

/-- An operation on a store or on its client. -/
inductive Operation where
  | increment (name : String) (tags : List String)
  | timing (name : String) (millis : Value) (tags : List String)
  | counter (name : String)
  | histogram (name : String)
  | inc (name : String) (entries : List (String × String)) (amount : Number)
  | observe (name : String) (entries : List (String × String)) (observed : Number)

namespace Operation

def name : Operation → String
  | .increment name _ | .timing name .. | .counter name | .histogram name | .inc name ..
  | .observe name .. => name

def kind : Operation → MetricKind
  | .increment .. | .counter _ | .inc .. => .counter
  | .timing .. | .histogram _ | .observe .. => .histogram

/-- The label names and texts that an operation gives. -/
def entries : Operation → List (String × String)
  | .increment _ tags | .timing _ _ tags => tags.map Labels.parseTag
  | .counter _ | .histogram _ => []
  | .inc _ entries _ | .observe _ entries _ => entries

/-- The amount that an operation has for a series, if it has one. -/
def offered? : Operation → Option Number
  | .increment .. => some (.float (.finite 1))
  | .timing _ millis _ => (measure millis).toOption.map .float
  | .counter _ | .histogram _ => none
  | .inc _ _ amount => if amount < .int 0 then none else some amount
  | .observe _ _ observed => some observed

/-- The amount that an operation gives to a series, if it gives one. -/
def amount? (operation : Operation) : Option Number :=
  if operation.entries.any fun entry => entry.1 == ReservedLabel.labelSet.name then none
  else operation.offered?

theorem amount?_of_free {operation : Operation} (free : Labels.IsFree operation.entries) :
    operation.amount? = operation.offered? := by
  rw [amount?, if_neg fun taken => Labels.not_isFree_iff.mpr taken free]

theorem amount?_of_not_free {operation : Operation} (taken : ¬Labels.IsFree operation.entries) :
    operation.amount? = none := by
  rw [amount?, if_pos (Labels.not_isFree_iff.mp taken)]

/-- What an operation gives, and under which label names and texts. -/
def given? (operation : Operation) : Option (List (String × String) × Number) :=
  operation.amount?.map (operation.entries, ·)

variable {σ : Type} [Accumulator σ]

def run : Operation → Recording σ Unit
  | .increment name tags => Metrics.increment name tags
  | .timing name millis tags => Metrics.timing name millis tags
  | .counter name => do let _ ← Recording.counter name
  | .histogram name => do let _ ← Recording.histogram name runTimeBounds
  | .inc name entries amount => Recording.inc name (Labels.ofMap entries) (.number amount)
  | .observe name entries observed =>
      Recording.observe name runTimeBounds (Labels.ofMap entries) (.number observed)

end Operation

section Step

variable {σ : Type} {store middle last : Store σ} {name : String} {metric : Metric σ}

theorem Recording.leave_of_ok {recording : Recording σ Unit} (returns : recording store = .ok () last) :
    recording.leave store = last := by
  rw [leave, returns]

theorem Recording.leave_of_error {recording : Recording σ Unit} {fault : MetricFault}
    (raises : recording store = .error fault last) : recording.leave store = last := by
  rw [leave, raises]

variable [Accumulator σ]

/-- A metric with what is given to it, if anything is. -/
def Metric.giveAny (entries : List (String × String)) (amount : Option Number) (metric : Metric σ) :
    Metric σ :=
  match amount with
  | none => metric
  | some amount => metric.give (Labels.ofEntries entries) amount

theorem Metric.kind_giveAny (entries : List (String × String)) (amount : Option Number)
    (metric : Metric σ) : (metric.giveAny entries amount).kind = metric.kind := by
  cases amount with
  | none => rfl
  | some amount => exact Metric.kind_give _ amount metric

/-- A recording that gives an amount to the metric of a name, if there is one, and then returns. -/
structure Recording.Gives (recording : Recording σ Unit) (store : Store σ) (name : String)
    (metric : Metric σ) (entries : List (String × String)) (amount : Option Number) : Prop where
  sets : store.Sets name (metric.giveAny entries amount) (recording.leave store)
  returns : amount ≠ none → recording store = .ok () (recording.leave store)

namespace Recording

variable {recording : Recording σ Unit} {entries : List (String × String)} {amount : Number}

theorem Gives.of_ok {given : Option Number} (returns : recording store = .ok () last)
    (sets : store.Sets name (metric.giveAny entries given) last) :
    recording.Gives store name metric entries given := by
  refine ⟨?_, fun _ => ?_⟩
  · rw [leave_of_ok returns]
    exact sets
  · rw [leave_of_ok returns, returns]

theorem Gives.of_error {fault : MetricFault} (raises : recording store = .error fault last)
    (sets : store.Sets name metric last) : recording.Gives store name metric entries none := by
  refine ⟨?_, fun given => absurd rfl given⟩
  rw [leave_of_error raises]
  exact sets

theorem inc_gives {series : List (Labels × σ)} (looked : counter name store = .ok series middle)
    (sets : store.Sets name (.counter series) middle)
    (addable : ∀ given ∈ Operation.amount? (.inc name entries amount), IsAddable σ given) :
    (inc name (Labels.ofMap entries) (.number amount)).Gives store name (.counter series) entries
      (Operation.amount? (.inc name entries amount)) := by
  by_cases free : Labels.IsFree entries
  case neg =>
    rw [Operation.amount?_of_not_free (by exact free), Labels.ofMap_of_not_free free]
    exact .of_error (inc_of_reserved looked _) sets
  case pos =>
    rw [Operation.amount?_of_free (by exact free)] at addable ⊢
    rw [Labels.ofMap_of_free free]
    by_cases negative : amount < .int 0
    · rw [Operation.offered?, if_pos negative]
      exact .of_error (inc_of_negative looked negative) sets
    · rw [Operation.offered?, if_neg negative] at addable ⊢
      exact .of_ok (inc_of_addable looked negative (addable amount rfl))
        (sets.trans (middle.sets_setMetric name _))

variable {known : List Number} {series : List (Labels × Snapshot σ)}

theorem observe_gives (looked : histogram name runTimeBounds store = .ok (known, series) middle)
    (sets : store.Sets name (.histogram known series) middle)
    (addable : ∀ given ∈ Operation.amount? (.observe name entries amount), IsAddable σ given) :
    (observe name runTimeBounds (Labels.ofMap entries) (.number amount)).Gives store name
      (.histogram known series) entries (Operation.amount? (.observe name entries amount)) := by
  by_cases free : Labels.IsFree entries
  case neg =>
    rw [Operation.amount?_of_not_free (by exact free), Labels.ofMap_of_not_free free]
    exact .of_error (observe_of_reserved looked _) sets
  case pos =>
    rw [Operation.amount?_of_free (by exact free)] at addable ⊢
    rw [Labels.ofMap_of_free free]
    exact .of_ok (observe_of_addable looked (addable amount rfl))
      (sets.trans (middle.sets_setMetric name _))

theorem timing_gives {millis : Value} {tags : List String}
    (looked : histogram name runTimeBounds store = .ok (known, series) middle)
    (sets : store.Sets name (.histogram known series) middle)
    (addable : ∀ given ∈ Operation.amount? (.timing name millis tags), IsAddable σ given) :
    (timing name millis tags).Gives store name (.histogram known series)
      (tags.map Labels.parseTag) (Operation.amount? (.timing name millis tags)) := by
  cases measured : measure millis with
  | error fault =>
      have nothing : Operation.amount? (.timing name millis tags) = none := by
        simp [Operation.amount?, Operation.offered?, measured, Except.toOption]
      rw [nothing]
      exact .of_error (timing_of_unmeasured looked measured tags) sets
  | ok observed =>
      have same : Operation.amount? (.timing name millis tags) =
          Operation.amount? (.observe name (tags.map Labels.parseTag) (.float observed)) := by
        simp [Operation.amount?, Operation.offered?, Operation.entries, measured, Except.toOption]
      have found : middle.metric? name = some (.histogram known series) := by
        rw [sets.metric?, if_pos rfl]
      rw [same] at addable ⊢
      have observes := observe_gives (histogram_of_found found runTimeBounds) (.of_found found) addable
      constructor
      · rw [leave, timing_of_measured looked measured tags]
        exact sets.trans observes.sets
      · rw [leave, timing_of_measured looked measured tags]
        exact observes.returns

end Recording

/-- An operation of the kind of its metric changes this metric only, or creates it. -/
theorem Operation.run_gives {operation : Operation}
    (found : (store.metric? operation.name).getD (.new operation.kind) = metric)
    (kind : metric.kind = operation.kind)
    (addable : ∀ amount ∈ operation.amount?, IsAddable σ amount) :
    operation.run.Gives store operation.name metric operation.entries operation.amount? := by
  have counts : operation.kind = .counter → ∃ series, metric = .counter series := by
    intro counter
    cases metric with
    | counter series => exact ⟨series, rfl⟩
    | histogram => cases kind.trans counter
  have observes : operation.kind = .histogram → ∃ known series, metric = .histogram known series := by
    intro histogram
    cases metric with
    | counter series => cases kind.trans histogram
    | histogram known series => exact ⟨known, series, rfl⟩
  cases operation with
  | increment name tags =>
      obtain ⟨series, rfl⟩ := counts rfl
      obtain ⟨middle, looked, sets⟩ := Recording.counter_eq_ok found
      have same : amount? (.increment name tags) =
          amount? (.inc name (tags.map Labels.parseTag) (.float (.finite 1))) := by
        rw [amount?, amount?, offered?, offered?, if_neg (by decide : ¬Number.float _ < .int 0)]
        rfl
      rw [same] at addable ⊢
      exact Recording.inc_gives looked sets addable
  | timing name millis tags =>
      obtain ⟨known, series, rfl⟩ := observes rfl
      obtain ⟨middle, looked, sets⟩ := Recording.histogram_eq_ok found
      exact Recording.timing_gives looked sets addable
  | counter name =>
      obtain ⟨series, rfl⟩ := counts rfl
      obtain ⟨middle, looked, sets⟩ := Recording.counter_eq_ok found
      exact .of_ok (bind_of_ok looked) sets
  | histogram name =>
      obtain ⟨known, series, rfl⟩ := observes rfl
      obtain ⟨middle, looked, sets⟩ := Recording.histogram_eq_ok found
      exact .of_ok (bind_of_ok looked) sets
  | inc name entries amount =>
      obtain ⟨series, rfl⟩ := counts rfl
      obtain ⟨middle, looked, sets⟩ := Recording.counter_eq_ok found
      exact Recording.inc_gives looked sets addable
  | observe name entries observed =>
      obtain ⟨known, series, rfl⟩ := observes rfl
      obtain ⟨middle, looked, sets⟩ := Recording.histogram_eq_ok found
      exact Recording.observe_gives looked sets addable

/-- An operation of the other kind fails and changes nothing. -/
theorem Operation.run_of_other {operation : Operation}
    (found : store.metric? operation.name = some metric) (other : metric.kind ≠ operation.kind) :
    operation.run store =
      .error (.wrongKind operation.name metric.kind operation.kind) store := by
  cases operation with
  | increment name tags => exact bind_of_error (Recording.counter_of_other found other)
  | timing name millis tags => exact bind_of_error (Recording.histogram_of_other found other _)
  | counter name => exact bind_of_error (Recording.counter_of_other found other)
  | histogram name => exact bind_of_error (Recording.histogram_of_other found other _)
  | inc name entries amount => exact bind_of_error (Recording.counter_of_other found other)
  | observe name entries observed =>
      exact bind_of_error (Recording.histogram_of_other found other _)

end Step

section Series

variable {α : Type} {initial : α} {step : α → Number → α} {amounts : List Number}
  {given : List (List (String × String) × Number)} {series : List (Labels × α)}

/-- What amounts come to, one after the other; without any there is nothing. -/
def tally (initial : α) (step : α → Number → α) (amounts : List Number) : Option α :=
  if amounts = [] then none else some (amounts.foldl step initial)

theorem tally_eq_none_iff : tally initial step amounts = none ↔ amounts = [] := by
  unfold tally
  split <;> simp_all

theorem tally_eq_some_iff {value : α} :
    tally initial step amounts = some value ↔
      amounts ≠ [] ∧ amounts.foldl step initial = value := by
  unfold tally
  split <;> simp_all

theorem getD_tally : (tally initial step amounts).getD initial = amounts.foldl step initial := by
  unfold tally
  split
  case isTrue empty => rw [empty, List.foldl_nil, Option.getD_none]
  case isFalse => rw [Option.getD_some]

theorem tally_append_singleton (amount : Number) :
    tally initial step (amounts ++ [amount]) =
      some (step ((tally initial step amounts).getD initial) amount) := by
  rw [getD_tally, tally, if_neg (List.append_ne_nil_of_right_ne_nil _ (List.cons_ne_nil _ _)),
    List.foldl_append, List.foldl_cons, List.foldl_nil]

/-- The amounts that were given under a label set. -/
def amountsUnder (labels : Labels) (given : List (List (String × String) × Number)) : List Number :=
  (given.filter fun entry => Labels.ofEntries entry.1 = labels).map (·.2)

/-- A series holds under each label set what the amounts given under it come to. -/
structure IsTold (initial : α) (step : α → Number → α)
    (given : List (List (String × String) × Number)) (series : List (Labels × α)) : Prop where
  distinct : (series.map (·.1)).Nodup
  found : ∀ labels, find? labels series = tally initial step (amountsUnder labels given)

theorem IsTold.give (told : IsTold initial step given series) (entries : List (String × String))
    (amount : Number) :
    IsTold initial step (given ++ [(entries, amount)])
      (update (Labels.ofEntries entries) initial (step · amount) series) where
  distinct := nodup_keys_update told.distinct
  found labels := by
    rw [find?_update, amountsUnder, List.filter_append, List.map_append, ← amountsUnder]
    by_cases own : Labels.ofEntries entries = labels
    · rw [if_pos own.symm, List.filter_cons_of_pos (by simpa using own), told.found, own]
      exact (tally_append_singleton amount).symm
    · rw [if_neg (Ne.symm own), List.filter_cons_of_neg (by simpa using own), List.filter_nil,
        List.map_nil, List.append_nil, told.found]

end Series

section History

variable {σ : Type} [Accumulator σ]

/-- A metric holds what was given to it. -/
def Metric.IsTold (given : List (List (String × String) × Number)) : Metric σ → Prop
  | .counter series => Metrics.IsTold Accumulator.zero plus given series
  | .histogram bounds series =>
      bounds = runTimeBounds ∧
        Metrics.IsTold (Snapshot.empty runTimeBounds)
          (fun before amount => before.observe runTimeBounds amount) given series

theorem Metric.isTold_new (kind : MetricKind) : (Metric.new kind : Metric σ).IsTold [] := by
  cases kind with
  | counter => exact ⟨List.nodup_nil, fun _ => rfl⟩
  | histogram => exact ⟨rfl, List.nodup_nil, fun _ => rfl⟩

theorem Metric.IsTold.give {given : List (List (String × String) × Number)} {metric : Metric σ}
    (told : metric.IsTold given) (entries : List (String × String)) (amount : Option Number) :
    (metric.giveAny entries amount).IsTold (given ++ (amount.map (entries, ·)).toList) := by
  cases amount with
  | none =>
      rw [Option.map_none, Option.toList_none, List.append_nil]
      exact told
  | some amount =>
      cases metric with
      | counter series => exact Metrics.IsTold.give told entries amount
      | histogram bounds series =>
          obtain ⟨rfl, told⟩ := told
          exact ⟨rfl, told.give entries amount⟩

namespace Operation

/-- The kind that a name was created with. -/
def kindIn (operations : List Operation) (name : String) : Option MetricKind :=
  (operations.find? fun operation => operation.name == name).map kind

/-- What operations of a kind have given to a name. -/
def givenTo (kind : MetricKind) (name : String) (operations : List Operation) :
    List (List (String × String) × Number) :=
  (operations.filter fun operation => operation.name = name ∧ operation.kind = kind).filterMap given?

theorem kindIn_eq_none_iff {operations : List Operation} {name : String} :
    kindIn operations name = none ↔ ∀ operation ∈ operations, operation.name ≠ name := by
  simp [kindIn]

theorem kindIn_append (operations later : List Operation) (name : String) :
    kindIn (operations ++ later) name = (kindIn operations name).or (kindIn later name) := by
  rw [kindIn, List.find?_append, Option.map_or, kindIn, kindIn]

theorem kindIn_singleton (operation : Operation) (name : String) :
    kindIn [operation] name = if operation.name = name then some operation.kind else none := by
  by_cases own : operation.name = name <;> simp [kindIn, own]

theorem givenTo_append_singleton (operations : List Operation) (operation : Operation)
    (kind : MetricKind) (name : String) :
    givenTo kind name (operations ++ [operation]) =
      givenTo kind name operations ++
        if operation.name = name ∧ operation.kind = kind then operation.given?.toList else [] := by
  rw [givenTo, List.filter_append, List.filterMap_append, ← givenTo]
  congr 1
  by_cases own : operation.name = name ∧ operation.kind = kind
  · rw [if_pos own, List.filter_cons_of_pos (by simpa using own)]
    cases given : operation.given? <;> simp [given]
  · rw [if_neg own, List.filter_cons_of_neg (by simpa using own)]
    rfl

/-- As many amounts are given under a label set as there are operations that give one. -/
theorem length_amountsUnder (operations : List Operation) (kind : MetricKind) (name : String)
    (labels : Labels) :
    (amountsUnder labels (givenTo kind name operations)).length =
      operations.countP fun operation => operation.name = name ∧ operation.kind = kind ∧
        operation.amount?.isSome ∧ Labels.ofEntries operation.entries = labels := by
  induction operations using List.reverseRecOn with
  | nil => rfl
  | append_singleton operations operation ih =>
      rw [givenTo_append_singleton, amountsUnder, List.filter_append, List.map_append,
        List.length_append, ← amountsUnder, ih, List.countP_append, List.countP_singleton]
      congr 1
      by_cases own : operation.name = name ∧ operation.kind = kind
      · rw [if_pos own, given?]
        cases operation.amount? <;>
          by_cases under : Labels.ofEntries operation.entries = labels <;> simp [own, under]
      · rw [if_neg own, if_neg (by simpa using fun named kind => absurd ⟨named, kind⟩ own)]
        rfl

theorem givenTo_eq_nil {operations : List Operation} {name : String}
    (new : kindIn operations name = none) (kind : MetricKind) : givenTo kind name operations = [] := by
  rw [givenTo, List.filter_eq_nil_iff.mpr, List.filterMap_nil]
  intro operation member
  simp [kindIn_eq_none_iff.mp new operation member]

/-- The store that operations leave, one after the other. -/
def after (store : Store σ) (operations : List Operation) : Store σ :=
  operations.foldl (fun store operation => operation.run.leave store) store

end Operation

/-- A store holds what operations have given to it. -/
structure Store.IsTold (operations : List Operation) (store : Store σ) : Prop where
  distinct : store.IsDistinct
  absent : ∀ name, Operation.kindIn operations name = none → store.metric? name = none
  held : ∀ name kind, Operation.kindIn operations name = some kind →
    ∃ metric, store.metric? name = some metric ∧ metric.kind = kind ∧
      metric.IsTold (Operation.givenTo kind name operations)

theorem Store.isTold_empty : (Store.empty : Store σ).IsTold [] where
  distinct := List.nodup_nil
  absent _ _ := rfl
  held _ _ created := nomatch created

section Leave

variable {operations : List Operation} {store last : Store σ} {operation : Operation}

/-- An operation that changes the metric of its own kind. -/
theorem Store.IsTold.of_sets (told : store.IsTold operations) {metric : Metric σ}
    (known : ∀ kind, Operation.kindIn operations operation.name = some kind → kind = operation.kind)
    (kind : metric.kind = operation.kind)
    (holds : metric.IsTold (Operation.givenTo operation.kind operation.name operations))
    (sets : store.Sets operation.name (metric.giveAny operation.entries operation.amount?) last) :
    last.IsTold (operations ++ [operation]) := by
  refine ⟨sets.distinct told.distinct, fun name new => ?_, fun name wanted created => ?_⟩
  · rw [Operation.kindIn_append, Option.or_eq_none_iff, Operation.kindIn_singleton] at new
    have other : ¬name = operation.name := fun own => by simp [own] at new
    rw [sets.metric?, if_neg other, told.absent name new.1]
  · rw [Operation.kindIn_append, Operation.kindIn_singleton] at created
    rw [sets.metric?, Operation.givenTo_append_singleton]
    by_cases own : name = operation.name
    · subst own
      have same : wanted = operation.kind := by
        cases before : Operation.kindIn operations operation.name with
        | none => simpa [before] using created.symm
        | some kind => exact known wanted (by simpa [before] using created)
      subst same
      rw [if_pos rfl, if_pos ⟨rfl, rfl⟩]
      exact ⟨_, rfl, (Metric.kind_giveAny ..).trans kind, holds.give _ _⟩
    · rw [if_neg (Ne.symm own), Option.or_none] at created
      rw [if_neg own, if_neg fun both => own both.1.symm, List.append_nil]
      exact told.held name wanted created

/-- An operation that changes nothing as its name is of the other kind. -/
theorem Store.IsTold.of_other (told : store.IsTold operations) {kind : MetricKind}
    (created : Operation.kindIn operations operation.name = some kind)
    (other : kind ≠ operation.kind) : store.IsTold (operations ++ [operation]) := by
  have same (name : String) : Operation.kindIn (operations ++ [operation]) name =
      Operation.kindIn operations name := by
    rw [Operation.kindIn_append, Operation.kindIn_singleton]
    by_cases own : operation.name = name
    · rw [← own, created, Option.some_or]
    · rw [if_neg own, Option.or_none]
  refine ⟨told.distinct, fun name new => told.absent name (same name ▸ new),
    fun name wanted known => ?_⟩
  rw [same] at known
  rw [Operation.givenTo_append_singleton, if_neg, List.append_nil]
  · exact told.held name wanted known
  · rintro ⟨rfl, rfl⟩
    exact other (Option.some.inj (created.symm.trans known))

theorem Store.IsTold.leave (told : store.IsTold operations)
    (addable : ∀ amount ∈ operation.amount?, IsAddable σ amount) :
    (operation.run.leave store).IsTold (operations ++ [operation]) := by
  cases created : Operation.kindIn operations operation.name with
  | none =>
      have found := congrArg (·.getD (.new operation.kind)) (told.absent _ created)
      refine told.of_sets (fun kind known => nomatch created.symm.trans known)
        (Metric.kind_new operation.kind) ?_ (Operation.run_gives found (Metric.kind_new _) addable).sets
      rw [Operation.givenTo_eq_nil created]
      exact Metric.isTold_new operation.kind
  | some kind =>
      obtain ⟨metric, found, rfl, holds⟩ := told.held _ _ created
      by_cases same : metric.kind = operation.kind
      · have found' := congrArg (·.getD (.new operation.kind)) found
        refine told.of_sets (fun kind known => ?_) same (same ▸ holds)
          (Operation.run_gives found' same addable).sets
        exact (Option.some.inj (created.symm.trans known)).symm.trans same
      · rw [Recording.leave_of_error (Operation.run_of_other found same)]
        exact told.of_other created same

end Leave

/-- The store after any history holds what the history gave to it. -/
theorem Store.isTold_after (operations : List Operation)
    (addable : ∀ operation ∈ operations, ∀ amount ∈ operation.amount?, IsAddable σ amount) :
    (Operation.after (Store.empty : Store σ) operations).IsTold operations := by
  induction operations using List.reverseRecOn with
  | nil => exact isTold_empty
  | append_singleton operations operation ih =>
      rw [Operation.after, List.foldl_append, List.foldl_cons, List.foldl_nil]
      refine (ih fun earlier member => addable earlier (List.mem_append_left _ member)).leave ?_
      exact addable operation (List.mem_append_right _ (List.mem_singleton_self operation))

end History

end AnalysisEngines.Metrics
