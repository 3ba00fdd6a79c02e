import AnalysisEngines.Metrics.Labels
import AnalysisEngines.Text.Blank
import AnalysisEngines.Value.Display

/-!
Named counters and histograms with a series per label set.

Sums are kept in an accumulator: in rounded double precision for reports, or exactly.  A metric is
created when its name is first asked for, and keeps its kind.  A recording that fails may already
have created its metric.
-/

set_option autoImplicit false

namespace AnalysisEngines.Metrics

inductive MetricKind where
  | counter
  | histogram
  deriving DecidableEq

def MetricKind.name : MetricKind → String
  | .counter => "counter"
  | .histogram => "histogram"

inductive MetricFault where
  | wrongKind (name : String) (actual wanted : MetricKind)
  | decreasing (name : String)
  | boundsNotAscending (name : String)
  | reservedLabel (label : ReservedLabel)
  | tooLarge
  | notNumeric (text : String)
  | notANumber (kindName : String)
  /-- An amount of this kind is neither negative nor not. -/
  | unordered (kindName : String)
  /-- An observation of this kind has no place in a sum. -/
  | notAddable (kindName : String)

namespace MetricFault

def message : MetricFault → String
  | .wrongKind name actual wanted =>
      "metric " ++ name ++ " is a " ++ actual.name ++ ", not a " ++ wanted.name
  | .decreasing name => "counter " ++ name ++ " cannot decrease"
  | .boundsNotAscending name => "histogram " ++ name ++ " needs ascending buckets"
  | .reservedLabel label => label.message
  | .tooLarge => "int too large to convert to float"
  | .notNumeric text => "could not convert string to float: " ++ Text.quoted text
  | .notANumber kindName =>
      "float() argument must be a string or a real number, not '" ++ kindName ++ "'"
  | .unordered kindName =>
      "'<' not supported between instances of '" ++ kindName ++ "' and 'int'"
  | .notAddable kindName =>
      "unsupported operand type(s) for +=: 'float' and '" ++ kindName ++ "'"

end MetricFault

/-- What sums of amounts are kept in. -/
class Accumulator (σ : Type) where
  zero : σ
  add : σ → Number → Option σ
  merge : σ → σ → σ

instance : Accumulator Binary64 where
  zero := .zero
  add total amount := amount.toBinary64?.map total.add
  merge := Binary64.add

/-- Exact sums; an amount without an exact value adds nothing. -/
instance : Accumulator Rat where
  zero := 0
  add total amount := some (total + amount.exact.toRat?.getD 0)
  merge left right := left + right

structure Snapshot (σ : Type) where
  count : Nat
  sum : σ
  buckets : List (Number × Nat)

inductive Metric (σ : Type) where
  | counter (series : List (Labels × σ))
  | histogram (bounds : List Number) (series : List (Labels × Snapshot σ))

def Metric.kind {σ : Type} : Metric σ → MetricKind
  | .counter _ => .counter
  | .histogram .. => .histogram

/-- Metrics by name, in order of creation. -/
structure Store (σ : Type) where
  metrics : List (String × Metric σ) := []

/-- A recording changes the store and may fail. -/
abbrev Recording (σ : Type) := EStateM MetricFault (Store σ)

section Lookup

variable {α : Type}

def find? (labels : Labels) (series : List (Labels × α)) : Option α :=
  (series.find? fun entry => entry.1 == labels).map (·.2)

/-- Changes the series of a label set, which is added at the end if it is not there. -/
def update (labels : Labels) (initial : α) (change : α → α) :
    List (Labels × α) → List (Labels × α)
  | [] => [(labels, change initial)]
  | (known, value) :: rest =>
      if known == labels then (known, change value) :: rest
      else (known, value) :: update labels initial change rest

end Lookup

variable {σ : Type}

namespace Store

def empty : Store σ := {}

def metric? (name : String) (store : Store σ) : Option (Metric σ) :=
  (store.metrics.find? fun entry => entry.1 == name).map (·.2)

def setMetric (name : String) (metric : Metric σ) (store : Store σ) : Store σ :=
  if store.metrics.any fun entry => entry.1 == name then
    { store with
      metrics := store.metrics.map fun entry =>
        if entry.1 == name then (name, metric) else entry }
  else { store with metrics := store.metrics ++ [(name, metric)] }

def names (store : Store σ) : List String := (sortedByName store.metrics).map (·.1)

end Store

/-- Upper bounds of run times in milliseconds. -/
def runTimeBounds : List Number :=
  [100, 500, 1000, 5000, 15000, 60000, 300000, 900000].map
      (fun bound => Number.float (.finite bound)) ++
    [.float (.infinite false)]

def isAscending : List Number → Bool
  | left :: right :: rest => !(right.lt left) && isAscending (right :: rest)
  | _ => true

namespace Recording

/-- The series of a counter, created if its name is new. -/
def counter (name : String) : Recording σ (List (Labels × σ)) := do
  match (← get).metric? name with
  | some (.counter series) => return series
  | some other => throw (.wrongKind name other.kind .counter)
  | none =>
      modify (Store.setMetric name (.counter []))
      return []

def histogram (name : String) (bounds : List Number) :
    Recording σ (List Number × List (Labels × Snapshot σ)) := do
  match (← get).metric? name with
  | some (.histogram known series) => return (known, series)
  | some other => throw (.wrongKind name other.kind .histogram)
  | none =>
      if bounds.isEmpty || !isAscending bounds then throw (.boundsNotAscending name)
      modify (Store.setMetric name (.histogram bounds []))
      return (bounds, [])

def labels (built : Except ReservedLabel Labels) : Recording σ Labels :=
  match built with
  | .ok labels => return labels
  | .error reserved => throw (.reservedLabel reserved)

/-- Labels given to a reading, which has one more reserved name. -/
def readingLabels (reserved : ReservedLabel) (entries : List (String × String)) :
    Recording σ Labels :=
  if entries.any fun entry => entry.1 == reserved.name then throw (.reservedLabel reserved)
  else labels (Labels.ofMap entries)

variable [Accumulator σ]

/-- Adds an amount that is not negative to a counter. -/
def inc (name : String) (labelSet : Except ReservedLabel Labels) (amount : Value) :
    Recording σ Unit := do
  let series ← counter name
  let labels ← labels labelSet
  let some amount := amount.number? | throw (.unordered amount.kindName)
  if amount < Number.int 0 then throw (.decreasing name)
  match Accumulator.add ((find? labels series).getD Accumulator.zero) amount with
  | none => throw .tooLarge
  | some total =>
      modify (Store.setMetric name (.counter (update labels total (fun _ => total) series)))

def value (name : String) (entries : List (String × String)) : Recording σ σ := do
  let series ← counter name
  let labels ← readingLabels .counterValue entries
  return (find? labels series).getD Accumulator.zero

def total (name : String) : Recording σ σ := do
  let series ← counter name
  return series.foldl (fun sum entry => Accumulator.merge sum entry.2) Accumulator.zero

end Recording

/-- One bucket per distinct bound. -/
def emptyBuckets (bounds : List Number) : List (Number × Nat) :=
  bounds.foldl (fun known bound =>
    if known.any fun bucket => bucket.1.numericallyEqual bound then known
    else known ++ [(bound, 0)]) []

def bump (bound : Number) : List (Number × Nat) → List (Number × Nat)
  | [] => []
  | (known, count) :: rest =>
      if known.numericallyEqual bound then (known, count + 1) :: rest
      else (known, count) :: bump bound rest

/-- Counts an observation in the bucket of every bound it does not exceed. -/
def countIn (bounds : List Number) (observed : Number) (buckets : List (Number × Nat)) :
    List (Number × Nat) :=
  bounds.foldl (fun known bound => if observed ≤ bound then bump bound known else known) buckets

namespace Snapshot

variable [Accumulator σ]

def empty (bounds : List Number) : Snapshot σ :=
  { count := 0, sum := Accumulator.zero, buckets := emptyBuckets bounds }

end Snapshot

namespace Recording

variable [Accumulator σ]

def observe (name : String) (bounds : List Number) (labelSet : Except ReservedLabel Labels)
    (observed : Value) : Recording σ Unit := do
  let (known, series) ← histogram name bounds
  let labels ← labels labelSet
  let before := (find? labels series).getD (Snapshot.empty known)
  let store (snapshot : Snapshot σ) : Recording σ Unit :=
    modify (Store.setMetric name
      (.histogram known (update labels snapshot (fun _ => snapshot) series)))
  let counted := { before with count := before.count + 1 }
  match observed.number? with
  | none =>
      store counted
      throw (.notAddable observed.kindName)
  | some number =>
      match Accumulator.add before.sum number with
      | none =>
          store counted
          throw .tooLarge
      | some sum => store { counted with sum, buckets := countIn known number before.buckets }

def snapshot (name : String) (bounds : List Number) (entries : List (String × String)) :
    Recording σ (Snapshot σ) := do
  let (known, series) ← histogram name bounds
  let labels ← readingLabels .histogramSnapshot entries
  return (find? labels series).getD (Snapshot.empty known)

end Recording

/-- One series of one metric. -/
inductive Sample (σ : Type) where
  | counter (name : String) (labels : Labels) (value : σ)
  | histogram (name : String) (labels : Labels) (snapshot : Snapshot σ)

def Metric.samples (name : String) : Metric σ → List (Sample σ)
  | .counter series => series.map fun entry => .counter name entry.1 entry.2
  | .histogram _ series => series.map fun entry => .histogram name entry.1 entry.2

/-- Every series of every metric, metrics in ascending order of their names. -/
def Store.collect (store : Store σ) : List (Sample σ) :=
  (sortedByName store.metrics).flatMap fun entry => entry.2.samples entry.1

namespace Sample

def bucketList (buckets : List (Number × Nat)) : Value :=
  .list (buckets.map fun bucket => .list [.number bucket.1, .ofNat bucket.2])

def snapshotFields (snapshot : Snapshot Binary64) : List (String × Value) :=
  [("count", .ofNat snapshot.count), ("sum", .float snapshot.sum),
    ("buckets", bucketList snapshot.buckets)]

/-- A sample as one mapping. -/
def record : Sample Binary64 → Value
  | .counter name labels value =>
      .textMap [("name", .text name), ("type", .text MetricKind.counter.name),
        ("labels", labels.toValue), ("value", .float value)]
  | .histogram name labels snapshot =>
      .textMap ([("name", .text name), ("type", .text MetricKind.histogram.name),
        ("labels", labels.toValue)] ++ snapshotFields snapshot)

end Sample

/-- A measured value as a double-precision number. -/
def measure (value : Value) : Except MetricFault Binary64 :=
  match value with
  | .text text =>
      match Binary64.ofText? (Text.strip text) with
      | some number => .ok number
      | none => .error (.notNumeric text)
  | other =>
      match other.number? with
      | some number =>
          match number.toBinary64? with
          | some rounded => .ok rounded
          | none => .error .tooLarge
      | none => .error (.notANumber other.kindName)

/-- Counts one event under a tag list. -/
def increment [Accumulator σ] (name : String) (tags : List String) : Recording σ Unit :=
  Recording.inc name (Labels.ofTags tags) (.float (.finite 1))

/-- Records a time in milliseconds under a tag list. -/
def timing [Accumulator σ] (name : String) (millis : Value) (tags : List String) :
    Recording σ Unit := do
  let _ ← Recording.histogram name runTimeBounds
  match measure millis with
  | .error fault => throw fault
  | .ok observed =>
      Recording.observe name runTimeBounds (Labels.ofTags tags) (.float observed)

end AnalysisEngines.Metrics
