import AnalysisEngines.Proofs.Metrics.History

/-!
# What the buckets of a histogram count

A histogram of any bounds that a store accepts is read behind any observations.  Bounds that are apart
make the counts of its buckets cumulative; a bound that is listed twice counts twice.
-/

set_option autoImplicit false

namespace AnalysisEngines.Metrics

/-! ## Snapshots -/

namespace Snapshot

variable {σ : Type}

/-- The count in the bucket of a bound. -/
def bucket? (bound : Number) (snapshot : Snapshot σ) : Option Nat :=
  (snapshot.buckets.find? fun bucket =>
    bucket.1 = bound || bucket.1.numericallyEqual bound).map (·.2)

/-- A snapshot whose buckets each count the amounts up to their bound. -/
structure IsCumulative (bounds amounts : List Number) (snapshot : Snapshot σ) : Prop where
  counted : ∀ bound ∈ bounds, snapshot.bucket? bound = some (amounts.countP (· ≤ bound))
  ascends : ∀ low ∈ bounds, ∀ high ∈ bounds, low ≤ high → ∀ fewer more,
    snapshot.bucket? low = some fewer → snapshot.bucket? high = some more → fewer ≤ more
  within : ∀ bound ∈ bounds, ∀ count, snapshot.bucket? bound = some count → count ≤ snapshot.count
  unbounded : ∀ bound ∈ bounds, bound.exact = .infinite false →
    snapshot.bucket? bound = some snapshot.count

variable [Accumulator σ] {bounds amounts : List Number}

/-- Behind any amounts the bucket of a bound has counted those up to it, each as often as the bound is
listed. -/
theorem bucket?_foldl_observe (amounts : List Number) {bound : Number} (listed : bound ∈ bounds) :
    (amounts.foldl (fun before amount => before.observe bounds amount)
        (empty bounds : Snapshot σ)).bucket? bound =
      some (amounts.countP (· ≤ bound) * times bounds bound) := by
  obtain ⟨key, member, same⟩ := exists_mem_distinctBounds listed
  have held : ((distinctBounds bounds).find? fun key =>
      key = bound || key.numericallyEqual bound).isSome := by
    rw [List.find?_isSome]
    exact ⟨key, member, by simpa using same⟩
  obtain ⟨first, found⟩ := Option.isSome_iff_exists.mp held
  have counts : amounts.countP (· ≤ first) * times bounds first =
      amounts.countP (· ≤ bound) * times bounds bound := by
    have same : first = bound ∨ first.numericallyEqual bound = true := by
      simpa using List.find?_some found
    rcases same with rfl | same
    · rfl
    · simp only [Number.le_congr_right same, times_congr same]
  rw [bucket?, foldl_observe_new, List.find?_map]
  simp only [Function.comp_def, found, Option.map_some, counts]

omit [Accumulator σ] in
/-- Buckets that count the amounts up to their bounds are cumulative. -/
theorem IsCumulative.of_counted {snapshot : Snapshot σ} (total : snapshot.count = amounts.length)
    (defined : ∀ amount ∈ amounts, amount.exact ≠ .nan)
    (counted : ∀ bound ∈ bounds, snapshot.bucket? bound = some (amounts.countP (· ≤ bound))) :
    snapshot.IsCumulative bounds amounts where
  counted := counted
  ascends low lowListed high highListed le fewer more lowCount highCount := by
    obtain rfl := Option.some.inj ((counted low lowListed).symm.trans lowCount)
    obtain rfl := Option.some.inj ((counted high highListed).symm.trans highCount)
    refine List.countP_mono_left fun amount _ within => ?_
    rw [decide_eq_true_iff] at within ⊢
    exact Number.le_trans within le
  within bound listed count counts := by
    obtain rfl := Option.some.inj ((counted bound listed).symm.trans counts)
    rw [total]
    exact List.countP_le_length
  unbounded bound listed infinite := by
    rw [counted bound listed, total, List.countP_eq_length.mpr]
    intro amount member
    rw [decide_eq_true_iff]
    exact Number.le_of_infinite (defined amount member) infinite

/-- The buckets are cumulative exactly if nothing counts twice. -/
theorem isCumulative_foldl_observe_iff (defined : ∀ amount ∈ amounts, amount.exact ≠ .nan) :
    (amounts.foldl (fun before amount => before.observe bounds amount)
        (empty bounds : Snapshot σ)).IsCumulative bounds amounts ↔
      ∀ bound ∈ bounds, 1 < times bounds bound → ∀ amount ∈ amounts, ¬amount ≤ bound := by
  constructor
  · intro cumulative bound listed twice
    have same := cumulative.counted bound listed
    rw [bucket?_foldl_observe amounts listed, Option.some_inj] at same
    have nothing : amounts.countP (· ≤ bound) = 0 := by
      by_contra some
      exact Nat.ne_of_gt twice (Nat.eq_of_mul_eq_mul_left (Nat.pos_of_ne_zero some)
        (by rw [same, Nat.mul_one])).symm
    simpa using List.countP_eq_zero.mp nothing
  · intro apart
    refine .of_counted ?_ defined fun bound listed => ?_
    · rw [foldl_observe_new]
    · rw [bucket?_foldl_observe amounts listed, Option.some_inj]
      by_cases within : ∃ amount ∈ amounts, amount ≤ bound
      · obtain ⟨amount, member, within⟩ := within
        have once : times bounds bound = 1 := by
          have := one_le_times listed within
          have := mt (apart bound listed) fun none => none amount member within
          omega
        rw [once, Nat.mul_one]
      · have nothing : amounts.countP (· ≤ bound) = 0 := by
          rw [List.countP_eq_zero]
          simpa using within
        rw [nothing, Nat.zero_mul]

end Snapshot

/-! ## Runs -/

namespace Recording

section Run

variable {σ : Type} [Accumulator σ] {bounds : List Number} {name : String} {store created : Store σ}
  {series : List (Labels × Snapshot σ)} {earlier given : List (List (String × String) × Number)}

/-- Observes amounts under label sets, one after the other. -/
def observeAll (name : String) (bounds : List Number)
    (given : List (List (String × String) × Number)) : Recording σ Unit :=
  given.forM fun entry => observe name bounds (.ok (Labels.ofEntries entry.1)) (.number entry.2)

/-- What is read of a label set behind observations. -/
def snapshotAfter (given : List (List (String × String) × Number)) (name : String)
    (bounds : List Number) (entries : List (String × String)) : Recording σ (Snapshot σ) := do
  observeAll name bounds given
  snapshot name bounds entries

/-- Each observation adds to the series of its label set, in a histogram of any bounds. -/
theorem observeAll_isTold (found : store.metric? name = some (.histogram bounds series))
    (told : IsTold (Snapshot.empty bounds) (fun before amount => before.observe bounds amount) earlier
      series)
    (addable : ∀ entry ∈ given, IsAddable σ entry.2) :
    ∃ series' last, observeAll name bounds given store = .ok () last ∧
      last.metric? name = some (.histogram bounds series') ∧
      IsTold (Snapshot.empty bounds) (fun before amount => before.observe bounds amount)
        (earlier ++ given) series' := by
  induction given generalizing store series earlier with
  | nil => exact ⟨series, store, rfl, found, by rwa [List.append_nil]⟩
  | cons entry rest ih =>
      have observes : observe name bounds (.ok (Labels.ofEntries entry.1)) (.number entry.2) store = _ :=
        observe_of_addable (histogram_of_found found bounds) (addable entry List.mem_cons_self)
      obtain ⟨series', last, returns, found', told'⟩ :=
        ih (((store.sets_setMetric name _).metric? name).trans (if_pos rfl))
          (told.give entry.1 entry.2) fun other member => addable other (List.mem_cons_of_mem _ member)
      refine ⟨series', last, (bind_of_ok observes).trans returns, found', ?_⟩
      rwa [List.append_cons]

/-- What is read of a label set is what the amounts under it come to. -/
theorem snapshotAfter_eq_ok
    (accepted : histogram name bounds store = .ok (bounds, []) created)
    (addable : ∀ entry ∈ given, IsAddable σ entry.2) {entries : List (String × String)}
    (readable : Labels.IsReadable entries) :
    ∃ last, snapshotAfter given name bounds entries created =
      .ok ((amountsUnder (Labels.ofEntries entries) given).foldl
        (fun before amount => before.observe bounds amount) (Snapshot.empty bounds)) last := by
  have untold : IsTold (Snapshot.empty bounds : Snapshot σ)
      (fun before amount => before.observe bounds amount) [] [] := ⟨List.nodup_nil, fun _ => rfl⟩
  obtain ⟨series, last, returns, found, told⟩ :=
    observeAll_isTold (metric?_of_histogram accepted) untold addable
  refine ⟨last, ?_⟩
  rw [snapshotAfter, bind_of_ok returns, snapshot_of_found found bounds readable, told.found,
    getD_tally]
  rfl

end Run

end Recording

/-- In a new histogram of any bounds, each bucket counts the observations up to its bound as often as
the bound is listed.  So the buckets are cumulative unless something is observed up to a bound that is
listed twice. -/
theorem Recording.snapshot_isCumulative_iff {store created : Store Binary64} {name : String}
    {bounds : List Number} (accepted : histogram name bounds store = .ok (bounds, []) created)
    {given : List (List (String × String) × Number)}
    (measurable : ∀ entry ∈ given, entry.2.exact ≠ .nan ∧ entry.2.toBinary64?.isSome)
    {entries : List (String × String)} (readable : Labels.IsReadable entries) :
    ∃ snapshot last, snapshotAfter given name bounds entries created = .ok snapshot last ∧
      snapshot.count = (amountsUnder (Labels.ofEntries entries) given).length ∧
      (∀ bound ∈ bounds, snapshot.bucket? bound =
        some ((amountsUnder (Labels.ofEntries entries) given).countP (· ≤ bound) *
          times bounds bound)) ∧
      (snapshot.IsCumulative bounds (amountsUnder (Labels.ofEntries entries) given) ↔
        ∀ bound ∈ bounds, 1 < times bounds bound →
          ∀ amount ∈ amountsUnder (Labels.ofEntries entries) given, ¬amount ≤ bound) := by
  obtain ⟨last, reads⟩ := snapshotAfter_eq_ok accepted
    (fun entry member => isAddable_of_isSome (measurable entry member).2) readable
  refine ⟨_, last, reads, ?_, fun bound listed => Snapshot.bucket?_foldl_observe _ listed,
    Snapshot.isCumulative_foldl_observe_iff fun amount member => ?_⟩
  · rw [Snapshot.foldl_observe_new]
  · obtain ⟨entry, under, rfl⟩ := List.mem_map.mp member
    exact (measurable entry (List.mem_of_mem_filter under)).1

/-- Bounds of which one is listed twice. -/
def doubledBounds : List Number := [.float (.finite 1), .float (.finite 1), .float (.finite 2)]

/-- Observations of which one is up to the bound that is listed twice. -/
def mixedTimes : List (List (String × String) × Number) :=
  [([], .float (.finite 1)), ([], .float (.finite 2)),
    ([("engine", "linter")], .float (.finite 2))]

/-- A store with a histogram of such bounds. -/
def doubledStore : Store Binary64 := Store.empty.setMetric "times" (.histogram doubledBounds [])

theorem doubledBounds_accepted :
    Recording.histogram "times" doubledBounds .empty = .ok (doubledBounds, []) doubledStore :=
  rfl

theorem mixedTimes_measurable :
    ∀ entry ∈ mixedTimes, entry.2.exact ≠ .nan ∧ entry.2.toBinary64?.isSome := by
  decide

theorem amountsUnder_mixedTimes :
    amountsUnder (Labels.ofEntries []) mixedTimes =
        [.float (.finite 1), .float (.finite 2)] ∧
      amountsUnder (Labels.ofEntries [("engine", "linter")]) mixedTimes =
        [.float (.finite 2)] := by
  simp only [amountsUnder, Labels.ofEntries_eq_iff]
  decide

/-- A label set under which all observations are above the doubled bound is counted as it should. -/
theorem Recording.slowTimes_isCumulative :
    Recording.histogram "times" doubledBounds .empty = .ok (doubledBounds, []) doubledStore ∧
    ∃ snapshot last,
      snapshotAfter mixedTimes "times" doubledBounds [("engine", "linter")] doubledStore =
        .ok snapshot last ∧
      snapshot.count = 1 ∧ snapshot.IsCumulative doubledBounds [.float (.finite 2)] := by
  obtain ⟨snapshot, last, reads, count, -, cumulative⟩ :=
    snapshot_isCumulative_iff doubledBounds_accepted mixedTimes_measurable
      (by simp [Labels.IsReadable] : Labels.IsReadable [("engine", "linter")])
  rw [amountsUnder_mixedTimes.2] at count cumulative
  exact ⟨doubledBounds_accepted, snapshot, last, reads, count, cumulative.mpr (by decide)⟩

/-- One of two observations is up to the doubled bound, whose bucket counts two. -/
theorem Recording.quickTimes_countTwice :
    Recording.histogram "times" doubledBounds .empty = .ok (doubledBounds, []) doubledStore ∧
    ∃ snapshot last,
      snapshotAfter mixedTimes "times" doubledBounds [] doubledStore = .ok snapshot last ∧
      (amountsUnder (Labels.ofEntries []) mixedTimes).countP (· ≤ .float (.finite 1)) = 1 ∧
      snapshot.bucket? (.float (.finite 1)) = some 2 ∧
      ¬snapshot.IsCumulative doubledBounds (amountsUnder (Labels.ofEntries []) mixedTimes) := by
  obtain ⟨last, reads⟩ := snapshotAfter_eq_ok doubledBounds_accepted
    (fun entry member => isAddable_of_isSome (mixedTimes_measurable entry member).2)
    (by simp [Labels.IsReadable] : Labels.IsReadable [])
  refine ⟨doubledBounds_accepted, _, last, reads, ?_⟩
  rw [amountsUnder_mixedTimes.1]
  refine ⟨by decide, ?_, (Snapshot.isCumulative_foldl_observe_iff (by decide)).not.mpr (by decide)⟩
  rw [Snapshot.bucket?_foldl_observe _ (by decide)]
  decide

end AnalysisEngines.Metrics
