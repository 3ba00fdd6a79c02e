import AnalysisEngines.Batch
import AnalysisEngines.Proofs.Run.Clock

/-!
# The schedule of a batch

A step of a schedule is a grant or a settlement.  Every schedule grants the jobs of its batch in
their order, each with the performance that the batch gives it, and the schedule of a batch has come
to an end.
-/

set_option autoImplicit false

namespace AnalysisEngines

/-- A batch with a width has as many slots, and so at least one. -/
theorem Batch.withWidth_eq_ok_iff {batch wide : Batch} {width : Int} :
    batch.withWidth width = .ok wide ↔
      1 ≤ wide.slots ∧ (wide.slots : Int) = width ∧ wide = { batch with slots := wide.slots } := by
  unfold withWidth
  constructor
  · intro accepted
    split at accepted
    · cases accepted
    · cases accepted
      refine ⟨?_, ?_, rfl⟩ <;> dsimp only <;> omega
  · rintro ⟨some, rfl, same⟩
    rw [if_neg (by omega), Int.toNat_natCast, ← same]

namespace Grant

/-- A grant but for whether the job has settled. -/
def core (grant : Grant) : Job × Moment × Performance :=
  (grant.job, grant.moment, grant.performance)

theorem map_core_release (finish : Moment) (granted : List Grant) :
    (release finish granted).map core = granted.map core := by
  induction granted with
  | nil => rfl
  | cons grant rest ih =>
      unfold release
      split
      · rfl
      · rw [List.map_cons, List.map_cons, ih]

theorem getElem?_release {finish : Moment} {granted : List Grant} {place : Nat} {grant : Grant}
    (found : (release finish granted)[place]? = some grant) :
    ∃ old, granted[place]? = some old ∧ grant.job = old.job ∧ grant.moment = old.moment ∧
      grant.performance = old.performance := by
  have kept := congrArg (·[place]?) (map_core_release finish granted)
  simp only [List.getElem?_map, found, Option.map_some] at kept
  obtain ⟨old, foundOld, same⟩ := Option.map_eq_some_iff.mp kept.symm
  simp only [core, Prod.mk.injEq] at same
  exact ⟨old, foundOld, same.1.symm, same.2.1.symm, same.2.2.symm⟩

theorem isDue_of_pending? {finish : Moment} {grant : Grant}
    (pending : grant.pending? = some finish) : grant.isDue finish = true := by
  unfold pending? at pending
  split at pending
  · rename_i holds
    simp [isDue, holds, pending]
  · cases pending

/-- A settlement takes one job from those that hold a slot. -/
theorem countP_release {finish : Moment} {granted : List Grant}
    (due : ∃ grant ∈ granted, grant.pending? = some finish) :
    (release finish granted).countP (·.holdsSlot) + 1 = granted.countP (·.holdsSlot) := by
  induction granted with
  | nil => simp at due
  | cons grant rest ih =>
      unfold release
      by_cases now : grant.isDue finish = true
      · have holds : grant.holdsSlot = true := (Bool.and_eq_true_iff.mp now).1
        simp [now, holds]
      · have later : ∃ next ∈ rest, next.pending? = some finish := by
          obtain ⟨next, member, pending⟩ := due
          rcases List.mem_cons.mp member with rfl | inRest
          · exact absurd (isDue_of_pending? pending) now
          · exact ⟨next, inRest, pending⟩
        rw [if_neg now, List.countP_cons, List.countP_cons, ← ih later]
        omega

end Grant

/-- What is known of every schedule of a batch. -/
structure Schedule.IsOf (batch : Batch) (schedule : Schedule) : Prop where
  jobs : schedule.granted.map (·.job) ++ schedule.waiting = batch.jobs
  performed : ∀ place grant, schedule.granted[place]? = some grant →
    grant.performance = batch.perform place grant.job grant.moment
  admitted : ∀ grant ∈ schedule.granted, batch.admits grant.moment = true

namespace Batch

variable {batch : Batch} {schedule next : Schedule}

/-! ## Steps -/

theorem grantNext?_eq_some (granted : batch.grantNext? schedule = some next) :
    ∃ job rest, schedule.waiting = job :: rest ∧ schedule.busy < batch.slots ∧
      batch.admits schedule.now = true ∧
      next = { schedule with
        waiting := rest
        granted := schedule.granted ++
          [{ job
             moment := schedule.now
             performance := batch.perform schedule.granted.length job schedule.now }] } := by
  unfold grantNext? at granted
  split at granted
  · cases granted
  · rename_i job rest waiting
    split at granted
    · rename_i free
      rw [Bool.and_eq_true_iff, decide_eq_true_eq] at free
      cases granted
      exact ⟨job, rest, waiting, free.1, free.2, rfl⟩
    · cases granted

theorem settleNext?_eq_some (settled : schedule.settleNext? = some next) :
    ∃ finish, (∃ grant ∈ schedule.granted, grant.pending? = some finish) ∧
      (∀ grant ∈ schedule.granted, ∀ other, grant.pending? = some other → finish ≤ other) ∧
      next = { schedule with
        now := finish.pass 1
        granted := Grant.release finish schedule.granted } := by
  obtain ⟨finish, earliest, rfl⟩ := Option.map_eq_some_iff.mp settled
  obtain ⟨grant, member, pending⟩ := List.mem_filterMap.mp (Moment.earliest?_mem earliest)
  refine ⟨finish, ⟨grant, member, pending⟩, fun grant member other pending => ?_, rfl⟩
  exact Moment.earliest?_le earliest (List.mem_filterMap.mpr ⟨grant, member, pending⟩)

/-- A step is a grant or, if none is possible, a settlement. -/
theorem step?_cases (steps : batch.step? schedule = some next) :
    batch.grantNext? schedule = some next ∨
      batch.grantNext? schedule = none ∧ schedule.settleNext? = some next := by
  unfold step? at steps
  split at steps
  · rename_i granted
    exact .inl (granted.trans steps)
  · rename_i refused
    exact .inr ⟨refused, steps⟩

theorem advance_induction {invariant : Schedule → Prop}
    (keeps : ∀ schedule next, batch.step? schedule = some next →
      invariant schedule → invariant next) (steps : Nat) (holds : invariant schedule) :
    invariant (batch.advance steps schedule) := by
  induction steps generalizing schedule with
  | zero => exact holds
  | succ steps ih =>
      unfold advance
      split
      · exact ih (keeps _ _ ‹_› holds)
      · exact holds

/-! ## What every schedule knows -/

theorem isOf_initial (batch : Batch) : batch.initial.IsOf batch where
  jobs := rfl
  performed place grant found := by simp [initial] at found
  admitted grant member := by simp [initial] at member

theorem isOf_step (steps : batch.step? schedule = some next) (known : schedule.IsOf batch) :
    next.IsOf batch := by
  rcases step?_cases steps with granted | ⟨-, settled⟩
  · obtain ⟨job, rest, waiting, -, admits, rfl⟩ := grantNext?_eq_some granted
    constructor
    · rw [← known.jobs, waiting]
      simp
    · intro place grant found
      rw [List.getElem?_append] at found
      split at found
      · exact known.performed place grant found
      · rename_i later
        rw [List.getElem?_singleton] at found
        split at found
        · have place_eq : place = schedule.granted.length := by omega
          cases found
          rw [place_eq]
        · cases found
    · intro grant member
      rcases List.mem_append.mp member with old | new
      · exact known.admitted grant old
      · rw [List.mem_singleton.mp new]
        exact admits
  · obtain ⟨finish, -, -, rfl⟩ := settleNext?_eq_some settled
    have same := Grant.map_core_release finish schedule.granted
    constructor
    · have jobs := congrArg (List.map (·.1)) same
      rw [List.map_map, List.map_map] at jobs
      exact (congrArg (· ++ schedule.waiting) jobs).trans known.jobs
    · intro place grant found
      obtain ⟨old, foundOld, job, moment, performance⟩ := Grant.getElem?_release found
      rw [performance, job, moment]
      exact known.performed place old foundOld
    · intro grant member
      obtain ⟨place, found⟩ := List.mem_iff_getElem?.mp member
      obtain ⟨old, foundOld, -, moment, -⟩ := Grant.getElem?_release found
      rw [moment]
      exact known.admitted old (List.mem_of_getElem? foundOld)

theorem isOf_schedule (batch : Batch) : batch.schedule.IsOf batch :=
  advance_induction (fun _ _ => isOf_step) _ batch.isOf_initial

/-! ## The end of a schedule -/

/-- How many steps a schedule has before it at most: a grant and a settlement for each job that
waits, and a settlement for each that holds a slot. -/
def stepsLeft (schedule : Schedule) : Nat := 2 * schedule.waiting.length + schedule.busy

theorem stepsLeft_step (steps : batch.step? schedule = some next) :
    stepsLeft next + 1 = stepsLeft schedule := by
  rcases step?_cases steps with granted | ⟨-, settled⟩
  · obtain ⟨job, rest, waiting, -, -, rfl⟩ := grantNext?_eq_some granted
    simp only [stepsLeft, Schedule.busy, waiting, List.length_cons, List.countP_append,
      List.countP_singleton]
    simp
    omega
  · obtain ⟨finish, due, -, rfl⟩ := settleNext?_eq_some settled
    have fewer := Grant.countP_release due
    simp only [stepsLeft, Schedule.busy]
    omega

theorem step?_eq_none_of_stepsLeft (halted : stepsLeft schedule = 0) : batch.step? schedule = none := by
  cases steps : batch.step? schedule with
  | none => rfl
  | some next =>
      have := stepsLeft_step steps
      omega

theorem step?_advance_eq_none {steps : Nat} (enough : stepsLeft schedule ≤ steps) :
    batch.step? (batch.advance steps schedule) = none := by
  induction steps generalizing schedule with
  | zero => exact step?_eq_none_of_stepsLeft (Nat.le_zero.mp enough)
  | succ steps ih =>
      unfold advance
      split
      · rename_i next taken
        have := stepsLeft_step taken
        exact ih (by omega)
      · assumption

/-- The schedule of a batch allows no further step. -/
theorem step?_schedule (batch : Batch) : batch.step? batch.schedule = none :=
  step?_advance_eq_none (by simp [stepsLeft, initial, Schedule.busy])

/-- In the end no job that holds a slot will settle. -/
theorem pending?_schedule {grant : Grant} (member : grant ∈ batch.schedule.granted) :
    grant.pending? = none := by
  have halted := batch.step?_schedule
  unfold step? at halted
  split at halted
  · cases halted
  · have empty := Moment.earliest?_eq_none_iff.mp (Option.map_eq_none_iff.mp halted)
    exact List.filterMap_eq_nil_iff.mp empty grant member

theorem grantNext?_schedule (batch : Batch) : batch.grantNext? batch.schedule = none := by
  have halted := batch.step?_schedule
  unfold step? at halted
  split at halted
  · cases halted
  · assumption

/-- Every job is granted a slot if there is one, nobody cancels and every job that is granted one
settles. -/
theorem waiting_schedule (slots : 1 ≤ batch.slots) (uncancelled : batch.cancelAt = none)
    (settles : ∀ grant ∈ batch.schedule.granted, grant.performance.settled ≠ none) :
    batch.schedule.waiting = [] := by
  have idle : batch.schedule.busy = 0 := by
    by_contra busy
    obtain ⟨grant, member, holds⟩ := List.countP_pos_iff.mp (Nat.pos_of_ne_zero busy)
    have settledNever := pending?_schedule member
    simp [Grant.pending?, holds, Performance.finish?, settles grant member] at settledNever
  have refused := batch.grantNext?_schedule
  unfold grantNext? at refused
  split at refused
  · assumption
  · have free : batch.schedule.busy < batch.slots := by omega
    simp [free, admits, uncancelled] at refused

end Batch

end AnalysisEngines
