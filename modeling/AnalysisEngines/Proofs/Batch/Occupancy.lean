import AnalysisEngines.Proofs.Batch.Bookkeeping

/-!
# How the slots of a batch are held

A job holds its slot from its grant until it settles.  At most `slots` jobs do so at a time, and as
many as possible: once nothing more happens at an instant, no slot is free while a job waits.
-/

set_option autoImplicit false

namespace AnalysisEngines

/-! ## Jobs with a slot -/

namespace Grant

/-- A job that has got its slot by a moment and has not settled by then. -/
def isActiveAt (now : Moment) (grant : Grant) : Bool :=
  grant.moment ≤ now && grant.performance.finish?.all (now < ·)

/-- A job that still holds its slot when an instant is over. -/
def isActiveThrough (instant : Rat) (grant : Grant) : Bool :=
  grant.moment.instant ≤ instant && grant.performance.finish?.all (instant < ·.instant)

/-- A job that has settled when an instant is over. -/
def isSettledThrough (instant : Rat) (grant : Grant) : Bool :=
  grant.performance.finish?.any (·.instant ≤ instant)

theorem pending?_of_isDue {finish : Moment} {grant : Grant} (due : grant.isDue finish = true) :
    grant.pending? = some finish := by
  obtain ⟨holds, settles⟩ := Bool.and_eq_true_iff.mp due
  rw [pending?, if_pos holds]
  exact beq_iff_eq.mp settles

theorem pending?_eq_some_iff {finish : Moment} {grant : Grant} :
    grant.pending? = some finish ↔
      grant.holdsSlot = true ∧ grant.performance.finish? = some finish := by
  unfold pending?
  cases grant.holdsSlot <;> simp

/-- When an instant is over by which all slots that could be given back have been, the active jobs
are those that hold a slot. -/
theorem isActiveThrough_eq {instant : Rat} {grant : Grant} (begun : grant.moment.instant ≤ instant)
    (released : grant.holdsSlot = false →
      ∃ finish, grant.performance.finish? = some finish ∧ finish.instant ≤ instant)
    (pending : ∀ finish, grant.pending? = some finish → instant < finish.instant) :
    grant.isActiveThrough instant = grant.holdsSlot ∧
      grant.isSettledThrough instant = !grant.holdsSlot := by
  unfold isActiveThrough isSettledThrough
  cases holds : grant.holdsSlot with
  | false =>
      obtain ⟨finish, settles, early⟩ := released holds
      simp [settles, early]
  | true =>
      cases settles : grant.performance.finish? with
      | none => simp [begun]
      | some finish =>
          have late := pending finish (pending?_eq_some_iff.mpr ⟨holds, settles⟩)
          simp [begun, late]

/-- A settlement takes the slot of one job and leaves the others alone. -/
theorem mem_release {finish : Moment} {granted : List Grant} {grant : Grant}
    (member : grant ∈ release finish granted) :
    grant ∈ granted ∨ ∃ old ∈ granted, old.pending? = some finish ∧
      grant = { old with holdsSlot := false } := by
  induction granted with
  | nil => cases member
  | cons first rest ih =>
      unfold release at member
      split at member
      · rename_i due
        rcases List.mem_cons.mp member with rfl | inRest
        · exact .inr ⟨first, List.mem_cons_self, pending?_of_isDue due, rfl⟩
        · exact .inl (List.mem_cons_of_mem _ inRest)
      · rcases List.mem_cons.mp member with rfl | inRest
        · exact .inl List.mem_cons_self
        · rcases ih inRest with kept | ⟨old, known, pending, rfl⟩
          · exact .inl (List.mem_cons_of_mem _ kept)
          · exact .inr ⟨old, List.mem_cons_of_mem _ known, pending, rfl⟩

/-- What does not depend on who holds a slot is the same after a settlement. -/
theorem countP_release_of_frame {counts : Grant → Bool}
    (frame : ∀ grant, counts { grant with holdsSlot := false } = counts grant) (finish : Moment)
    (granted : List Grant) : (release finish granted).countP counts = granted.countP counts := by
  induction granted with
  | nil => rfl
  | cons first rest ih =>
      unfold release
      split
      · rw [List.countP_cons, List.countP_cons, frame]
      · rw [List.countP_cons, List.countP_cons, ih]

end Grant

/-- Whether a note tells of the start of a job. -/
def BatchNote.isStart : BatchNote → Bool
  | .happening _ (.started ..) => true
  | _ => false

theorem BatchNote.happening?_of_isStart {note : BatchNote} (starts : note.isStart = true) :
    ∃ engine details, note.happening? = some (.started engine details) := by
  cases note with
  | happening job what =>
      cases what with
      | started engine details => exact ⟨engine, details, rfl⟩
      | finished => cases starts
  | _ => cases starts

/-- Jobs get their slots in order of time.  Those that hold none have settled, and the others settle
from now on. -/
structure Schedule.IsTimely (schedule : Schedule) : Prop where
  ordered : (schedule.granted.map (·.moment)).Pairwise (· ≤ ·)
  granted : ∀ grant ∈ schedule.granted, grant.moment ≤ schedule.now
  later : ∀ grant ∈ schedule.granted, ∀ finish, grant.performance.finish? = some finish →
    grant.moment ≤ finish
  pending : ∀ grant ∈ schedule.granted, ∀ finish, grant.pending? = some finish →
    schedule.now ≤ finish.pass 1
  released : ∀ grant ∈ schedule.granted, grant.holdsSlot = false →
    ∃ finish, grant.performance.finish? = some finish ∧ finish.pass 1 ≤ schedule.now

/-- How many jobs have not settled. -/
def Schedule.unsettled (schedule : Schedule) : Nat := schedule.waiting.length + schedule.busy

namespace Batch

variable {batch : Batch} {schedule next : Schedule} {place : Nat} {job : Job} {origin : Moment}
  {performance : Performance}

/-- The schedules that a batch comes to, step by step. -/
inductive Reaches (batch : Batch) : Schedule → Prop where
  | initial : Reaches batch batch.initial
  | step {schedule next : Schedule} : Reaches batch schedule → batch.step? schedule = some next →
      Reaches batch next

theorem reaches_schedule (batch : Batch) : batch.Reaches batch.schedule :=
  advance_induction (fun _ _ steps reached => reached.step steps) _ .initial

theorem Reaches.isOf (reached : batch.Reaches schedule) : schedule.IsOf batch := by
  induction reached with
  | initial => exact batch.isOf_initial
  | step _ steps ih => exact isOf_step steps ih

/-! ## The order of grants and settlements -/

/-- A job settles no earlier than it gets its slot. -/
theorem Performs.le_finish (performs : batch.Performs place job origin performance)
    {finish : Moment} (settles : performance.finish? = some finish) : origin ≤ finish := by
  cases performs with
  | skipped => exact (Option.some.inj settles).le
  | raised => exact (Option.some.inj settles).le
  | run _ _ began =>
      rw [Performance.finish?, Option.map_map] at settles
      obtain ⟨_, -, rfl⟩ := Option.map_eq_some_iff.mp settles
      have order := Execution.le_finish (batch.request job) origin
      rwa [← began] at order

theorem isTimely_initial (batch : Batch) : batch.initial.IsTimely where
  ordered := .nil
  granted := by simp [initial]
  later := by simp [initial]
  pending := by simp [initial]
  released := by simp [initial]

theorem isTimely_step (steps : batch.step? schedule = some next) (timely : schedule.IsTimely) :
    next.IsTimely := by
  rcases step?_cases steps with granted | ⟨-, settled⟩
  · obtain ⟨job, rest, -, -, -, rfl⟩ := grantNext?_eq_some granted
    have performs := batch.performs schedule.granted.length job schedule.now
    constructor
    · rw [List.map_append, List.pairwise_append]
      refine ⟨timely.ordered, List.pairwise_singleton _ _, ?_⟩
      intro earlier member later last
      obtain ⟨grant, known, rfl⟩ := List.mem_map.mp member
      rw [List.mem_singleton.mp last]
      exact timely.granted grant known
    · intro grant member
      rcases List.mem_append.mp member with known | new
      · exact timely.granted grant known
      · rw [List.mem_singleton.mp new]
    · intro grant member finish settles
      rcases List.mem_append.mp member with known | new
      · exact timely.later grant known finish settles
      · rw [List.mem_singleton.mp new] at settles ⊢
        exact performs.le_finish settles
    · intro grant member finish pending
      rcases List.mem_append.mp member with known | new
      · exact timely.pending grant known finish pending
      · rw [List.mem_singleton.mp new] at pending
        have settles := (Grant.pending?_eq_some_iff.mp pending).2
        exact (performs.le_finish settles).trans (Moment.le_pass 1 finish)
    · intro grant member free
      rcases List.mem_append.mp member with known | new
      · exact timely.released grant known free
      · rw [List.mem_singleton.mp new] at free
        cases free
  · obtain ⟨finish, ⟨first, inGranted, isFirst⟩, earliest, rfl⟩ := settleNext?_eq_some settled
    have onward : schedule.now ≤ finish.pass 1 := timely.pending first inGranted finish isFirst
    constructor
    · have moments := congrArg (List.map (·.2.1)) (Grant.map_core_release finish schedule.granted)
      rw [List.map_map, List.map_map] at moments
      exact Eq.mpr (congrArg (List.Pairwise (· ≤ ·)) moments) timely.ordered
    · intro grant member
      rcases Grant.mem_release member with known | ⟨old, known, -, rfl⟩
      · exact (timely.granted grant known).trans onward
      · exact (timely.granted old known).trans onward
    · intro grant member other settles
      rcases Grant.mem_release member with known | ⟨old, known, -, rfl⟩
      · exact timely.later grant known other settles
      · exact timely.later old known other settles
    · intro grant member other pending
      rcases Grant.mem_release member with known | ⟨old, -, -, rfl⟩
      · exact Moment.pass_le_pass (earliest grant known other pending) 1
      · cases pending
    · intro grant member free
      rcases Grant.mem_release member with known | ⟨old, known, pending, rfl⟩
      · obtain ⟨last, settles, passed⟩ := timely.released grant known free
        exact ⟨last, settles, passed.trans onward⟩
      · exact ⟨finish, (Grant.pending?_eq_some_iff.mp pending).2, le_refl _⟩

theorem Reaches.isTimely (reached : batch.Reaches schedule) : schedule.IsTimely := by
  induction reached with
  | initial => exact batch.isTimely_initial
  | step _ steps ih => exact isTimely_step steps ih

/-! ## No more jobs than slots -/

theorem Reaches.busy_le (reached : batch.Reaches schedule) : schedule.busy ≤ batch.slots := by
  induction reached with
  | initial => exact Nat.zero_le _
  | step _ steps ih =>
      rcases step?_cases steps with granted | ⟨-, settled⟩
      · obtain ⟨job, rest, -, free, -, rfl⟩ := grantNext?_eq_some granted
        simpa [Schedule.busy, Nat.succ_le_iff] using free
      · obtain ⟨finish, due, -, rfl⟩ := settleNext?_eq_some settled
        have fewer := Grant.countP_release due
        exact (Nat.le_of_succ_le fewer.le).trans ih

/-- A job that has given its slot back is active no more. -/
theorem holdsSlot_of_isActiveAt (timely : schedule.IsTimely) {now : Moment}
    (onward : schedule.now ≤ now) {grant : Grant} (member : grant ∈ schedule.granted)
    (active : grant.isActiveAt now = true) : grant.holdsSlot = true := by
  by_contra free
  obtain ⟨finish, settles, passed⟩ :=
    timely.released grant member (Bool.not_eq_true _ ▸ free)
  have unsettled := (Bool.and_eq_true_iff.mp active).2
  rw [settles, Option.all_some, decide_eq_true_eq] at unsettled
  exact absurd (passed.trans onward) (not_le.mpr (unsettled.trans (Moment.lt_pass_one finish)))

/-- At no moment are more jobs active than there are slots. -/
theorem Reaches.active_le (reached : batch.Reaches schedule) (now : Moment) :
    schedule.granted.countP (·.isActiveAt now) ≤ batch.slots := by
  induction reached with
  | initial => exact Nat.zero_le _
  | @step schedule next before steps ih =>
      rcases step?_cases steps with granted | ⟨-, settled⟩
      · obtain ⟨job, rest, -, free, -, rfl⟩ := grantNext?_eq_some granted
        rw [List.countP_append, List.countP_singleton]
        by_cases future : now < schedule.now
        · have inactive : Grant.isActiveAt now
              { job, moment := schedule.now
                performance := batch.perform schedule.granted.length job schedule.now } = false := by
            simp [Grant.isActiveAt, not_le.mpr future]
          rw [if_neg (by rw [inactive]; decide)]
          exact ih
        · have holders : schedule.granted.countP (·.isActiveAt now) ≤ schedule.busy :=
            List.countP_mono_left fun grant member =>
              holdsSlot_of_isActiveAt before.isTimely (not_lt.mp future) member
          split <;> omega
      · obtain ⟨finish, -, -, rfl⟩ := settleNext?_eq_some settled
        exact (Grant.countP_release_of_frame (fun _ => rfl) finish schedule.granted).le.trans ih

/-! ## No free slot while a job waits -/

/-- When no job can be granted a slot, as many jobs hold one as possible. -/
theorem busy_of_waiting (uncancelled : batch.cancelAt = none) (bounded : schedule.busy ≤ batch.slots)
    (refused : batch.grantNext? schedule = none) :
    schedule.busy = min batch.slots schedule.unsettled := by
  unfold Schedule.unsettled
  unfold grantNext? at refused
  split at refused
  · rename_i noneWaits
    simp [noneWaits, bounded]
  · rename_i job rest waiting
    have full : ¬ schedule.busy < batch.slots := by
      intro free
      simp [free, admits, uncancelled] at refused
    rw [waiting, List.length_cons]
    omega

/-- What is known of an instant that is over: as many jobs hold a slot as possible. -/
def IsFilledThrough (batch : Batch) (granted : List Grant) (instant : Rat) : Prop :=
  granted.countP (·.isActiveThrough instant) =
    min batch.slots (batch.jobs.length - granted.countP (·.isSettledThrough instant))

/-- While all jobs wait, an instant that is over finds the jobs active that hold a slot. -/
theorem isFilledThrough_of_waiting (reached : batch.Reaches schedule)
    (uncancelled : batch.cancelAt = none) (refused : batch.grantNext? schedule = none) {instant : Rat}
    (begun : schedule.now.instant ≤ instant)
    (pending : ∀ grant ∈ schedule.granted, ∀ finish, grant.pending? = some finish →
      instant < finish.instant) : batch.IsFilledThrough schedule.granted instant := by
  have timely := reached.isTimely
  have holders : ∀ grant ∈ schedule.granted, grant.isActiveThrough instant = grant.holdsSlot ∧
      grant.isSettledThrough instant = !grant.holdsSlot := by
    intro grant member
    refine Grant.isActiveThrough_eq ?_ ?_ (pending grant member)
    · exact (Moment.instant_le (timely.granted grant member)).trans begun
    · intro free
      obtain ⟨finish, settles, passed⟩ := timely.released grant member free
      exact ⟨finish, settles, (Moment.instant_le passed).trans begun⟩
  have active : schedule.granted.countP (·.isActiveThrough instant) = schedule.busy :=
    List.countP_congr fun grant member => by rw [(holders grant member).1]
  have settled : schedule.granted.countP (·.isSettledThrough instant) =
      schedule.granted.countP (fun grant => !grant.holdsSlot) :=
    List.countP_congr fun grant member => by rw [(holders grant member).2]
  have total : batch.jobs.length - schedule.granted.countP (fun grant => !grant.holdsSlot) =
      schedule.unsettled := by
    have jobs := congrArg List.length reached.isOf.jobs
    have parts := schedule.granted.length_eq_countP_add_countP (·.holdsSlot)
    simp only [List.length_append, List.length_map, Bool.not_eq_true, Bool.decide_eq_false] at jobs parts
    unfold Schedule.unsettled Schedule.busy
    omega
  unfold IsFilledThrough
  rw [active, settled, total]
  exact busy_of_waiting uncancelled reached.busy_le refused

/-- Every instant that is over found as many jobs active as possible. -/
theorem Reaches.isFilledThrough (reached : batch.Reaches schedule)
    (uncancelled : batch.cancelAt = none) {instant : Rat} (begun : 0 ≤ instant)
    (past : instant < schedule.now.instant) : batch.IsFilledThrough schedule.granted instant := by
  induction reached with
  | initial => exact absurd begun (not_le.mpr past)
  | @step schedule next before steps ih =>
      rcases step?_cases steps with granted | ⟨refused, settled⟩
      · obtain ⟨job, rest, -, -, -, rfl⟩ := grantNext?_eq_some granted
        have known := ih past
        let grant : Grant :=
          { job, moment := schedule.now
            performance := batch.perform schedule.granted.length job schedule.now }
        have inactive : grant.isActiveThrough instant = false := by
          simp [Grant.isActiveThrough, grant, not_le.mpr past]
        have unsettled : grant.isSettledThrough instant = false := by
          cases settles : grant.performance.finish? with
          | none => simp [Grant.isSettledThrough, settles]
          | some finish =>
              have performs := batch.performs schedule.granted.length job schedule.now
              have later := past.trans_le (Moment.instant_le (performs.le_finish settles))
              simp [Grant.isSettledThrough, settles, not_le.mpr later]
        unfold IsFilledThrough at known ⊢
        rw [List.countP_append, List.countP_append, List.countP_singleton, List.countP_singleton,
          if_neg (by rw [inactive]; decide), if_neg (by rw [unsettled]; decide)]
        exact known
      · obtain ⟨finish, -, earliest, rfl⟩ := settleNext?_eq_some settled
        have kept : batch.IsFilledThrough schedule.granted instant := by
          by_cases early : instant < schedule.now.instant
          · exact ih early
          · refine isFilledThrough_of_waiting before uncancelled refused (not_lt.mp early) ?_
            intro grant member other pending
            calc
              instant < finish.instant := past
              _ ≤ other.instant := Moment.instant_le (earliest grant member other pending)
        unfold IsFilledThrough at kept ⊢
        rw [Grant.countP_release_of_frame (fun _ => rfl), Grant.countP_release_of_frame fun _ => rfl]
        exact kept

/-! ## The order of starts -/

/-- The starts that jobs tell of: one for each job whose turn comes before the abort, at the moment
at which it gets its slot, in the order of the jobs. -/
def startsOf (batch : Batch) (granted : List Grant) : List (Moment × BatchNote) :=
  granted.zipIdx.filterMap fun entry =>
    if batch.isAbortedBy entry.1.moment.instant then none
    else some (begun entry.2 entry.1.job entry.1.moment)

theorem Performs.filter_isStart (performs : batch.Performs place job origin performance) :
    performance.notes.filter (·.2.isStart) =
      if batch.isAbortedBy origin.instant then [] else [begun place job origin] := by
  cases performs with
  | skipped aborted => simp [aborted, BatchNote.isStart]
  | raised _ unaborted => simp [unaborted, begun, BatchNote.isStart]
  | @run execution closing slot unaborted _ _ closes =>
      have runs : (execution.notes.map fun entry =>
          (entry.1, BatchNote.run place job.spec.name entry.2)).filter (·.2.isStart) = [] := by
        apply List.filter_eq_nil_iff.mpr
        intro entry member
        obtain ⟨_, -, rfl⟩ := List.mem_map.mp member
        exact Bool.false_ne_true
      have closed : (closing.map fun note => (execution.finish, note)).filter (·.2.isStart) = [] := by
        apply List.filter_eq_nil_iff.mpr
        intro entry member starts
        obtain ⟨note, noted, rfl⟩ := List.mem_map.mp member
        obtain ⟨engine, details, happens⟩ := BatchNote.happening?_of_isStart starts
        exact closes.not_started note noted happens
      rw [List.filter_append, List.filter_cons_of_pos rfl, runs, closed, unaborted]
      rfl

theorem filter_isStart_flatMap {granted : List Grant} {first : Nat}
    (performed : ∀ place grant, granted[place]? = some grant →
      batch.Performs (first + place) grant.job grant.moment grant.performance) :
    ((granted.map (·.performance)).flatMap (·.notes)).filter (·.2.isStart) =
      (granted.zipIdx first).filterMap fun entry =>
        if batch.isAbortedBy entry.1.moment.instant then none
        else some (begun entry.2 entry.1.job entry.1.moment) := by
  induction granted generalizing first with
  | nil => rfl
  | cons grant rest ih =>
      have own := (performed 0 grant rfl).filter_isStart
      have others := @ih (first + 1) fun place other found => by
        rw [Nat.add_assoc, Nat.add_comm 1]
        exact performed (place + 1) other found
      rw [List.map_cons, List.flatMap_cons, List.filter_append, own, others, List.zipIdx_cons,
        List.filterMap_cons]
      by_cases aborted : batch.isAbortedBy grant.moment.instant = true
      · simp [aborted]
      · simp [aborted]

theorem pairwise_startsOf {granted : List Grant}
    (ordered : (granted.map (·.moment)).Pairwise (· ≤ ·)) :
    (batch.startsOf granted).Pairwise fun earlier later => earlier.1 ≤ later.1 := by
  have moments : granted.zipIdx.Pairwise fun earlier later => earlier.1.moment ≤ later.1.moment := by
    have placed : granted.zipIdx.map (·.1) = granted := List.zipIdx_map_fst _ _
    rw [← placed, List.map_map, List.pairwise_map] at ordered
    exact ordered
  refine List.pairwise_filterMap.mpr (moments.imp ?_)
  intro earlier later before first isFirst second isSecond
  split at isFirst
  · cases isFirst
  · split at isSecond
    · cases isSecond
    · cases isFirst
      cases isSecond
      exact before

/-- The starts that have been told come in the order of the jobs. -/
theorem Reaches.starts (reached : batch.Reaches schedule) :
    (inOrder ((schedule.granted.map (·.performance)).flatMap (·.notes))).filter (·.2.isStart) =
      batch.startsOf schedule.granted := by
  have told := @filter_isStart_flatMap batch schedule.granted 0 fun place grant found => by
    rw [Nat.zero_add, reached.isOf.performed place grant found]
    exact performs ..
  refine (filter_inOrder ?_).trans told
  rw [told]
  exact pairwise_startsOf reached.isTimely.ordered

/-- A batch that nobody cancels notes what its jobs note, and in the end at most what became of
them all. -/
theorem filter_report (uncancelled : batch.cancelAt = none) {keeps : Moment × BatchNote → Bool}
    (others : ∀ moment jobs failed skipped,
      keeps (moment, .complete jobs failed skipped) = false) :
    batch.report.notes.filter keeps =
      (inOrder ((batch.schedule.granted.map (·.performance)).flatMap (·.notes))).filter keeps := by
  have unended : Moment.earliest? (batch.cancellations batch.schedule) = none := by
    rw [cancellations_eq_nil uncancelled]
    rfl
  unfold report
  dsimp only
  rw [unended]
  dsimp only
  split
  · rfl
  · split
    · rfl
    · rw [List.filter_append, List.filter_cons_of_neg (by simp [others]), List.filter_nil,
        List.append_nil]

/-! ## The schedule as a whole -/

/-- What is known of every schedule that a batch comes to: jobs hold no more slots than there are,
get them in their turn and tell of their starts in that order; and when all of them wait, as many
as possible hold one. -/
structure IsOrderly (batch : Batch) (schedule : Schedule) : Prop where
  bounded : schedule.busy ≤ batch.slots
  inTurn : schedule.granted.map (·.job) ++ schedule.waiting = batch.jobs
  ordered : (schedule.granted.map (·.moment)).Pairwise (· ≤ ·)
  starts : (inOrder ((schedule.granted.map (·.performance)).flatMap (·.notes))).filter
    (·.2.isStart) = batch.startsOf schedule.granted
  filled : batch.grantNext? schedule = none → schedule.busy = min batch.slots schedule.unsettled

/-- In the end a job has given its slot back exactly if it has settled. -/
theorem holdsSlot_schedule {grant : Grant} (member : grant ∈ batch.schedule.granted) :
    grant.holdsSlot = false ↔ grant.performance.settled ≠ none := by
  constructor
  · intro free
    obtain ⟨finish, settles, -⟩ := batch.reaches_schedule.isTimely.released grant member free
    rw [Performance.finish?, Option.map_eq_some_iff] at settles
    obtain ⟨settlement, settles, -⟩ := settles
    simp [settles]
  · intro settles
    have settledNever := pending?_schedule member
    rw [Grant.pending?] at settledNever
    split at settledNever
    · exact absurd (Option.map_eq_none_iff.mp settledNever) settles
    · simpa using ‹¬ grant.holdsSlot = true›

/-- Over the whole time of a batch, as many jobs hold a slot as possible. -/
theorem isFilledThrough_schedule (uncancelled : batch.cancelAt = none) {instant : Rat}
    (begun : 0 ≤ instant) : batch.IsFilledThrough batch.schedule.granted instant := by
  have reached := batch.reaches_schedule
  by_cases past : instant < batch.schedule.now.instant
  · exact reached.isFilledThrough uncancelled begun past
  · refine isFilledThrough_of_waiting reached uncancelled batch.grantNext?_schedule
      (not_lt.mp past) ?_
    intro grant member finish pending
    cases (pending?_schedule member).symm.trans pending

/-- The schedules of a batch that nobody cancels are orderly.  Told by the times of its jobs: at no
moment are more jobs between their grant and their end than there are slots, and through every
instant as many are as possible; a job keeps its slot for ever only if its run never ends. -/
theorem schedule_isOrderly (batch : Batch) (uncancelled : batch.cancelAt = none) :
    (∀ schedule, batch.Reaches schedule → batch.IsOrderly schedule) ∧
    (∀ now, batch.schedule.granted.countP (·.isActiveAt now) ≤ batch.slots) ∧
    (∀ instant, 0 ≤ instant →
      batch.schedule.granted.countP (·.isActiveThrough instant) =
        min batch.slots
          (batch.jobs.length - batch.schedule.granted.countP (·.isSettledThrough instant))) ∧
    (∀ grant ∈ batch.schedule.granted,
      (grant.holdsSlot = false ↔ ∀ execution, grant.performance.execution = some execution →
        execution.result ≠ .error .unending)) ∧
    batch.report.notes.filter (·.2.isStart) = batch.startsOf batch.schedule.granted := by
  refine ⟨fun schedule reached => ?_, batch.reaches_schedule.active_le,
    fun instant begun => isFilledThrough_schedule uncancelled begun, fun grant member => ?_, ?_⟩
  · exact
      { bounded := reached.busy_le
        inTurn := reached.isOf.jobs
        ordered := reached.isTimely.ordered
        starts := reached.starts
        filled := busy_of_waiting uncancelled reached.busy_le }
  · obtain ⟨-, place, performs⟩ := performs_of_mem member
    exact (holdsSlot_schedule member).trans performs.settled_iff
  · exact (filter_report uncancelled fun _ _ _ _ => rfl).trans batch.reaches_schedule.starts

/-- Five jobs and two slots.  The first job cannot be started and the third is done after a second;
the abort ends the second and the fourth, and the turn of the fifth comes after it. -/
def crowded : Batch :=
  let lasting (name : String) (span : Rat) : Job :=
    { engine := { name }
      image := "image"
      spec := { name, command := some [name] }
      launch := { process := { name, timeline := Timeline.empty.schedule span (.exit 0) } } }
  let missing : Job :=
    { engine := { name := "missing" }
      image := "image"
      spec := { name := "missing", command := some ["missing"] }
      launch := { process := { name := "missing" }, fault := some .notFound } }
  { runtime := .host false []
    limits := {}
    slots := 2
    jobs := [missing, lasting "long" 9, lasting "short" 1, lasting "next" 5, lasting "last" 1]
    canAbort := true
    abortAt := some (3 / 2) }

theorem crowded_isOrderly :
    crowded.schedule.granted.countP (·.isActiveThrough 1) = 2 ∧
      (crowded.report.notes.filter (·.2.isStart)).map (·.2.job?) =
        [some 0, some 1, some 2, some 3] := by
  obtain ⟨-, -, filled, -, starts⟩ := schedule_isOrderly crowded rfl
  refine ⟨(filled 1 (by decide)).trans (by decide +kernel), ?_⟩
  rw [starts]
  decide +kernel

end Batch

end AnalysisEngines
