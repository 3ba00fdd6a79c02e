import AnalysisEngines.Proofs.Run.Output
import AnalysisEngines.Proofs.Run.Race
import AnalysisEngines.Proofs.Run.Starting
import Mathlib.Order.WithBot

/-!
# The events that may end a run

Four events may end a run: its time limit, its exit with the end of its output, more output than the
ceiling allows, and an abort.  The earliest of them decides how the run is classified.
-/

set_option autoImplicit false

namespace AnalysisEngines

/-- An instant that may never come. -/
def orNever (instant : Option Rat) : WithTop Rat := instant.elim ⊤ WithTop.some

theorem orNever_le_iff {instant : Option Rat} {now : Rat} :
    orNever instant ≤ (now : WithTop Rat) ↔ ∃ time, instant = some time ∧ time ≤ now := by
  cases instant <;> simp [orNever]

/-- When the events come that may end a run, none of them before the start. -/
structure Milestones where
  start : Rat
  limit : WithTop Rat
  exit : WithTop Rat
  overflow : WithTop Rat
  abort : WithTop Rat

namespace Request

/-- The process of a run that starts at an instant, as long as it gets no signal. -/
def processAt (request : Request) (start : Rat) : Process := request.launch.process.startedAt start

/-- The milestones of a run that is asked for at an instant, as its process behaves when no signal
is sent. -/
def milestones (request : Request) (origin : Rat) : Milestones :=
  let start := request.launch.startInstant origin
  let process := request.processAt start
  { start
    limit := orNever (request.deadline origin)
    exit := max ↑start (max (orNever (process.exit?.map (·.1)))
      (orNever (process.pipe .stdout).closedAt))
    overflow := max ↑start (orNever (process.passesAt? (Activity.ceiling request)))
    abort := max ↑start (if request.canAbort then orNever request.abortAt else ⊤) }

end Request

namespace Milestones

/-- The events are none before the start. -/
structure IsOrdered (milestones : Milestones) : Prop where
  exit : milestones.start ≤ milestones.exit
  overflow : milestones.start ≤ milestones.overflow
  abort : milestones.start ≤ milestones.abort

/-- What has been decided by an instant, but for the time limit. -/
def endingBy (milestones : Milestones) (now : Rat) : Option RaceEnd :=
  if milestones.overflow ≤ now then some (.verdict .outputExceeded)
  else if milestones.abort ≤ now then some (.verdict .aborted)
  else if milestones.exit ≤ now then some (.verdict .exited)
  else none

/-- The first of the events that are not the time limit. -/
def first (milestones : Milestones) : WithTop Rat :=
  min milestones.exit (min milestones.overflow milestones.abort)

/-- The verdict that the earliest event gives. -/
def verdict (milestones : Milestones) : Verdict :=
  if milestones.limit ≤ milestones.start ∨
      milestones.limit < milestones.first then .timeout
  else if milestones.overflow ≤ min milestones.exit milestones.abort then .outputExceeded
  else if milestones.abort ≤ min milestones.exit milestones.overflow then .aborted
  else .exited

/-- A race ends with the verdict of its milestones, and ends unless none of them ever comes. -/
def Decides (milestones : Milestones) : Option (Rat × RaceEnd) → Prop
  | some (_, ending) => ending = .verdict milestones.verdict
  | none => milestones.limit = ⊤ ∧ milestones.first = ⊤

theorem endingBy_eq_none_iff {milestones : Milestones} {now : Rat} :
    milestones.endingBy now = none ↔
      now < milestones.first := by
  unfold endingBy first
  split_ifs <;> simp_all

/-- An event is not before an instant if nothing has been decided until then. -/
theorem le_of_undecided {milestones : Milestones} {event : WithTop Rat} {now : Rat}
    (start : milestones.start ≤ event) (isEvent : milestones.first ≤ event)
    (undecided : ∀ time, milestones.start ≤ time → time < now →
      milestones.endingBy time = none) : now ≤ event := by
  cases event with
  | top => exact le_top
  | coe instant =>
      by_contra early
      rw [WithTop.coe_le_coe, not_le] at early
      have undecidedYet := undecided instant (WithTop.coe_le_coe.mp start) early
      exact absurd isEvent (not_le.mpr (endingBy_eq_none_iff.mp undecidedYet))

theorem verdict_of_decided {milestones : Milestones} (ordered : milestones.IsOrdered) {now : Rat}
    {ending : RaceEnd} (inTime : milestones.start < milestones.limit) (reached : now ≤ milestones.limit)
    (decided : milestones.endingBy now = some ending)
    (undecided : ∀ time, milestones.start ≤ time → time < now →
      milestones.endingBy time = none) : ending = .verdict milestones.verdict := by
  have exit : now ≤ milestones.exit :=
    le_of_undecided ordered.exit (min_le_left _ _) undecided
  have overflow : now ≤ milestones.overflow :=
    le_of_undecided ordered.overflow ((min_le_right _ _).trans (min_le_left _ _)) undecided
  have abort : now ≤ milestones.abort :=
    le_of_undecided ordered.abort ((min_le_right _ _).trans (min_le_right _ _)) undecided
  have notLate : ¬ (milestones.limit ≤ milestones.start ∨
      milestones.limit < milestones.first) := by
    rw [not_or, not_le, not_lt]
    refine ⟨inTime, le_trans ?_ reached⟩
    by_contra later
    rw [endingBy_eq_none_iff.mpr (not_le.mp later)] at decided
    cases decided
  unfold verdict
  rw [if_neg notLate]
  unfold endingBy at decided
  split_ifs at decided with overflowed aborted exited
  · cases decided
    rw [if_pos (le_min (overflowed.trans exit) (overflowed.trans abort))]
  · cases decided
    rw [if_neg, if_pos (le_min (aborted.trans exit) (aborted.trans overflow))]
    intro before
    exact overflowed (before.trans ((min_le_right _ _).trans aborted))
  · cases decided
    rw [if_neg, if_neg]
    · intro before
      exact aborted (before.trans ((min_le_left _ _).trans exited))
    · intro before
      exact overflowed (before.trans ((min_le_left _ _).trans exited))

end Milestones

namespace Request

variable {request : Request} {origin : Rat}

theorem milestones_isOrdered (request : Request) (origin : Rat) :
    (request.milestones origin).IsOrdered :=
  ⟨le_max_left _ _, le_max_left _ _, le_max_left _ _⟩

theorem output_field (steady : request.consumer.IsSteady) (process : Process) :
    (Activity.field request process).output =
      match process.passesAt? (Activity.ceiling request) with
      | some instant => some (instant, .exceeded)
      | none => (process.pipe .stdout).closedAt.map fun instant => (instant, .closed) :=
  Process.capture_finish steady _ process

/-- The state of the tasks of a run is that of its milestones. -/
theorem endingBy_field (steady : request.consumer.IsSteady) {now : Rat}
    (started : request.launch.startInstant origin ≤ now) :
    (Activity.field request
      (request.processAt (request.launch.startInstant origin))).endingBy now =
        (request.milestones origin).endingBy now := by
  set process := request.processAt (request.launch.startInstant origin) with isProcess
  have output := output_field steady process
  have begun : (request.launch.startInstant origin : WithTop Rat) ≤ now :=
    WithTop.coe_le_coe.mpr started
  have overflows : (request.milestones origin).overflow ≤ now ↔
      ∃ instant, process.passesAt? (Activity.ceiling request) = some instant ∧ instant ≤ now := by
    simp only [milestones, max_le_iff, begun, true_and, orNever_le_iff, isProcess]
  have aborts : (request.milestones origin).abort ≤ now ↔
      .abort ∈ (Activity.field request process).racers ∧
        (Activity.field request process).isDone now .abort = true := by
    simp only [milestones, max_le_iff, begun, true_and, Field.isDone_iff, Field.racers,
      Field.completion?, Activity.field]
    by_cases possible : request.canAbort = true <;> simp [possible, orNever_le_iff]
  have exits : (request.milestones origin).exit ≤ now ↔
      (Activity.field request process).isDone now .exit = true ∧
        ∃ instant, (process.pipe .stdout).closedAt = some instant ∧ instant ≤ now := by
    simp only [milestones, max_le_iff, begun, true_and, orNever_le_iff, Field.isDone_iff,
      Field.completion?, Activity.field, isProcess]
  rw [Field.endingBy_eq, Milestones.endingBy]
  simp only [overflows, aborts, exits]
  cases passes : process.passesAt? (Activity.ceiling request) with
  | some instant =>
      simp only [passes] at output
      have done : (Activity.field request process).isDone now .output = true ↔ instant ≤ now := by
        simp [Field.isDone_iff, Field.completion?, output]
      by_cases early : instant ≤ now
      · simp [done, output, early]
      · have still : ¬ ∃ last, (process.pipe .stdout).closedAt = some last ∧ last ≤ now := by
          rintro ⟨last, closed, ended⟩
          exact early ((Process.passesAt?_le_closedAt passes closed).trans ended)
        simp [done, early, still]
  | none =>
      simp only [passes] at output
      have done : (Activity.field request process).isDone now .output = true ↔
          ∃ last, (process.pipe .stdout).closedAt = some last ∧ last ≤ now := by
        simp [Field.isDone_iff, Field.completion?, output]
      have closed : ∀ ending, (Activity.field request process).output.map (·.2) = some ending →
          ending = .closed := by
        simp [output]
      have unfailed : (Activity.field request process).output.map (·.2) ≠ some .consumerFailed :=
        fun failed => by simpa using closed _ failed
      have unexceeded : (Activity.field request process).output.map (·.2) ≠ some .exceeded :=
        fun exceeded => by simpa using closed _ exceeded
      simp [done, unfailed, unexceeded]

theorem decides_of_ends (steady : request.consumer.IsSteady) {finish : Option (Rat × RaceEnd)}
    (ends : (Activity.field request (request.processAt
      (request.launch.startInstant origin))).Ends (request.deadline origin)
        (request.launch.startInstant origin) finish) :
    (request.milestones origin).Decides finish := by
  have start : (request.milestones origin).start = request.launch.startInstant origin := rfl
  have limit : (request.milestones origin).limit = orNever (request.deadline origin) := rfl
  cases ends with
  | late limited passed =>
      have late : (request.milestones origin).limit ≤ (request.milestones origin).start := by
        rw [limit, limited, start]
        exact WithTop.coe_le_coe.mpr passed
      exact congrArg RaceEnd.verdict (if_pos (.inl late)).symm
  | timeout limited before quiet =>
      rename_i last
      have undecided : (request.milestones origin).endingBy last = none := by
        rw [← endingBy_field steady before.le]
        exact quiet last before.le (le_refl _)
      have early : (request.milestones origin).limit < (request.milestones origin).first := by
        rw [limit, limited]
        exact Milestones.endingBy_eq_none_iff.mp undecided
      exact congrArg RaceEnd.verdict (if_pos (.inr early)).symm
  | event started inTime reached decided undecided =>
      refine Milestones.verdict_of_decided (request.milestones_isOrdered origin) ?_ ?_
        ((endingBy_field steady started).symm.trans decided) fun time begun before => ?_
      · rw [limit, start]
        cases limited : request.deadline origin with
        | none => exact WithTop.coe_lt_top _
        | some last => exact WithTop.coe_lt_coe.mpr (inTime last limited)
      · rw [limit]
        cases limited : request.deadline origin with
        | none => exact le_top
        | some last => exact WithTop.coe_le_coe.mpr (reached last limited)
      · have begun' : request.launch.startInstant origin ≤ time := begun
        rw [← endingBy_field steady begun']
        exact undecided time begun' before
  | never unlimited quiet =>
      refine ⟨by rw [limit, unlimited]; rfl, ?_⟩
      apply WithTop.eq_top_iff_forall_gt.mpr
      intro time
      have later := quiet (max (request.launch.startInstant origin) time) (le_max_left _ _)
      rw [endingBy_field steady (le_max_left _ _), Milestones.endingBy_eq_none_iff] at later
      exact lt_of_le_of_lt (WithTop.coe_le_coe.mpr (le_max_right _ _)) later

end Request

end AnalysisEngines
