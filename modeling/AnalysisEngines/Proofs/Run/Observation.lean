import AnalysisEngines.Proofs.Run.Race
import Mathlib.Data.List.Nodup

/-!
# What a race observes

Each wait of a race is for the tasks that no wait before it has reported, and reports those of them
that have completed when it returns.  So a task that has completed is still waited for or has been
reported, and none is reported twice.  A wait that settles nothing has seen the exit or the end of
the output, and not both, so that there is something left to wait for, and no third wait:
`run_observes`.

A task has completed when it has returned and when it has failed; a race asks the output alone which
of them it was.
-/

set_option autoImplicit false

namespace AnalysisEngines

/-- The tasks that waits have reported. -/
def reportedBy (waits : List Wait) : List Racer := waits.flatMap (·.done)

@[simp]
theorem reportedBy_nil : reportedBy [] = [] := rfl

@[simp]
theorem reportedBy_cons (wait : Wait) (waits : List Wait) :
    reportedBy (wait :: waits) = wait.done ++ reportedBy waits := rfl

namespace Field

variable {field : Field} {deadline : Option Rat} {now : Rat} {pending : List Racer}

/-! ## All rounds -/

/-- The tasks that are left when some have been reported. -/
def left (field : Field) (reported : List Racer) : List Racer :=
  field.racers.filter fun racer => decide (racer ∉ reported)

/-- Waits that begin at an instant, one after the other, when some tasks have been reported.  Each
is for the tasks that are left, and reports those of them that have completed when it returns; the
last instant is that at which the last wait returns, if it does. -/
inductive Observed (field : Field) (deadline : Option Rat) :
    Rat → List Racer → List Wait → Option Rat → Prop where
  | done {now reported} : Observed field deadline now reported [] (some now)
  | unending {now reported} : deadline = none → field.left reported ≠ [] →
      (∀ racer ∈ field.left reported, field.completion? racer = none) →
      Observed field deadline now reported [⟨field.left reported, none, []⟩] none
  | wait {now instant reported rest last} : ¬ IsOver deadline now → field.left reported ≠ [] →
      field.Returns deadline now (field.left reported) instant →
      Observed field deadline instant
        (reported ++ (field.left reported).filter (field.isDone instant)) rest last →
      Observed field deadline now reported
        (field.waitFor deadline now (field.left reported) instant :: rest) last

theorem left_nil (field : Field) : field.left [] = field.racers := by
  simp [left]

theorem left_append (field : Field) (reported : List Racer) (instant : Rat) :
    field.left (reported ++ (field.left reported).filter (field.isDone instant)) =
      (field.left reported).filter fun racer => !field.isDone instant racer := by
  unfold left
  conv_rhs => rw [List.filter_filter]
  apply List.filter_congr
  intro racer member
  by_cases known : racer ∈ reported <;> simp [known, member]

theorem nodup_racers (field : Field) : field.racers.Nodup := by
  unfold racers
  cases field.canAbort <;> decide

/-- How many tasks other than the abort are waited for. -/
def countOthers (pending : List Racer) : Nat := (pending.filter (· != .abort)).length

theorem Pending.countOthers_pos (known : field.Pending now pending) : 0 < countOthers pending := by
  rcases known.waits with member | member <;>
    exact List.length_pos_of_mem (List.mem_filter.mpr ⟨member, rfl⟩)

/-- A wait that settles nothing has seen another task than the abort. -/
theorem Pending.countOthers_lt {instant : Rat} (known : field.Pending now pending)
    (done : ∃ racer ∈ pending, field.isDone instant racer = true)
    (unended : field.endingBy instant = none) :
    countOthers (pending.filter fun racer => !field.isDone instant racer) <
      countOthers pending := by
  obtain ⟨racer, member, isDone⟩ := done
  have other : racer ≠ .abort := by
    rintro rfl
    have unset := (endingBy_eq_none_iff.mp unended).2.1 (known.racers _ member)
    rw [isDone] at unset
    cases unset
  have among : racer ∈ pending.filter (· != .abort) :=
    List.mem_filter.mpr ⟨member, by simpa using other⟩
  unfold countOthers
  rw [List.filter_comm]
  exact length_pending_lt ⟨racer, among, isDone⟩

/-- The waits of a race are observed, and no more than there are tasks other than the abort. -/
theorem race_observed (deadline : Option Rat) {rounds : Nat} {reported : List Racer}
    (known : field.Pending now (field.left reported))
    (enough : countOthers (field.left reported) ≤ rounds) :
    (field.race deadline rounds (field.left reported) now).waits.length ≤
        countOthers (field.left reported) ∧
      field.Observed deadline now reported
        (field.race deadline rounds (field.left reported) now).waits
        ((field.race deadline rounds (field.left reported) now).finish.map (·.1)) := by
  induction rounds generalizing now reported with
  | zero => exact absurd known.countOthers_pos (Nat.not_lt.mpr enough)
  | succ rounds ih =>
      have someone : field.left reported ≠ [] := by
        intro nothing
        have positive := known.countOthers_pos
        rw [nothing] at positive
        exact Nat.lt_irrefl 0 positive
      have round := field.race_round deadline rounds (field.left reported) now
      generalize field.race deadline (rounds + 1) (field.left reported) now = race at round
      cases round with
      | late => exact ⟨Nat.zero_le _, .done⟩
      | unending unlimited never =>
          subst unlimited
          exact ⟨known.countOthers_pos, .unending rfl someone never⟩
      | timedOut limit before quiet =>
          exact ⟨known.countOthers_pos,
            .wait (not_isOver limit before) someone (returns_of_quiet limit before quiet) .done⟩
      | settled early returns => exact ⟨known.countOthers_pos, .wait early someone returns .done⟩
      | @onward instant early returns done undecided =>
          have unended : field.endingBy instant = none :=
            (judge?_pending known).symm.trans undecided
          have fewer := known.countOthers_lt done unended
          have after := known.next returns.order unended
          rw [← left_append] at fewer after
          obtain ⟨few, observed⟩ := ih after (by omega)
          rw [left_append] at few fewer observed
          exact ⟨Nat.succ_le_of_lt (Nat.lt_of_le_of_lt few fewer),
            .wait early someone returns observed⟩

/-! ### What has been observed -/

variable {reported : List Racer} {waits : List Wait} {last : Option Rat}

theorem not_mem_left {racer : Racer} (member : racer ∈ field.left reported) : racer ∉ reported := by
  simpa using (List.mem_filter.mp member).2

theorem mem_left {racer : Racer} (member : racer ∈ field.racers) (unreported : racer ∉ reported) :
    racer ∈ field.left reported :=
  List.mem_filter.mpr ⟨member, by simpa using unreported⟩

theorem Observed.someone (observed : field.Observed deadline now reported waits last) :
    ∀ wait ∈ waits, wait.pending ≠ [] := by
  induction observed with
  | done => exact fun _ member => absurd member List.not_mem_nil
  | unending _ someone => exact List.forall_mem_singleton.mpr someone
  | wait _ someone _ _ ih => exact List.forall_mem_cons.mpr ⟨someone, ih⟩

theorem Observed.lasting (observed : field.Observed deadline now reported waits last) :
    ∀ wait ∈ waits, ∀ seconds, wait.allowance = some seconds → 0 < seconds := by
  induction observed with
  | done => exact fun _ member => absurd member List.not_mem_nil
  | unending => exact List.forall_mem_singleton.mpr nofun
  | @wait now instant _ _ _ early _ _ _ ih =>
      refine List.forall_mem_cons.mpr ⟨?_, ih⟩
      intro seconds allowed
      obtain ⟨limit, limited, rfl⟩ := Option.map_eq_some_iff.mp allowed
      exact sub_pos.mpr (lt_of_not_isOver early limit limited)

theorem Observed.left (observed : field.Observed deadline now reported waits last)
    {before after : List Wait} {wait : Wait} (split : waits = before ++ wait :: after) :
    wait.pending = field.left (reported ++ reportedBy before) := by
  induction observed generalizing before with
  | done => simp at split
  | unending =>
      cases before with
      | nil =>
          obtain ⟨rfl, -⟩ := List.cons.inj split
          simp
      | cons first others => simp at split
  | wait _ _ _ _ ih =>
      cases before with
      | nil =>
          obtain ⟨rfl, -⟩ := List.cons.inj split
          simp [waitFor]
      | cons first others =>
          obtain ⟨rfl, rest⟩ := List.cons.inj split
          rw [ih rest, reportedBy_cons, List.append_assoc]
          rfl

/-- No task is reported twice. -/
theorem Observed.nodup (observed : field.Observed deadline now reported waits last)
    (distinct : reported.Nodup) : (reported ++ reportedBy waits).Nodup := by
  induction observed with
  | done => simpa using distinct
  | unending => simpa using distinct
  | @wait _ instant reported _ _ _ _ _ _ ih =>
      rw [reportedBy_cons, ← List.append_assoc]
      apply ih
      refine List.Nodup.append distinct ((field.nodup_racers.filter _).filter _) ?_
      intro racer known inDone
      exact not_mem_left (List.mem_filter.mp inDone).1 known

/-- What is done when a wait returns is what has been reported by then. -/
theorem isDone_iff_reported {instant : Rat} (order : now ≤ instant) {racer : Racer}
    (known : racer ∈ reported → field.isDone now racer = true) (member : racer ∈ field.racers) :
    field.isDone instant racer = true ↔
      racer ∈ reported ++ (field.left reported).filter (field.isDone instant) := by
  rw [List.mem_append, List.mem_filter]
  constructor
  · intro done
    by_cases reported : racer ∈ reported
    · exact .inl reported
    · exact .inr ⟨mem_left member reported, done⟩
  · rintro (reported | ⟨-, done⟩)
    · exact isDone_mono order (known reported)
    · exact done

/-- All tasks that have completed by an instant are reported, and no others. -/
def AreReported (field : Field) (now : Rat) (reported : List Racer) : Prop :=
  ∀ racer ∈ field.racers, (field.isDone now racer = true ↔ racer ∈ reported)

/-- From wait to wait, all that has completed stays reported. -/
theorem Observed.areReported {instant : Rat}
    (observed : field.Observed deadline now reported waits (some instant))
    (same : field.AreReported now reported) :
    field.AreReported instant (reported ++ reportedBy waits) := by
  generalize returned : some instant = last at observed
  induction observed with
  | done =>
      cases returned
      simpa using same
  | unending => cases returned
  | wait _ _ returns _ ih =>
      rw [reportedBy_cons, ← List.append_assoc]
      apply ih _ returned
      intro racer member
      exact isDone_iff_reported returns.order (same racer member).mpr member

/-- When the last wait of a race has returned, all that has completed is reported. -/
theorem Observed.areReported_of_ne_nil {instant : Rat}
    (observed : field.Observed deadline now [] waits (some instant)) (waited : waits ≠ []) :
    field.AreReported instant (reportedBy waits) := by
  cases observed with
  | done => exact absurd rfl waited
  | wait _ _ returns more =>
      apply more.areReported
      intro racer member
      exact isDone_iff_reported returns.order nofun member

end Field

/-! ## The race -/

/-- What a race that begins at an instant makes of its tasks. -/
structure Field.Observes (field : Field) (deadline : Option Rat) (now : Rat) (race : Race) :
    Prop where
  few : race.waits.length ≤ 2
  someone : ∀ wait ∈ race.waits, wait.pending ≠ []
  lasting : ∀ wait ∈ race.waits, ∀ seconds, wait.allowance = some seconds → 0 < seconds
  /-- A wait is for the tasks that have not been reported. -/
  left : ∀ before wait after, race.waits = before ++ wait :: after →
    wait.pending = field.left (reportedBy before)
  once : (reportedBy race.waits).Nodup
  /-- Each wait reports what has completed when it returns. -/
  observed : field.Observed deadline now [] race.waits (race.finish.map (·.1))
  whole : ∀ instant ending, race.finish = some (instant, ending) → race.waits ≠ [] →
    field.AreReported instant (reportedBy race.waits)
  /-- The first instant at which the completed tasks give an ending ends the race with it, unless
  the time limit comes first. -/
  decided : field.Ends deadline now race.finish
  /-- A race that does not end has no time limit, and nothing to end it. -/
  ends : race.finish = none → deadline = none ∧ ∀ time, now ≤ time → field.endingBy time = none
  exited : ∀ instant, race.finish = some (instant, .verdict .exited) →
    .exit ∈ reportedBy race.waits ∧ .output ∈ reportedBy race.waits ∧
      ∃ time, field.output = some (time, .closed) ∧ time ≤ instant

namespace Field

theorem countOthers_racers (field : Field) : countOthers field.racers = 2 := by
  unfold countOthers racers
  cases field.canAbort <;> rfl

/-- In whatever order the tasks complete, one at a time or several at once, a race waits at most
twice, for tasks that it has not seen complete, and ends with all seen that have completed by
then, with the first ending that they give. -/
theorem run_observes (field : Field) (deadline : Option Rat) (now : Rat) :
    field.Observes deadline now (field.run deadline now) := by
  have known := field.pending_racers now
  rw [← left_nil] at known
  have ends := field.run_ends deadline now
  have enough : countOthers (field.left []) ≤ field.racers.length + 1 := by
    rw [left_nil]
    exact Nat.le_succ_of_le (List.length_filter_le _ _)
  obtain ⟨few, observed⟩ := race_observed deadline known enough
  rw [left_nil, countOthers_racers] at few
  rw [left_nil] at observed
  have whole : ∀ instant ending, (field.run deadline now).finish = some (instant, ending) →
      (field.run deadline now).waits ≠ [] →
      field.AreReported instant (reportedBy (field.run deadline now).waits) := by
    intro instant ending finished waited
    have returned : field.Observed deadline now [] (field.run deadline now).waits
        ((field.run deadline now).finish.map (·.1)) := observed
    rw [finished] at returned
    exact returned.areReported_of_ne_nil waited
  refine ⟨few, observed.someone, observed.lasting, ?_, ?_, observed, whole, ends, ?_, ?_⟩
  · intro before wait after split
    exact observed.left split
  · exact observed.nodup List.nodup_nil
  · intro endless
    rw [endless] at ends
    cases ends with
    | never unlimited quiet => exact ⟨unlimited, quiet⟩
  · intro instant finished
    have waited : (field.run deadline now).waits ≠ [] := by
      intro nothing
      have late := ends.eq_of_isOver (waits_run_eq_nil_iff.mp nothing)
      rw [finished] at late
      cases late
    rw [finished] at ends
    have exited := ends.endingBy_eq (by decide)
    obtain ⟨time, closed, order⟩ := output_of_exited exited
    have reported := whole instant _ finished waited
    have outputDone : field.isDone instant .output = true :=
      isDone_iff.mpr ⟨time, by rw [completion?, closed]; rfl, order⟩
    exact ⟨(reported .exit field.exit_mem_racers).mp (isDone_exit_of_endingBy exited),
      (reported .output field.output_mem_racers).mp outputDone, time, closed, order⟩

/-- A process whose output ends after it has exited, in a run that can be aborted. -/
def trailing : Field where
  output := some (2, .closed)
  exit := some 1
  canAbort := true
  abort := none

/-- The exit decides nothing, so a second wait is for the other two tasks. -/
theorem trailing_observes :
    trailing.Observes (some 10) 0 (trailing.run (some 10) 0) ∧
      (trailing.run (some 10) 0).waits.map (fun wait => (wait.pending, wait.done)) =
        [([.output, .exit, .abort], [.exit]), ([.output, .abort], [.output])] ∧
      (trailing.run (some 10) 0).waits.map (·.allowance) = [some 10, some 9] ∧
      (trailing.run (some 10) 0).finish = some (2, .verdict .exited) :=
  ⟨run_observes trailing (some 10) 0, by decide +kernel, by decide +kernel, by decide +kernel⟩

end Field

end AnalysisEngines
