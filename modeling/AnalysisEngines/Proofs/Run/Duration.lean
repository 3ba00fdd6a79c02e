import AnalysisEngines.Proofs.Run.Signals

/-!
# How long a run takes

A run on the host waits four times: for the start, for the end of its race, for the stop of a process
that has not exited, and for its readers.  The race ends by the time limit or when it begins, the
stop takes no longer than the grace period and the kill, and the readers get one second.
-/

set_option autoImplicit false

namespace AnalysisEngines

namespace Field

variable {field : Field} {deadline : Option Rat} {now instant last : Rat} {ending : RaceEnd}

/-- A race is over by its time limit, or when it begins. -/
theorem Ends.le_max (ends : field.Ends deadline now (some (instant, ending)))
    (limited : deadline = some last) : instant ≤ max last now := by
  cases ends with
  | late => exact le_max_right _ _
  | timeout limited' =>
      cases limited.symm.trans limited'
      exact le_max_left _ _
  | event _ _ bound => exact (bound last limited).trans (le_max_left _ _)

theorem endingBy_ne_timeout : field.endingBy now ≠ some (.verdict .timeout) := by
  rw [endingBy_eq]
  split_ifs <;> simp

/-- Only the time limit ends a race in a timeout, and not before it is reached. -/
theorem Ends.isOver_of_timeout
    (ends : field.Ends deadline now (some (instant, .verdict .timeout))) :
    IsOver deadline instant := by
  cases ends with
  | late limited passed => exact ⟨_, limited, passed⟩
  | timeout limited => exact ⟨_, limited, le_refl _⟩
  | event _ _ _ found => exact absurd found endingBy_ne_timeout

/-- What the tasks end is over by the time limit. -/
theorem Ends.le_of_inTime (ends : field.Ends deadline now (some (instant, ending)))
    (inTime : ending ≠ .verdict .timeout) (limited : deadline = some last) : instant ≤ last := by
  cases ends with
  | late => exact absurd rfl inTime
  | timeout => exact absurd rfl inTime
  | event _ _ bound => exact bound last limited

end Field

namespace Process

/-- A process that exits at most a span after the kill signal. -/
structure IsKilledWithin (span : Rat) (process : Process) : Prop where
  nonnegative : 0 ≤ span
  prompt : ∃ delay status, process.onKill = .exits delay status ∧ delay ≤ span

variable {process : Process} {span now : Rat}

theorem IsKilledWithin.isKillable (prompt : process.IsKilledWithin span) : process.IsKillable := by
  obtain ⟨delay, status, reaction, -⟩ := prompt.prompt
  exact ⟨delay, status, reaction⟩

theorem IsKilledWithin.react (prompt : process.IsKilledWithin span) (signal : Signal) (now : Rat) :
    (process.react signal now).IsKilledWithin span where
  nonnegative := prompt.nonnegative
  prompt := by simpa only [react_onKill] using prompt.prompt

/-- What is killed exits in time, whatever else it had planned. -/
theorem IsKilledWithin.exit_le (prompt : process.IsKilledWithin span) {exit : Rat} {status : Int}
    (exits : (process.killed now).exit? = some (exit, status)) : exit ≤ now + span := by
  unfold killed at exits
  by_cases exited : process.hasExited now = true
  · rw [if_pos exited] at exits
    obtain ⟨instant, code, found, early⟩ := hasExited_iff.mp exited
    cases exits.symm.trans found
    exact early.trans (le_add_of_nonneg_right prompt.nonnegative)
  · rw [if_neg exited] at exits
    obtain ⟨delay, code, reaction, bound⟩ := prompt.prompt
    have latest : now + delay ≤ now + span := by simpa using bound
    simp only [Process.react, reaction, Process.reaction, exit?, Process.schedule,
      Timeline.exit?_schedule_exit] at exits
    split at exits
    · split at exits <;> cases exits
      · exact le_trans ‹_› latest
      · exact latest
    · cases exits
      exact latest

end Process

namespace Activity

variable {scene last : Scene} {role : Role} {grace : Number} {span : Rat}

/-! ## Stopping -/

theorem kill_le (prompt : (scene.process role).IsKilledWithin span)
    (returns : kill role grace scene = .ok () last) :
    last.now.instant ≤ scene.now.instant + span := by
  obtain ⟨middle, now, -, killed, unfolded⟩ := @kill_eq scene role grace prompt.isKillable
  rw [unfolded] at returns
  obtain ⟨status, _, awaited, ends⟩ := bind_eq_ok.mp returns
  cases ends
  obtain ⟨exit, exits, reached, -⟩ := awaitExit_ok awaited
  rw [killed] at exits
  rw [reached, now]
  exact max_le (le_add_of_nonneg_right prompt.nonnegative) (prompt.exit_le exits)

/-- A stop takes at most the grace period and what the process takes to be killed. -/
theorem terminate_le {patience : Rat} (limited : grace.span = some patience)
    (patient : 0 ≤ patience) (reachable : (scene.process role).onTerminate ≠ .vanished)
    (prompt : (scene.process role).IsKilledWithin span)
    (returns : terminate role grace scene = .ok () last) :
    last.now.instant ≤ scene.now.instant + patience + span := by
  have inGrace : scene.now.instant ≤ scene.now.instant + patience := le_add_of_nonneg_right patient
  have inTime : ∀ instant ≤ scene.now.instant + patience,
      instant ≤ scene.now.instant + patience + span :=
    fun _ bound => bound.trans (le_add_of_nonneg_right prompt.nonnegative)
  by_cases exited : (scene.process role).hasExited scene.now.instant = true
  · rw [terminate_of_exited exited] at returns
    cases returns
    exact inTime _ inGrace
  rw [Bool.not_eq_true] at exited
  obtain ⟨asked, now, -, reacts, -, unfolded⟩ :=
    @terminate_of_alive scene role grace exited reachable
  rw [unfolded] at returns
  obtain ⟨answer, middle, waited, rest⟩ := bind_eq_ok.mp returns
  cases answer with
  | true =>
      obtain ⟨exit, status, -, early, -, rfl⟩ := (exitsWithin_ok waited).true
      cases rest
      apply inTime
      rw [Scene.waitFor_instant, now]
      exact max_le inGrace (now ▸ (early patience limited).2)
  | false =>
      obtain ⟨length, same, ended, -⟩ := (exitsWithin_ok waited).false
      cases limited.symm.trans same
      have process : middle.process role = (scene.process role).react .terminate scene.now.instant :=
        (((waits_exitsWithin role grace.span).ok waited).process_eq role).trans reacts
      have killed := kill_le (process ▸ prompt.react .terminate scene.now.instant) rest
      rwa [ended, now, max_eq_left patient] at killed

/-! ## The readers -/

variable {request : Request}

theorem pause_le {target bound : Rat} {turns : Nat} {value : Unit}
    (begins : scene.now.instant ≤ bound) (ends : target ≤ bound)
    (returns : pause target turns scene = .ok value last) : last.now.instant ≤ bound := by
  obtain ⟨-, rfl⟩ := pause_eq_ok.mp returns
  rw [Scene.waitFor_instant]
  exact max_le begins ends

/-- The readers are not waited for longer than they are given. -/
theorem drain_le {value : Unit} (returns : drain request scene = .ok value last) :
    last.now.instant ≤ scene.now.instant + drainSpan := by
  have begins : scene.now.instant ≤ scene.now.instant + drainSpan :=
    le_add_of_nonneg_right (by decide)
  unfold drain at returns
  rw [bind_of_ok (get_apply scene)] at returns
  split at returns
  · cases returns
    exact begins
  · generalize lastOf scene.now.instant _ = latest at returns
    cases latest with
    | none => exact pause_le begins (le_refl _) returns
    | some instant =>
        simp only at returns
        split at returns
        · exact pause_le begins ‹_› returns
        · exact pause_le begins (le_refl _) returns

/-- Once its process has exited, a run only waits for its readers. -/
theorem settle_le {container : Option String} {began : Rat} {verdict : Verdict}
    {result : RunResult} (exited : scene.engine.hasExited scene.now.instant = true)
    (returns : settle request container began verdict scene = .ok result last) :
    last.now.instant ≤ scene.now.instant + drainSpan := by
  obtain ⟨status, awaited, awaits, rest⟩ := bind_eq_ok.mp returns
  obtain ⟨_, drained, drains, finishes⟩ := bind_eq_ok.mp rest
  rw [finish_apply] at finishes
  cases finishes
  obtain ⟨instant, exits, reached, -⟩ := awaitExit_ok awaits
  obtain ⟨exit, code, found, early⟩ := Process.hasExited_iff.mp exited
  cases found.symm.trans exits
  have drainedBy := drain_le drains
  rwa [reached, max_eq_left early] at drainedBy

/-! ## The run of a started process -/

variable {deadline : Option Rat} {container : Option String} {began instant : Rat}
  {result : RunResult}

theorem supervise_of_exited_le (uncancelled : scene.cancelAt = none)
    (finishes : (raceOf request deadline scene).finish = some (instant, .verdict .exited))
    (returns : supervise request container began deadline scene = .ok result last) :
    last.now.instant ≤ instant + drainSpan := by
  obtain ⟨middle, leads, gone, settles⟩ :=
    supervise_of_exited (isDecided_of_uncancelled uncancelled finishes) container began
  rw [settles] at returns
  rw [← leads.reached]
  exact settle_le gone returns

theorem supervise_le {patience : Rat} (hosted : request.runtime.isHost = true)
    (uncancelled : scene.cancelAt = none) (limited : request.grace.span = some patience)
    (patient : 0 ≤ patience) (reachable : scene.engine.onTerminate ≠ .vanished)
    (prompt : scene.engine.IsKilledWithin span) {verdict : Verdict}
    (finishes : (raceOf request deadline scene).finish = some (instant, .verdict verdict))
    (returns : supervise request container began deadline scene = .ok result last) :
    last.now.instant ≤ instant + patience + span + drainSpan := by
  by_cases exited : verdict = .exited
  · subst exited
    refine (supervise_of_exited_le uncancelled finishes returns).trans ?_
    have early : instant ≤ instant + patience + span :=
      (le_add_of_nonneg_right patient).trans (le_add_of_nonneg_right prompt.nonnegative)
    simpa using early
  · obtain ⟨halted, halts, unfolded⟩ := supervise_of_decided
      (isDecided_of_uncancelled uncancelled finishes) (by simpa using exited) container began
    have engine : halted.engine = scene.engine := by rw [halts.same]
    rw [unfolded] at returns
    obtain ⟨_, stopped, stops, settles⟩ := bind_eq_ok.mp returns
    have gone : stopped.engine.hasExited stopped.now.instant = true :=
      stop_hasExited (engine ▸ ⟨reachable, prompt.isKillable⟩) stops
    rw [stop_of_host hosted] at stops
    have stoppedBy := @terminate_le halted stopped .engine request.grace span patience limited patient
      (show halted.engine.onTerminate ≠ _ from engine ▸ reachable)
      (show halted.engine.IsKilledWithin span from engine ▸ prompt) stops
    rw [halts.reached] at stoppedBy
    calc
      last.now.instant ≤ stopped.now.instant + drainSpan := settle_le gone settles
      _ ≤ instant + patience + span + drainSpan := by simpa using stoppedBy

end Activity

namespace Request

/-- How long a run may last whose process exits at most a span after the kill signal: until the time
limit, or the start if that comes later, and then for the grace period, the kill and the second that
the readers get. -/
def longest (request : Request) (span : Rat) : WithTop Rat :=
  max (orNever request.limits.timeout.span) (max request.launch.startDelay 0 : Rat) +
    orNever request.grace.span + span + 1

/-- A bound on the time since a run was asked for is one on the clock. -/
theorem sub_le_of_deadline {request : Request} {began instant spare : Rat}
    (bound : ∀ last, request.deadline began = some last → instant ≤ last + spare) :
    ((instant - began : Rat) : WithTop Rat) ≤ orNever request.limits.timeout.span + spare := by
  cases limited : request.limits.timeout.span with
  | none => exact le_top
  | some limit =>
      have before := bound (began + limit) (by rw [deadline, limited]; rfl)
      refine WithTop.coe_le_coe.mpr ?_
      rwa [sub_le_iff_le_add', ← add_assoc]

/-- A run that is over the time limit has lasted at least as long. -/
theorem le_sub_of_isOver {request : Request} {began instant : Rat}
    (isOver : Field.IsOver (request.deadline began) instant) :
    orNever request.limits.timeout.span ≤ ((instant - began : Rat) : WithTop Rat) := by
  obtain ⟨last, limited, passed⟩ := isOver
  obtain ⟨limit, spans, rfl⟩ := Option.map_eq_some_iff.mp limited
  rw [spans]
  exact WithTop.coe_le_coe.mpr (le_sub_iff_add_le'.mpr passed)

/-- What is over in time after the race of a run is over in time after its beginning. -/
theorem le_longest {request : Request} {began instant last span : Rat} {ending : RaceEnd}
    {field : Field}
    (ends : field.Ends (request.deadline began) (request.launch.startInstant began)
      (some (instant, ending)))
    (bound : ∀ patience, request.grace.span = some patience →
      last ≤ instant + patience + span + 1) :
    ((last - began : Rat) : WithTop Rat) ≤ request.longest span := by
  unfold longest
  cases limited : request.limits.timeout.span with
  | none => simp [orNever]
  | some limit =>
      cases patient : request.grace.span with
      | none => simp [orNever]
      | some patience =>
          have raced : instant ≤ max (began + limit) (began + max request.launch.startDelay 0) :=
            ends.le_max (by rw [deadline, limited]; rfl)
          rw [max_add_add_left] at raced
          have finished := bound patience patient
          simp only [orNever, Option.elim_some]
          norm_cast
          rw [sub_le_iff_le_add']
          calc
            last ≤ instant + patience + span + 1 := finished
            _ ≤ began + max limit (max request.launch.startDelay 0) + patience + span + 1 := by
              simpa using raced
            _ = began + (max limit (max request.launch.startDelay 0) + patience + span + 1) := by
              simp only [add_assoc]

end Request

namespace Execution

open Activity

variable {request : Request} {origin : Moment}

/-- A run on the host that nobody cancels, and that returns a result, has lasted as long as the
result says.  It lasts at most until the time limit or the start, the grace period, the kill and the
second for the readers; a second longer than the time limit if no flag is set; and no shorter than
the time limit if it has timed out. -/
theorem duration_bounds (request : Request) (origin : Moment) {span : Rat} {result : RunResult}
    (hosted : request.runtime.isHost = true) (uncancelled : request.cancelAt = none)
    (patient : Number.int 0 ≤ request.grace)
    (reachable : request.launch.process.onTerminate ≠ .vanished)
    (prompt : request.launch.process.IsKilledWithin span)
    (returned : (run request origin).result = .ok result) :
    let elapsed := (run request origin).finish.instant - origin.instant
    let limit := orNever request.limits.timeout.span
    result.duration = .float (.ofRat elapsed) ∧
    (elapsed : WithTop Rat) ≤ request.longest span ∧
    (result.timedOut = false → result.outputExceeded = false → result.aborted = false →
      (elapsed : WithTop Rat) ≤ limit + 1) ∧
    (result.timedOut = true → result.aborted = false → limit ≤ elapsed) := by
  intro elapsed limit
  obtain ⟨scene, last, underWay, unset, returns, runs⟩ := supervise_of_result uncancelled returned
  obtain ⟨instant, verdict, concluded⟩ := supervise_ok returns
  have ends := raceOf_ends request (request.deadline origin.instant) scene
  rw [concluded.finishes, underWay.instant] at ends
  have reported := concluded.reported
  have passed : elapsed = last.now.instant - origin.instant := by
    simp only [elapsed, runs]
  refine ⟨?_, ?_, ?_, ?_⟩
  · rw [reported, passed]
    rfl
  · rw [passed]
    refine Request.le_longest ends fun patience limited => ?_
    refine supervise_le hosted unset limited (Number.span_nonneg patient limited) ?_ ?_
      concluded.finishes returns
    · rw [underWay.engine]
      exact reachable
    · rw [underWay.engine]
      exact ⟨prompt.nonnegative, prompt.prompt⟩
  · intro inTime within unaborted
    have exited : verdict = .exited := by
      rw [reported] at inTime within unaborted
      revert inTime within unaborted
      cases verdict <;> simp [resultOf]
    subst exited
    rw [passed]
    refine Request.sub_le_of_deadline fun deadline limited => ?_
    exact (supervise_of_exited_le unset concluded.finishes returns).trans
      (add_le_add_left (ends.le_of_inTime (by simp) limited) 1)
  · intro late unaborted
    have timedOut : verdict = .timeout := by
      rw [reported] at late unaborted
      revert late unaborted
      cases verdict <;> simp [resultOf]
    subst timedOut
    rw [passed]
    refine (Request.le_sub_of_isOver ends.isOver_of_timeout).trans (WithTop.coe_le_coe.mpr ?_)
    exact sub_le_sub_right concluded.reached _

/-- A process that ignores the request to terminate, takes half a second to be killed and leaves its
pipes open, in a run that has a second and a grace period of two. -/
def clinging : Request where
  runtime := .host false []
  image := "image"
  spec := { name := "tool", command := some ["tool"] }
  limits := { timeout := .int 1 }
  grace := .int 2
  launch := { process :=
    { name := "tool", holdsPipes := true, onTerminate := .ignores, onKill := .exits (1 / 2) (-9) } }

/-- Such a run lasts as long as a run may. -/
theorem clinging_lasts :
    clinging.longest (1 / 2) = (9 / 2 : Rat) ∧
      ∃ result, (run clinging).result = .ok result ∧ result.timedOut = true ∧
        result.duration = .float (.ofRat (9 / 2)) ∧
          ((9 / 2 : Rat) : WithTop Rat) ≤ clinging.longest (1 / 2) ∧
            orNever clinging.limits.timeout.span ≤ ((9 / 2 : Rat) : WithTop Rat) := by
  have longest : clinging.longest (1 / 2) = (9 / 2 : Rat) := by decide +kernel
  refine ⟨longest, ?_⟩
  have finish : (run clinging).finish.instant - Moment.start.instant = 9 / 2 := by decide +kernel
  have late : (run clinging).result.toOption.map (fun result => (result.timedOut, result.aborted)) =
      some (true, false) := by decide +kernel
  cases returned : (run clinging).result with
  | error problem => simp [returned, Except.toOption] at late
  | ok result =>
      rw [returned] at late
      obtain ⟨timedOut, unaborted⟩ : result.timedOut = true ∧ result.aborted = false := by
        simpa [Except.toOption] using late
      obtain ⟨duration, bound, -, early⟩ := duration_bounds clinging .start rfl rfl (by decide)
        (by simp [clinging]) ⟨by decide +kernel, 1 / 2, -9, rfl, le_refl _⟩ returned
      rw [finish] at duration bound early
      exact ⟨result, rfl, timedOut, duration, bound, early timedOut unaborted⟩

end Execution

end AnalysisEngines
