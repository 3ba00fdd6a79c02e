import AnalysisEngines.Proofs.Run.Starting
import AnalysisEngines.Proofs.Run.Supervision

/-!
# Runs that come to an end

A run that nobody cancels comes to an end if its race does and if its process, and the helper that
is asked to stop its container, can be stopped.
-/

set_option autoImplicit false

namespace AnalysisEngines

/-- A number of seconds, neither infinite nor undefined. -/
def Number.IsFinite (number : Number) : Prop := ∃ seconds, number.exact.toRat? = some seconds

theorem Number.span_of_isFinite {number : Number} (finite : number.IsFinite) :
    ∃ seconds, number.span = some seconds := by
  obtain ⟨seconds, exact_⟩ := finite
  cases number with
  | int value => exact ⟨_, rfl⟩
  | float value => cases value <;> simp_all [Number.exact, Binary64.toRat?, Number.span]

/-- A helper that can be started, and obeys the kill signal. -/
structure Helper.IsStoppable (helper : Helper) : Prop where
  starts : helper.fault = none
  killable : ∃ delay status, helper.onKill = .exits delay status

/-- A request whose processes come to an end. -/
structure Request.IsStoppable (request : Request) : Prop where
  engine : request.launch.process.IsMortal
  grace : request.grace.IsFinite
  helper : request.runtime.isHost = false →
    (∀ answer ∈ request.clientFound, answer = true) ∧ request.helper.IsStoppable

/-- A scene in which the processes of a run come to an end, and nobody cancels it. -/
structure Scene.IsStoppable (scene : Scene) (runtime : Runtime) : Prop where
  engine : scene.engine.IsMortal
  helper : runtime.isHost = false →
    (∀ answer ∈ scene.clientFound, answer = true) ∧ scene.helper.IsStoppable
  uncancelled : scene.cancelAt = none

namespace Activity

variable {scene last : Scene} {role : Role} {grace : Number}

/-! ## Terminating a process -/

theorem awaitExit_returns (turns : Nat) (finite : (scene.process role).IsFinite)
    (uncancelled : scene.cancelAt = none) :
    ∃ status last, awaitExit role turns scene = .ok status last := by
  cases outcome : awaitExit role turns scene with
  | ok status last => exact ⟨status, last, rfl⟩
  | error problem last =>
      rcases awaitExit_error outcome with ⟨-, -, endless⟩ | ⟨-, ⟨_, struck⟩, -⟩
      · obtain ⟨exit, exits⟩ := finite
        cases exits.symm.trans endless
      · cases uncancelled.symm.trans struck.pending

theorem exitsWithin_returns {span : Option Rat} (limited : span = none → (scene.process role).IsFinite)
    (uncancelled : scene.cancelAt = none) :
    ∃ answer last, exitsWithin role span scene = .ok answer last := by
  cases outcome : exitsWithin role span scene with
  | ok answer last => exact ⟨answer, last, rfl⟩
  | error problem last =>
      cases exitsWithin_error outcome with
      | unending limitless _ endless =>
          obtain ⟨exit, exits⟩ := limited limitless
          cases exits.symm.trans endless
      | struck struck => cases uncancelled.symm.trans struck.pending

theorem send_of_vanished {signal : Signal}
    (alive : (scene.process role).hasExited scene.now.instant = false)
    (vanished : (scene.process role).reaction signal = .vanished) :
    ∃ after, send role signal scene = .ok false after := by
  unfold send
  simp only [bind_of_ok (get_apply scene), alive, Bool.false_eq_true, if_false,
    bind_of_ok (note_apply _ scene), vanished]
  exact ⟨_, rfl⟩

theorem kill_returns (mortal : (scene.process role).IsFinite ∨ (scene.process role).IsKillable)
    (uncancelled : scene.cancelAt = none) : ∃ last, kill role grace scene = .ok () last := by
  rcases mortal with finite | killable
  · let noted : Scene := { scene with notes := scene.notes ++
      [(scene.now, .notice (.killEscalated (scene.process role).pid grace))] }
    have process : noted.process role = scene.process role := by cases role <;> rfl
    obtain ⟨answer, sent, sends, -, cancelAt, -, reacts⟩ := send_apply role .kill noted
    have awaits : ∀ now, ∃ last,
        discard (awaitExit role 1) { sent with now } = .ok () last := by
      intro now
      have same : Scene.process { sent with now } role = sent.process role := by cases role <;> rfl
      obtain ⟨status, last, returns⟩ := @awaitExit_returns { sent with now } role 1
        (by rw [same]; exact (Process.KeepsNature.of_signal (reacts role)).finite (process.symm ▸ finite))
        (cancelAt.trans uncancelled)
      exact ⟨last, bind_of_ok returns⟩
    unfold kill
    rw [bind_of_ok (get_apply scene), bind_of_ok (log_apply _ scene), bind_of_ok sends]
    cases answer with
    | false => exact awaits sent.now
    | true =>
        simp only [if_true, bind_of_ok (hasExited_apply role sent)]
        by_cases exited : (sent.process role).hasExited sent.now.instant = true
        · rw [if_pos exited, bind_of_ok (pass_apply 2 sent)]
          exact awaits _
        · rw [if_neg exited]
          exact awaits sent.now
  · cases outcome : kill role grace scene with
    | ok value last => exact ⟨last, rfl⟩
    | error problem last =>
        obtain ⟨-, _, pending, -⟩ := kill_error killable outcome
        cases uncancelled.symm.trans pending

theorem terminate_returns (mortal : (scene.process role).IsFinite ∨ (scene.process role).IsKillable)
    (uncancelled : scene.cancelAt = none) (limited : grace.span ≠ none) :
    ∃ last, terminate role grace scene = .ok () last := by
  cases exited : (scene.process role).hasExited scene.now.instant with
  | true => exact ⟨scene, terminate_of_exited exited⟩
  | false =>
      by_cases vanished : (scene.process role).onTerminate = .vanished
      · obtain ⟨after, sent⟩ := @send_of_vanished scene role .terminate exited vanished
        refine ⟨after, ?_⟩
        unfold terminate
        simp [bind_of_ok (hasExited_apply role scene), exited, bind_of_ok sent]
      · obtain ⟨asked, -, cancelAt, reacts, -, unfolded⟩ :=
          @terminate_of_alive scene role grace exited vanished
        obtain ⟨answer, waited, waits⟩ := @exitsWithin_returns asked role grace.span
          (fun limitless => absurd limitless limited) (cancelAt.trans uncancelled)
        rw [unfolded, bind_of_ok waits]
        cases answer with
        | true => exact ⟨waited, rfl⟩
        | false =>
            have watched := (waits_exitsWithin role grace.span).ok waits
            refine kill_returns ?_ (watched.calm.uncancelled (cancelAt.trans uncancelled)).1
            rw [watched.process_eq role, reacts]
            exact mortal.imp (Process.keepsNature_react _ _ _).finite
              fun killable => Process.isKillable_react killable _ _

/-! ## Stopping a container -/

theorem delay_returns (span : Rat) (uncancelled : scene.cancelAt = none) :
    ∃ last, delay span scene = .ok () last := by
  cases outcome : delay span scene with
  | ok value last => exact ⟨last, rfl⟩
  | error problem last =>
      obtain ⟨-, -, cancelledAt, pending, -⟩ := delay_error outcome
      rw [uncancelled] at pending
      cases pending

theorem wholeSeconds_returns {grace : Number} (finite : grace.IsFinite) (scene : Scene) :
    ∃ seconds, wholeSeconds grace scene = .ok seconds scene := by
  obtain ⟨value, exact_⟩ := finite
  cases grace with
  | int seconds => exact ⟨_, rfl⟩
  | float seconds =>
      have known : seconds.toRat? = some value := exact_
      unfold wholeSeconds
      simp only [known]
      exact ⟨_, rfl⟩

/-- A client that is found and a grace period in whole seconds are all that a helper needs to be
asked for. -/
theorem stopContainer_of_found (client container : String)
    (found : (Container.lookUp scene.clientFound).1 = true) (finite : grace.IsFinite) :
    ∃ command asking, asking = { scene with
        clientFound := (Container.lookUp scene.clientFound).2
        notes := scene.notes ++ [(scene.now, .notice (.clientCalled command))] } ∧
      stopContainer client container grace scene = (do
        startHelper command
        if ← exitsWithin .helper (grace.span.map (· + clientAllowance)) then return
        log (.stopTimedOut container)
        terminate .helper (.int 0)) asking := by
  let located : Scene := { scene with clientFound := (Container.lookUp scene.clientFound).2 }
  have locates : locateClient client scene = .ok (Container.clientPath client) located := by
    rw [locateClient_apply, if_pos found]
  obtain ⟨whole, rounds⟩ := wholeSeconds_returns finite located
  refine ⟨Container.stopCommand (Container.clientPath client) whole container, _, rfl, ?_⟩
  unfold stopContainer
  rw [bind_of_ok locates, bind_of_ok rounds, bind_of_ok (log_apply _ located)]

theorem startHelper_returns (command : List String) (starts : scene.helper.fault = none)
    (uncancelled : scene.cancelAt = none) :
    ∃ last, startHelper command scene = .ok () last ∧ last.cancelAt = none ∧
      last.helperProcess.onKill = scene.helper.onKill := by
  obtain ⟨delayed, delays⟩ := delay_returns scene.helper.startDelay uncancelled
  obtain ⟨-, same, -⟩ := delay_ok delays
  unfold startHelper
  rw [bind_of_ok (get_apply scene), bind_of_ok delays, bind_of_ok (note_apply _ delayed)]
  simp only [starts]
  refine ⟨_, rfl, ?_, rfl⟩
  show delayed.cancelAt = none
  rw [same]
  exact uncancelled

theorem stopContainer_returns {runtime : Runtime} (stoppable : scene.IsStoppable runtime)
    (contained : runtime.isHost = false) (client container : String)
    (finite : grace.IsFinite) : ∃ last, stopContainer client container grace scene = .ok () last := by
  obtain ⟨found, starts, delay, status, killable⟩ := stoppable.helper contained
  obtain ⟨seconds, limited⟩ := Number.span_of_isFinite finite
  obtain ⟨command, asking, same, unfolded⟩ :=
    stopContainer_of_found client container (Container.lookUp_found found).1 finite
  have helper : asking.helper = scene.helper := by rw [same]
  obtain ⟨helped, helps, helpedCancel, helpedKill⟩ :=
    @startHelper_returns asking command (helper ▸ starts) (by rw [same]; exact stoppable.uncancelled)
  obtain ⟨answer, waited, waits⟩ := @exitsWithin_returns helped .helper
    (some (seconds + clientAllowance)) (fun limitless => by cases limitless) helpedCancel
  have watched := (waits_exitsWithin _ _).ok waits
  rw [unfolded, bind_of_ok helps, limited, Option.map_some, bind_of_ok waits]
  cases answer with
  | true => exact ⟨waited, rfl⟩
  | false =>
      simp only [Bool.false_eq_true, if_false]
      rw [bind_of_ok (log_apply _ waited)]
      refine terminate_returns (.inr ⟨delay, status, ?_⟩) ?_ (by simp [Number.span])
      · have process : waited.helperProcess = helped.helperProcess := watched.process_eq .helper
        show waited.helperProcess.onKill = _
        rw [process, helpedKill, helper]
        exact killable
      · exact (watched.calm.uncancelled helpedCancel).1

theorem stop_returns {runtime : Runtime} (stoppable : scene.IsStoppable runtime)
    (container : Option String) (finite : grace.IsFinite) :
    ∃ last, stop runtime container grace scene = .ok () last := by
  have limited : grace.span ≠ none := by
    obtain ⟨seconds, limited⟩ := Number.span_of_isFinite finite
    simp [limited]
  have terminates : ∀ {stopped : Scene}, stopped.engine.IsMortal → stopped.cancelAt = none →
      ∃ last, terminate .engine grace stopped = .ok () last :=
    fun mortal uncancelled =>
      terminate_returns (mortal.imp id Process.Obeys.killable) uncancelled limited
  cases kind : runtime with
  | host => exact terminates stoppable.engine stoppable.uncancelled
  | container client =>
      unfold stop
      simp only
      rw [bind_of_ok (hasExited_apply .engine scene)]
      by_cases gone : (scene.process .engine).hasExited scene.now.instant = true
      · rw [if_pos gone]
        exact ⟨scene, rfl⟩
      · rw [if_neg gone]
        cases given? container with
        | none => exact terminates stoppable.engine stoppable.uncancelled
        | some name =>
            obtain ⟨middle, stops⟩ :=
              stopContainer_returns stoppable (by simp [kind, Runtime.isHost]) client name finite
            simp only [bind_of_ok stops]
            refine terminates ?_ ?_
            · exact ((isStepwise_keeps.stopContainer _ _ _).ok stops).mortal stoppable.engine
            · exact ((isStepwise_leads.stopContainer _ _ _).ok stops |>.calm.uncancelled
                stoppable.uncancelled).1

/-! ## The run of a started process -/

theorem settle_returns (container : Option String) (began : Rat) (verdict : Verdict)
    {request : Request} (uncancelled : scene.cancelAt = none) (finite : scene.engine.IsFinite) :
    ∃ result last, settle request container began verdict scene = .ok result last := by
  obtain ⟨status, awaited, awaits⟩ := @awaitExit_returns scene .engine 2 finite uncancelled
  have calm := ((waits_awaitExit .engine 2).ok awaits).calm.uncancelled uncancelled
  cases drains : drain request awaited with
  | error problem last =>
      have cancelled := (isUnfailing_drain request).error drains problem rfl
      exact absurd (congrArg some cancelled)
        (((waits_drain request).error drains).calm.uncancelled calm.1).2
  | ok _ drained =>
      unfold settle
      rw [bind_of_ok awaits, bind_of_ok drains, finish_apply]
      exact ⟨_, _, rfl⟩

theorem IsHalted.isStoppable {instant : Rat} {halted : Scene} {runtime : Runtime}
    (halts : IsHalted scene instant halted) (stoppable : scene.IsStoppable runtime) :
    halted.IsStoppable runtime := by
  rw [halts.same]
  exact ⟨stoppable.engine, stoppable.helper, stoppable.uncancelled⟩

/-- A run whose race comes to an end returns, or raises what its consumer raised, if its processes
come to an end; a race that ends with the exit asks no more. -/
theorem supervise_returns {request : Request} {deadline : Option Rat} (container : Option String)
    (began : Rat) (uncancelled : scene.cancelAt = none) {instant : Rat} {ending : RaceEnd}
    (finishes : (raceOf request deadline scene).finish = some (instant, ending))
    (stoppable : ending ≠ .verdict .exited → scene.IsStoppable request.runtime)
    (finite : ending ≠ .verdict .exited → request.grace.IsFinite) :
    (ending = .consumerFailed ∧
      ∃ last, supervise request container began deadline scene = .error .consumerFailed last) ∨
    (∃ verdict, ending = .verdict verdict ∧
      ∃ result last, supervise request container began deadline scene = .ok result last) := by
  have decided := isDecided_of_uncancelled uncancelled finishes
  have stopped : ending ≠ .verdict .exited → ∃ last, last.cancelAt = none ∧
      last.engine.IsFinite ∧ supervise request container began deadline scene =
        afterStop request container began ending last := by
    intro other
    obtain ⟨halted, halts, unfolded⟩ := supervise_of_decided decided other container began
    have ready := halts.isStoppable (stoppable other)
    obtain ⟨last, stops⟩ := stop_returns ready container (finite other)
    refine ⟨last, ?_, stop_isFinite ready.engine stops, ?_⟩
    · exact ((isStepwise_leads.stop _ _ _).ok stops |>.calm.uncancelled ready.uncancelled).1
    · rw [unfolded, bind_of_ok stops]
  cases ending with
  | consumerFailed =>
      obtain ⟨last, -, -, raises⟩ := stopped (by simp)
      exact .inl ⟨rfl, last, raises⟩
  | verdict verdict =>
      refine .inr ⟨verdict, rfl, ?_⟩
      by_cases exited : verdict = .exited
      · subst exited
        obtain ⟨middle, leads, gone, unfolded⟩ := supervise_of_exited decided container began
        rw [unfolded]
        exact settle_returns container began .exited (leads.cancelAt.trans uncancelled)
          (Process.isFinite_of_hasExited gone)
      · obtain ⟨last, calm, exits, unfolded⟩ := stopped (by simpa using exited)
        rw [unfolded]
        exact settle_returns container began verdict calm exits

end Activity

end AnalysisEngines
