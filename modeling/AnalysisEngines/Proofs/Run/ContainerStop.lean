import AnalysisEngines.Proofs.Run.Duration
import AnalysisEngines.Proofs.Run.Reaching
import Mathlib.Tactic.Linarith

/-!
# How long the stop of a container takes

A container is stopped by a helper, which gets five seconds more than the grace period before it is
killed, and then the client's own process gets the grace period.  Both have exited when the stop
returns.  Nothing limits how long it takes to start the helper, so this time comes on top of the
others: `stop_leavesNothing`.
-/

set_option autoImplicit false

namespace AnalysisEngines

/-- The command of a helper that has been started. -/
def Note.helper? : Note → Option (List String)
  | .helperSpawned command => some command
  | _ => none

/-- The span of a number of seconds is that number. -/
theorem Number.span_of_exact {number : Number} {seconds : Rat}
    (finite : number.exact.toRat? = some seconds) : number.span = some seconds := by
  cases number with
  | int value => exact finite
  | float value =>
      cases value with
      | infinite negative => cases finite
      | _ => exact finite

namespace Helper

variable (helper : Helper) (now : Rat) (engine : Process)

theorem actOn_onTerminate : (helper.actOn now engine).onTerminate = engine.onTerminate := by
  unfold actOn
  split <;> rfl

theorem actOn_onKill : (helper.actOn now engine).onKill = engine.onKill := by
  unfold actOn
  split <;> rfl

end Helper

namespace Scene

/-- The helpers that have been started so far. -/
def helpers (scene : Scene) : List (List String) :=
  scene.notes.filterMap fun entry => entry.2.helper?

theorem helpers_of_noted {before after : Scene} {moment : Moment} {entry : Note}
    (notes : after.notes = before.notes ++ [(moment, entry)]) :
    after.helpers = before.helpers ++ entry.helper?.toList := by
  rw [helpers, notes, List.filterMap_append]
  cases known : entry.helper? <;> simp [helpers, known]

/-- No helper is started, and one that has exited stays so; what signals do to the engine's process
does not change. -/
structure SpawnsNothing (before : Scene) (_ : Option RunProblem) (after : Scene) : Prop where
  helpers : after.helpers = before.helpers
  exited : before.helperProcess.hasExited before.now.instant = true →
    after.helperProcess.hasExited after.now.instant = true
  onTerminate : after.engine.onTerminate = before.engine.onTerminate
  onKill : after.engine.onKill = before.engine.onKill

instance : IsPassage SpawnsNothing where
  refl _ := ⟨rfl, id, rfl, rfl⟩
  trans first second :=
    ⟨second.helpers.trans first.helpers, second.exited ∘ first.exited,
      second.onTerminate.trans first.onTerminate, second.onKill.trans first.onKill⟩

theorem Waits.spawnsNothing {before after : Scene} {problem : Option RunProblem}
    (waits : before.Waits problem after) : before.SpawnsNothing problem after where
  helpers := by rw [waits.same, helpers, helpers]
  exited := waits.hasExited .helper
  onTerminate := by rw [waits.same]
  onKill := by rw [waits.same]

end Scene

namespace Activity

variable {scene last : Scene} {grace : Number}

/-! ## Stopping a process starts nothing -/

theorem spawnsNothing_note {entry : Note} (other : entry.helper? = none) :
    Follows Scene.SpawnsNothing (note entry) := by
  intro scene
  refine ⟨?_, id, rfl, rfl⟩
  rw [Scene.helpers_of_noted rfl, other]
  exact List.append_nil _

theorem spawnsNothing_send (role : Role) (signal : Signal) :
    Follows Scene.SpawnsNothing (send role signal) := by
  intro scene
  by_cases exited : (scene.process role).hasExited scene.now.instant = true
  · rw [send_of_exited signal exited]
    exact IsPassage.refl scene
  · unfold send
    rw [bind_of_ok (get_apply scene), if_neg exited, bind_of_ok (note_apply _ scene)]
    have noted := (@spawnsNothing_note (.signal (scene.process role).name signal) rfl).ok
      (note_apply _ scene)
    have reacts (process : Process)
        (onTerminate : process.onTerminate = (scene.process role).onTerminate)
        (onKill : process.onKill = (scene.process role).onKill) :
        scene.SpawnsNothing none (Scene.setProcess role process { scene with
          notes := scene.notes ++ [(scene.now, .signal (scene.process role).name signal)] }) := by
      cases role with
      | engine => exact ⟨noted.helpers, id, onTerminate, onKill⟩
      | helper => exact ⟨noted.helpers, fun gone => absurd gone exited, rfl, rfl⟩
    cases (scene.process role).reaction signal with
    | vanished => exact noted
    | ignores => exact reacts _ (Process.react_onTerminate ..) (Process.react_onKill ..)
    | exits delay status => exact reacts _ (Process.react_onTerminate ..) (Process.react_onKill ..)

theorem isTerminating_spawnsNothing : IsTerminating Scene.SpawnsNothing where
  waits := Scene.Waits.spawnsNothing
  escalates _ _ := spawnsNothing_note rfl
  sends := spawnsNothing_send

/-! ## Starting the helper -/

/-- A helper has been started, in the time that this takes. -/
structure HasSpawned (scene last : Scene) (command : List String) : Prop where
  instant : last.now.instant = scene.now.instant + max scene.helper.startDelay 0
  helpers : last.helpers = scene.helpers ++ [command]
  cancelAt : last.cancelAt = scene.cancelAt
  helperTerminate : last.helperProcess.onTerminate = scene.helper.onTerminate
  helperKill : last.helperProcess.onKill = scene.helper.onKill
  engineTerminate : last.engine.onTerminate = scene.engine.onTerminate
  engineKill : last.engine.onKill = scene.engine.onKill

theorem startHelper_of_starts (starts : scene.helper.fault = none)
    (uncancelled : scene.cancelAt = none) (command : List String) :
    ∃ last, startHelper command scene = .ok () last ∧ HasSpawned scene last command := by
  obtain ⟨delayed, delays⟩ := delay_returns scene.helper.startDelay uncancelled
  obtain ⟨instant, same, -⟩ := delay_ok delays
  unfold startHelper
  rw [bind_of_ok (get_apply scene), bind_of_ok delays, bind_of_ok (note_apply _ delayed)]
  simp only [starts]
  refine ⟨_, rfl, instant, ?_, ?_, rfl, rfl, ?_, ?_⟩
  · have before : delayed.helpers = scene.helpers := by rw [same, Scene.helpers, Scene.helpers]
    rw [← before]
    exact @Scene.helpers_of_noted delayed _ delayed.now (.helperSpawned command) rfl
  · show delayed.cancelAt = scene.cancelAt
    rw [same]
  · show (scene.helper.actOn delayed.now.instant delayed.engine).onTerminate = _
    rw [Helper.actOn_onTerminate, same]
  · show (scene.helper.actOn delayed.now.instant delayed.engine).onKill = _
    rw [Helper.actOn_onKill, same]

end Activity

/-- Nothing stands in the way of the stop of a container: the client is found, the helper starts,
and both processes can be reached while they live and exit at once when they are killed. -/
structure Scene.AllowsStop (scene : Scene) : Prop where
  uncancelled : scene.cancelAt = none
  found : (Container.lookUp scene.clientFound).1 = true
  starts : scene.helper.fault = none
  engine : scene.engine.onTerminate ≠ .vanished ∧ ∃ status, scene.engine.onKill = .exits 0 status
  helper : scene.helper.onTerminate ≠ .vanished ∧ ∃ status, scene.helper.onKill = .exits 0 status

namespace Activity

variable {scene last : Scene} {role : Role} {grace : Number} {patience : Rat}

/-- A process that is killed at once is gone when the grace period is over. -/
theorem terminate_of_prompt (limited : grace.span = some patience) (patient : 0 ≤ patience)
    (uncancelled : scene.cancelAt = none)
    (obeys : (scene.process role).onTerminate ≠ .vanished ∧
      ∃ status, (scene.process role).onKill = .exits 0 status) :
    ∃ last, terminate role grace scene = .ok () last ∧ last.cancelAt = none ∧
      (last.process role).hasExited last.now.instant = true ∧
      last.now.instant ≤ scene.now.instant + patience := by
  obtain ⟨reachable, status, kills⟩ := obeys
  have killable : (scene.process role).IsKillable := ⟨0, status, kills⟩
  have prompt : (scene.process role).IsKilledWithin 0 := ⟨le_refl _, 0, status, kills, le_refl _⟩
  obtain ⟨last, returns⟩ := terminate_returns (.inr killable) uncancelled
    (fun limitless => by cases limited.symm.trans limitless)
  have calm := ((isStepwise_leads.terminate role grace).ok returns).calm
  have within := terminate_le limited patient reachable prompt returns
  refine ⟨last, returns, (calm.uncancelled uncancelled).1,
    (terminate_ok ⟨reachable, killable⟩ returns).1, ?_⟩
  rwa [add_zero] at within

/-- What has happened when a helper is gone: it is the only one that was started, and it got no more
than its time. -/
structure HasHelped (scene last : Scene) (patience : Rat) : Prop where
  helpers : ∃ command, last.helpers = scene.helpers ++ [command]
  exited : last.helperProcess.hasExited last.now.instant = true
  inTime : last.now.instant ≤
    scene.now.instant + max scene.helper.startDelay 0 + (patience + clientAllowance)
  uncancelled : last.cancelAt = none
  engineTerminate : last.engine.onTerminate = scene.engine.onTerminate
  engineKill : last.engine.onKill = scene.engine.onKill

/-- A wait for an exit takes no longer than it may. -/
theorem exitsWithin_le {span : Rat} {answer : Bool} (positive : 0 ≤ span)
    (returns : exitsWithin role (some span) scene = .ok answer last) :
    last.now.instant ≤ scene.now.instant + span := by
  cases answer with
  | true =>
      obtain ⟨instant, status, -, early, -, rfl⟩ := (exitsWithin_ok returns).true
      rw [Scene.waitFor_instant]
      exact max_le (le_add_of_nonneg_right positive) (early span rfl).2
  | false =>
      obtain ⟨length, same, ended, -⟩ := (exitsWithin_ok returns).false
      cases same
      rw [ended, max_eq_left positive]

/-- The helper is gone by the end of its time. -/
theorem awaitHelper_ends {span : Rat} (positive : 0 ≤ span) (uncancelled : scene.cancelAt = none)
    (obeys : scene.helperProcess.onTerminate ≠ .vanished ∧
      ∃ status, scene.helperProcess.onKill = .exits 0 status) (container : String) :
    ∃ last, (do
        if ← exitsWithin .helper (some span) then return
        log (.stopTimedOut container)
        terminate .helper (.int 0) : Activity Unit) scene = .ok () last ∧
      last.helperProcess.hasExited last.now.instant = true ∧
      last.now.instant ≤ scene.now.instant + span ∧ last.cancelAt = none ∧
      scene.SpawnsNothing none last := by
  obtain ⟨answer, waited, waits⟩ := @exitsWithin_returns scene .helper (some span)
    (fun limitless => nomatch limitless) uncancelled
  have watched := (waits_exitsWithin .helper (some span)).ok waits
  have within := exitsWithin_le positive waits
  have unset := (watched.calm.uncancelled uncancelled).1
  rw [bind_of_ok waits]
  cases answer with
  | true =>
      obtain ⟨instant, status, exits, -, -, rfl⟩ := (exitsWithin_ok waits).true
      exact ⟨_, rfl, exited_of_waitFor 3 exits, within, unset, watched.spawnsNothing⟩
  | false =>
      simp only [Bool.false_eq_true, if_false]
      rw [bind_of_ok (log_apply _ waited)]
      have noted := (@spawnsNothing_note (.notice (.stopTimedOut container)) rfl).ok
        (log_apply (.stopTimedOut container) waited)
      have process : waited.helperProcess = scene.helperProcess := watched.process_eq .helper
      obtain ⟨last, terminates, calm, exited, ended⟩ := @terminate_of_prompt
        { waited with notes := waited.notes ++ [(waited.now, .notice (.stopTimedOut container))] }
        .helper (.int 0) 0 rfl (le_refl _) unset (by simpa [Scene.process, process] using obeys)
      refine ⟨last, terminates, exited, ?_, calm, ?_⟩
      · rw [add_zero] at ended
        exact ended.trans within
      · exact IsPassage.trans watched.spawnsNothing
          (IsPassage.trans noted ((isTerminating_spawnsNothing.terminate .helper (.int 0)).ok terminates))

theorem stopContainer_helps (allows : scene.AllowsStop)
    (finite : grace.exact.toRat? = some patience) (patient : 0 ≤ patience)
    (client container : String) :
    ∃ last, stopContainer client container grace scene = .ok () last ∧
      HasHelped scene last patience := by
  have positive : 0 ≤ patience + clientAllowance := add_nonneg patient (by decide)
  obtain ⟨command, asking, same, unfolded⟩ :=
    stopContainer_of_found client container allows.found ⟨patience, finite⟩
  have helper : asking.helper = scene.helper := by rw [same]
  have engine : asking.engine = scene.engine := by rw [same]
  have quiet : asking.helpers = scene.helpers := by
    rw [same]
    exact (Scene.helpers_of_noted rfl).trans (List.append_nil _)
  have unset : asking.cancelAt = none := by
    rw [same]
    exact allows.uncancelled
  obtain ⟨helped, helps, spawned⟩ :=
    @startHelper_of_starts asking (helper ▸ allows.starts) unset command
  have obeys : helped.helperProcess.onTerminate ≠ .vanished ∧
      ∃ status, helped.helperProcess.onKill = .exits 0 status := by
    rw [spawned.helperTerminate, spawned.helperKill, helper]
    exact allows.helper
  obtain ⟨last, awaits, exited, ended, calm, kept⟩ :=
    awaitHelper_ends positive (spawned.cancelAt.trans unset) obeys container
  refine ⟨last, ?_, ⟨command, ?_⟩, exited, ?_, calm, ?_, ?_⟩
  · rw [unfolded, bind_of_ok helps, Number.span_of_exact finite]
    exact awaits
  · rw [kept.helpers, spawned.helpers, quiet]
  · calc
      last.now.instant ≤ helped.now.instant + (patience + clientAllowance) := ended
      _ = scene.now.instant + max scene.helper.startDelay 0 + (patience + clientAllowance) := by
          rw [spawned.instant, helper, same]
  · rw [kept.onTerminate, spawned.engineTerminate, engine]
  · rw [kept.onKill, spawned.engineKill, engine]

/-! ## The whole stop -/

/-- What a stop leaves: both processes have exited, and at most one helper has been started, none if
the engine's process had exited before. -/
structure IsStopped (scene last : Scene) : Prop where
  engine : last.engine.hasExited last.now.instant = true
  helper : last.helpers = scene.helpers ∨
    ∃ command, last.helpers = scene.helpers ++ [command] ∧
      last.helperProcess.hasExited last.now.instant = true
  unneeded : scene.engine.hasExited scene.now.instant = true → last = scene

/-- A stop that nothing stands in the way of returns and leaves no process behind.  It takes no
longer than starting the helper does, and twice the grace period and five seconds.  Another stop
does nothing. -/
theorem stop_leavesNothing (client : String) (container : Option String)
    (allows : scene.AllowsStop) (finite : grace.exact.toRat? = some patience)
    (patient : 0 ≤ patience) :
    ∃ last, stop (.container client) container grace scene = .ok () last ∧ IsStopped scene last ∧
      last.now.instant ≤
        scene.now.instant + max scene.helper.startDelay 0 + (2 * patience + 5) ∧
      ∀ (later : Scene) (again : Number), last.now ≤ later.now → later.engine = last.engine →
        stop (.container client) container again later = .ok () later := by
  have limited : grace.span = some patience := Number.span_of_exact finite
  have idle : ∀ {last : Scene}, last.engine.hasExited last.now.instant = true →
      ∀ (later : Scene) (again : Number), last.now ≤ later.now → later.engine = last.engine →
        stop (.container client) container again later = .ok () later := by
    intro last exited later again after same
    apply stop_of_exited
    rw [same]
    exact Process.hasExited_mono (Moment.instant_le after) exited
  have spawning : 0 ≤ max scene.helper.startDelay 0 := le_max_right _ _
  cases exited : scene.engine.hasExited scene.now.instant with
  | true =>
      refine ⟨scene, stop_of_exited client container exited, ⟨exited, .inl rfl, fun _ => rfl⟩, ?_,
        idle exited⟩
      linarith
  | false =>
      have needed : ∀ last, scene.engine.hasExited scene.now.instant = true → last = scene :=
        fun _ gone => nomatch exited.symm.trans gone
      rw [stop_of_alive client container exited]
      cases given? container with
      | none =>
          obtain ⟨last, terminates, -, gone, ended⟩ :=
            @terminate_of_prompt scene .engine grace patience limited patient allows.uncancelled
              allows.engine
          have kept := (isTerminating_spawnsNothing.terminate .engine grace).ok terminates
          refine ⟨last, terminates, ⟨gone, .inl kept.helpers, needed last⟩, ?_, idle gone⟩
          linarith
      | some name =>
          obtain ⟨helped, helps, hasHelped⟩ := stopContainer_helps allows finite patient client name
          have obeys : helped.engine.onTerminate ≠ .vanished ∧
              ∃ status, helped.engine.onKill = .exits 0 status := by
            rw [hasHelped.engineTerminate, hasHelped.engineKill]
            exact allows.engine
          obtain ⟨last, terminates, -, gone, ended⟩ :=
            @terminate_of_prompt helped .engine grace patience limited patient
              hasHelped.uncancelled obeys
          have kept := (isTerminating_spawnsNothing.terminate .engine grace).ok terminates
          obtain ⟨command, helpers⟩ := hasHelped.helpers
          refine ⟨last, (bind_of_ok helps).trans terminates, ⟨gone, .inr ⟨command, ?_, ?_⟩,
            needed last⟩, ?_, idle gone⟩
          · rw [kept.helpers, helpers]
          · exact kept.exited hasHelped.exited
          · have inTime := hasHelped.inTime
            rw [clientAllowance] at inTime
            linarith

/-- A process that ignores the request to terminate, and a helper that hangs and does the same, and
that takes a span to be started. -/
def hanging (startDelay : Rat) : Scene where
  engine := { name := "tool", onTerminate := .ignores }
  helper := { startDelay, onTerminate := .ignores }

theorem hanging_allowsStop (startDelay : Rat) : (hanging startDelay).AllowsStop where
  uncancelled := rfl
  found := rfl
  starts := rfl
  engine := ⟨by simp [hanging], -9, rfl⟩
  helper := ⟨by simp [hanging], -9, rfl⟩

theorem hanging_isStopped :
    (hanging 0).AllowsStop ∧ (Number.int 1).exact.toRat? = some 1 ∧ (0 : Rat) ≤ 1 ∧
      ∃ last, stop (.container "docker") (some "lint") (.int 1) (hanging 0) = .ok () last ∧
        IsStopped (hanging 0) last ∧ last.now.instant ≤ 7 := by
  have patient : (0 : Rat) ≤ 1 := by norm_num
  obtain ⟨last, returns, stopped, inTime, -⟩ := @stop_leavesNothing (hanging 0) (.int 1) 1 "docker"
    (some "lint") (hanging_allowsStop 0) rfl patient
  refine ⟨hanging_allowsStop 0, rfl, patient, last, returns, stopped, inTime.trans ?_⟩
  have begins : (hanging 0).now.instant = 0 := rfl
  have starts : (hanging 0).helper.startDelay = 0 := rfl
  rw [begins, starts]
  norm_num

/-- With a helper that takes a second to be started, a stop with a grace period of a second takes
more than twice that period and five seconds. -/
theorem slowlyHelped_isLate :
    (hanging 1).AllowsStop ∧
      ∃ last, stop (.container "docker") (some "lint") (.int 1) (hanging 1) = .ok () last ∧
        (hanging 1).now.instant + (2 * 1 + 5) < last.now.instant := by
  refine ⟨hanging_allowsStop 1, ?_⟩
  let stops := stop (.container "docker") (some "lint") (.int 1)
  have told : (stopRepeatedly (hanging 1) [(0, stops)]).1.map
      (fun record => (record.finish.instant, record.problem.isNone)) = [(8, true)] := by
    decide +kernel
  have atOnce : stopAt stops 0 (hanging 1) = stops (hanging 1) := rfl
  cases outcome : stops (hanging 1) with
  | error problem last => simp [stopRepeatedly, atOnce, outcome] at told
  | ok value last =>
      have finish : last.now.instant = 8 := by
        simpa [stopRepeatedly, atOnce, outcome] using told
      refine ⟨last, outcome, ?_⟩
      have begins : (hanging 1).now.instant = 0 := rfl
      rw [begins, finish]
      norm_num

end Activity

end AnalysisEngines
