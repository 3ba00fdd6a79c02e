import AnalysisEngines.Proofs.Run.Nature
import AnalysisEngines.Proofs.Run.Race

/-!
# How the run of a started process ends

The run of a process that obeys the kill signal ends with a process that has exited, with one
exception: a cancellation may strike in the middle of a stop.
-/

set_option autoImplicit false

namespace AnalysisEngines

namespace Activity

variable {scene last : Scene} {request : Request} {deadline : Option Rat}

theorem raceOf_ends (request : Request) (deadline : Option Rat) (scene : Scene) :
    (field request scene.engine).Ends deadline scene.now.instant
      (raceOf request deadline scene).finish :=
  Field.run_ends _ _ _

/-! ## The race as an activity -/

/-- A race that is decided at an instant, before any cancellation. -/
structure IsDecided (request : Request) (deadline : Option Rat) (scene : Scene) (instant : Rat)
    (ending : RaceEnd) : Prop where
  finishes : (raceOf request deadline scene).finish = some (instant, ending)
  undisturbed : ∀ cancelledAt, scene.cancelAt = some cancelledAt →
    Field.IsOver deadline scene.now.instant ∨ instant < cancelledAt

theorem isDecided_of_uncancelled {instant : Rat} {ending : RaceEnd}
    (uncancelled : scene.cancelAt = none)
    (finishes : (raceOf request deadline scene).finish = some (instant, ending)) :
    IsDecided request deadline scene instant ending :=
  ⟨finishes, fun _ pending => by cases uncancelled.symm.trans pending⟩

/-- The scene to which a decided race leads. -/
structure LeadsTo (scene : Scene) (instant : Rat) (middle : Scene) : Prop where
  waits : scene.Waits none middle
  reached : middle.now.instant = instant
  cancelAt : middle.cancelAt = scene.cancelAt

theorem LeadsTo.engine_eq {instant : Rat} {middle : Scene} (leads : LeadsTo scene instant middle) :
    middle.engine = scene.engine := leads.waits.process_eq .engine

/-- A race that is decided leads to the instant of its decision. -/
theorem race_of_decided {instant : Rat} {ending : RaceEnd}
    (decided : IsDecided request deadline scene instant ending) :
    ∃ middle, LeadsTo scene instant middle ∧
      race request deadline scene = conclude ending middle := by
  have finishes := decided.finishes
  have ends := raceOf_ends request deadline scene
  rw [finishes] at ends
  unfold race
  rw [bind_of_ok (get_apply scene)]
  simp only [finishes]
  by_cases spent : Field.IsOver deadline scene.now.instant
  · have nothing : (raceOf request deadline scene).waits = [] :=
      Field.waits_run_eq_nil_iff.mpr spent
    cases ends.eq_of_isOver spent
    exact ⟨scene, ⟨IsPassage.refl scene, rfl, rfl⟩, by simp [nothing]⟩
  · have something : (raceOf request deadline scene).waits ≠ [] :=
      fun nothing => spent (Field.waits_run_eq_nil_iff.mp nothing)
    have paused : pause instant (raceOf request deadline scene).turns scene =
        .ok () (scene.waitFor instant (raceOf request deadline scene).turns) :=
      pause_eq_ok.mpr ⟨fun at_ pending => (decided.undisturbed at_ pending).resolve_left spent, rfl⟩
    refine ⟨scene.waitFor instant (raceOf request deadline scene).turns,
      ⟨waits_waitFor _ _ scene, ?_, rfl⟩, ?_⟩
    · rw [Scene.waitFor_instant]
      exact max_eq_right ends.le
    · simp [something, bind_of_ok paused]

/-- A race that a cancellation comes before does not get further than the cancellation. -/
theorem race_of_struck {cancelledAt : Rat} (pending : scene.cancelAt = some cancelledAt)
    (inTime : ¬ Field.IsOver deadline scene.now.instant)
    (before : ∀ instant ending,
      (raceOf request deadline scene).finish = some (instant, ending) → cancelledAt ≤ instant) :
    race request deadline scene = .error .cancelled (scene.struckAt cancelledAt) := by
  unfold race
  rw [bind_of_ok (get_apply scene)]
  cases finishes : (raceOf request deadline scene).finish with
  | none => simp only [waitForever, pending]
  | some finish =>
      obtain ⟨instant, ending⟩ := finish
      have something : (raceOf request deadline scene).waits ≠ [] :=
        fun nothing => inTime (Field.waits_run_eq_nil_iff.mp nothing)
      have paused : pause instant (raceOf request deadline scene).turns scene =
          .error .cancelled (scene.struckAt cancelledAt) :=
        pause_eq_error.mpr ⟨rfl, cancelledAt, pending, before instant ending finishes, rfl⟩
      simp [something, bind_of_error paused]

theorem race_of_endless (unset : scene.cancelAt = none)
    (endless : (raceOf request deadline scene).finish = none) :
    race request deadline scene = .error .unending scene := by
  unfold race
  rw [bind_of_ok (get_apply scene)]
  simp only [endless, waitForever, unset]

/-- How a race goes: it is decided, a cancellation strikes, or neither ever happens. -/
theorem race_cases (request : Request) (deadline : Option Rat) (scene : Scene) :
    (∃ instant ending, IsDecided request deadline scene instant ending) ∨
    (∃ cancelledAt, scene.cancelAt = some cancelledAt ∧
      race request deadline scene = .error .cancelled (scene.struckAt cancelledAt)) ∨
    (scene.cancelAt = none ∧ (raceOf request deadline scene).finish = none) := by
  by_cases decided : ∃ instant ending, IsDecided request deadline scene instant ending
  · exact .inl decided
  right
  cases pending : scene.cancelAt with
  | none =>
      refine .inr ⟨rfl, ?_⟩
      cases finishes : (raceOf request deadline scene).finish with
      | none => rfl
      | some finish => exact absurd ⟨finish.1, finish.2, finishes, by simp [pending]⟩ decided
  | some cancelledAt =>
      refine .inl ⟨cancelledAt, rfl, race_of_struck pending (fun spent => decided ?_) ?_⟩
      · have ends := raceOf_ends request deadline scene
        exact ⟨_, _, ends.eq_of_isOver spent, fun _ _ => .inl spent⟩
      · intro instant ending finishes
        by_contra early
        refine decided ⟨instant, ending, finishes, fun other same => .inr ?_⟩
        cases pending.symm.trans same
        exact not_le.mp early

theorem race_ok {verdict : Verdict} (returns : race request deadline scene = .ok verdict last) :
    ∃ instant, IsDecided request deadline scene instant (.verdict verdict) ∧
      LeadsTo scene instant last := by
  rcases race_cases request deadline scene with
    ⟨instant, ending, decided⟩ | ⟨cancelledAt, -, raises⟩ | ⟨unset, endless⟩
  · obtain ⟨middle, leads, concludes⟩ := race_of_decided decided
    rw [concludes] at returns
    cases ending <;> cases returns
    exact ⟨instant, decided, leads⟩
  · rw [raises] at returns
    cases returns
  · rw [race_of_endless unset endless] at returns
    cases returns

theorem race_error {problem : RunProblem}
    (raises : race request deadline scene = .error problem last) :
    (problem = .consumerFailed ∧ ∃ instant,
      IsDecided request deadline scene instant .consumerFailed ∧ LeadsTo scene instant last) ∨
    (problem = .cancelled ∧ last.cancelAt = none ∧ last.engine = scene.engine) ∨
    (problem = .unending ∧ scene.cancelAt = none ∧
      (raceOf request deadline scene).finish = none) := by
  rcases race_cases request deadline scene with
    ⟨instant, ending, decided⟩ | ⟨cancelledAt, -, struck⟩ | ⟨unset, endless⟩
  · obtain ⟨middle, leads, concludes⟩ := race_of_decided decided
    rw [concludes] at raises
    cases ending <;> cases raises
    exact .inl ⟨rfl, instant, decided, leads⟩
  · rw [struck] at raises
    cases raises
    exact .inr (.inl ⟨rfl, rfl, rfl⟩)
  · rw [race_of_endless unset endless] at raises
    cases raises
    exact .inr (.inr ⟨rfl, unset, endless⟩)

theorem guardedRace_ok {container : Option String} {verdict : Verdict}
    (returns : guardedRace request container deadline scene = .ok verdict last) :
    race request deadline scene = .ok verdict last := by
  rw [guardedRace_apply] at returns
  split at returns
  · rename_i raced
    rw [raced, returns]
  · cases returns
  · obtain ⟨_, _, _, ends⟩ := bind_eq_ok.mp returns
    cases ends

/-- An exception leaves the guarded race when the process has been stopped, or it is one of the
stop. -/
theorem guardedRace_error {container : Option String} {problem : RunProblem}
    (raises : guardedRace request container deadline scene = .error problem last) :
    race request deadline scene = .error problem last ∧ problem = .unending ∨
      ∃ caught middle, caught ≠ .unending ∧
        race request deadline scene = .error caught middle ∧
        (stop request.runtime container request.grace middle = .error problem last ∨
          problem = caught ∧
            stop request.runtime container request.grace middle = .ok () last) := by
  rw [guardedRace_apply] at raises
  split at raises
  · cases raises
  · rename_i raced
    cases raises
    exact .inl ⟨raced, rfl⟩
  · rename_i caught middle other raced
    refine .inr ⟨caught, middle, fun same => other same, raced, ?_⟩
    rcases bind_eq_error.mp raises with stops | ⟨_, _, stops, throws⟩
    · exact .inl stops
    · cases throws
      exact .inr ⟨rfl, stops⟩

/-! ## What an exit that has happened does to the rest of a run -/

/-- A process that has exited stays so. -/
def StaysExited (before : Scene) (_ : Option RunProblem) (after : Scene) : Prop :=
  before.engine.hasExited before.now.instant = true →
    after.engine.hasExited after.now.instant = true

instance : IsPassage StaysExited where
  refl _ := id
  trans first second := second ∘ first

theorem Follows.staysExited {α : Type} {activity : Activity α}
    (waits : activity.Follows Scene.Waits) : activity.Follows StaysExited :=
  waits.imp fun waited => waited.hasExited .engine

theorem staysExited_finish (request : Request) (container : Option String) (began : Rat)
    (verdict : Verdict) (exitStatus : Int) :
    Follows StaysExited (finish request container began verdict exitStatus) := by
  apply Follows.bind .get
  intro scene
  split
  · exact .bind (fun _ => id) fun _ => .pure _
  · exact fun _ => id

theorem staysExited_settle (request : Request) (container : Option String) (began : Rat)
    (verdict : Verdict) : Follows StaysExited (settle request container began verdict) :=
  .bind (waits_awaitExit .engine 2).staysExited fun _ =>
    .bind (waits_drain request).staysExited fun _ => staysExited_finish _ _ _ _ _

/-! ## Processes that obey -/

/-- A cancellation finds a process alive that is being stopped: the race between `now` and the
deadline was decided before the cancellation, and not by an exit. -/
def IsCutShort (request : Request) (deadline : Option Rat) (process : Process)
    (now cancelledAt : Rat) : Prop :=
  ∃ began ending, ((field request process).run deadline now).finish = some (began, ending) ∧
    ending ≠ .verdict .exited ∧ (Field.IsOver deadline now ∨ began < cancelledAt) ∧
      process.hasExited began = false ∧
        (process.stopping request.grace.span began (max began cancelledAt)).hasExited
          (max began cancelledAt) = false

theorem stop_of_host {runtime : Runtime} (hosted : runtime.isHost = true)
    (container : Option String) (grace : Number) :
    stop runtime container grace = terminate .engine grace := by
  cases runtime with
  | host => rfl
  | container => cases hosted

/-- A run that raises leaves a process that has exited, unless it never ends or a cancellation cuts
the stop short. -/
def LeavesExited (request : Request) (deadline : Option Rat) (scene : Scene) (problem : RunProblem)
    (last : Scene) : Prop :=
  problem = .unending ∨ last.engine.hasExited last.now.instant = true ∨
    problem = .cancelled ∧ ∃ cancelledAt, scene.cancelAt = some cancelledAt ∧
      IsCutShort request deadline scene.engine scene.now.instant cancelledAt

theorem stop_error {began : Rat} {ending : RaceEnd} {stopped : Scene} {container : Option String}
    {problem : RunProblem} (hosted : request.runtime.isHost = true) (obeys : scene.engine.Obeys)
    (decided : IsDecided request deadline scene began ending) (other : ending ≠ .verdict .exited)
    (engine : stopped.engine = scene.engine) (now : stopped.now.instant = began)
    (cancelAt : stopped.cancelAt = scene.cancelAt)
    (raises : stop request.runtime container request.grace stopped = .error problem last) :
    LeavesExited request deadline scene problem last := by
  rw [stop_of_host hosted] at raises
  have obeying : (stopped.process .engine).Obeys := by
    show stopped.engine.Obeys
    rw [engine]
    exact obeys
  rcases terminate_error obeying raises with ⟨rfl, -⟩ | ⟨rfl, cancelledAt, pending, alive, at_, process⟩
  · exact .inl rfl
  · right
    by_cases exited : last.engine.hasExited last.now.instant = true
    · exact .inl exited
    · rw [cancelAt] at pending
      refine .inr ⟨rfl, cancelledAt, pending, began, ending, decided.finishes, other,
        decided.undisturbed _ pending, ?_, ?_⟩
      · rw [← engine, ← now]
        exact alive
      · rw [Bool.not_eq_true] at exited
        change last.engine = stopped.engine.stopping _ _ _ at process
        rw [process, engine, at_, now] at exited
        exact exited

/-- A race that ends with an exit ends with a process that has exited. -/
theorem hasExited_of_decided {instant : Rat}
    (decided : IsDecided request deadline scene instant (.verdict .exited)) :
    scene.engine.hasExited instant = true := by
  have ends := raceOf_ends request deadline scene
  rw [decided.finishes] at ends
  have exited := Field.isDone_exit_of_endingBy (ends.endingBy_eq (by simp))
  obtain ⟨exit, exits, early⟩ := Field.isDone_iff.mp exited
  obtain ⟨⟨_, status⟩, found, rfl⟩ := Option.map_eq_some_iff.mp exits
  exact Process.hasExited_iff.mpr ⟨_, status, found, early⟩

theorem guardedRace_leaves {container : Option String} {problem : RunProblem}
    (hosted : request.runtime.isHost = true) (obeys : scene.engine.Obeys)
    (raises : guardedRace request container deadline scene = .error problem last) :
    LeavesExited request deadline scene problem last := by
  rcases guardedRace_error raises with ⟨-, rfl⟩ | ⟨caught, middle, endless, raced, stops⟩
  · exact .inl rfl
  rcases race_error raced with ⟨rfl, instant, decided, leads⟩ | ⟨rfl, unset, engine⟩ | ⟨rfl, -⟩
  · rcases stops with stops | ⟨rfl, stops⟩
    · exact stop_error hosted obeys decided (by simp) leads.engine_eq leads.reached leads.cancelAt
        stops
    · exact .inr (.inl (stop_hasExited (leads.engine_eq ▸ obeys) stops))
  · have obeying : (middle.process .engine).Obeys := by
      show middle.engine.Obeys
      rw [engine]
      exact obeys
    rcases stops with stops | ⟨rfl, stops⟩
    · rw [stop_of_host hosted] at stops
      rcases terminate_error obeying stops with ⟨rfl, -⟩ | ⟨-, cancelledAt, pending, -⟩
      · exact .inl rfl
      · rw [unset] at pending
        cases pending
    · exact .inr (.inl (stop_hasExited obeying stops))
  · exact absurd rfl endless

theorem supervise_leaves {container : Option String} {began : Rat} {problem : RunProblem}
    (hosted : request.runtime.isHost = true) (obeys : scene.engine.Obeys)
    (raises : supervise request container began deadline scene = .error problem last) :
    LeavesExited request deadline scene problem last := by
  rcases bind_eq_error.mp raises with guarded | ⟨verdict, middle, guarded, rest⟩
  · exact guardedRace_leaves hosted obeys guarded
  obtain ⟨instant, decided, leads⟩ := race_ok (guardedRace_ok guarded)
  by_cases exited : verdict = .exited
  · subst exited
    refine .inr (.inl ((staysExited_settle _ _ _ _).error rest ?_))
    rw [leads.engine_eq, leads.reached]
    exact hasExited_of_decided decided
  · rw [if_pos exited, bind_of_ok (log_apply _ middle)] at rest
    rcases bind_eq_error.mp rest with stops | ⟨_, after, stops, settles⟩
    · refine stop_error hosted obeys decided (by simpa using exited) ?_ ?_ ?_ stops
      · exact leads.engine_eq
      · exact leads.reached
      · exact leads.cancelAt
    · refine .inr (.inl ((staysExited_settle _ _ _ _).error settles ?_))
      refine stop_hasExited ?_ stops
      rw [leads.engine_eq]
      exact obeys

theorem stop_of_isCutShort {stopped : Scene} {container : Option String} {began cancelledAt : Rat}
    (hosted : request.runtime.isHost = true) (obeys : stopped.engine.Obeys)
    (now : stopped.now.instant = began) (pending : stopped.cancelAt = some cancelledAt)
    (alive : stopped.engine.hasExited began = false)
    (remains : (stopped.engine.stopping request.grace.span began (max began cancelledAt)).hasExited
      (max began cancelledAt) = false) :
    ∃ last, stop request.runtime container request.grace stopped = .error .cancelled last ∧
      last.engine.hasExited last.now.instant = false := by
  subst now
  rw [stop_of_host hosted]
  have obeying : (stopped.process .engine).Obeys := obeys
  cases outcome : terminate .engine request.grace stopped with
  | ok _ last =>
      rcases (terminate_ok obeying outcome).2 cancelledAt pending with exited | exited
      · exact absurd (exited.symm.trans alive) (by simp)
      · exact absurd (exited.symm.trans remains) (by simp)
  | error problem last =>
      rcases terminate_error obeying outcome with ⟨-, unset, -⟩ | ⟨rfl, at_, same, -, instant, process⟩
      · rw [unset] at pending
        cases pending
      · cases pending.symm.trans same
        change last.engine = stopped.engine.stopping _ _ _ at process
        exact ⟨last, rfl, by rw [process, instant]; exact remains⟩

/-- What is left of a run once its process has been stopped. -/
def afterStop (request : Request) (container : Option String) (began : Rat) :
    RaceEnd → Activity RunResult
  | .verdict verdict => settle request container began verdict
  | .consumerFailed => throw .consumerFailed

/-- The scene in which a race that ended at an instant is followed by a stop. -/
structure IsHalted (scene : Scene) (instant : Rat) (halted : Scene) : Prop where
  same : halted = { scene with now := halted.now, notes := halted.notes }
  reached : halted.now.instant = instant
  silent : scene.KeepsSilent Note.isSignal none halted

/-- A race that is not won by an exit is followed by a stop. -/
theorem supervise_of_decided {instant : Rat} {ending : RaceEnd}
    (decided : IsDecided request deadline scene instant ending) (other : ending ≠ .verdict .exited)
    (container : Option String) (began : Rat) :
    ∃ halted, IsHalted scene instant halted ∧
      supervise request container began deadline scene =
        (stop request.runtime container request.grace >>= fun _ =>
          afterStop request container began ending) halted := by
  obtain ⟨middle, leads, concludes⟩ := race_of_decided decided
  have same : middle = { scene with now := middle.now } := by
    rw [leads.waits.same, leads.cancelAt]
  have silent : scene.KeepsSilent Note.isSignal none middle := by
    rw [same]
    exact fun _ member _ => member
  unfold supervise
  cases ending with
  | verdict verdict =>
      have guarded : guardedRace request container deadline scene = .ok verdict middle := by
        rw [guardedRace_apply, concludes]
        rfl
      refine ⟨{ middle with notes := middle.notes ++
        [(middle.now, .notice (.terminated verdict request.limits))] },
        ⟨by rw [same], leads.reached, ?_⟩, ?_⟩
      · exact IsPassage.trans silent ((keepsSilent_note rfl).ok (log_apply _ middle))
      · rw [bind_of_ok guarded, if_pos (by simpa using other), bind_of_ok (log_apply _ middle)]
        rfl
  | consumerFailed =>
      refine ⟨middle, ⟨by rw [same], leads.reached, silent⟩, ?_⟩
      have guarded : guardedRace request container deadline scene =
          (stop request.runtime container request.grace >>= fun _ => throw .consumerFailed :
            Activity Verdict) middle := by
        rw [guardedRace_apply, concludes]
        rfl
      cases stops : stop request.runtime container request.grace middle with
      | ok value last =>
          rw [bind_of_ok stops] at guarded ⊢
          exact bind_of_error guarded
      | error problem last =>
          rw [bind_of_error stops] at guarded ⊢
          exact bind_of_error guarded

/-- A run whose race ends with the exit only settles: nothing is left to be stopped. -/
theorem supervise_of_exited {instant : Rat}
    (decided : IsDecided request deadline scene instant (.verdict .exited))
    (container : Option String) (began : Rat) :
    ∃ middle, LeadsTo scene instant middle ∧
      middle.engine.hasExited middle.now.instant = true ∧
      supervise request container began deadline scene =
        settle request container began .exited middle := by
  obtain ⟨middle, leads, concludes⟩ := race_of_decided decided
  have guarded : guardedRace request container deadline scene = .ok .exited middle := by
    rw [guardedRace_apply, concludes]
    rfl
  refine ⟨middle, leads, ?_, ?_⟩
  · rw [leads.engine_eq, leads.reached]
    exact hasExited_of_decided decided
  · unfold supervise
    rw [bind_of_ok guarded, if_neg (by simp)]

/-- A stop that a cancellation cuts short ends the run with its process alive. -/
theorem supervise_of_isCutShort {container : Option String} {began cancelledAt : Rat}
    (hosted : request.runtime.isHost = true) (obeys : scene.engine.Obeys)
    (pending : scene.cancelAt = some cancelledAt)
    (cut : IsCutShort request deadline scene.engine scene.now.instant cancelledAt) :
    ∃ last, supervise request container began deadline scene = .error .cancelled last ∧
      last.engine.hasExited last.now.instant = false := by
  obtain ⟨decision, ending, finishes, other, before, alive, remains⟩ := cut
  have decided : IsDecided request deadline scene decision ending :=
    ⟨finishes, fun at_ same => by cases pending.symm.trans same; exact before⟩
  obtain ⟨halted, halts, unfolded⟩ := supervise_of_decided decided other container began
  have engine : halted.engine = scene.engine := by rw [halts.same]
  have remaining : halted.cancelAt = some cancelledAt := by
    rw [halts.same]
    exact pending
  rw [unfolded]
  obtain ⟨last, stops, left⟩ := stop_of_isCutShort hosted (engine ▸ obeys) halts.reached remaining
    (engine ▸ alive) (engine ▸ remains)
  exact ⟨last, bind_of_error stops, left⟩

/-! ## The end of a run that nothing prevents -/

/-- Nothing but a cancellation is raised. -/
def IsUnfailing (_ : Scene) (problem : Option RunProblem) (_ : Scene) : Prop :=
  ∀ raised, problem = some raised → raised = .cancelled

instance : IsPassage IsUnfailing where
  refl _ := by simp [IsUnfailing]
  trans _ second := second

theorem isUnfailing_drain (request : Request) : Follows IsUnfailing (drain request) := by
  have paused : ∀ target turns, Follows IsUnfailing (pause target turns) := fun target turns =>
    .of_outcomes (fun _ _ _ _ => by simp [IsUnfailing]) fun _ _ _ raises raised same => by
      cases same
      exact (pause_eq_error.mp raises).1
  refine .bind .get fun scene => .ite (.pure _) ?_
  split
  · exact .ite (paused _ _) (paused _ _)
  · exact paused _ _

/-- The result of a run carries its verdict and the status with which its process has exited. -/
theorem settle_ok {container : Option String} {began : Rat} {verdict : Verdict}
    {result : RunResult} (returns : settle request container began verdict scene = .ok result last) :
    last.engine = scene.engine ∧
      (∃ instant, scene.engine.exit? = some (instant, result.exitStatus) ∧
        instant ≤ last.now.instant) ∧
      result = resultOf request container began verdict result.exitStatus last := by
  obtain ⟨status, exited, awaits, rest⟩ := bind_eq_ok.mp returns
  obtain ⟨_, drained, drains, finishes⟩ := bind_eq_ok.mp rest
  rw [finish_apply] at finishes
  cases finishes
  obtain ⟨instant, exits, reached, -⟩ := awaitExit_ok awaits
  have awaited := (waits_awaitExit .engine 2).ok awaits
  have waited := (waits_drain request).ok drains
  refine ⟨?_, ⟨instant, exits, ?_⟩, rfl⟩
  · exact (waited.process_eq .engine).trans (awaited.process_eq .engine)
  · calc
      instant ≤ exited.now.instant := reached ▸ le_max_right _ _
      _ ≤ drained.now.instant := Moment.instant_le waited.now

end Activity

end AnalysisEngines
