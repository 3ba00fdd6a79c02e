import AnalysisEngines.Proofs.Run.Execution
import AnalysisEngines.Proofs.Run.Postponement

/-!
# Runs that begin later

Two activities are in step if they return the same or raise the same from scenes that correspond,
and leave scenes that correspond.  A run that nobody cancels or aborts is in step with the same run
that begins later, and so reports the same: `run_postponed`.
-/

set_option autoImplicit false

namespace AnalysisEngines

namespace Activity

variable {α β : Type} {relation : Scene → Scene → Prop}

/-- The same value or the same problem, and scenes that stand in a relation. -/
inductive Agree (relation : Scene → Scene → Prop) :
    EStateM.Result RunProblem Scene α → EStateM.Result RunProblem Scene α → Prop where
  | ok {value last other} : relation last other → Agree relation (.ok value last) (.ok value other)
  | error {problem last other} : relation last other →
      Agree relation (.error problem last) (.error problem other)

/-- Activities whose outcomes agree if they begin in scenes that stand in a relation. -/
def InStep (relation : Scene → Scene → Prop) (first second : Activity α) : Prop :=
  ∀ scene other, relation scene other → Agree relation (first scene) (second other)

namespace InStep

theorem pure (value : α) :
    InStep relation (pure value : Activity α) (pure value) := fun _ _ => .ok

theorem throw (problem : RunProblem) :
    InStep relation (throw problem : Activity α) (throw problem) := fun _ _ => .error

theorem modify {change other : Scene → Scene}
    (keeps : ∀ scene later, relation scene later → relation (change scene) (other later)) :
    InStep relation (modify change : Activity PUnit) (modify other) :=
  fun _ _ related => .ok (keeps _ _ related)

theorem outcomes {first second : Activity α} (inStep : InStep relation first second)
    {scene later : Scene} (related : relation scene later) :
    (∃ value last other, first scene = .ok value last ∧ second later = .ok value other ∧
      relation last other) ∨
    (∃ problem last other, first scene = .error problem last ∧
      second later = .error problem other ∧ relation last other) := by
  have agree := inStep scene later related
  generalize first scene = outcome at agree
  generalize second later = outcome' at agree
  cases agree with
  | ok kept => exact .inl ⟨_, _, _, rfl, rfl, kept⟩
  | error kept => exact .inr ⟨_, _, _, rfl, rfl, kept⟩

theorem bind {first second : Activity α} {next other : α → Activity β}
    (begins : InStep relation first second)
    (continues : ∀ value, InStep relation (next value) (other value)) :
    InStep relation (first >>= next) (second >>= other) := by
  intro scene later related
  rcases begins.outcomes related with
    ⟨value, last, last', returns, returns', kept⟩ | ⟨problem, last, last', raises, raises', kept⟩
  · rw [bind_of_ok returns, bind_of_ok returns']
    exact continues value last last' kept
  · rw [bind_of_error raises, bind_of_error raises']
    exact .error kept

/-- What activities do with the scene that they find has to be in step only for scenes that
correspond. -/
theorem get {next other : Scene → Activity α}
    (continues : ∀ scene later, relation scene later →
      InStep relation (next scene) (other later)) :
    InStep relation (get >>= next) (get >>= other) := by
  intro scene later related
  rw [bind_of_ok (get_apply scene), bind_of_ok (get_apply later)]
  exact continues scene later related scene later related

theorem ite {condition other : Prop} [Decidable condition] [Decidable other]
    (same : condition ↔ other) {yes yes' no no' : Activity α} (whenYes : InStep relation yes yes')
    (whenNo : InStep relation no no') :
    InStep relation (if condition then yes else no) (if other then yes' else no') := by
  by_cases holds : condition
  · rw [if_pos holds, if_pos (same.mp holds)]
    exact whenYes
  · rw [if_neg holds, if_neg (mt same.mpr holds)]
    exact whenNo

theorem tryCatch {body other : Activity α} {handler handler' : RunProblem → Activity α}
    (tries : InStep relation body other)
    (catches : ∀ problem, InStep relation (handler problem) (handler' problem)) :
    InStep relation (tryCatch body handler) (tryCatch other handler') := by
  intro scene later related
  rw [tryCatch_apply, tryCatch_apply]
  rcases tries.outcomes related with
    ⟨value, last, last', returns, returns', kept⟩ | ⟨problem, last, last', raises, raises', kept⟩
  · rw [returns, returns']
    exact .ok kept
  · rw [raises, raises']
    exact catches problem last last' kept

end InStep

end Activity

namespace Scene

/-- The same scene on a clock that is ahead by a span, if nobody cancels it. -/
structure IsPostponed (span : Rat) (scene later : Scene) : Prop where
  now : later.now.instant = span + scene.now.instant
  engine : later.engine = scene.engine.startedAt span
  helperProcess : later.helperProcess = scene.helperProcess.startedAt span
  helper : later.helper = scene.helper
  clientFound : later.clientFound = scene.clientFound
  uncancelled : scene.cancelAt = none ∧ later.cancelAt = none

variable {span : Rat} {scene later : Scene}

theorem IsPostponed.process (postponed : IsPostponed span scene later) (role : Role) :
    later.process role = (scene.process role).startedAt span := by
  cases role with
  | engine => exact postponed.engine
  | helper => exact postponed.helperProcess

theorem IsPostponed.setProcess (postponed : IsPostponed span scene later) (role : Role)
    (process : Process) : IsPostponed span (scene.setProcess role process)
      (later.setProcess role (process.startedAt span)) := by
  cases role with
  | engine => exact { postponed with engine := rfl }
  | helper => exact { postponed with helperProcess := rfl }

theorem IsPostponed.waitFor (postponed : IsPostponed span scene later) (target : Rat)
    (turns : Nat) : IsPostponed span (scene.waitFor target turns)
      (later.waitFor (span + target) turns) :=
  { postponed with
    now := by simp only [waitFor_instant, postponed.now, max_add_add_left] }

theorem IsPostponed.hasExited (postponed : IsPostponed span scene later) (role : Role) :
    (later.process role).hasExited later.now.instant =
      (scene.process role).hasExited scene.now.instant := by
  rw [postponed.process, postponed.now, Process.hasExited_startedAt]

end Scene

namespace Activity

variable {span : Rat}

/-! ## Stopping -/

theorem inStep_note (first second : Note) :
    InStep (Scene.IsPostponed span) (note first) (note second) :=
  .modify fun _ _ postponed => { postponed with }

theorem inStep_pass (turns : Nat) : InStep (Scene.IsPostponed span) (pass turns) (pass turns) :=
  .modify fun _ _ postponed => { postponed with }

theorem inStep_pause (target : Rat) (turns : Nat) :
    InStep (Scene.IsPostponed span) (pause target turns) (pause (span + target) turns) := by
  intro scene later postponed
  unfold pause
  rw [postponed.uncancelled.1, postponed.uncancelled.2]
  exact .ok (postponed.waitFor target turns)

theorem inStep_waitForever {α : Type} :
    InStep (Scene.IsPostponed span) (waitForever : Activity α) waitForever := by
  intro scene later postponed
  unfold waitForever
  rw [postponed.uncancelled.1, postponed.uncancelled.2]
  exact .error postponed

theorem inStep_delay (length : Rat) :
    InStep (Scene.IsPostponed span) (delay length) (delay length) := by
  refine .ite Iff.rfl (.pure _) (.get fun scene later postponed => ?_)
  rw [postponed.now, add_assoc]
  exact inStep_pause _ _

theorem inStep_hasExited (role : Role) :
    InStep (Scene.IsPostponed span) (hasExited role) (hasExited role) := by
  refine .get fun scene later postponed => ?_
  rw [postponed.hasExited role]
  exact .pure _

theorem inStep_send (role : Role) (signal : Signal) :
    InStep (Scene.IsPostponed span) (send role signal) (send role signal) := by
  refine .get fun scene later postponed => ?_
  have reaction : (later.process role).reaction signal = (scene.process role).reaction signal := by
    rw [postponed.process]
    cases signal <;> rfl
  have reacts : (later.process role).react signal later.now.instant =
      ((scene.process role).react signal scene.now.instant).startedAt span := by
    rw [postponed.process, postponed.now, Process.react_startedAt]
  refine .ite (by rw [postponed.hasExited role]) (.pure _) (.bind (inStep_note _ _) fun _ => ?_)
  have reached : InStep (Scene.IsPostponed span)
      (do modify fun current =>
            current.setProcess role ((scene.process role).react signal scene.now.instant)
          return true : Activity Bool)
      (do modify fun current =>
            current.setProcess role ((later.process role).react signal later.now.instant)
          return true) := by
    rw [reacts]
    exact .bind (.modify fun _ _ related => related.setProcess role _) fun _ => .pure _
  rw [reaction]
  cases (scene.process role).reaction signal with
  | vanished => exact .pure _
  | ignores => exact reached
  | exits delay status => exact reached

theorem inStep_exitsWithin (role : Role) (length : Option Rat) :
    InStep (Scene.IsPostponed span) (exitsWithin role length) (exitsWithin role length) := by
  have paused : ∀ target turns answer, InStep (Scene.IsPostponed span)
      (do pause target turns; return answer : Activity Bool)
      (do pause (span + target) turns; return answer) :=
    fun target turns answer => .bind (inStep_pause target turns) fun _ => .pure _
  refine .get fun scene later postponed => ?_
  rw [postponed.process, Process.exit?_startedAt, postponed.now]
  cases length with
  | none =>
      cases (scene.process role).exit? with
      | none => exact inStep_waitForever
      | some exit => exact paused _ _ _
  | some length =>
      refine .ite Iff.rfl (.bind (inStep_pass 3) fun _ => .pure _) ?_
      have limit : span + scene.now.instant + length = span + (scene.now.instant + length) :=
        add_assoc _ _ _
      simp only [limit]
      cases (scene.process role).exit? with
      | none => exact paused _ _ _
      | some exit => exact .ite (add_le_add_iff_left span).symm (paused _ _ _) (paused _ _ _)

theorem inStep_awaitExit (role : Role) (turns : Nat) :
    InStep (Scene.IsPostponed span) (awaitExit role turns) (awaitExit role turns) := by
  refine .get fun scene later postponed => ?_
  rw [postponed.process, Process.exit?_startedAt, postponed.now]
  cases (scene.process role).exit? with
  | none => exact inStep_waitForever
  | some exit =>
      refine .ite (add_lt_add_iff_left span).symm ?_ (.pure _)
      exact .bind (inStep_pause _ _) fun _ => .pure _

theorem inStep_kill (role : Role) (grace : Number) :
    InStep (Scene.IsPostponed span) (kill role grace) (kill role grace) := by
  have awaits : InStep (Scene.IsPostponed span) (discard (awaitExit role 1))
      (discard (awaitExit role 1)) := .bind (inStep_awaitExit role 1) fun _ => .pure _
  refine .get fun _ _ _ => .bind (inStep_note _ _) fun _ => ?_
  refine .bind (inStep_send role .kill) fun _ => .ite Iff.rfl ?_ awaits
  refine .bind (inStep_hasExited role) fun _ => .ite Iff.rfl ?_ awaits
  exact .bind (inStep_pass 2) fun _ => awaits

theorem inStep_terminate (role : Role) (grace : Number) :
    InStep (Scene.IsPostponed span) (terminate role grace) (terminate role grace) := by
  refine .bind (inStep_hasExited role) fun _ => .ite Iff.rfl (.pure _) ?_
  refine .bind (inStep_send role .terminate) fun _ => .ite Iff.rfl (.pure _) ?_
  refine .bind (inStep_exitsWithin role _) fun _ => .ite Iff.rfl (.pure _) ?_
  exact inStep_kill role grace

theorem inStep_locateClient (client : String) :
    InStep (Scene.IsPostponed span) (locateClient client) (locateClient client) := by
  refine .get fun scene later postponed => ?_
  rw [postponed.clientFound]
  refine .bind (.modify fun _ _ related => { related with clientFound := rfl }) fun _ => ?_
  exact .ite Iff.rfl (.pure _) (.throw _)

theorem inStep_wholeSeconds (grace : Number) :
    InStep (Scene.IsPostponed span) (wholeSeconds grace) (wholeSeconds grace) := by
  unfold wholeSeconds
  split
  · exact .pure _
  · split
    · exact .pure _
    · exact .throw _

theorem inStep_startHelper (command : List String) :
    InStep (Scene.IsPostponed span) (startHelper command) (startHelper command) := by
  refine .get fun scene later postponed => ?_
  rw [postponed.helper]
  refine .bind (inStep_delay _) fun _ => .bind (inStep_note _ _) fun _ => ?_
  cases scene.helper.fault with
  | some fault => exact .throw _
  | none =>
      refine .modify fun first second related => ?_
      have name : second.engine.name = first.engine.name := by
        rw [related.engine]
        rfl
      exact
        { related with
          helperProcess := by rw [related.now, name, Helper.processAt_startedAt]
          engine := by rw [related.now, related.engine, Helper.actOn_startedAt] }

theorem inStep_stopContainer (client container : String) (grace : Number) :
    InStep (Scene.IsPostponed span) (stopContainer client container grace)
      (stopContainer client container grace) := by
  refine .bind (inStep_locateClient client) fun _ => .bind (inStep_wholeSeconds grace) fun _ => ?_
  refine .bind (inStep_note _ _) fun _ => .bind (inStep_startHelper _) fun _ => ?_
  refine .bind (inStep_exitsWithin _ _) fun _ => .ite Iff.rfl (.pure _) ?_
  exact .bind (inStep_note _ _) fun _ => inStep_terminate _ _

theorem inStep_stop (runtime : Runtime) (container : Option String) (grace : Number) :
    InStep (Scene.IsPostponed span) (stop runtime container grace)
      (stop runtime container grace) := by
  cases runtime with
  | host => exact inStep_terminate _ _
  | container client =>
      refine .bind (inStep_hasExited _) fun _ => .ite Iff.rfl (.pure _) ?_
      dsimp only
      split
      · exact .bind (inStep_stopContainer _ _ _) fun _ => inStep_terminate _ _
      · exact inStep_terminate _ _

/-! ## Starting -/

theorem inStep_launch (request : Request) (command : List String)
    (environment : Option (List (String × String))) (directory : Option String)
    (failure : SpawnFault → Failure) :
    InStep (Scene.IsPostponed span) (launch request command environment directory failure)
      (launch request command environment directory failure) := by
  refine .bind (inStep_delay _) fun _ => .bind (inStep_note _ _) fun _ => ?_
  cases request.launch.fault with
  | some fault => exact .throw _
  | none =>
      refine .modify fun _ _ related => { related with engine := ?_ }
      rw [related.now, Process.startedAt_startedAt]

theorem inStep_start (request : Request) :
    InStep (Scene.IsPostponed span) (start request) (start request) := by
  unfold start
  dsimp only
  split
  · split
    · exact .throw _
    · exact .bind (inStep_launch _ _ _ _ _) fun _ => .pure _
  · refine .bind (inStep_locateClient _) fun _ => .bind (inStep_note _ _) fun _ => ?_
    exact .bind (inStep_launch _ _ _ _ _) fun _ => .pure _

/-! ## Racing and reporting -/

variable {request : Request} {deadline : Option Rat}

theorem field_startedAt (unaborted : request.abortAt = none) (process : Process) :
    field request (process.startedAt span) = (field request process).postponed span := by
  have captured := process.capture_startedAt span (ceiling request) request.consumer none
  simp only [field, Field.postponed, Process.exit?_startedAt, unaborted, Option.map_map,
    Function.comp_def]
  exact congrArg (fun capture : Capture => (⟨capture.finish, _, _, _⟩ : Field)) captured

theorem raceOf_postponed (unaborted : request.abortAt = none) {scene later : Scene}
    (postponed : scene.IsPostponed span later) :
    raceOf request (deadline.map (span + ·)) later =
      (raceOf request deadline scene).postponed span := by
  rw [raceOf, postponed.engine, postponed.now, field_startedAt unaborted, Field.run_postponed]
  rfl

theorem inStep_race (unaborted : request.abortAt = none) (deadline : Option Rat) :
    InStep (Scene.IsPostponed span) (race request deadline)
      (race request (deadline.map (span + ·))) := by
  refine .get fun scene later postponed => ?_
  have concludes : ∀ ending, InStep (Scene.IsPostponed span) (conclude ending)
      (conclude ending) := by
    intro ending
    cases ending with
    | verdict verdict => exact .pure _
    | consumerFailed => exact .throw _
  dsimp only
  rw [raceOf_postponed unaborted postponed]
  cases finishes : (raceOf request deadline scene).finish with
  | none =>
      simp only [Race.postponed, finishes, Option.map_none]
      exact inStep_waitForever
  | some finish =>
      simp only [Race.postponed, finishes, Option.map_some, postpone]
      refine .ite Iff.rfl ?_ (concludes _)
      exact .bind (inStep_pause _ _) fun _ => concludes _

theorem inStep_guardedRace (unaborted : request.abortAt = none) (container : Option String)
    (deadline : Option Rat) :
    InStep (Scene.IsPostponed span) (guardedRace request container deadline)
      (guardedRace request container (deadline.map (span + ·))) := by
  refine .tryCatch (inStep_race unaborted deadline) fun problem => ?_
  have stops : InStep (Scene.IsPostponed span)
      (do stop request.runtime container request.grace; throw problem : Activity Verdict)
      (do stop request.runtime container request.grace; throw problem) :=
    .bind (inStep_stop _ _ _) fun _ => .throw _
  cases problem with
  | unending => exact .throw _
  | _ => exact stops

theorem lastOf_postpone (now : Rat) (instants : List (Option Rat)) :
    lastOf (span + now) (instants.map (Option.map (span + ·))) =
      (lastOf now instants).map (span + ·) := by
  have start : some (span + now) = (some now).map (span + ·) := rfl
  unfold lastOf
  rw [List.foldl_map, start]
  refine List.foldl_hom _ fun latest instant => ?_
  cases latest <;> cases instant <;> simp [Instant.later_eq_max, max_add_add_left]

theorem readers_startedAt (request : Request) (process : Process) :
    readers request (process.startedAt span) =
      (readers request process).map (Option.map (span + ·)) := by
  have captured := process.capture_startedAt span (ceiling request) request.consumer none
  rw [Option.map_none] at captured
  simp only [readers, captured, Capture.postponed, Process.pipe_startedAt, Pipe.startedAt,
    List.map_cons, List.map_nil, Option.map_map]
  rfl

theorem filter_isPending_postpone (now : Rat) (instants : List (Option Rat)) :
    (instants.map (Option.map (span + ·))).filter (isPending (span + now)) =
      (instants.filter (isPending now)).map (Option.map (span + ·)) := by
  rw [List.filter_map]
  congr 1
  apply List.filter_congr
  intro instant _
  cases instant <;> simp [isPending]

theorem inStep_drain (request : Request) :
    InStep (Scene.IsPostponed span) (drain request) (drain request) := by
  refine .get fun scene later postponed => ?_
  have limit : span + scene.now.instant + drainSpan = span + (scene.now.instant + drainSpan) :=
    add_assoc _ _ _
  simp only [postponed.engine, postponed.now, readers_startedAt, filter_isPending_postpone,
    List.isEmpty_map, lastOf_postpone, limit]
  refine .ite Iff.rfl (.pure _) ?_
  cases lastOf scene.now.instant
      ((readers request scene.engine).filter (isPending scene.now.instant)) with
  | none => exact inStep_pause _ _
  | some instant =>
      exact .ite (add_le_add_iff_left span).symm (inStep_pause _ _) (inStep_pause _ _)

theorem inStep_finish (container : Option String) (began : Rat) (verdict : Verdict)
    (exitStatus : Int) :
    InStep (Scene.IsPostponed span) (finish request container began verdict exitStatus)
      (finish request container (span + began) verdict exitStatus) := by
  intro scene later postponed
  have same : resultOf request container (span + began) verdict exitStatus later =
      resultOf request container began verdict exitStatus scene := by
    have duration : later.now.instant - (span + began) = scene.now.instant - began := by
      rw [postponed.now, add_sub_add_left_eq_sub]
    have output : capturedOutput request later = capturedOutput request scene := by
      have captured := scene.engine.capture_startedAt span (ceiling request) .result
        (some scene.now.instant)
      unfold capturedOutput
      rw [postponed.engine, postponed.now]
      cases request.consumer with
      | chunks => rfl
      | result =>
          rw [Option.map_some] at captured
          rw [captured]
          rfl
    have stderr : later.engine.stderrTail later.now.instant =
        scene.engine.stderrTail scene.now.instant := by
      rw [postponed.engine, postponed.now, Process.stderrTail_startedAt]
    simp only [resultOf, duration, output, stderr]
  rw [finish_apply, finish_apply, same]
  exact .ok { postponed with }

theorem inStep_settle (container : Option String) (began : Rat) (verdict : Verdict) :
    InStep (Scene.IsPostponed span) (settle request container began verdict)
      (settle request container (span + began) verdict) :=
  .bind (inStep_awaitExit .engine 2) fun _ =>
    .bind (inStep_drain request) fun _ => inStep_finish container began verdict _

theorem inStep_supervise (unaborted : request.abortAt = none) (container : Option String)
    (began : Rat) (deadline : Option Rat) :
    InStep (Scene.IsPostponed span) (supervise request container began deadline)
      (supervise request container (span + began) (deadline.map (span + ·))) := by
  refine .bind (inStep_guardedRace unaborted container deadline) fun verdict => ?_
  refine .ite Iff.rfl ?_ (inStep_settle container began verdict)
  refine .bind (inStep_note _ _) fun _ => .bind (inStep_stop _ _ _) fun _ => ?_
  exact inStep_settle container began verdict

theorem inStep_execute (unaborted : request.abortAt = none) :
    InStep (Scene.IsPostponed span) (execute request) (execute request) := by
  refine .get fun scene later postponed => .bind (inStep_start request) fun container => ?_
  have deadline : request.deadline later.now.instant =
      (request.deadline scene.now.instant).map (span + ·) := by
    unfold Request.deadline
    rw [postponed.now]
    cases request.limits.timeout.span <;> simp [add_assoc]
  rw [deadline, postponed.now]
  exact .bind (inStep_note _ _) fun _ => inStep_supervise unaborted container _ _

end Activity

namespace Execution

theorem isPostponed_opening {request : Request} (uncancelled : request.cancelAt = none)
    (origin : Moment) :
    (opening request .start).IsPostponed origin.instant (opening request origin) where
  now := (add_zero _).symm
  engine := rfl
  helperProcess := rfl
  helper := rfl
  clientFound := rfl
  uncancelled := ⟨uncancelled, uncancelled⟩

/-- A run that nobody cancels or aborts reports the same whenever it is asked for. -/
theorem result_run (request : Request) (uncancelled : request.cancelAt = none)
    (unaborted : request.abortAt = none) (origin : Moment) :
    (run request origin).result = (run request .start).result := by
  rcases (Activity.inStep_execute unaborted).outcomes (isPostponed_opening uncancelled origin) with
    ⟨result, last, last', returns, returns', -⟩ | ⟨problem, last, last', raises, raises', -⟩
  · rw [run_of_ok returns, run_of_ok returns']
  · rw [run_of_error raises, run_of_error raises']

end Execution

end AnalysisEngines
