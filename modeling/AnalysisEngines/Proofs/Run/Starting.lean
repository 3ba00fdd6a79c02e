import AnalysisEngines.Proofs.Run.Waiting
import Mathlib.Data.Rat.Defs

/-!
# How a start ends

A start returns with a process whose script begins at that instant.  It fails where the command, the
client or the process is missing, and a cancellation may strike while it takes its time.
-/

set_option autoImplicit false

namespace AnalysisEngines

/-- What a start needs: a command or a client, and a process that can be started. -/
structure Request.Starts (request : Request) : Prop where
  launches : request.launch.fault = none
  startable : match request.runtime with
    | .host .. => request.spec.givenCommand ≠ []
    | .container _ => (Container.lookUp request.clientFound).1 = true

/-- When the process runs that is asked for at an instant. -/
def Launch.startInstant (launch : Launch) (origin : Rat) : Rat := origin + max launch.startDelay 0

/-- No cancellation strikes before the process runs. -/
def Launch.IsUndisturbed (launch : Launch) (origin : Rat) (cancelAt : Option Rat) : Prop :=
  ∀ cancelledAt, cancelAt = some cancelledAt →
    launch.startDelay ≤ 0 ∨ launch.startInstant origin < cancelledAt

theorem Container.lookUp_found {answers : List Bool} (found : ∀ answer ∈ answers, answer = true) :
    (lookUp answers).1 = true ∧ ∀ answer ∈ (lookUp answers).2, answer = true := by
  match answers with
  | [] => simp [lookUp]
  | [answer] => simpa [lookUp] using found
  | answer :: next :: rest => simp_all [lookUp]

/-- The answers about the client that a start leaves to later look-ups. -/
def Runtime.answersLeft (runtime : Runtime) (answers : List Bool) : List Bool :=
  match runtime with
  | .host .. => answers
  | .container _ => (Container.lookUp answers).2

theorem Runtime.answersLeft_found {answers : List Bool} (runtime : Runtime)
    (found : ∀ answer ∈ answers, answer = true) :
    ∀ answer ∈ runtime.answersLeft answers, answer = true := by
  cases runtime with
  | host => exact found
  | container => exact (Container.lookUp_found found).2

/-- The name of the container in which a started engine runs, as the start answers it. -/
def Request.container (request : Request) : Option String :=
  match request.runtime with
  | .host .. => request.spec.containerName
  | .container _ => some request.containerName

/-- A scene in which the process has just been started. -/
structure Scene.HasStarted (scene : Scene) (launch : Launch) (answers : List Bool)
    (last : Scene) : Prop where
  instant : last.now.instant = launch.startInstant scene.now.instant
  engine : last.engine = launch.process.startedAt last.now.instant
  cancelAt : last.cancelAt = scene.cancelAt
  helper : last.helper = scene.helper
  undisturbed : launch.IsUndisturbed scene.now.instant scene.cancelAt
  client : last.clientFound = answers

namespace Activity

variable {scene last : Scene}

theorem delay_ok {span : Rat} {value : Unit} (returns : delay span scene = .ok value last) :
    last.now.instant = scene.now.instant + max span 0 ∧
      last = { scene with now := last.now } ∧
        ∀ cancelledAt, scene.cancelAt = some cancelledAt →
          span ≤ 0 ∨ scene.now.instant + max span 0 < cancelledAt := by
  unfold delay at returns
  by_cases short : span ≤ 0
  · simp only [short, if_true, pure_apply] at returns
    cases returns
    exact ⟨by rw [max_eq_right short, add_zero], rfl, fun _ _ => .inl short⟩
  · simp only [short, if_false, bind_of_ok (get_apply scene)] at returns
    obtain ⟨unstruck, rfl⟩ := pause_eq_ok.mp returns
    have long := (not_le.mp short).le
    rw [max_eq_left long]
    refine ⟨?_, rfl, fun cancelledAt pending => .inr (unstruck cancelledAt pending)⟩
    rw [Scene.waitFor_instant]
    exact max_eq_right (le_add_of_nonneg_right long)

theorem delay_error {span : Rat} {problem : RunProblem}
    (raises : delay span scene = .error problem last) :
    problem = .cancelled ∧ 0 < span ∧
      ∃ cancelledAt, scene.cancelAt = some cancelledAt ∧ cancelledAt ≤ scene.now.instant + span := by
  unfold delay at raises
  by_cases short : span ≤ 0
  · simp only [short, if_true, pure_apply] at raises
    cases raises
  · simp only [short, if_false, bind_of_ok (get_apply scene)] at raises
    obtain ⟨rfl, cancelledAt, pending, before, -⟩ := pause_eq_error.mp raises
    exact ⟨rfl, not_le.mp short, cancelledAt, pending, before⟩

variable {request : Request} {command : List String}
  {environment : Option (List (String × String))} {directory : Option String}
  {failure : SpawnFault → Failure}

theorem launch_ok {value : Unit}
    (returns : launch request command environment directory failure scene = .ok value last) :
    request.launch.fault = none ∧
      scene.HasStarted request.launch scene.clientFound last := by
  unfold launch at returns
  obtain ⟨_, delayed, delays, rest⟩ := bind_eq_ok.mp returns
  obtain ⟨instant, same, undisturbed⟩ := delay_ok delays
  rw [bind_of_ok (note_apply _ delayed)] at rest
  cases fault : request.launch.fault with
  | some fault =>
      simp only [fault] at rest
      cases rest
  | none =>
      simp only [fault] at rest
      cases rest
      refine ⟨rfl, instant, rfl, ?_, ?_, undisturbed, ?_⟩
      · rw [same]
      · rw [same]
      · rw [same]

theorem launch_error {problem : RunProblem}
    (raises : launch request command environment directory failure scene = .error problem last) :
    (problem = .cancelled ∧ ¬ request.launch.IsUndisturbed scene.now.instant scene.cancelAt) ∨
      ((∃ fault, problem = .failure (failure fault)) ∧ request.launch.fault ≠ none) := by
  unfold launch at raises
  rcases bind_eq_error.mp raises with delays | ⟨_, delayed, _, rest⟩
  · obtain ⟨rfl, long, cancelledAt, pending, before⟩ := delay_error delays
    refine .inl ⟨rfl, fun undisturbed => ?_⟩
    rcases undisturbed cancelledAt pending with short | after
    · exact absurd short (not_le.mpr long)
    · rw [Launch.startInstant, max_eq_left long.le] at after
      exact absurd before (not_le.mpr after)
  · rw [bind_of_ok (note_apply _ delayed)] at rest
    cases faulty : request.launch.fault with
    | none =>
        simp only [faulty] at rest
        cases rest
    | some fault =>
        simp only [faulty] at rest
        cases rest
        exact .inr ⟨⟨fault, rfl⟩, by simp⟩

theorem locateClient_apply (client : String) (scene : Scene) :
    locateClient client scene =
      if (Container.lookUp scene.clientFound).1 then
        .ok (Container.clientPath client)
          { scene with clientFound := (Container.lookUp scene.clientFound).2 }
      else
        .error (.failure (Container.clientMissing client))
          { scene with clientFound := (Container.lookUp scene.clientFound).2 } := by
  unfold locateClient
  rw [bind_of_ok (get_apply scene)]
  split <;> simp_all [bind_of_ok (modify_apply _ scene)]

theorem start_ok {container : Option String} (same : scene.clientFound = request.clientFound)
    (returns : start request scene = .ok container last) :
    request.Starts ∧ container = request.container ∧
      scene.HasStarted request.launch (request.runtime.answersLeft scene.clientFound) last := by
  unfold start at returns
  cases runtime : request.runtime with
  | host inherits surroundings =>
      simp only [runtime] at returns
      cases given : request.spec.givenCommand with
      | nil =>
          simp only [given] at returns
          cases returns
      | cons program arguments =>
          simp only [given] at returns
          obtain ⟨_, middle, launches, ends⟩ := bind_eq_ok.mp returns
          cases ends
          obtain ⟨fault, started⟩ := launch_ok launches
          exact ⟨⟨fault, by simp [runtime, given]⟩, by simp [Request.container, runtime], started⟩
  | container client =>
      simp only [runtime] at returns
      obtain ⟨path, located, locates, rest⟩ := bind_eq_ok.mp returns
      rw [bind_of_ok (log_apply _ located)] at rest
      obtain ⟨_, middle, launches, ends⟩ := bind_eq_ok.mp rest
      cases ends
      obtain ⟨fault, started⟩ := launch_ok launches
      rw [locateClient_apply] at locates
      by_cases found : (Container.lookUp scene.clientFound).1 = true
      · rw [if_pos found] at locates
        cases locates
        refine ⟨⟨fault, by simpa [runtime, ← same] using found⟩, by simp [Request.container, runtime], ?_⟩
        exact { started with client := started.client }
      · rw [if_neg found] at locates
        cases locates

theorem start_error {problem : RunProblem} (same : scene.clientFound = request.clientFound)
    (raises : start request scene = .error problem last) :
    (problem = .cancelled ∧ ¬ request.launch.IsUndisturbed scene.now.instant scene.cancelAt) ∨
      ((∃ failure, problem = .failure failure) ∧ ¬ request.Starts) := by
  have failed : ∀ {failure : SpawnFault → Failure},
      (∃ fault, problem = .failure (failure fault)) ∧ request.launch.fault ≠ none →
        (∃ failure, problem = .failure failure) ∧ ¬ request.Starts :=
    fun ⟨⟨fault, isFailure⟩, faulty⟩ => ⟨⟨_, isFailure⟩, fun starts => faulty starts.launches⟩
  unfold start at raises
  cases runtime : request.runtime with
  | host inherits surroundings =>
      simp only [runtime] at raises
      cases given : request.spec.givenCommand with
      | nil =>
          simp only [given] at raises
          cases raises
          refine .inr ⟨⟨_, rfl⟩, fun starts => ?_⟩
          simpa [runtime, given] using starts.startable
      | cons program arguments =>
          simp only [given] at raises
          rcases bind_eq_error.mp raises with launches | ⟨_, _, _, ends⟩
          · exact (launch_error launches).imp id failed
          · cases ends
  | container client =>
      simp only [runtime] at raises
      rcases bind_eq_error.mp raises with locates | ⟨path, located, locates, rest⟩
      · rw [locateClient_apply] at locates
        by_cases found : (Container.lookUp scene.clientFound).1 = true
        · rw [if_pos found] at locates
          cases locates
        · rw [if_neg found] at locates
          cases locates
          refine .inr ⟨⟨_, rfl⟩, fun starts => found ?_⟩
          simpa [runtime, same] using starts.startable
      · rw [bind_of_ok (log_apply _ located)] at rest
        rw [locateClient_apply] at locates
        by_cases found : (Container.lookUp scene.clientFound).1 = true
        · rw [if_pos found] at locates
          cases locates
          rcases bind_eq_error.mp rest with launches | ⟨_, _, _, ends⟩
          · exact (launch_error launches).imp id failed
          · cases ends
        · rw [if_neg found] at locates
          cases locates

variable {kind : Note → Bool}

theorem keepsSilent_launch (request : Request) (command : List String)
    (environment : Option (List (String × String))) (directory : Option String)
    (failure : SpawnFault → Failure)
    (spawned : kind (.spawned command environment directory) = false) :
    Follows (Scene.KeepsSilent kind) (launch request command environment directory failure) := by
  refine .bind (waits_delay _).keepsSilent fun _ => .bind (keepsSilent_note spawned) fun _ => ?_
  split
  · exact keepsSilent_throw _
  · exact .modify fun _ _ member _ => member

theorem keepsSilent_start (request : Request)
    (spawned : ∀ command environment directory,
      kind (.spawned command environment directory) = false)
    (called : ∀ command, kind (.notice (.clientCalled command)) = false) :
    Follows (Scene.KeepsSilent kind) (start request) := by
  unfold start
  dsimp only
  split
  · split
    · exact keepsSilent_throw _
    · exact .bind (keepsSilent_launch _ _ _ _ _ (spawned _ _ _)) fun _ => .pure _
  · refine .bind (keepsSilent_locateClient _) fun _ => ?_
    refine .bind (keepsSilent_note (called _)) fun _ => ?_
    exact .bind (keepsSilent_launch _ _ _ _ _ (spawned _ _ _)) fun _ => .pure _

/-- A start that lacks nothing and is not disturbed returns. -/
theorem start_of_starts (starts : request.Starts) (same : scene.clientFound = request.clientFound)
    (undisturbed : request.launch.IsUndisturbed scene.now.instant scene.cancelAt) :
    ∃ container last, start request scene = .ok container last := by
  cases outcome : start request scene with
  | ok container last => exact ⟨container, last, rfl⟩
  | error problem last =>
      rcases start_error same outcome with ⟨-, disturbed⟩ | ⟨-, fails⟩
      · exact absurd undisturbed disturbed
      · exact absurd starts fails

end Activity

end AnalysisEngines
