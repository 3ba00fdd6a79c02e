import AnalysisEngines.Proofs.Run.Reaching

/-!
# Runs that leave their process alone

A run over a container whose time limit passes, whose output exceeds the ceiling or that is aborted
stops its process.  When it ends, the process has exited or has been asked to terminate, unless the
client could no longer be asked: `container_isReached_iff`.
-/

set_option autoImplicit false

namespace AnalysisEngines

namespace Activity

/-- What a stop has reached is not lost in the rest of the run. -/
theorem afterStop_isReached (request : Request) (container : Option String) (began : Rat)
    (ending : RaceEnd) :
    Follows (fun before _ after => before.IsReached → after.IsReached)
      (afterStop request container began ending) := by
  cases ending with
  | consumerFailed => exact fun _ => id
  | verdict verdict =>
      have leads := isStepwise_leads.settle request container began verdict
      have keeps := isStepwise_keeps.settle request container began verdict
      have exits := staysExited_settle request container began verdict
      refine .of_outcomes (fun scene _ last returns reached => ?_)
        fun scene _ last raises reached => ?_
      · exact reached.imp (exits.ok returns) (asked_of_leads (leads.ok returns) (keeps.ok returns))
      · exact reached.imp (exits.error raises)
          (asked_of_leads (leads.error raises) (keeps.error raises))

end Activity

/-- A run whose process is to be stopped in a container that the client cannot be asked to stop, and
lives when this turns out. -/
def Request.IsStranded (request : Request) (origin : Rat) : Prop :=
  let start := request.launch.startInstant origin
  let process := request.processAt start
  ∃ began ending,
    ((Activity.field request process).run (request.deadline origin) start).finish =
      some (began, ending) ∧
    ending ≠ .verdict .exited ∧
    ∃ instant, Container.refusedAt? (request.runtime.answersLeft request.clientFound)
        request.helper request.grace began = some instant ∧
      process.hasExited instant = false

theorem given?_eq_some_iff {text : Option String} {name : String} :
    given? text = some name ↔ text = some name ∧ name ≠ "" := by
  unfold given?
  split
  · simp
  · rename_i other
    constructor
    · rintro rfl
      exact ⟨rfl, fun empty => other (by rw [empty])⟩
    · exact fun both => both.1

theorem Container.nameFor_ne_empty (engineName token : String) : nameFor engineName token ≠ "" := by
  intro empty
  have none_left := congrArg String.length empty
  have stem : "analyzer-".length = 9 := by decide
  simp only [nameFor, nameStem, String.length_append, stem, String.length_empty] at none_left
  omega

/-- A container that a run starts has a name. -/
theorem Request.given?_container {request : Request} {client : String}
    (contained : request.runtime = .container client) :
    given? request.container = some request.containerName := by
  rw [container, contained]
  refine given?_eq_some_iff.mpr ⟨rfl, ?_⟩
  unfold containerName
  cases given : given? request.spec.containerName with
  | some name => exact (given?_eq_some_iff.mp given).2
  | none => exact Container.nameFor_ne_empty _ _

namespace Execution

variable {request : Request} {origin : Moment}

/-- By the end of the run its process has exited, or has been asked to terminate. -/
def IsReached (execution : Execution) : Prop :=
  execution.engine.hasExited execution.finish.instant = true ∨
    IsAsked execution.engine.name execution.notes

theorem isReached_of_ok {result : RunResult} {last : Scene}
    (returns : Activity.execute request (opening request origin) = .ok result last) :
    (run request origin).IsReached ↔ last.IsReached := by
  rw [run_of_ok returns]
  rfl

theorem isReached_of_error {problem : RunProblem} {last : Scene}
    (raises : Activity.execute request (opening request origin) = .error problem last) :
    (run request origin).IsReached ↔ last.IsReached := by
  rw [run_of_error raises]
  rfl

/-- The process of a run is stranded if it is when the stop begins. -/
theorem isStranded_iff {client : String} (contained : request.runtime = .container client)
    {scene halted : Scene} {began : Rat} {ending : RaceEnd}
    (underWay : Activity.IsUnderWay request origin scene)
    (finishes : (Activity.raceOf request (request.deadline origin.instant) scene).finish =
      some (began, ending))
    (other : ending ≠ .verdict .exited) (halts : Activity.IsHalted scene began halted) :
    halted.IsStranded request.container request.grace ↔ request.IsStranded origin.instant := by
  rw [underWay.raceOf_eq] at finishes
  have refusal : halted.refusedAt? request.grace =
      Container.refusedAt? (request.runtime.answersLeft request.clientFound) request.helper
        request.grace began := by
    rw [halts.same, Scene.refusedAt?]
    simp only [underWay.client, underWay.helper, halts.reached]
  have engine : halted.engine =
      request.processAt (request.launch.startInstant origin.instant) := by
    rw [halts.same]
    exact underWay.engine
  constructor
  · rintro ⟨-, -, instant, refused, alive⟩
    exact ⟨began, ending, finishes, other, instant, refusal ▸ refused, engine ▸ alive⟩
  · rintro ⟨_, _, found, -, instant, refused, alive⟩
    cases finishes.symm.trans found
    refine ⟨?_, by simp [request.given?_container contained], instant, refusal ▸ refused,
      engine ▸ alive⟩
    rintro ⟨moment, member⟩
    have signals := underWay.unsignalled _ (halts.silent _ member rfl)
    cases signals

/-- What a run has reached is what the stop of its process has reached. -/
theorem isReached_iff_of_halted {client : String} {container : Option String} {grace : Number}
    {began : Rat} {ending : RaceEnd} {halted : Scene} (uncancelled : halted.cancelAt = none)
    (executes : Activity.execute request (opening request origin) =
      (Activity.stop (.container client) container grace >>= fun _ =>
        Activity.afterStop request container began ending) halted)
    (settles : (run request origin).result ≠ .error .unending) :
    (run request origin).IsReached ↔ ¬ halted.IsStranded container grace := by
  cases stops : Activity.stop (.container client) container grace halted with
  | ok _ stopped =>
      rw [← Activity.stop_isReached_iff (.returns stops)]
      have reached := Activity.stop_isReached stops
      have kept := Activity.afterStop_isReached request container began ending
      rw [bind_of_ok stops] at executes
      cases outcome : Activity.afterStop request container began ending stopped with
      | ok result last =>
          rw [isReached_of_ok (executes.trans outcome)]
          exact iff_of_true (kept.ok outcome reached) reached
      | error problem last =>
          rw [isReached_of_error (executes.trans outcome)]
          exact iff_of_true (kept.error outcome reached) reached
  | error problem last =>
      rw [bind_of_error stops] at executes
      rw [isReached_of_error executes]
      rw [run_of_error executes] at settles
      have calm := ((Activity.isStepwise_leads.stop _ _ _).error stops).calm.uncancelled uncancelled
      exact Activity.stop_isReached_iff (.raises stops (by simpa using calm.2) (by simpa using settles))

/-- A run over a container that comes to an end has reached its process, unless the process was
stranded. -/
theorem run_isReached_iff {client : String} (contained : request.runtime = .container client)
    (starts : request.Starts) (uncancelled : request.cancelAt = none)
    (settles : (run request origin).result ≠ .error .unending) :
    (run request origin).IsReached ↔ ¬ request.IsStranded origin.instant := by
  obtain ⟨scene, underWay, unset, executes⟩ := Activity.execute_of_uncancelled starts uncancelled
  cases finishes : (Activity.raceOf request (request.deadline origin.instant) scene).finish with
  | none =>
      have raises := Activity.race_of_endless unset finishes
      have endless : Activity.supervise request request.container origin.instant
          (request.deadline origin.instant) scene = .error .unending scene := by
        refine bind_of_error ?_
        rw [Activity.guardedRace_apply, raises]
      rw [run_of_error (executes.trans endless)] at settles
      exact absurd rfl settles
  | some finish =>
      obtain ⟨began, ending⟩ := finish
      by_cases exited : ending = .verdict .exited
      · subst exited
        have still : ¬ request.IsStranded origin.instant := by
          rintro ⟨_, _, found, other, -⟩
          rw [underWay.raceOf_eq] at finishes
          cases finishes.symm.trans found
          exact other rfl
        refine ⟨fun _ => still, fun _ => .inl ?_⟩
        rcases Activity.supervise_returns request.container origin.instant unset finishes
            (fun other => absurd rfl other) (fun other => absurd rfl other) with
          ⟨failed, -⟩ | ⟨_, -, result, last, returns⟩
        · cases failed
        · obtain ⟨_, _, concluded⟩ := Activity.supervise_ok returns
          obtain ⟨exit, exits, early⟩ := concluded.exits
          rw [run_of_ok (executes.trans returns)]
          exact Process.hasExited_iff.mpr ⟨exit, _, exits, early⟩
      · obtain ⟨halted, halts, unfolded⟩ := Activity.supervise_of_decided
          (Activity.isDecided_of_uncancelled unset finishes) exited request.container origin.instant
        rw [← isStranded_iff contained underWay finishes exited halts]
        rw [contained] at unfolded
        exact isReached_iff_of_halted (by rw [halts.same]; exact unset) (executes.trans unfolded)
          settles

/-- Stopping a container reaches its process unless it is stranded, and so does a run that stops
one. -/
theorem container_isReached_iff (client : String) :
    (∀ (scene last : Scene) (container : Option String) (grace : Number),
      (Activity.stop (.container client) container grace).EndsIn scene last →
        (last.IsReached ↔ ¬ scene.IsStranded container grace)) ∧
    (∀ (request : Request) (origin : Moment), request.runtime = .container client →
      request.Starts → request.cancelAt = none →
        (run request origin).result ≠ .error .unending →
          ((run request origin).IsReached ↔ ¬ request.IsStranded origin.instant)) :=
  ⟨fun _ _ _ _ ends => Activity.stop_isReached_iff ends,
    fun _ _ contained starts uncancelled settles =>
      run_isReached_iff contained starts uncancelled settles⟩

/-- A container that goes on for ever, in a run that has a second; the client is found as often as
told. -/
def unstoppable (clientFound : List Bool) : Request where
  runtime := .container "docker"
  image := "image"
  spec := { name := "tool" }
  limits := { timeout := .int 1 }
  launch := { process := { name := "tool" } }
  clientFound

theorem unstoppable_starts (answers : List Bool) : (unstoppable (true :: answers)).Starts := by
  refine ⟨rfl, ?_⟩
  cases answers <;> rfl

theorem unstoppable_isStoppable : (unstoppable [true]).IsStoppable where
  engine := .inr ⟨by simp [unstoppable], 0, -9, rfl⟩
  grace := ⟨10, rfl⟩
  helper _ := ⟨by simp [unstoppable], rfl, 0, -9, rfl⟩

/-- A client that is always found is asked, by the run as by a stop alone. -/
theorem unstoppable_isReached :
    (run (unstoppable [true])).IsReached ∧
      ∃ last, Activity.stop (.container "docker") (some "box") (.int 2)
        (opening (unstoppable [true]) .start) = .ok () last ∧ last.IsReached := by
  obtain ⟨ofStop, ofRun⟩ := container_isReached_iff "docker"
  constructor
  · have settles := @result_ne_unending (unstoppable [true]) .start rfl unstoppable_isStoppable
      ⟨1, rfl⟩
    refine (ofRun _ _ rfl (unstoppable_starts []) rfl settles).mpr ?_
    rintro ⟨_, _, -, -, instant, refused, -⟩
    cases refused
  · have ready : (opening (unstoppable [true]) .start).IsStoppable (.container "docker") :=
      ⟨.inr ⟨by simp [opening], 0, -9, rfl⟩, unstoppable_isStoppable.helper, rfl⟩
    have finite : (Number.int 2).IsFinite := ⟨2, rfl⟩
    obtain ⟨last, stops⟩ := Activity.stop_returns ready (some "box") finite
    refine ⟨last, stops, (ofStop _ _ _ _ (.returns stops)).mpr ?_⟩
    rintro ⟨-, -, instant, refused, -⟩
    cases refused

theorem unstoppable_isStranded : (unstoppable [true, false]).IsStranded 0 :=
  ⟨1, .verdict .timeout, by decide +kernel, by decide, 1, by decide +kernel, by decide +kernel⟩

/-- A client that has gone when the time limit passes leaves the process alone. -/
theorem unstoppable_untouched :
    (run (unstoppable [true, false])).result =
        .error (.failure (Container.clientMissing "docker")) ∧
      ¬ (run (unstoppable [true, false])).IsReached := by
  have failed : (run (unstoppable [true, false])).result =
      .error (.failure (Container.clientMissing "docker")) := by with_unfolding_all rfl
  refine ⟨failed, fun reached => ?_⟩
  exact (run_isReached_iff rfl (unstoppable_starts [false]) rfl (by simp [failed])).mp reached
    unstoppable_isStranded

end Execution

end AnalysisEngines
