import AnalysisEngines.Proofs.Run.Execution

/-!
# Cancelled runs and their processes

The race of a run is guarded: a cancellation that interrupts it stops the process before it leaves
the run.  The stop itself is not.  A cancellation in its middle leaves the run at once, and the
process as it is by then.
-/

set_option autoImplicit false

namespace AnalysisEngines

/-- A cancellation of a run that is asked for at an instant strikes while the process is being
stopped, and finds it alive. -/
def Request.IsCutShort (request : Request) (origin cancelledAt : Rat) : Prop :=
  Activity.IsCutShort request (request.deadline origin)
    (request.processAt (request.launch.startInstant origin)) (request.launch.startInstant origin)
    cancelledAt

namespace Execution

variable {request : Request} {origin : Moment} {cancelledAt : Rat}

/-- A run whose process starts before the cancellation and obeys. -/
structure IsExposed (request : Request) (origin : Moment) : Prop where
  hosted : request.runtime.isHost = true
  starts : request.Starts
  obeys : request.launch.process.Obeys
  undisturbed : request.launch.IsUndisturbed origin.instant request.cancelAt

theorem cancelled_of_isCutShort (exposed : IsExposed request origin)
    (pending : request.cancelAt = some cancelledAt)
    (cut : request.IsCutShort origin.instant cancelledAt) :
    (run request origin).result = .error .cancelled ∧
      (run request origin).engine.hasExited (run request origin).finish.instant = false := by
  obtain ⟨scene, underWay, executes⟩ :=
    Activity.execute_of_starts exposed.starts exposed.undisturbed
  have obeys : scene.engine.Obeys := by
    rw [underWay.engine]
    exact ⟨exposed.obeys.reachable, exposed.obeys.killable⟩
  have cutHere : Activity.IsCutShort request (request.deadline origin.instant) scene.engine
      scene.now.instant cancelledAt := by
    rw [underWay.engine, underWay.instant]
    exact cut
  obtain ⟨last, raises, alive⟩ := Activity.supervise_of_isCutShort exposed.hosted obeys
    (underWay.cancelAt.trans pending) cutHere
  rw [run_of_error (executes.trans raises)]
  exact ⟨rfl, alive⟩

/-- A run that settles has seen its process exit, unless a cancellation cuts the stop short. -/
theorem hasExited_of_settled (exposed : IsExposed request origin)
    (settles : (run request origin).result ≠ .error .unending)
    (uncut : ∀ cancelledAt, request.cancelAt = some cancelledAt →
      ¬ request.IsCutShort origin.instant cancelledAt) :
    (run request origin).engine.hasExited (run request origin).finish.instant = true := by
  obtain ⟨scene, underWay, executes⟩ :=
    Activity.execute_of_starts exposed.starts exposed.undisturbed
  have obeys : scene.engine.Obeys := by
    rw [underWay.engine]
    exact ⟨exposed.obeys.reachable, exposed.obeys.killable⟩
  cases outcome : Activity.execute request (opening request origin) with
  | ok result last =>
      obtain ⟨_, _, concluded⟩ := Activity.supervise_ok (executes.symm.trans outcome)
      obtain ⟨exit, exits, early⟩ := concluded.exits
      rw [run_of_ok outcome]
      exact Process.hasExited_iff.mpr ⟨exit, _, exits, early⟩
  | error problem last =>
      rw [run_of_error outcome] at settles ⊢
      rcases Activity.supervise_leaves exposed.hosted obeys (executes.symm.trans outcome) with
        rfl | exited | ⟨rfl, cancelledAt, pending, cut⟩
      · exact absurd rfl settles
      · exact exited
      · rw [underWay.engine, underWay.instant] at cut
        exact absurd cut (uncut cancelledAt (underWay.cancelAt.symm.trans pending))

/-- A cancelled run leaves no living process behind, exactly if the cancellation does not strike
while the process is being stopped. -/
theorem exited_iff_not_isCutShort (request : Request) (origin : Moment) {cancelledAt : Rat}
    (pending : request.cancelAt = some cancelledAt) (hosted : request.runtime.isHost = true)
    (starts : request.Starts) (obeys : request.launch.process.Obeys)
    (started : request.launch.IsUndisturbed origin.instant request.cancelAt) :
    ((run request origin).result = .error .cancelled →
      (run request origin).engine.hasExited (run request origin).finish.instant = true) ↔
        ¬ request.IsCutShort origin.instant cancelledAt := by
  have exposed : IsExposed request origin := ⟨hosted, starts, obeys, started⟩
  constructor
  · intro exits cut
    obtain ⟨cancelled, alive⟩ := cancelled_of_isCutShort exposed pending cut
    rw [exits cancelled] at alive
    cases alive
  · intro uncut cancelled
    apply hasExited_of_settled exposed (by simp [cancelled])
    intro other same
    cases pending.symm.trans same
    exact uncut

def isCancelled (execution : Execution) : Bool :=
  match execution.result with
  | .error .cancelled => true
  | _ => false

theorem isCancelled_iff {execution : Execution} :
    execution.isCancelled = true ↔ execution.result = .error .cancelled := by
  unfold isCancelled
  split
  · simp [*]
  · rename_i other
    simpa using other

/-- A process that ignores the request to terminate, in a run that has a second and a grace period
of two. -/
def stubborn (cancelAt : Rat) : Request where
  runtime := .host false []
  image := "image"
  spec := { name := "tool", command := some ["tool"] }
  limits := { timeout := .int 1 }
  grace := .int 2
  launch := { process := { name := "tool", onTerminate := .ignores } }
  cancelAt := some cancelAt

/-- The race of such a run, whenever the run is cancelled. -/
theorem stubborn_race (cancelAt : Rat) :
    ((Activity.field (stubborn cancelAt) ((stubborn cancelAt).processAt
      ((stubborn cancelAt).launch.startInstant 0))).run ((stubborn cancelAt).deadline 0)
        ((stubborn cancelAt).launch.startInstant 0)).finish = some (1, .verdict .timeout) := by
  have timed : ((Activity.field (stubborn 0) ((stubborn 0).processAt
      ((stubborn 0).launch.startInstant 0))).run ((stubborn 0).deadline 0)
        ((stubborn 0).launch.startInstant 0)).finish = some (1, .verdict .timeout) := by
    decide +kernel
  exact timed

/-- Cancelled in the race, the run is not cut short. -/
theorem stubborn_not_isCutShort : ¬ (stubborn (1 / 2)).IsCutShort 0 (1 / 2) := by
  rintro ⟨began, ending, finishes, -, before, -⟩
  have raced := (stubborn_race (1 / 2)).symm.trans finishes
  cases raced
  rcases before with ⟨last, limited, passed⟩ | early
  · have limit : (stubborn (1 / 2)).deadline 0 = some 1 := by decide +kernel
    cases limit.symm.trans limited
    exact absurd passed (by decide +kernel)
  · exact absurd early (by decide +kernel)

theorem stubborn_exits :
    (run (stubborn (1 / 2))).result = .error .cancelled ∧
      (run (stubborn (1 / 2))).engine.hasExited (run (stubborn (1 / 2))).finish.instant = true := by
  have cancelled := isCancelled_iff.mp
    (show (run (stubborn (1 / 2))).isCancelled = true by decide +kernel)
  exact ⟨cancelled, (exited_iff_not_isCutShort (stubborn (1 / 2)) .start rfl rfl
    ⟨rfl, List.cons_ne_nil _ _⟩ ⟨by simp [stubborn], 0, -9, rfl⟩
    (fun _ _ => .inl (le_refl _))).mpr stubborn_not_isCutShort cancelled⟩

/-- Cancelled in the grace period, the run ends with the process alive. -/
theorem stubborn_survives :
    ¬ ((run (stubborn 2)).result = .error .cancelled →
      (run (stubborn 2)).engine.hasExited (run (stubborn 2)).finish.instant = true) := by
  have exposed : IsExposed (stubborn 2) .start :=
    ⟨rfl, ⟨rfl, List.cons_ne_nil _ _⟩, ⟨by simp [stubborn], 0, -9, rfl⟩, fun _ _ => .inl (le_refl _)⟩
  have cut : (stubborn 2).IsCutShort 0 2 :=
    ⟨1, .verdict .timeout, stubborn_race 2, by decide, .inr (by decide +kernel),
      by decide +kernel, by decide +kernel⟩
  obtain ⟨cancelled, alive⟩ := cancelled_of_isCutShort exposed rfl cut
  intro exits
  exact absurd (exits cancelled) (by rw [alive]; decide)

end Execution

end AnalysisEngines
