import AnalysisEngines.Proofs.Run.Passage
import AnalysisEngines.Proofs.Run.Process
import Mathlib.Algebra.Order.Monoid.Unbundled.Basic

/-!
# How waits end

A wait ends when what it waits for happens, or with a cancellation that comes no later.  In either
case the process that it watches is the same as before.
-/

set_option autoImplicit false

namespace AnalysisEngines

namespace Scene

@[simp]
theorem process_setProcess (role : Role) (process : Process) (scene : Scene) :
    (scene.setProcess role process).process role = process := by
  cases role <;> rfl

@[simp]
theorem now_setProcess (role : Role) (process : Process) (scene : Scene) :
    (scene.setProcess role process).now = scene.now := by
  cases role <;> rfl

@[simp]
theorem cancelAt_setProcess (role : Role) (process : Process) (scene : Scene) :
    (scene.setProcess role process).cancelAt = scene.cancelAt := by
  cases role <;> rfl

theorem Waits.process_eq {before after : Scene} {problem : Option RunProblem}
    (waits : before.Waits problem after) (role : Role) :
    after.process role = before.process role := by
  rw [waits.same]
  cases role <;> rfl

theorem Waits.hasExited {before after : Scene} {problem : Option RunProblem}
    (waits : before.Waits problem after) (role : Role)
    (exited : (before.process role).hasExited before.now.instant = true) :
    (after.process role).hasExited after.now.instant = true := by
  rw [waits.process_eq role]
  exact Process.hasExited_mono (Moment.instant_le waits.now) exited

/-- A cancellation at an instant finds the run no earlier than it is. -/
theorem struckAt_instant (instant : Rat) (scene : Scene) :
    (scene.struckAt instant).now.instant = max scene.now.instant instant :=
  Moment.waitFor_instant ..

theorem waitFor_instant (instant : Rat) (turns : Nat) (scene : Scene) :
    (scene.waitFor instant turns).now.instant = max scene.now.instant instant :=
  Moment.waitFor_instant ..

/-- A scene that a cancellation struck while only time passed. -/
structure IsStruck (scene last : Scene) (cancelledAt : Rat) : Prop where
  pending : scene.cancelAt = some cancelledAt
  instant : last.now.instant = max scene.now.instant cancelledAt
  process : ∀ role, last.process role = scene.process role

theorem isStruck {scene : Scene} {instant : Rat} (pending : scene.cancelAt = some instant) :
    scene.IsStruck (scene.struckAt instant) instant where
  pending := pending
  instant := struckAt_instant instant scene
  process role := by cases role <;> rfl

end Scene

namespace Activity

variable {scene last : Scene}

theorem pause_eq_ok {target : Rat} {turns : Nat} {value : Unit} :
    pause target turns scene = .ok value last ↔
      (∀ instant, scene.cancelAt = some instant → target < instant) ∧
        last = scene.waitFor target turns := by
  unfold pause
  cases scene.cancelAt with
  | none => simp [eq_comm]
  | some instant =>
      by_cases strikes : instant ≤ target
      · simp [strikes, not_lt.mpr strikes]
      · simp [strikes, not_le.mp strikes, eq_comm]

theorem pause_eq_error {target : Rat} {turns : Nat} {problem : RunProblem} :
    pause target turns scene = .error problem last ↔
      problem = .cancelled ∧
        ∃ instant, scene.cancelAt = some instant ∧ instant ≤ target ∧
          last = scene.struckAt instant := by
  unfold pause
  cases scene.cancelAt with
  | none => simp
  | some instant =>
      by_cases strikes : instant ≤ target
      · simp [strikes, eq_comm]
      · simp [strikes]

theorem waitForever_ne_ok {α : Type} {value : α} : waitForever scene ≠ .ok value last := by
  unfold waitForever
  split <;> simp

theorem waitForever_eq_error {α : Type} {problem : RunProblem} :
    (waitForever : Activity α) scene = .error problem last ↔
      (∃ instant, scene.cancelAt = some instant ∧ problem = .cancelled ∧
        last = scene.struckAt instant) ∨
      (scene.cancelAt = none ∧ problem = .unending ∧ last = scene) := by
  unfold waitForever
  cases scene.cancelAt <;> simp [eq_comm]

/-! ## Waiting for an exit -/

theorem exited_of_waitFor {role : Role} {instant : Rat} {status : Int} (turns : Nat)
    (exits : (scene.process role).exit? = some (instant, status)) :
    ((scene.waitFor instant turns).process role).hasExited
      (scene.waitFor instant turns).now.instant = true := by
  rw [(waits_waitFor instant turns scene).process_eq role, Scene.waitFor_instant]
  exact Process.hasExited_iff.mpr ⟨instant, status, exits, le_max_right _ _⟩

/-- A wait for an exit ends with the exit. -/
theorem awaitExit_ok {role : Role} {turns : Nat} {status : Int}
    (returns : awaitExit role turns scene = .ok status last) :
    ∃ instant, (scene.process role).exit? = some (instant, status) ∧
      last.now.instant = max scene.now.instant instant ∧
        ∀ cancelledAt, scene.cancelAt = some cancelledAt →
          instant ≤ scene.now.instant ∨ instant < cancelledAt := by
  unfold awaitExit at returns
  simp only [bind_of_ok (get_apply scene)] at returns
  cases exits : (scene.process role).exit? with
  | none =>
      simp only [exits] at returns
      exact absurd returns waitForever_ne_ok
  | some exit =>
      obtain ⟨instant, code⟩ := exit
      simp only [exits] at returns
      by_cases early : scene.now.instant < instant
      · simp only [early, if_true] at returns
        obtain ⟨_, middle, paused, ends⟩ := bind_eq_ok.mp returns
        obtain ⟨unstruck, rfl⟩ := pause_eq_ok.mp paused
        cases ends
        exact ⟨instant, rfl, Scene.waitFor_instant .., fun at_ pending => .inr (unstruck at_ pending)⟩
      · simp only [early, if_false, pure_apply] at returns
        cases returns
        have passed := not_lt.mp early
        exact ⟨instant, rfl, (max_eq_left passed).symm, fun _ _ => .inl passed⟩

theorem awaitExit_error {role : Role} {turns : Nat} {problem : RunProblem}
    (raises : awaitExit role turns scene = .error problem last) :
    (problem = .unending ∧ scene.cancelAt = none ∧ (scene.process role).exit? = none) ∨
      (problem = .cancelled ∧ (∃ cancelledAt, scene.IsStruck last cancelledAt) ∧
        (scene.process role).hasExited scene.now.instant = false) := by
  unfold awaitExit at raises
  simp only [bind_of_ok (get_apply scene)] at raises
  cases exits : (scene.process role).exit? with
  | none =>
      simp only [exits] at raises
      rcases waitForever_eq_error.mp raises with ⟨instant, pending, rfl, rfl⟩ | ⟨unset, rfl, -⟩
      · refine .inr ⟨rfl, ⟨instant, Scene.isStruck pending⟩, ?_⟩
        exact Process.not_hasExited_iff.mpr (by simp [exits])
      · exact .inl ⟨rfl, unset, rfl⟩
  | some exit =>
      obtain ⟨instant, code⟩ := exit
      simp only [exits] at raises
      by_cases early : scene.now.instant < instant
      · simp only [early, if_true] at raises
        rcases bind_eq_error.mp raises with paused | ⟨_, _, _, ends⟩
        · obtain ⟨rfl, cancelledAt, pending, -, rfl⟩ := pause_eq_error.mp paused
          refine .inr ⟨rfl, ⟨cancelledAt, Scene.isStruck pending⟩, ?_⟩
          apply Process.not_hasExited_iff.mpr
          intro time status found
          rw [exits] at found
          cases found
          exact early
        · cases ends
      · simp only [early, if_false, pure_apply] at raises
        cases raises

/-! ## Waiting for an exit for a span -/

/-- How a wait for an exit returns: with the exit, after no time at all, or when the span has
passed. -/
inductive ReturnsWithin (role : Role) (span : Option Rat) (scene : Scene) : Bool → Scene → Prop where
  | exit {instant status} : (scene.process role).exit? = some (instant, status) →
      (∀ length, span = some length → 0 < length ∧ instant ≤ scene.now.instant + length) →
      (∀ cancelledAt, scene.cancelAt = some cancelledAt → instant < cancelledAt) →
      ReturnsWithin role span scene true (scene.waitFor instant 3)
  | spent {length} : span = some length → length ≤ 0 →
      ReturnsWithin role span scene false { scene with now := scene.now.pass 3 }
  | passed {length} : span = some length → 0 < length →
      (scene.process role).hasExited (scene.now.instant + length) = false →
      (∀ cancelledAt, scene.cancelAt = some cancelledAt →
        scene.now.instant + length < cancelledAt) →
      ReturnsWithin role span scene false (scene.waitFor (scene.now.instant + length) 4)

theorem ReturnsWithin.true {role : Role} {span : Option Rat}
    (returns : ReturnsWithin role span scene true last) :
    ∃ instant status, (scene.process role).exit? = some (instant, status) ∧
      (∀ length, span = some length → 0 < length ∧ instant ≤ scene.now.instant + length) ∧
      (∀ cancelledAt, scene.cancelAt = some cancelledAt → instant < cancelledAt) ∧
        last = scene.waitFor instant 3 := by
  cases returns with
  | exit exits inTime unstruck => exact ⟨_, _, exits, inTime, unstruck, rfl⟩

/-- A wait that ends without an exit takes the whole span, and no cancellation comes before that. -/
theorem ReturnsWithin.false {role : Role} {span : Option Rat}
    (returns : ReturnsWithin role span scene false last) :
    ∃ length, span = some length ∧ last.now.instant = scene.now.instant + max length 0 ∧
      last.cancelAt = scene.cancelAt ∧
        ∀ cancelledAt, scene.cancelAt = some cancelledAt →
          (0 < length → scene.now.instant + length < cancelledAt) := by
  cases returns with
  | spent limited short =>
      refine ⟨_, limited, ?_, rfl, fun _ _ positive => absurd short (not_le.mpr positive)⟩
      simp [max_eq_right short]
  | passed limited long alive unstruck =>
      refine ⟨_, limited, ?_, rfl, fun cancelledAt pending _ => unstruck cancelledAt pending⟩
      rw [Scene.waitFor_instant, max_eq_left long.le]
      exact max_eq_right (le_add_of_nonneg_right long.le)

/-- How a wait for an exit raises: for want of an exit, or with a cancellation that comes before the
exit or, where nothing exits in the span, before the end of the span. -/
inductive RaisesWithin (role : Role) (span : Option Rat) (scene last : Scene) : RunProblem → Prop where
  | unending : span = none → scene.cancelAt = none → (scene.process role).exit? = none →
      RaisesWithin role span scene last .unending
  | struck {cancelledAt} : scene.IsStruck last cancelledAt →
      (∀ length, span = some length → 0 < length ∧
        ((scene.process role).hasExited (scene.now.instant + length) = false →
          cancelledAt ≤ scene.now.instant + length)) →
      RaisesWithin role span scene last .cancelled

private theorem pausing_eq_ok {target : Rat} {turns : Nat} {answer value : Bool} :
    (pause target turns >>= fun _ => pure answer : Activity Bool) scene = .ok value last ↔
      value = answer ∧ (∀ instant, scene.cancelAt = some instant → target < instant) ∧
        last = scene.waitFor target turns := by
  rw [bind_eq_ok]
  constructor
  · rintro ⟨_, _, paused, ends⟩
    cases ends
    exact ⟨rfl, pause_eq_ok.mp paused⟩
  · rintro ⟨rfl, paused⟩
    exact ⟨(), last, pause_eq_ok.mpr paused, rfl⟩

private theorem pausing_eq_error {target : Rat} {turns : Nat} {answer : Bool}
    {problem : RunProblem} :
    (pause target turns >>= fun _ => pure answer : Activity Bool) scene = .error problem last ↔
      problem = .cancelled ∧
        ∃ instant, scene.cancelAt = some instant ∧ instant ≤ target ∧
          last = scene.struckAt instant := by
  rw [bind_eq_error, ← @pause_eq_error scene last target turns problem]
  simp

theorem exitsWithin_ok {role : Role} {span : Option Rat} {answer : Bool}
    (returns : exitsWithin role span scene = .ok answer last) :
    ReturnsWithin role span scene answer last := by
  unfold exitsWithin at returns
  simp only [bind_of_ok (get_apply scene)] at returns
  cases span with
  | none =>
      cases exits : (scene.process role).exit? with
      | none =>
          simp only [exits, Option.map_none] at returns
          exact absurd returns waitForever_ne_ok
      | some exit =>
          simp only [exits, Option.map_some] at returns
          obtain ⟨rfl, unstruck, rfl⟩ := pausing_eq_ok.mp returns
          exact .exit exits (by simp) unstruck
  | some length =>
      by_cases spent : length ≤ 0
      · simp only [spent, if_true] at returns
        obtain ⟨_, _, passes, ends⟩ := bind_eq_ok.mp returns
        cases passes
        cases ends
        exact .spent rfl spent
      · have long := not_le.mp spent
        simp only [spent, if_false] at returns
        cases exits : (scene.process role).exit? with
        | none =>
            simp only [exits, Option.map_none] at returns
            obtain ⟨rfl, unstruck, rfl⟩ := pausing_eq_ok.mp returns
            exact .passed rfl long (Process.not_hasExited_iff.mpr (by simp [exits])) unstruck
        | some exit =>
            obtain ⟨instant, status⟩ := exit
            simp only [exits, Option.map_some] at returns
            by_cases early : instant ≤ scene.now.instant + length
            · simp only [early, if_true] at returns
              obtain ⟨rfl, unstruck, rfl⟩ := pausing_eq_ok.mp returns
              exact .exit exits (by rintro _ ⟨⟩; exact ⟨long, early⟩) unstruck
            · simp only [early, if_false] at returns
              obtain ⟨rfl, unstruck, rfl⟩ := pausing_eq_ok.mp returns
              refine .passed rfl long ?_ unstruck
              exact Process.not_hasExited_iff.mpr (by simpa [exits] using early)

theorem exitsWithin_error {role : Role} {span : Option Rat} {problem : RunProblem}
    (raises : exitsWithin role span scene = .error problem last) :
    RaisesWithin role span scene last problem := by
  unfold exitsWithin at raises
  simp only [bind_of_ok (get_apply scene)] at raises
  cases span with
  | none =>
      cases exits : (scene.process role).exit? with
      | none =>
          simp only [exits, Option.map_none] at raises
          rcases waitForever_eq_error.mp raises with ⟨instant, pending, rfl, rfl⟩ | ⟨unset, rfl, -⟩
          · exact .struck (Scene.isStruck pending) (by simp)
          · exact .unending rfl unset exits
      | some exit =>
          simp only [exits, Option.map_some] at raises
          obtain ⟨rfl, instant, pending, -, rfl⟩ := pausing_eq_error.mp raises
          exact .struck (Scene.isStruck pending) (by simp)
  | some length =>
      by_cases spent : length ≤ 0
      · simp only [spent, if_true] at raises
        rcases bind_eq_error.mp raises with passes | ⟨_, _, _, ends⟩
        · cases passes
        · cases ends
      · have long := not_le.mp spent
        simp only [spent, if_false] at raises
        cases exits : (scene.process role).exit? with
        | none =>
            simp only [exits, Option.map_none] at raises
            obtain ⟨rfl, instant, pending, before, rfl⟩ := pausing_eq_error.mp raises
            exact .struck (Scene.isStruck pending) (by rintro _ ⟨⟩; exact ⟨long, fun _ => before⟩)
        | some exit =>
            obtain ⟨instant, status⟩ := exit
            simp only [exits, Option.map_some] at raises
            by_cases early : instant ≤ scene.now.instant + length
            · simp only [early, if_true] at raises
              obtain ⟨rfl, cancelledAt, pending, -, rfl⟩ := pausing_eq_error.mp raises
              refine .struck (Scene.isStruck pending) ?_
              rintro _ ⟨⟩
              refine ⟨long, fun alive => ?_⟩
              exact absurd early (not_le.mpr (Process.not_hasExited_iff.mp alive _ _ exits))
            · simp only [early, if_false] at raises
              obtain ⟨rfl, cancelledAt, pending, before, rfl⟩ := pausing_eq_error.mp raises
              exact .struck (Scene.isStruck pending) (by rintro _ ⟨⟩; exact ⟨long, fun _ => before⟩)

end Activity

end AnalysisEngines
