import AnalysisEngines.Proofs.Run.Stopping

/-!
# What a run does not take from its process

Whatever a run does with its process, a process that exits by itself still does so, and one that
obeys still does.  So stopping a process that obeys ends with its exit, wherever it runs.
-/

set_option autoImplicit false

namespace AnalysisEngines

namespace Process

/-- A process that exits by itself at some time. -/
def IsFinite (process : Process) : Prop := ∃ exit, process.exit? = some exit

theorem isFinite_of_hasExited {process : Process} {now : Rat}
    (exited : process.hasExited now = true) : process.IsFinite := by
  obtain ⟨instant, status, exits, -⟩ := hasExited_iff.mp exited
  exact ⟨_, exits⟩

/-- A process that exits by itself, or obeys when it is stopped. -/
def IsMortal (process : Process) : Prop := process.IsFinite ∨ process.Obeys

/-- A process stays mortal wherever its script is put on the clock. -/
theorem IsMortal.startedAt {process : Process} (mortal : process.IsMortal) (origin : Rat) :
    (process.startedAt origin).IsMortal := by
  refine mortal.imp ?_ fun obeys => ⟨obeys.reachable, obeys.killable⟩
  rintro ⟨exit, exits⟩
  exact ⟨_, by rw [exit?_startedAt, exits]; rfl⟩

/-- A process is still the same, and what it does about its end is not lost. -/
structure KeepsNature (before after : Process) : Prop where
  name : after.name = before.name
  finite : before.IsFinite → after.IsFinite
  obeys : before.Obeys → after.Obeys

theorem KeepsNature.refl (process : Process) : process.KeepsNature process := ⟨rfl, id, id⟩

theorem KeepsNature.trans {first second third : Process} (before : first.KeepsNature second)
    (after : second.KeepsNature third) : first.KeepsNature third :=
  ⟨after.name.trans before.name, after.finite ∘ before.finite, after.obeys ∘ before.obeys⟩

theorem KeepsNature.mortal {before after : Process} (keeps : before.KeepsNature after)
    (mortal : before.IsMortal) : after.IsMortal := mortal.imp keeps.finite keeps.obeys

theorem keepsNature_schedule (process : Process) (instant : Rat) (status : Int) :
    process.KeepsNature (process.schedule instant (.exit status)) where
  name := rfl
  finite := by
    rintro ⟨⟨earlier, code⟩, exits⟩
    change process.timeline.exit? = _ at exits
    simp only [IsFinite, exit?, schedule, Timeline.exit?_schedule_exit, exits]
    split <;> simp
  obeys obeys := ⟨obeys.reachable, obeys.killable⟩

theorem keepsNature_react (process : Process) (signal : Signal) (now : Rat) :
    process.KeepsNature (process.react signal now) := by
  unfold react
  split
  · exact process.keepsNature_schedule _ _
  · exact .refl process
  · exact .refl process

theorem KeepsNature.of_signal {before after : Process} {signal : Signal} {now : Rat}
    (reacts : after = before ∨ after = before.react signal now) : before.KeepsNature after := by
  rcases reacts with rfl | rfl
  · exact .refl after
  · exact before.keepsNature_react signal now

theorem keepsNature_actOn (process : Process) (helper : Helper) (now : Rat) :
    process.KeepsNature (helper.actOn now process) := by
  unfold Helper.actOn
  split
  · exact process.keepsNature_schedule _ _
  · exact .refl process

end Process

namespace Activity

variable {scene last : Scene} {role : Role} {grace : Number}

/-- What the process of a role does about its end is not lost. -/
def Keeps (role : Role) (before : Scene) (_ : Option RunProblem) (after : Scene) : Prop :=
  (before.process role).KeepsNature (after.process role)

instance (role : Role) : IsPassage (Keeps role) where
  refl scene := .refl (scene.process role)
  trans first second := first.trans second

theorem Keeps.of_eq {before after : Scene} {problem : Option RunProblem}
    (same : after.process role = before.process role) : Keeps role before problem after := by
  unfold Keeps
  rw [same]
  exact .refl _

theorem Follows.keeps {α : Type} {activity : Activity α} (role : Role)
    (waits : activity.Follows Scene.Waits) : activity.Follows (Keeps role) :=
  waits.imp fun waited => .of_eq (waited.process_eq role)

theorem keeps_note (role : Role) (entry : Note) : Follows (Keeps role) (note entry) :=
  fun _ => .of_eq (by cases role <;> rfl)

/-- A signal is sent, and makes the process that it reaches alive react. -/
theorem send_apply (role : Role) (signal : Signal) (scene : Scene) :
    ∃ answer last, send role signal scene = .ok answer last ∧ last.now = scene.now ∧
      last.cancelAt = scene.cancelAt ∧ last.helper = scene.helper ∧
        ∀ other, last.process other = scene.process other ∨
          last.process other = (scene.process other).react signal scene.now.instant := by
  unfold send
  rw [bind_of_ok (get_apply scene)]
  by_cases exited : (scene.process role).hasExited scene.now.instant = true
  · rw [if_pos exited]
    exact ⟨false, scene, rfl, rfl, rfl, rfl, fun _ => .inl rfl⟩
  · rw [if_neg exited, bind_of_ok (note_apply _ scene)]
    let noted : Scene := { scene with notes := scene.notes ++
      [(scene.now, .signal (scene.process role).name signal)] }
    let reacted := noted.setProcess role ((scene.process role).react signal scene.now.instant)
    have same : ∀ other, noted.process other = scene.process other := fun other => by
      cases other <;> rfl
    have kept : reacted.now = scene.now ∧ reacted.cancelAt = scene.cancelAt ∧
        reacted.helper = scene.helper := by cases role <;> exact ⟨rfl, rfl, rfl⟩
    have reacts : ∀ other, reacted.process other = scene.process other ∨
        reacted.process other = (scene.process other).react signal scene.now.instant := by
      intro other
      cases role <;> cases other
      · exact .inr rfl
      · exact .inl rfl
      · exact .inl rfl
      · exact .inr rfl
    cases (scene.process role).reaction signal with
    | vanished => exact ⟨false, noted, rfl, rfl, rfl, rfl, fun other => .inl (same other)⟩
    | ignores => exact ⟨true, reacted, rfl, kept.1, kept.2.1, kept.2.2, reacts⟩
    | exits delay status => exact ⟨true, reacted, rfl, kept.1, kept.2.1, kept.2.2, reacts⟩

theorem keeps_send (role other : Role) (signal : Signal) :
    Follows (Keeps other) (send role signal) := by
  intro scene
  obtain ⟨answer, last, sent, -, -, -, reacts⟩ := send_apply role signal scene
  rw [sent]
  exact .of_signal (reacts other)

theorem keeps_startHelper (command : List String) :
    Follows (Keeps .engine) (startHelper command) := by
  refine .bind .get fun _ => .bind ((waits_delay _).keeps .engine) fun _ => ?_
  refine .bind (keeps_note .engine _) fun _ => ?_
  split
  · exact fun _ => .of_eq rfl
  · exact .modify fun scene => Process.keepsNature_actOn _ _ _

theorem isStepwise_keeps : IsStepwise (Keeps .engine) where
  waits waited := .of_eq (waited.process_eq .engine)
  notes := keeps_note .engine
  throws _ _ := fun _ => .of_eq rfl
  sends role signal := keeps_send role .engine signal
  looksUp _ _ := .of_eq rfl
  helps := keeps_startHelper

/-- Stopping a process that obeys, wherever it runs, ends with its exit. -/
theorem stop_hasExited {runtime : Runtime} {container : Option String}
    (obeys : scene.engine.Obeys) (returns : stop runtime container grace scene = .ok () last) :
    last.engine.hasExited last.now.instant = true := by
  have terminated : ∀ {stopped : Scene}, stopped.engine.Obeys →
      terminate .engine grace stopped = .ok () last →
        last.engine.hasExited last.now.instant = true :=
    fun {stopped} obeys ends =>
      (@terminate_ok stopped last .engine grace obeys ends).1
  cases runtime with
  | host => exact terminated obeys returns
  | container client =>
      obtain ⟨exited, _, asks, rest⟩ := bind_eq_ok.mp returns
      rw [hasExited_apply] at asks
      cases asks
      by_cases gone : (scene.process .engine).hasExited scene.now.instant = true
      · rw [if_pos gone] at rest
        cases rest
        exact gone
      · rw [if_neg gone] at rest
        cases named : given? container with
        | none =>
            simp only [named] at rest
            exact terminated obeys rest
        | some name =>
            simp only [named] at rest
            obtain ⟨_, middle, stops, terminates⟩ := bind_eq_ok.mp rest
            exact terminated ((isStepwise_keeps.stopContainer _ _ _).ok stops |>.obeys obeys) terminates

theorem stop_isFinite {runtime : Runtime} {container : Option String}
    (mortal : scene.engine.IsMortal) (returns : stop runtime container grace scene = .ok () last) :
    last.engine.IsFinite := by
  rcases mortal with finite | obeys
  · exact ((isStepwise_keeps.stop runtime container grace).ok returns).finite finite
  · exact Process.isFinite_of_hasExited (stop_hasExited obeys returns)

end Activity

end AnalysisEngines
