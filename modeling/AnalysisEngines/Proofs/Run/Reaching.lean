import AnalysisEngines.Proofs.Run.Execution

/-!
# Stops that reach the process

A container is stopped through the client first, and only then is the client's own process asked to
terminate.  Where the client cannot be asked, the stop raises before it gets so far, and leaves a
process alone that still lives: `stop_isReached_iff`.
-/

set_option autoImplicit false

namespace AnalysisEngines

/-- A process of a name has been sent the signal to terminate. -/
def IsAsked (name : String) (notes : List (Moment × Note)) : Prop :=
  ∃ moment, (moment, Note.signal name .terminate) ∈ notes

/-- When it turns out that the client cannot be asked to stop a container, if ever: at once if it is
not found or the grace period has no whole seconds, and later if the helper does not start. -/
def Container.refusedAt? (answers : List Bool) (helper : Helper) (grace : Number) (now : Rat) :
    Option Rat :=
  if (lookUp answers).1 = false ∨ grace.exact.toRat? = none then some now
  else if helper.fault.isSome then some (now + max helper.startDelay 0)
  else none

namespace Scene

/-- The engine's process has exited, or it has been asked to terminate. -/
def IsReached (scene : Scene) : Prop :=
  scene.engine.hasExited scene.now.instant = true ∨ IsAsked scene.engine.name scene.notes

/-- When it turns out that the client cannot be asked to stop a container in this scene, if ever. -/
def refusedAt? (scene : Scene) (grace : Number) : Option Rat :=
  Container.refusedAt? scene.clientFound scene.helper grace scene.now.instant

/-- A process that nobody has asked to terminate runs in a container that the client cannot be asked
to stop, and lives when this turns out. -/
structure IsStranded (scene : Scene) (container : Option String) (grace : Number) : Prop where
  unasked : ¬ IsAsked scene.engine.name scene.notes
  contained : given? container ≠ none
  refused : ∃ instant, scene.refusedAt? grace = some instant ∧
    scene.engine.hasExited instant = false

end Scene

namespace Activity

variable {α : Type} {scene last : Scene} {grace : Number}

/-- The scene in which an activity returns or raises, unless the caller is cancelled. -/
inductive EndsIn (activity : Activity α) (scene last : Scene) : Prop where
  | returns {value} : activity scene = .ok value last → EndsIn activity scene last
  | raises {problem} : activity scene = .error problem last → problem ≠ .cancelled →
      problem ≠ .unending → EndsIn activity scene last

/-! ## Termination reaches its process -/

/-- What has been asked of the engine stays asked. -/
theorem asked_of_leads {problem : Option RunProblem} (leads : scene.Leads problem last)
    (keeps : Keeps .engine scene problem last) (asked : IsAsked scene.engine.name scene.notes) :
    IsAsked last.engine.name last.notes := by
  obtain ⟨moment, member⟩ := asked
  obtain ⟨added, notes, -⟩ := leads.notes
  have name : last.engine.name = scene.engine.name := keeps.name
  exact ⟨moment, by rw [name, notes]; exact List.mem_append_left _ member⟩

/-- A signal to a living process is noted, whether or not it reaches it. -/
theorem send_asks (alive : scene.engine.hasExited scene.now.instant = false) :
    ∃ answer asked, send .engine .terminate scene = .ok answer asked ∧
      IsAsked asked.engine.name asked.notes := by
  have living : (scene.process .engine).hasExited scene.now.instant = false := alive
  obtain ⟨answer, asked, sent, -, -, -, reacts⟩ := send_apply .engine .terminate scene
  refine ⟨answer, asked, sent, scene.now, ?_⟩
  have name : asked.engine.name = scene.engine.name := (Process.KeepsNature.of_signal (reacts .engine)).name
  rw [name]
  unfold send at sent
  simp only [bind_of_ok (get_apply scene), living, Bool.false_eq_true, if_false,
    bind_of_ok (note_apply _ scene)] at sent
  cases reaction : (scene.process .engine).reaction .terminate <;> simp only [reaction] at sent <;>
    cases sent <;> exact List.mem_append_right _ (List.mem_singleton_self _)

/-- However a termination ends, its process has exited or been asked. -/
theorem terminate_isReached :
    Follows (fun _ _ after => after.IsReached) (terminate .engine grace) := by
  intro scene
  by_cases exited : (scene.process .engine).hasExited scene.now.instant = true
  · rw [terminate_of_exited exited]
    exact .inl exited
  · rw [Bool.not_eq_true] at exited
    obtain ⟨answer, asked, sent, isAsked⟩ := send_asks exited
    let rest : Activity Unit := do
      if !answer then return
      if ← exitsWithin .engine grace.span then return
      kill .engine grace
    have unfolded : terminate .engine grace scene = rest asked := by
      unfold terminate
      simp only [bind_of_ok (hasExited_apply .engine scene), exited, Bool.false_eq_true, if_false,
        bind_of_ok sent]
      rfl
    have leads : rest.Follows Scene.Leads :=
      .ite (.pure _) (.bind (waits_exitsWithin .engine _).leads fun _ =>
        .ite (.pure _) (isStepwise_leads.kill .engine grace))
    have keeps : rest.Follows (Keeps .engine) :=
      .ite (.pure _) (.bind ((waits_exitsWithin .engine _).keeps .engine) fun _ =>
        .ite (.pure _) (isStepwise_keeps.kill .engine grace))
    rw [unfolded]
    cases outcome : rest asked with
    | ok _ last => exact .inr (asked_of_leads (leads.ok outcome) (keeps.ok outcome) isAsked)
    | error _ last => exact .inr (asked_of_leads (leads.error outcome) (keeps.error outcome) isAsked)

/-! ## What keeps a stop from the process -/

/-- Nothing is raised but a cancellation, or that nothing would ever let the activity go on. -/
def IsPatient (_ : Scene) (problem : Option RunProblem) (_ : Scene) : Prop :=
  ∀ raised, problem = some raised → raised = .cancelled ∨ raised = .unending

instance : IsPassage IsPatient where
  refl _ := by simp [IsPatient]
  trans _ second := second

theorem isPatient_of_returns {activity : Activity α}
    (returns : ∀ scene, ∃ value last, activity scene = .ok value last) :
    activity.Follows IsPatient := by
  intro scene
  obtain ⟨value, last, outcome⟩ := returns scene
  simp [outcome, IsPatient]

theorem isPatient_send (role : Role) (signal : Signal) :
    Follows IsPatient (send role signal) := by
  apply isPatient_of_returns
  intro scene
  obtain ⟨answer, last, sent, -⟩ := send_apply role signal scene
  exact ⟨answer, last, sent⟩

theorem isPatient_exitsWithin (role : Role) (span : Option Rat) :
    Follows IsPatient (exitsWithin role span) := by
  refine .of_outcomes (fun _ _ _ _ => by simp [IsPatient]) fun scene problem last raises => ?_
  rintro _ ⟨⟩
  cases exitsWithin_error raises with
  | unending => exact .inr rfl
  | struck => exact .inl rfl

theorem isPatient_awaitExit (role : Role) (turns : Nat) :
    Follows IsPatient (awaitExit role turns) := by
  refine .of_outcomes (fun _ _ _ _ => by simp [IsPatient]) fun scene problem last raises => ?_
  rintro _ ⟨⟩
  rcases awaitExit_error raises with ⟨rfl, -⟩ | ⟨rfl, -⟩
  · exact .inr rfl
  · exact .inl rfl

theorem isPatient_terminate (role : Role) (grace : Number) :
    Follows IsPatient (terminate role grace) := by
  have asks : Follows IsPatient (hasExited role) := isPatient_of_returns fun _ => ⟨_, _, rfl⟩
  have awaits : Follows IsPatient (discard (awaitExit role 1)) :=
    .bind (isPatient_awaitExit role 1) fun _ => .pure _
  refine .bind asks fun _ => .ite (.pure _) ?_
  refine .bind (isPatient_send role .terminate) fun _ => .ite (.pure _) ?_
  refine .bind (isPatient_exitsWithin role _) fun _ => .ite (.pure _) ?_
  refine .bind .get fun _ => .bind (isPatient_of_returns fun _ => ⟨_, _, rfl⟩) fun _ => ?_
  refine .bind (isPatient_send role .kill) fun _ => .ite ?_ awaits
  refine .bind asks fun _ => .ite ?_ awaits
  exact .bind (isPatient_of_returns fun _ => ⟨_, _, rfl⟩) fun _ => awaits

theorem refusedAt?_eq_none_iff :
    scene.refusedAt? grace = none ↔
      (Container.lookUp scene.clientFound).1 = true ∧ grace.IsFinite ∧
        scene.helper.fault = none := by
  have finite : grace.IsFinite ↔ grace.exact.toRat? ≠ none := Option.ne_none_iff_exists'.symm
  unfold Scene.refusedAt? Container.refusedAt?
  cases (Container.lookUp scene.clientFound).1 <;>
    by_cases unknown : grace.exact.toRat? = none <;> simp [finite, unknown]

/-- A helper that does not start is noticed when it has been waited for. -/
theorem startHelper_of_fault {fault : SpawnFault} (faulty : scene.helper.fault = some fault)
    (command : List String) :
    ∃ problem last, startHelper command scene = .error problem last ∧
      (problem ≠ .cancelled →
        last.now.instant = scene.now.instant + max scene.helper.startDelay 0 ∧
          last.engine = scene.engine ∧ scene.KeepsSilent Note.isSignal none last) := by
  unfold startHelper
  rw [bind_of_ok (get_apply scene)]
  cases delays : delay scene.helper.startDelay scene with
  | error problem last =>
      obtain ⟨rfl, -⟩ := delay_error delays
      exact ⟨_, _, bind_of_error delays, fun other => absurd rfl other⟩
  | ok value delayed =>
      obtain ⟨instant, same, -⟩ := delay_ok delays
      have engine : delayed.engine = scene.engine := by rw [same]
      simp only [bind_of_ok delays, bind_of_ok (note_apply _ delayed), faulty]
      refine ⟨_, _, rfl, fun _ => ⟨instant, engine, ?_⟩⟩
      exact IsPassage.trans ((waits_delay _).keepsSilent.ok delays) (.of_noted rfl rfl)

/-- A client that cannot be asked leaves the engine alone. -/
theorem stopContainer_of_refused {instant : Rat} (refused : scene.refusedAt? grace = some instant)
    (client container : String) :
    ∃ problem last, stopContainer client container grace scene = .error problem last ∧
      (problem ≠ .cancelled → last.now.instant = instant ∧ last.engine = scene.engine ∧
        scene.KeepsSilent Note.isSignal none last) := by
  unfold Scene.refusedAt? Container.refusedAt? at refused
  split at refused
  · rename_i lacking
    cases refused
    let located : Scene := { scene with clientFound := (Container.lookUp scene.clientFound).2 }
    have silent : scene.KeepsSilent Note.isSignal none located := fun _ member _ => member
    unfold stopContainer
    cases found : (Container.lookUp scene.clientFound).1 with
    | false =>
        refine ⟨.failure (Container.clientMissing client), located, bind_of_error ?_,
          fun _ => ⟨rfl, rfl, silent⟩⟩
        rw [locateClient_apply, found]
        rfl
    | true =>
        have unknown := lacking.resolve_left (by simp [found])
        have locates : locateClient client scene = .ok (Container.clientPath client) located := by
          rw [locateClient_apply, if_pos found]
        refine ⟨.graceNotWhole grace, located, ?_, fun _ => ⟨rfl, rfl, silent⟩⟩
        rw [bind_of_ok locates]
        apply bind_of_error
        cases grace with
        | int seconds => cases unknown
        | float seconds =>
            have undefined : seconds.toRat? = none := unknown
            unfold wholeSeconds
            simp only [undefined]
            rfl
  · rename_i asked
    rw [not_or, Bool.not_eq_false] at asked
    split at refused
    · rename_i faulty
      cases refused
      obtain ⟨fault, faulty⟩ := Option.isSome_iff_exists.mp faulty
      obtain ⟨command, asking, same, unfolded⟩ := stopContainer_of_found client container asked.1
        (Option.ne_none_iff_exists'.mp asked.2)
      have helper : asking.helper = scene.helper := by rw [same]
      obtain ⟨problem, last, raises, left⟩ := startHelper_of_fault (helper ▸ faulty) command
      have silent : scene.KeepsSilent Note.isSignal none asking := by
        rw [same]
        exact .of_noted rfl rfl
      refine ⟨problem, last, by rw [unfolded]; exact bind_of_error raises, fun other => ?_⟩
      obtain ⟨late, engine, quiet⟩ := left other
      refine ⟨?_, ?_, IsPassage.trans silent quiet⟩
      · rw [late, same]
      · rw [engine, same]
    · cases refused

/-- A client that can be asked answers, unless the caller is cancelled or nothing ever happens. -/
theorem stopContainer_of_asked (asked : scene.refusedAt? grace = none) (client container : String)
    {problem : RunProblem}
    (raises : stopContainer client container grace scene = .error problem last) :
    problem = .cancelled ∨ problem = .unending := by
  obtain ⟨found, finite, starts⟩ := refusedAt?_eq_none_iff.mp asked
  obtain ⟨command, asking, same, unfolded⟩ := stopContainer_of_found client container found finite
  rw [unfolded] at raises
  have helper : asking.helper = scene.helper := by rw [same]
  have helps : Follows IsPatient (do
      if ← exitsWithin .helper (grace.span.map (· + clientAllowance)) then return
      log (.stopTimedOut container)
      terminate .helper (.int 0) : Activity Unit) := by
    refine .bind (isPatient_exitsWithin _ _) fun _ => .ite (.pure _) ?_
    refine .bind (isPatient_of_returns fun _ => ⟨_, _, rfl⟩) fun _ => isPatient_terminate _ _
  rcases bind_eq_error.mp raises with fails | ⟨_, helped, _, rest⟩
  · unfold startHelper at fails
    rw [bind_of_ok (get_apply asking), helper] at fails
    rcases bind_eq_error.mp fails with delays | ⟨_, delayed, _, spawns⟩
    · exact .inl (delay_error delays).1
    · rw [bind_of_ok (note_apply _ delayed), starts] at spawns
      cases spawns
  · exact helps.error rest problem rfl

/-! ## Stops of containers -/

theorem stop_of_exited (client : String) (container : Option String)
    (exited : scene.engine.hasExited scene.now.instant = true) :
    stop (.container client) container grace scene = .ok () scene := by
  have gone : (scene.process .engine).hasExited scene.now.instant = true := exited
  unfold stop
  simp only [bind_of_ok (hasExited_apply .engine scene), gone, if_true]
  rfl

/-- A living process is terminated after the client has been asked to stop its container. -/
theorem stop_of_alive (client : String) (container : Option String)
    (alive : scene.engine.hasExited scene.now.instant = false) :
    stop (.container client) container grace scene =
      match given? container with
      | none => terminate .engine grace scene
      | some name =>
          (stopContainer client name grace >>= fun _ => terminate .engine grace) scene := by
  have living : (scene.process .engine).hasExited scene.now.instant = false := alive
  unfold stop
  simp only [bind_of_ok (hasExited_apply .engine scene), living, Bool.false_eq_true, if_false]
  cases given? container <;> rfl

/-- A stop that returns has reached its process. -/
theorem stop_isReached {client : String} {container : Option String}
    (returns : stop (.container client) container grace scene = .ok () last) : last.IsReached := by
  cases exited : scene.engine.hasExited scene.now.instant with
  | true =>
      rw [stop_of_exited client container exited] at returns
      cases returns
      exact .inl exited
  | false =>
      rw [stop_of_alive client container exited] at returns
      cases named : given? container with
      | none =>
          simp only [named] at returns
          exact terminate_isReached.ok returns
      | some name =>
          simp only [named] at returns
          obtain ⟨_, asked, -, terminates⟩ := bind_eq_ok.mp returns
          exact terminate_isReached.ok terminates

theorem le_refusedAt? {instant : Rat} (refused : scene.refusedAt? grace = some instant) :
    scene.now.instant ≤ instant := by
  unfold Scene.refusedAt? Container.refusedAt? at refused
  split_ifs at refused <;> cases refused
  · exact le_refl _
  · exact le_add_of_nonneg_right (le_max_right _ _)

/-- A process that is stranded lives when the stop begins, and the stop raises. -/
theorem stop_of_isStranded {container : Option String}
    (stranded : scene.IsStranded container grace) (client : String) :
    ∃ problem last, stop (.container client) container grace scene = .error problem last := by
  obtain ⟨-, contained, instant, refused, alive⟩ := stranded
  have living : scene.engine.hasExited scene.now.instant = false := by
    by_contra exited
    rw [Process.hasExited_mono (le_refusedAt? refused) (by simpa using exited)] at alive
    cases alive
  obtain ⟨name, named⟩ := Option.ne_none_iff_exists'.mp contained
  obtain ⟨problem, last, raises, -⟩ := stopContainer_of_refused refused client name
  refine ⟨problem, last, ?_⟩
  rw [stop_of_alive client container living, named]
  exact bind_of_error raises

/-- A stop raises because the client cannot be asked, and has not touched the process by then. -/
theorem stop_refused {client : String} {container : Option String} {problem : RunProblem}
    (raises : stop (.container client) container grace scene = .error problem last)
    (uncancelled : problem ≠ .cancelled) (ending : problem ≠ .unending) :
    given? container ≠ none ∧ scene.refusedAt? grace = some last.now.instant ∧
      last.engine = scene.engine ∧ scene.KeepsSilent Note.isSignal none last := by
  have patient : ∀ {stopped : Scene}, terminate .engine grace stopped ≠ .error problem last :=
    fun ends => ((isPatient_terminate .engine grace).error ends problem rfl).elim uncancelled ending
  cases exited : scene.engine.hasExited scene.now.instant with
  | true =>
      rw [stop_of_exited client container exited] at raises
      cases raises
  | false =>
      rw [stop_of_alive client container exited] at raises
      cases named : given? container with
      | none =>
          simp only [named] at raises
          exact absurd raises patient
      | some name =>
          simp only [named] at raises
          rcases bind_eq_error.mp raises with asks | ⟨_, _, _, terminates⟩
          · cases refused : scene.refusedAt? grace with
            | none => exact ((stopContainer_of_asked refused client name asks).elim uncancelled
                ending).elim
            | some instant =>
                obtain ⟨_, _, left, untouched⟩ := stopContainer_of_refused refused client name
                cases asks.symm.trans left
                obtain ⟨reached, engine, silent⟩ := untouched uncancelled
                exact ⟨by simp, congrArg some reached.symm, engine, silent⟩
          · exact absurd terminates patient

/-- A stop of a container that ends has reached its process, unless the process was stranded. -/
theorem stop_isReached_iff {client : String} {container : Option String}
    (ends : (stop (.container client) container grace).EndsIn scene last) :
    last.IsReached ↔ ¬ scene.IsStranded container grace := by
  cases ends with
  | returns outcome =>
      refine ⟨fun _ stranded => ?_, fun _ => stop_isReached outcome⟩
      obtain ⟨problem, left, raises⟩ := stop_of_isStranded stranded client
      cases outcome.symm.trans raises
  | raises outcome uncancelled ending =>
      obtain ⟨contained, refused, engine, silent⟩ := stop_refused outcome uncancelled ending
      constructor
      · rintro reached ⟨unasked, -, instant, noticed, alive⟩
        cases refused.symm.trans noticed
        rcases reached with exited | ⟨moment, member⟩
        · rw [engine, alive] at exited
          cases exited
        · rw [engine] at member
          exact unasked ⟨moment, silent _ member rfl⟩
      · intro saved
        by_cases asked : IsAsked scene.engine.name scene.notes
        · exact .inr (asked_of_leads ((isStepwise_leads.stop _ _ _).error outcome)
            ((isStepwise_keeps.stop _ _ _).error outcome) asked)
        · refine .inl ?_
          by_contra alive
          rw [engine, Bool.not_eq_true] at alive
          exact saved ⟨asked, contained, _, refused, alive⟩

end Activity

end AnalysisEngines
