import AnalysisEngines.Proofs.Run.Lockstep

/-!
# Activities do not look at notes

What a run notes is for others.  No activity looks at what has been noted, so that from scenes which
differ in their notes only, it returns or raises the same, and notes the same behind what was noted
before (`isBlind_supervise`).  How an engine was started is left out of the comparison: no log shows
it.
-/

set_option autoImplicit false

namespace AnalysisEngines

def Note.isSpawn : Note → Bool
  | .spawned .. => true
  | _ => false

/-- All notes but those of started engines, which nobody sees in a log. -/
def unspawned (notes : List (Moment × Note)) : List (Moment × Note) :=
  notes.filter fun entry => !entry.2.isSpawn

theorem unspawned_append (earlier later : List (Moment × Note)) :
    unspawned (earlier ++ later) = unspawned earlier ++ unspawned later :=
  List.filter_append ..

namespace Scene

def withNotes (notes : List (Moment × Note)) (scene : Scene) : Scene :=
  { scene with notes := notes }

/-- The same scene but for notes, which have gone on alike behind different beginnings. -/
def Echoes (early late : List (Moment × Note)) (scene other : Scene) : Prop :=
  ∃ notes added, other = scene.withNotes notes ∧
    unspawned scene.notes = early ++ added ∧ unspawned notes = late ++ added

theorem process_withNotes (notes : List (Moment × Note)) (scene : Scene) (role : Role) :
    (scene.withNotes notes).process role = scene.process role := by
  cases role <;> rfl

theorem setProcess_withNotes (notes : List (Moment × Note)) (scene : Scene) (role : Role)
    (process : Process) :
    (scene.withNotes notes).setProcess role process =
      (scene.setProcess role process).withNotes notes := by
  cases role <;> rfl

end Scene

namespace Activity

variable {α β : Type} {early late : List (Moment × Note)}

/-- An activity that does the same whatever has been noted. -/
abbrev IsBlind (early late : List (Moment × Note)) (activity : Activity α) : Prop :=
  InStep (Scene.Echoes early late) activity activity

namespace IsBlind

theorem get {next : Scene → Activity α}
    (blind : ∀ scene notes, next (scene.withNotes notes) = next scene)
    (continues : ∀ scene, IsBlind early late (next scene)) :
    IsBlind early late (get >>= next) := by
  refine InStep.get fun scene other echoes => ?_
  obtain ⟨notes, _, rfl, -, -⟩ := echoes
  rw [blind scene notes]
  exact continues scene

theorem modify {change : Scene → Scene}
    (blind : ∀ scene notes, change (scene.withNotes notes) = (change scene).withNotes notes) :
    IsBlind early late (modify change : Activity PUnit) := by
  refine InStep.modify ?_
  rintro scene _ ⟨notes, added, rfl, before, after⟩
  have kept : (change (scene.withNotes scene.notes)).notes = scene.notes := by
    rw [blind]
    rfl
  exact ⟨notes, added, blind scene notes, (congrArg unspawned kept).trans before, after⟩

theorem bind {first : Activity α} {next : α → Activity β} (begins : IsBlind early late first)
    (continues : ∀ value, IsBlind early late (next value)) :
    IsBlind early late (first >>= next) :=
  InStep.bind begins continues

theorem ite {condition : Prop} [Decidable condition] {yes no : Activity α}
    (whenYes : IsBlind early late yes) (whenNo : IsBlind early late no) :
    IsBlind early late (if condition then yes else no) :=
  InStep.ite Iff.rfl whenYes whenNo

end IsBlind

theorem isBlind_setProcess (role : Role) (process : Process) :
    IsBlind early late (modify fun scene => scene.setProcess role process : Activity PUnit) :=
  .modify fun scene notes => scene.setProcess_withNotes notes role process

/-- Two notes of which a log shows the same keep scenes alike. -/
theorem inStep_note_of_unspawned {first second : Note}
    (same : ∀ now : Moment, unspawned [(now, first)] = unspawned [(now, second)]) :
    InStep (Scene.Echoes early late) (note first) (note second) := by
  refine .modify ?_
  rintro scene _ ⟨notes, added, rfl, before, after⟩
  refine ⟨_, added ++ unspawned [(scene.now, first)], rfl, ?_, ?_⟩
  · rw [unspawned_append, before, List.append_assoc]
  · change unspawned (notes ++ [(scene.now, second)]) = _
    rw [unspawned_append, after, same, List.append_assoc]

theorem isBlind_note (entry : Note) : IsBlind early late (note entry) :=
  inStep_note_of_unspawned fun _ => rfl

theorem isBlind_pass (turns : Nat) : IsBlind early late (pass turns) := .modify fun _ _ => rfl

theorem isBlind_pause (target : Rat) (turns : Nat) : IsBlind early late (pause target turns) := by
  rintro scene _ ⟨notes, added, rfl, before, after⟩
  unfold pause Scene.withNotes
  dsimp only
  split
  · split
    · exact .error ⟨notes, added, rfl, before, after⟩
    · exact .ok ⟨notes, added, rfl, before, after⟩
  · exact .ok ⟨notes, added, rfl, before, after⟩

theorem isBlind_waitForever : IsBlind early late (waitForever : Activity α) := by
  rintro scene _ ⟨notes, added, rfl, before, after⟩
  unfold waitForever Scene.withNotes
  dsimp only
  split
  · exact .error ⟨notes, added, rfl, before, after⟩
  · exact .error ⟨notes, added, rfl, before, after⟩

theorem isBlind_delay (span : Rat) : IsBlind early late (delay span) :=
  .ite (.pure _) (.get (fun _ _ => rfl) fun _ => isBlind_pause _ _)

theorem isBlind_hasExited (role : Role) : IsBlind early late (hasExited role) :=
  .get (fun _ _ => by simp only [Scene.process_withNotes]; rfl) fun _ => .pure _

theorem isBlind_send (role : Role) (signal : Signal) : IsBlind early late (send role signal) := by
  refine .get (fun _ _ => by simp only [Scene.process_withNotes]; rfl) fun scene => ?_
  refine .ite (.pure _) (.bind (isBlind_note _) fun _ => ?_)
  cases (scene.process role).reaction signal with
  | vanished => exact .pure _
  | ignores => exact .bind (isBlind_setProcess _ _) fun _ => .pure _
  | exits => exact .bind (isBlind_setProcess _ _) fun _ => .pure _

theorem isBlind_exitsWithin (role : Role) (span : Option Rat) :
    IsBlind early late (exitsWithin role span) := by
  have paused : ∀ target turns answer, IsBlind early late
      (do pause target turns; return answer : Activity Bool) :=
    fun target turns answer => .bind (isBlind_pause target turns) fun _ => .pure _
  refine .get (fun _ _ => by simp only [Scene.process_withNotes]; rfl) fun scene => ?_
  cases span with
  | none =>
      cases (scene.process role).exit? with
      | none => exact isBlind_waitForever
      | some exit => exact paused _ _ _
  | some length =>
      refine .ite (.bind (isBlind_pass 3) fun _ => .pure _) ?_
      cases (scene.process role).exit? with
      | none => exact paused _ _ _
      | some exit => exact .ite (paused _ _ _) (paused _ _ _)

theorem isBlind_awaitExit (role : Role) (turns : Nat) :
    IsBlind early late (awaitExit role turns) := by
  refine .get (fun _ _ => by simp only [Scene.process_withNotes]; rfl) fun scene => ?_
  cases (scene.process role).exit? with
  | none => exact isBlind_waitForever
  | some exit => exact .ite (.bind (isBlind_pause _ _) fun _ => .pure _) (.pure _)

theorem isBlind_kill (role : Role) (grace : Number) : IsBlind early late (kill role grace) := by
  have awaits : IsBlind early late (discard (awaitExit role 1)) :=
    .bind (isBlind_awaitExit role 1) fun _ => .pure _
  refine .get (fun _ _ => by simp only [Scene.process_withNotes]) fun _ => ?_
  refine .bind (isBlind_note _) fun _ => ?_
  refine .bind (isBlind_send role .kill) fun _ => .ite ?_ awaits
  refine .bind (isBlind_hasExited role) fun _ => .ite ?_ awaits
  exact .bind (isBlind_pass 2) fun _ => awaits

theorem isBlind_terminate (role : Role) (grace : Number) :
    IsBlind early late (terminate role grace) := by
  refine .bind (isBlind_hasExited role) fun _ => .ite (.pure _) ?_
  refine .bind (isBlind_send role .terminate) fun _ => .ite (.pure _) ?_
  refine .bind (isBlind_exitsWithin role _) fun _ => .ite (.pure _) ?_
  exact isBlind_kill role grace

theorem isBlind_locateClient (client : String) : IsBlind early late (locateClient client) := by
  refine .get (fun _ _ => rfl) fun scene => ?_
  refine .bind (.modify fun _ _ => rfl) fun _ => .ite (.pure _) (.throw _)

theorem isBlind_wholeSeconds (grace : Number) : IsBlind early late (wholeSeconds grace) := by
  unfold wholeSeconds
  split
  · exact .pure _
  · split
    · exact .pure _
    · exact .throw _

theorem isBlind_startHelper (command : List String) :
    IsBlind early late (startHelper command) := by
  refine .get (fun _ _ => rfl) fun scene => ?_
  refine .bind (isBlind_delay _) fun _ => .bind (isBlind_note _) fun _ => ?_
  cases scene.helper.fault with
  | some fault => exact .throw _
  | none => exact .modify fun _ _ => rfl

theorem isBlind_stopContainer (client container : String) (grace : Number) :
    IsBlind early late (stopContainer client container grace) := by
  refine .bind (isBlind_locateClient client) fun _ => .bind (isBlind_wholeSeconds grace) fun _ => ?_
  refine .bind (isBlind_note _) fun _ => .bind (isBlind_startHelper _) fun _ => ?_
  refine .bind (isBlind_exitsWithin _ _) fun _ => .ite (.pure _) ?_
  exact .bind (isBlind_note _) fun _ => isBlind_terminate _ _

theorem isBlind_stop (runtime : Runtime) (container : Option String) (grace : Number) :
    IsBlind early late (stop runtime container grace) := by
  cases runtime with
  | host => exact isBlind_terminate _ _
  | container client =>
      refine .bind (isBlind_hasExited _) fun _ => .ite (.pure _) ?_
      dsimp only
      split
      · exact .bind (isBlind_stopContainer _ _ _) fun _ => isBlind_terminate _ _
      · exact isBlind_terminate _ _

theorem isBlind_race (request : Request) (deadline : Option Rat) :
    IsBlind early late (race request deadline) := by
  have concludes : ∀ ending, IsBlind early late (conclude ending) := by
    intro ending
    cases ending with
    | verdict verdict => exact .pure _
    | consumerFailed => exact .throw _
  refine .get (fun _ _ => rfl) fun scene => ?_
  dsimp only
  cases (raceOf request deadline scene).finish with
  | none => exact isBlind_waitForever
  | some finish => exact .ite (.bind (isBlind_pause _ _) fun _ => concludes _) (concludes _)

theorem isBlind_guardedRace (request : Request) (container : Option String)
    (deadline : Option Rat) : IsBlind early late (guardedRace request container deadline) := by
  refine .tryCatch (isBlind_race request deadline) fun problem => ?_
  have stops : IsBlind early late
      (do stop request.runtime container request.grace; throw problem : Activity Verdict) :=
    .bind (isBlind_stop _ _ _) fun _ => .throw _
  cases problem with
  | unending => exact .throw _
  | _ => exact stops

theorem isBlind_drain (request : Request) : IsBlind early late (drain request) := by
  refine .get (fun _ _ => rfl) fun scene => .ite (.pure _) ?_
  split
  · exact .ite (isBlind_pause _ _) (isBlind_pause _ _)
  · exact isBlind_pause _ _

theorem isBlind_finish (request : Request) (container : Option String) (began : Rat)
    (verdict : Verdict) (exitStatus : Int) :
    IsBlind early late (finish request container began verdict exitStatus) := by
  refine .get (fun _ _ => rfl) fun scene => ?_
  split
  · exact .bind (isBlind_note _) fun _ => .pure _
  · exact .throw _

theorem isBlind_settle (request : Request) (container : Option String) (began : Rat)
    (verdict : Verdict) : IsBlind early late (settle request container began verdict) :=
  .bind (isBlind_awaitExit .engine 2) fun _ =>
    .bind (isBlind_drain request) fun _ => isBlind_finish request container began verdict _

theorem isBlind_supervise (request : Request) (container : Option String) (began : Rat)
    (deadline : Option Rat) : IsBlind early late (supervise request container began deadline) := by
  refine .bind (isBlind_guardedRace request container deadline) fun verdict => ?_
  refine .ite ?_ (isBlind_settle request container began verdict)
  refine .bind (isBlind_note _) fun _ => .bind (isBlind_stop _ _ _) fun _ => ?_
  exact isBlind_settle request container began verdict

theorem inStep_launch_of_same {first second : Request} (same : first.launch = second.launch)
    (command other : List String) (environment environment' : Option (List (String × String)))
    (directory directory' : Option String) {failure failure' : SpawnFault → Failure}
    (alike : failure = failure') :
    InStep (Scene.Echoes early late) (launch first command environment directory failure)
      (launch second other environment' directory' failure') := by
  subst alike
  unfold launch
  rw [same]
  refine .bind (isBlind_delay _) fun _ => ?_
  refine .bind (inStep_note_of_unspawned fun _ => rfl) fun _ => ?_
  cases second.launch.fault with
  | some fault => exact .throw _
  | none => exact IsBlind.modify fun _ _ => rfl

end Activity

end AnalysisEngines
