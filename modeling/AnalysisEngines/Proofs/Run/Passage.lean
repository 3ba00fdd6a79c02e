import AnalysisEngines.Proofs.Run.Activity
import AnalysisEngines.Proofs.Run.Clock
import Mathlib.Data.List.Basic

/-!
# What every activity keeps

What each step of an activity keeps, and what one may chain, holds of the whole activity, whether it
returns or raises.  `Scene.Leads` holds of every activity, and `Scene.Waits` of those that only let
time pass.
-/

set_option autoImplicit false

namespace AnalysisEngines

/-- A relation of the scene before an activity, the problem that it raises, and the scene after it
that may be chained. -/
class IsPassage (relation : Scene → Option RunProblem → Scene → Prop) : Prop where
  refl : ∀ scene, relation scene none scene
  trans : ∀ {first middle last : Scene} {problem : Option RunProblem},
    relation first none middle → relation middle problem last → relation first problem last

namespace Activity

variable {α β : Type} {relation : Scene → Option RunProblem → Scene → Prop}

/-- Every outcome of an activity stands in the relation to the scene that it begins in. -/
def Follows (relation : Scene → Option RunProblem → Scene → Prop) (activity : Activity α) : Prop :=
  ∀ scene, match activity scene with
    | .ok _ last => relation scene none last
    | .error problem last => relation scene (some problem) last

namespace Follows

theorem ok {activity : Activity α} (follows : activity.Follows relation) {scene last : Scene}
    {value : α} (returns : activity scene = .ok value last) : relation scene none last := by
  simpa only [returns] using follows scene

theorem error {activity : Activity α} (follows : activity.Follows relation) {scene last : Scene}
    {problem : RunProblem} (raises : activity scene = .error problem last) :
    relation scene (some problem) last := by
  simpa only [raises] using follows scene

theorem of_outcomes {activity : Activity α}
    (ok : ∀ scene value last, activity scene = .ok value last → relation scene none last)
    (error : ∀ scene problem last, activity scene = .error problem last →
      relation scene (some problem) last) : activity.Follows relation := by
  intro scene
  split
  · exact ok _ _ _ ‹_›
  · exact error _ _ _ ‹_›

theorem imp {weaker : Scene → Option RunProblem → Scene → Prop} {activity : Activity α}
    (follows : activity.Follows relation)
    (implies : ∀ {scene last problem}, relation scene problem last → weaker scene problem last) :
    activity.Follows weaker :=
  of_outcomes (fun _ _ _ returns => implies (follows.ok returns))
    fun _ _ _ raises => implies (follows.error raises)

theorem pure [passage : IsPassage relation] (value : α) :
    Follows relation (pure value : Activity α) := passage.refl

theorem get [passage : IsPassage relation] : Follows relation (get : Activity Scene) :=
  passage.refl

theorem modify {change : Scene → Scene} (keeps : ∀ scene, relation scene none (change scene)) :
    Follows relation (modify change : Activity PUnit) := keeps

theorem bind [passage : IsPassage relation] {first : Activity α} {next : α → Activity β}
    (begins : first.Follows relation) (continues : ∀ value, (next value).Follows relation) :
    (first >>= next).Follows relation := by
  refine of_outcomes ?_ ?_
  · intro scene value last returns
    obtain ⟨_, _, before, after⟩ := bind_eq_ok.mp returns
    exact passage.trans (begins.ok before) ((continues _).ok after)
  · intro scene problem last raises
    rcases bind_eq_error.mp raises with before | ⟨_, _, before, after⟩
    · exact begins.error before
    · exact passage.trans (begins.ok before) ((continues _).error after)

theorem ite {condition : Prop} [Decidable condition] {yes no : Activity α}
    (whenYes : yes.Follows relation) (whenNo : no.Follows relation) :
    (if condition then yes else no).Follows relation := by
  split
  · exact whenYes
  · exact whenNo

end Follows

end Activity

def Note.isSignal : Note → Bool
  | .signal .. => true
  | _ => false

/-- Nothing of a kind is noted between two scenes. -/
def Scene.KeepsSilent (kind : Note → Bool) (before : Scene) (_ : Option RunProblem)
    (after : Scene) : Prop :=
  ∀ entry ∈ after.notes, kind entry.2 = true → entry ∈ before.notes

instance (kind : Note → Bool) : IsPassage (Scene.KeepsSilent kind) where
  refl _ _ member _ := member
  trans first second entry member isOf := first entry (second entry member isOf) isOf

/-- Nobody who has not been cancelled is told so, and no result is refused. -/
structure Scene.IsCalm (before : Scene) (problem : Option RunProblem) (after : Scene) : Prop where
  uncancelled : before.cancelAt = none → after.cancelAt = none ∧ problem ≠ some .cancelled
  possible : ∀ fault, problem ≠ some (.impossibleResult fault)

/-- Between two scenes only time has passed, or a cancellation has struck. -/
structure Scene.Waits (before : Scene) (problem : Option RunProblem) (after : Scene) : Prop where
  now : before.now ≤ after.now
  same : after = { before with now := after.now, cancelAt := after.cancelAt }
  calm : before.IsCalm problem after

/-- Time does not run backwards, and notes are only added, in order of time. -/
structure Scene.Leads (before : Scene) (problem : Option RunProblem) (after : Scene) : Prop where
  now : before.now ≤ after.now
  notes : ∃ added, after.notes = before.notes ++ added ∧
    added.Pairwise (fun earlier later => earlier.1 ≤ later.1) ∧
      ∀ entry ∈ added, before.now ≤ entry.1 ∧ entry.1 ≤ after.now
  calm : before.IsCalm problem after

namespace Scene

theorem isCalm_none {before after : Scene} (same : after.cancelAt = before.cancelAt) :
    before.IsCalm none after := ⟨fun unset => ⟨same.trans unset, by simp⟩, by simp⟩

theorem IsCalm.chain {first middle last : Scene} {caught problem : Option RunProblem}
    (before : first.IsCalm caught middle) (after : middle.IsCalm problem last) :
    first.IsCalm problem last :=
  ⟨fun unset => after.uncancelled (before.uncancelled unset).1, after.possible⟩

theorem Waits.of_now {before after : Scene} (now : before.now ≤ after.now)
    (same : after = { before with now := after.now }) : before.Waits none after := by
  refine ⟨now, ?_, isCalm_none ?_⟩
  · rw [same]
  · rw [same]

instance : IsPassage Waits where
  refl _ := .of_now (le_refl _) rfl
  trans first second := by
    refine ⟨first.now.trans second.now, ?_, first.calm.chain second.calm⟩
    rw [second.same, first.same]

theorem Waits.leads {before after : Scene} {problem : Option RunProblem}
    (waits : before.Waits problem after) : before.Leads problem after := by
  refine ⟨waits.now, ⟨[], ?_, .nil, by simp⟩, waits.calm⟩
  rw [waits.same, List.append_nil]

/-- What follows a scene follows also what led to it, whatever was raised in between. -/
theorem Leads.chain {first middle last : Scene} {caught problem : Option RunProblem}
    (before : first.Leads caught middle) (after : middle.Leads problem last) :
    first.Leads problem last := by
  obtain ⟨early, earlyNotes, earlyOrder, earlyBound⟩ := before.notes
  obtain ⟨late, lateNotes, lateOrder, lateBound⟩ := after.notes
  refine ⟨before.now.trans after.now, ⟨early ++ late, ?_, ?_, ?_⟩, before.calm.chain after.calm⟩
  · rw [lateNotes, earlyNotes, List.append_assoc]
  · refine List.pairwise_append.mpr ⟨earlyOrder, lateOrder, fun entry member other inLate => ?_⟩
    exact (earlyBound entry member).2.trans (lateBound other inLate).1
  · intro entry member
    rcases List.mem_append.mp member with inEarly | inLate
    · exact ⟨(earlyBound entry inEarly).1, (earlyBound entry inEarly).2.trans after.now⟩
    · exact ⟨before.now.trans (lateBound entry inLate).1, (lateBound entry inLate).2⟩

/-- A problem that was caught may be raised again. -/
theorem Leads.raise {first middle last : Scene} {problem : Option RunProblem}
    (before : first.Leads problem middle) (after : middle.Leads none last) :
    first.Leads problem last :=
  { before.chain after with
    calm :=
      { uncancelled := fun unset =>
          ⟨((before.chain after).calm.uncancelled unset).1, (before.calm.uncancelled unset).2⟩
        possible := before.calm.possible } }

instance : IsPassage Leads where
  refl scene := Waits.leads (IsPassage.refl scene)
  trans first second := first.chain second

/-- Between two scenes nothing has been noted, and no time has passed. -/
theorem Leads.of_same {before after : Scene} (now : after.now = before.now)
    (notes : after.notes = before.notes) (cancelAt : after.cancelAt = before.cancelAt) :
    before.Leads none after :=
  ⟨now.ge, ⟨[], by simpa using notes, .nil, by simp⟩, isCalm_none cancelAt⟩

/-- A note of another kind does not break the silence. -/
theorem KeepsSilent.of_noted {kind : Note → Bool} {before after : Scene}
    {problem : Option RunProblem} {entry : Moment × Note}
    (notes : after.notes = before.notes ++ [entry]) (other : kind entry.2 = false) :
    before.KeepsSilent kind problem after := by
  intro noted member isOf
  rw [notes] at member
  rcases List.mem_append.mp member with known | new
  · exact known
  · rw [List.mem_singleton.mp new, other] at isOf
    cases isOf

end Scene

namespace Activity

variable {α : Type} {relation : Scene → Option RunProblem → Scene → Prop}

theorem Follows.leads {activity : Activity α} (waits : activity.Follows Scene.Waits) :
    activity.Follows Scene.Leads := waits.imp Scene.Waits.leads

/-! ## Waiting -/

theorem waits_waitFor (instant : Rat) (turns : Nat) (scene : Scene) :
    scene.Waits none (scene.waitFor instant turns) :=
  .of_now (Moment.le_waitFor _ _ _) rfl

theorem waits_struckAt {scene : Scene} {instant : Rat} (pending : scene.cancelAt = some instant) :
    scene.Waits (some .cancelled) (scene.struckAt instant) :=
  ⟨Moment.le_waitFor _ _ _, rfl, fun unset => by simp [unset] at pending, by simp⟩

theorem waits_pause (target : Rat) (turns : Nat) : Follows Scene.Waits (pause target turns) := by
  intro scene
  unfold pause
  cases pending : scene.cancelAt with
  | none => exact waits_waitFor target turns scene
  | some instant =>
      by_cases strikes : instant ≤ target
      · simpa only [strikes, if_true] using waits_struckAt pending
      · simpa only [strikes, if_false] using waits_waitFor target turns scene

theorem waits_waitForever : Follows Scene.Waits (waitForever : Activity α) := by
  intro scene
  unfold waitForever
  cases pending : scene.cancelAt with
  | none => exact ⟨le_refl _, rfl, fun unset => ⟨unset, by simp⟩, by simp⟩
  | some instant => exact waits_struckAt pending

theorem waits_pass (turns : Nat) : Follows Scene.Waits (pass turns) :=
  fun scene => .of_now (Moment.le_pass turns scene.now) rfl

theorem waits_delay (span : Rat) : Follows Scene.Waits (delay span) :=
  .ite (.pure _)
    (.bind .get fun _ => waits_pause _ _)

theorem waits_hasExited (role : Role) : Follows Scene.Waits (hasExited role) :=
  fun scene => IsPassage.refl scene

theorem waits_exitsWithin (role : Role) (span : Option Rat) :
    Follows Scene.Waits (exitsWithin role span) := by
  have paused : ∀ target turns answer,
      Follows Scene.Waits (pause target turns >>= fun _ => pure answer : Activity Bool) :=
    fun target turns answer =>
      .bind (waits_pause target turns) fun _ => .pure _
  apply Follows.bind .get
  intro scene
  cases span with
  | none =>
      cases (scene.process role).exit? with
      | none => exact waits_waitForever
      | some exit => exact paused _ _ _
  | some length =>
      refine .ite ?_ ?_
      · exact .bind (waits_pass 3) fun _ => .pure _
      · cases (scene.process role).exit? with
        | none => exact paused _ _ _
        | some exit => exact .ite (paused _ _ _) (paused _ _ _)

theorem waits_awaitExit (role : Role) (turns : Nat) :
    Follows Scene.Waits (awaitExit role turns) := by
  apply Follows.bind .get
  intro scene
  cases (scene.process role).exit? with
  | none => exact waits_waitForever
  | some exit =>
      refine .ite ?_ (.pure _)
      exact .bind (waits_pause _ _) fun _ => .pure _

theorem waits_conclude (ending : RaceEnd) : Follows Scene.Waits (conclude ending) := by
  intro scene
  cases ending with
  | verdict verdict => exact IsPassage.refl scene
  | consumerFailed => exact ⟨le_refl _, rfl, fun unset => ⟨unset, by simp⟩, by simp⟩

theorem waits_race (request : Request) (deadline : Option Rat) :
    Follows Scene.Waits (race request deadline) := by
  apply Follows.bind .get
  intro scene
  dsimp only
  cases (raceOf request deadline scene).finish with
  | none => exact waits_waitForever
  | some finish =>
      refine .ite ?_ (waits_conclude _)
      exact .bind (waits_pause _ _) fun _ => waits_conclude _

theorem waits_drain (request : Request) : Follows Scene.Waits (drain request) := by
  apply Follows.bind .get
  intro scene
  refine .ite (.pure _) ?_
  split
  · exact .ite (waits_pause _ _) (waits_pause _ _)
  · exact waits_pause _ _

/-! ## Keeping silent -/

variable {kind : Note → Bool}

theorem Follows.keepsSilent {activity : Activity α} (waits : activity.Follows Scene.Waits) :
    activity.Follows (Scene.KeepsSilent kind) := by
  refine waits.imp fun waited entry member _ => ?_
  rw [waited.same] at member
  exact member

theorem keepsSilent_note {entry : Note} (other : kind entry = false) :
    Follows (Scene.KeepsSilent kind) (note entry) := fun _ => .of_noted rfl other

theorem keepsSilent_throw (problem : RunProblem) :
    Follows (Scene.KeepsSilent kind) (throw problem : Activity α) := fun _ _ member _ => member

theorem keepsSilent_locateClient (client : String) :
    Follows (Scene.KeepsSilent kind) (locateClient client) := by
  refine .bind .get fun scene => .bind (.modify fun _ _ member _ => member) fun _ => ?_
  exact .ite (.pure _) (keepsSilent_throw _)

/-! ## Stopping -/

/-- A relation that holds of each step of which terminating a process consists. -/
structure IsTerminating (relation : Scene → Option RunProblem → Scene → Prop)
    [IsPassage relation] : Prop where
  waits : ∀ {scene last problem}, Scene.Waits scene problem last → relation scene problem last
  escalates : ∀ pid grace, Follows relation (log (.killEscalated pid grace))
  sends : ∀ role signal, Follows relation (send role signal)

namespace IsTerminating

variable [IsPassage relation] (steps : IsTerminating relation)

include steps

theorem waiting {activity : Activity α} (waits : activity.Follows Scene.Waits) :
    activity.Follows relation := waits.imp steps.waits

theorem kill (role : Role) (grace : Number) : Follows relation (kill role grace) := by
  have awaits : Follows relation (discard (awaitExit role 1)) :=
    .bind (steps.waiting (waits_awaitExit role 1)) fun _ => .pure _
  refine .bind .get fun _ => .bind (steps.escalates _ _) fun _ => ?_
  refine .bind (steps.sends role .kill) fun _ => .ite ?_ awaits
  refine .bind (steps.waiting (waits_hasExited role)) fun _ => .ite ?_ awaits
  exact .bind (steps.waiting (waits_pass 2)) fun _ => awaits

theorem terminate (role : Role) (grace : Number) : Follows relation (terminate role grace) := by
  refine .bind (steps.waiting (waits_hasExited role)) fun _ => .ite (.pure _) ?_
  refine .bind (steps.sends role .terminate) fun _ => .ite (.pure _) ?_
  refine .bind (steps.waiting (waits_exitsWithin role _)) fun _ => .ite (.pure _) ?_
  exact steps.kill role grace

end IsTerminating

/-- A relation that holds of each step of which stopping a process consists. -/
structure IsStepwise (relation : Scene → Option RunProblem → Scene → Prop)
    [IsPassage relation] : Prop where
  waits : ∀ {scene last problem}, Scene.Waits scene problem last → relation scene problem last
  notes : ∀ entry, Follows relation (note entry)
  throws : ∀ {α : Type} {problem : RunProblem}, problem ≠ .cancelled →
    (∀ fault, problem ≠ .impossibleResult fault) → Follows relation (throw problem : Activity α)
  sends : ∀ role signal, Follows relation (send role signal)
  looksUp : ∀ (answers : List Bool) (scene : Scene),
    relation scene none { scene with clientFound := answers }
  helps : ∀ command, Follows relation (startHelper command)

namespace IsStepwise

variable [IsPassage relation] (steps : IsStepwise relation)

include steps

theorem waiting {activity : Activity α} (waits : activity.Follows Scene.Waits) :
    activity.Follows relation := waits.imp steps.waits

/-- What each step keeps implies what each step keeps. -/
theorem imp {weaker : Scene → Option RunProblem → Scene → Prop} [IsPassage weaker]
    (implies : ∀ {scene last problem}, relation scene problem last → weaker scene problem last) :
    IsStepwise weaker where
  waits waited := implies (steps.waits waited)
  notes entry := (steps.notes entry).imp implies
  throws other possible := (steps.throws other possible).imp implies
  sends role signal := (steps.sends role signal).imp implies
  looksUp answers scene := implies (steps.looksUp answers scene)
  helps command := (steps.helps command).imp implies

theorem isTerminating : IsTerminating relation where
  waits := steps.waits
  escalates _ _ := steps.notes _
  sends := steps.sends

theorem kill (role : Role) (grace : Number) : Follows relation (kill role grace) :=
  steps.isTerminating.kill role grace

theorem terminate (role : Role) (grace : Number) : Follows relation (terminate role grace) :=
  steps.isTerminating.terminate role grace

theorem locateClient (client : String) : Follows relation (locateClient client) := by
  refine .bind .get fun scene => .bind (.modify (steps.looksUp _)) fun _ => .ite (.pure _) ?_
  exact steps.throws (by simp) (by simp)

theorem wholeSeconds (grace : Number) : Follows relation (wholeSeconds grace) := by
  unfold Activity.wholeSeconds
  split
  · exact .pure _
  · split
    · exact .pure _
    · exact steps.throws (by simp) (by simp)

theorem stopContainer (client container : String) (grace : Number) :
    Follows relation (stopContainer client container grace) := by
  refine .bind (steps.locateClient client) fun _ => .bind (steps.wholeSeconds grace) fun _ => ?_
  refine .bind (steps.notes _) fun _ => .bind (steps.helps _) fun _ => ?_
  refine .bind (steps.waiting (waits_exitsWithin _ _)) fun _ => .ite (.pure _) ?_
  exact .bind (steps.notes _) fun _ => steps.terminate _ _

theorem stop (runtime : Runtime) (container : Option String) (grace : Number) :
    Follows relation (stop runtime container grace) := by
  cases runtime with
  | host => exact steps.terminate _ _
  | container client =>
      refine .bind (steps.waiting (waits_hasExited _)) fun _ => .ite (.pure _) ?_
      dsimp only
      split
      · exact .bind (steps.stopContainer _ _ _) fun _ => steps.terminate _ _
      · exact steps.terminate _ _

end IsStepwise

/-! ## All activities -/

theorem leads_note (entry : Note) : Follows Scene.Leads (note entry) :=
  fun scene => ⟨le_refl _, ⟨[(scene.now, entry)], rfl, by simp, by simp⟩, Scene.isCalm_none rfl⟩

theorem leads_throw {problem : RunProblem} (other : problem ≠ .cancelled)
    (possible : ∀ fault, problem ≠ .impossibleResult fault) :
    Follows Scene.Leads (throw problem : Activity α) :=
  fun _ => ⟨le_refl _, ⟨[], by simp⟩, fun unset => ⟨unset, by simpa using other⟩,
    by simpa using possible⟩

theorem leads_send (role : Role) (signal : Signal) : Follows Scene.Leads (send role signal) := by
  refine .bind .get fun scene => .ite (.pure _) (.bind (leads_note _) fun _ => ?_)
  have reacts : ∀ process : Process, Follows Scene.Leads
      (do modify fun current => current.setProcess role process; return true : Activity Bool) := by
    refine fun process => .bind (.modify fun current => ?_) fun _ => .pure _
    cases role <;> exact .of_same rfl rfl rfl
  split
  · exact .pure _
  · exact reacts _

theorem leads_startHelper (command : List String) :
    Follows Scene.Leads (startHelper command) := by
  refine .bind .get fun scene => .bind (waits_delay _).leads fun _ => .bind (leads_note _) fun _ => ?_
  split
  · exact leads_throw (by simp) (by simp)
  · exact .modify fun _ => .of_same rfl rfl rfl

theorem isStepwise_leads : IsStepwise Scene.Leads where
  waits := Scene.Waits.leads
  notes := leads_note
  throws := leads_throw
  sends := leads_send
  looksUp _ _ := .of_same rfl rfl rfl
  helps := leads_startHelper

theorem leads_launch (request : Request) (command : List String)
    (environment : Option (List (String × String))) (directory : Option String)
    (failure : SpawnFault → Failure) :
    Follows Scene.Leads (launch request command environment directory failure) := by
  refine .bind (waits_delay _).leads fun _ => .bind (leads_note _) fun _ => ?_
  split
  · exact leads_throw (by simp) (by simp)
  · exact .modify fun _ => .of_same rfl rfl rfl

theorem leads_start (request : Request) : Follows Scene.Leads (start request) := by
  unfold start
  dsimp only
  split
  · split
    · exact leads_throw (by simp) (by simp)
    · exact .bind (leads_launch _ _ _ _ _) fun _ => .pure _
  · refine .bind (isStepwise_leads.locateClient _) fun _ => .bind (leads_note _) fun _ => ?_
    exact .bind (leads_launch _ _ _ _ _) fun _ => .pure _

theorem guardedRace_apply (request : Request) (container : Option String)
    (deadline : Option Rat) (scene : Scene) :
    guardedRace request container deadline scene =
      match race request deadline scene with
      | .ok verdict last => .ok verdict last
      | .error .unending last => .error .unending last
      | .error problem last =>
          (stop request.runtime container request.grace >>= fun _ => throw problem :
            Activity Verdict) last := by
  simp only [guardedRace, tryCatch_apply]
  split
  · rename_i returns
    rw [returns]
  · rename_i problem last raises
    rw [raises]
    cases problem <;> rfl

theorem leads_guardedRace (request : Request) (container : Option String)
    (deadline : Option Rat) :
    Follows Scene.Leads (guardedRace request container deadline) := by
  intro scene
  have raced := (waits_race request deadline).leads
  rw [guardedRace_apply]
  split
  · rename_i outcome
    split at outcome
    · rename_i returns
      cases outcome
      exact raced.ok returns
    · cases outcome
    · obtain ⟨_, _, _, raises⟩ := bind_eq_ok.mp outcome
      cases raises
  · rename_i outcome
    split at outcome
    · cases outcome
    · rename_i raises
      cases outcome
      exact raced.error raises
    · rename_i raises
      have before := raced.error raises
      have stopped := isStepwise_leads.stop request.runtime container request.grace
      rcases bind_eq_error.mp outcome with early | ⟨_, _, returns, late⟩
      · exact before.chain (stopped.error early)
      · cases late
        exact before.raise (stopped.ok returns)

theorem finish_apply (request : Request) (container : Option String) (began : Rat)
    (verdict : Verdict) (exitStatus : Int) (scene : Scene) :
    finish request container began verdict exitStatus scene =
      .ok (resultOf request container began verdict exitStatus scene)
        { scene with notes := scene.notes ++ [(scene.now, .notice
          (.finished (resultOf request container began verdict exitStatus scene)))] } := by
  have valid : (resultOf request container began verdict exitStatus scene).check =
      .ok (resultOf request container began verdict exitStatus scene) := by
    cases verdict <;> rfl
  unfold finish
  rw [bind_of_ok (get_apply scene), valid]
  rfl

theorem IsStepwise.settle [IsPassage relation] (steps : IsStepwise relation) (request : Request)
    (container : Option String) (began : Rat) (verdict : Verdict) :
    Follows relation (settle request container began verdict) := by
  refine .bind (steps.waiting (waits_awaitExit .engine 2)) fun _ => ?_
  refine .bind (steps.waiting (waits_drain request)) fun _ => fun scene => ?_
  rw [finish_apply]
  exact steps.notes _ scene

theorem leads_supervise (request : Request) (container : Option String) (began : Rat)
    (deadline : Option Rat) :
    Follows Scene.Leads (supervise request container began deadline) := by
  have settles := isStepwise_leads.settle request container began
  refine .bind (leads_guardedRace _ _ _) fun verdict => .ite ?_ (settles verdict)
  exact .bind (leads_note _) fun _ => .bind (isStepwise_leads.stop _ _ _) fun _ => settles verdict

theorem leads_execute (request : Request) : Follows Scene.Leads (execute request) := by
  refine .bind .get fun scene => .bind (leads_start request) fun container => ?_
  exact .bind (leads_note _) fun _ => leads_supervise _ _ _ _

end Activity

namespace Execution

variable {request : Request} {origin : Moment}

/-- What holds at the end of an activity holds at the end of a run. -/
theorem run_leads (request : Request) (origin : Moment) :
    ∃ problem last, (opening request origin).Leads problem last ∧
      (run request origin).notes = last.notes ∧ (run request origin).finish = last.now ∧
        (∀ raised, (run request origin).result = .error raised → problem = some raised) := by
  have leads := Activity.leads_execute request
  unfold run
  cases outcome : Activity.execute request (opening request origin) with
  | ok result last => exact ⟨none, last, leads.ok outcome, rfl, rfl, by simp [ofOutcome]⟩
  | error problem last =>
      exact ⟨some problem, last, leads.error outcome, rfl, rfl, by simp [ofOutcome]⟩

theorem le_finish (request : Request) (origin : Moment) :
    origin ≤ (run request origin).finish := by
  obtain ⟨_, last, leads, -, finish, -⟩ := run_leads request origin
  exact finish ▸ leads.now

/-- The notes of a run are in order of time. -/
theorem pairwise_notes (request : Request) (origin : Moment) :
    (run request origin).notes.Pairwise fun earlier later => earlier.1 ≤ later.1 := by
  obtain ⟨_, last, leads, notes, -, -⟩ := run_leads request origin
  obtain ⟨added, same, ordered, -⟩ := leads.notes
  rw [notes, same]
  exact ordered

theorem mem_notes_le {entry : Moment × Note} (member : entry ∈ (run request origin).notes) :
    origin ≤ entry.1 ∧ entry.1 ≤ (run request origin).finish := by
  obtain ⟨_, last, leads, notes, finish, -⟩ := run_leads request origin
  obtain ⟨added, same, -, bound⟩ := leads.notes
  rw [notes, same] at member
  rw [finish]
  exact bound entry member

/-- A run that nobody cancels does not end cancelled. -/
theorem result_ne_cancelled (unset : request.cancelAt = none) :
    (run request origin).result ≠ .error .cancelled := by
  obtain ⟨problem, last, leads, -, -, raised⟩ := run_leads request origin
  intro cancelled
  exact (leads.calm.uncancelled unset).2 (raised _ cancelled)

/-- The check of a result never fails. -/
theorem result_ne_impossible (request : Request) (origin : Moment) (fault : ResultFault) :
    (run request origin).result ≠ .error (.impossibleResult fault) := by
  obtain ⟨problem, last, leads, -, -, raised⟩ := run_leads request origin
  intro refused
  exact leads.calm.possible fault (raised _ refused)

end Execution

end AnalysisEngines
