import AnalysisEngines.Proofs.Run.Execution
import AnalysisEngines.Proofs.Run.Writing

/-!
# Which signals a run sends, and when

A run on the host that nobody cancels sends its process no signal if it has exited when the race
ends.  A process that lives then is asked to terminate at once, and killed at the end of the grace
period if it lives still: `run_sends_dueSignals`.
-/

set_option autoImplicit false

namespace AnalysisEngines

/-- The signals among notes, each with the instant at which it was sent. -/
def signalsIn (notes : List (Moment × Note)) : List (Rat × Signal) :=
  notes.filterMap fun entry => match entry.2 with
    | .signal _ signal => some (entry.1.instant, signal)
    | _ => none

theorem signalsIn_append (earlier later : List (Moment × Note)) :
    signalsIn (earlier ++ later) = signalsIn earlier ++ signalsIn later :=
  List.filterMap_append ..

theorem signalsIn_eq_nil_iff {notes : List (Moment × Note)} :
    signalsIn notes = [] ↔ ∀ entry ∈ notes, entry.2.isSignal = false := by
  unfold signalsIn
  rw [List.filterMap_eq_nil_iff]
  refine forall₂_congr fun entry _ => ?_
  cases entry.2 <;> simp [Note.isSignal]

theorem signalsIn_of_keepsSilent {before after : Scene} {problem : Option RunProblem}
    (silent : before.KeepsSilent Note.isSignal problem after)
    (unsignalled : signalsIn before.notes = []) : signalsIn after.notes = [] := by
  rw [signalsIn_eq_nil_iff] at unsignalled ⊢
  intro entry member
  by_contra signals
  rw [Bool.not_eq_false] at signals
  rw [unsignalled entry (silent entry member signals)] at signals
  cases signals

namespace Process

/-- A process that every signal reaches as long as it is alive. -/
structure IsReachable (process : Process) : Prop where
  onTerminate : process.onTerminate ≠ .vanished
  onKill : process.onKill ≠ .vanished

/-- The kill of a process at an instant, unless it has exited. -/
def killAt (instant : Rat) (process : Process) : List (Rat × Signal) :=
  if process.hasExited instant then [] else [(instant, .kill)]

/-- The kill of a process that was asked to terminate at an instant, at the end of a grace period
that may have none. -/
def dueKill (grace : Option Rat) (instant : Rat) (process : Process) : List (Rat × Signal) :=
  match grace with
  | none => []
  | some span => process.killAt (instant + span)

/-- The signals for a process that is to be stopped from an instant on. -/
def dueSignals (grace : Option Rat) (instant : Rat) (process : Process) : List (Rat × Signal) :=
  if process.hasExited instant then []
  else (instant, .terminate) :: (process.react .terminate instant).dueKill grace instant

theorem dueSignals_of_hasExited {process : Process} {instant : Rat} (grace : Option Rat)
    (exited : process.hasExited instant = true) : process.dueSignals grace instant = [] :=
  if_pos exited

/-- A process is not killed, or at the end of its grace period because it is alive then. -/
theorem dueKill_cases (process : Process) (grace : Option Rat) (instant : Rat) :
    process.dueKill grace instant = [] ∨
      ∃ span, grace = some span ∧ process.hasExited (instant + span) = false ∧
        process.dueKill grace instant = [(instant + span, .kill)] := by
  cases grace with
  | none => exact .inl rfl
  | some span =>
      unfold dueKill killAt
      cases exited : process.hasExited (instant + span) with
      | true => exact .inl (if_pos exited)
      | false => exact .inr ⟨span, rfl, exited, by simp [exited]⟩

/-- A process after the signals that reached it. -/
def feel (signals : List (Rat × Signal)) (process : Process) : Process :=
  signals.foldl (fun known sent => known.react sent.2 sent.1) process

theorem feel_append (earlier later : List (Rat × Signal)) (process : Process) :
    process.feel (earlier ++ later) = (process.feel earlier).feel later :=
  List.foldl_append ..

theorem react_onTerminate (signal : Signal) (now : Rat) (process : Process) :
    (process.react signal now).onTerminate = process.onTerminate := by
  unfold react
  split <;> rfl

theorem IsReachable.react {process : Process} (reachable : process.IsReachable) (signal : Signal)
    (now : Rat) : (process.react signal now).IsReachable where
  onTerminate := by simpa only [react_onTerminate] using reachable.onTerminate
  onKill := by simpa only [react_onKill] using reachable.onKill

/-- A signal to a living process does not make it exit earlier. -/
theorem le_exit_of_react {process : Process} {signal : Signal} {now exit : Rat} {status : Int}
    (causal : process.IsCausal) (alive : process.hasExited now = false)
    (exits : (process.react signal now).exit? = some (exit, status)) : now ≤ exit := by
  have own : ∀ instant code, process.exit? = some (instant, code) → now < instant :=
    not_hasExited_iff.mp alive
  have prompt := causal.reaction signal
  unfold Process.react at exits
  cases reaction : process.reaction signal with
  | ignores =>
      simp only [reaction] at exits
      exact (own _ _ exits).le
  | vanished =>
      simp only [reaction] at exits
      exact (own _ _ exits).le
  | exits delay code =>
      rw [reaction] at prompt
      have later : now ≤ now + delay := le_add_of_nonneg_right prompt
      simp only [reaction, exit?, schedule, Timeline.exit?_schedule_exit] at exits
      split at exits
      · rename_i known
        split at exits
        · cases exits
          exact (own _ _ known).le
        · cases exits
          exact later
      · cases exits
        exact later

/-- No signal that is due comes after the exit of the process that feels it. -/
theorem le_exit_of_mem_dueSignals {process : Process} {grace : Option Rat} {instant exit : Rat}
    {status : Int} {sent : Rat × Signal} (causal : process.IsCausal)
    (patient : ∀ span, grace = some span → 0 ≤ span)
    (due : sent ∈ process.dueSignals grace instant)
    (exits : (process.feel (process.dueSignals grace instant)).exit? = some (exit, status)) :
    sent.1 ≤ exit := by
  by_cases gone : process.hasExited instant = true
  · rw [dueSignals_of_hasExited _ gone] at due
    cases due
  unfold dueSignals at due exits
  rw [if_neg gone] at due exits
  rw [Bool.not_eq_true] at gone
  have asked : (process.react .terminate instant).IsCausal := causal.react .terminate instant
  rcases dueKill_cases (process.react .terminate instant) grace instant with
    unkilled | ⟨span, limited, alive, killed⟩
  · rw [unkilled] at due exits
    rw [List.mem_singleton.mp due]
    exact le_exit_of_react causal gone exits
  · rw [killed] at due exits
    have last : instant + span ≤ exit := le_exit_of_react asked alive exits
    rcases List.mem_cons.mp due with rfl | member
    · exact (le_add_of_nonneg_right (patient span limited)).trans last
    · rw [List.mem_singleton.mp member]
      exact last

end Process

namespace Scene

/-- Between two scenes exactly these signals are sent, and the engine reacts to each. -/
structure Sends (signals : List (Rat × Signal)) (before after : Scene) : Prop where
  noted : signalsIn after.notes = signalsIn before.notes ++ signals
  engine : after.engine = before.engine.feel signals

theorem Sends.refl (scene : Scene) : scene.Sends [] scene := ⟨(List.append_nil _).symm, rfl⟩

theorem Sends.trans {early late : List (Rat × Signal)} {first middle last : Scene}
    (before : first.Sends early middle) (after : middle.Sends late last) :
    first.Sends (early ++ late) last where
  noted := by rw [after.noted, before.noted, List.append_assoc]
  engine := by rw [after.engine, before.engine, Process.feel_append]

/-- Between two scenes no signal is sent. -/
def IsQuiet (before : Scene) (_ : Option RunProblem) (after : Scene) : Prop := before.Sends [] after

instance : IsPassage IsQuiet where
  refl := Sends.refl
  trans first second := first.trans second

theorem Waits.isQuiet {before after : Scene} {problem : Option RunProblem}
    (waits : before.Waits problem after) : before.IsQuiet problem after := by
  have same := waits.same
  refine ⟨?_, ?_⟩
  · rw [same]
    exact (List.append_nil _).symm
  · rw [same]
    rfl

end Scene

namespace Activity

variable {α : Type} {scene last : Scene} {grace : Number}

/-- Whether an activity returns or raises, it leaves a scene of a kind. -/
def Leaves (activity : Activity α) (scene : Scene) (kind : Scene → Prop) : Prop :=
  match activity scene with
  | .ok _ last => kind last
  | .error _ last => kind last

theorem Leaves.of_ok {activity : Activity α} {value : α} {kind : Scene → Prop}
    (returns : activity scene = .ok value last) (holds : kind last) : activity.Leaves scene kind := by
  unfold Leaves
  rw [returns]
  exact holds

theorem Leaves.of_error {activity : Activity α} {problem : RunProblem} {kind : Scene → Prop}
    (raises : activity scene = .error problem last) (holds : kind last) :
    activity.Leaves scene kind := by
  unfold Leaves
  rw [raises]
  exact holds

theorem Leaves.of_eq {activity other : Activity α} {middle : Scene} {kind : Scene → Prop}
    (same : activity scene = other middle) (leaves : other.Leaves middle kind) :
    activity.Leaves scene kind := by
  unfold Leaves
  rw [same]
  exact leaves

theorem Leaves.imp {activity : Activity α} {kind weaker : Scene → Prop}
    (leaves : activity.Leaves scene kind) (implies : ∀ last, kind last → weaker last) :
    activity.Leaves scene weaker := by
  unfold Leaves at leaves ⊢
  split at leaves
  · exact implies _ leaves
  · exact implies _ leaves

/-! ## Quiet activities -/

theorem isQuiet_note {entry : Note} (other : entry.isSignal = false) :
    Follows Scene.IsQuiet (note entry) := by
  intro scene
  refine ⟨?_, rfl⟩
  change signalsIn (scene.notes ++ [(scene.now, entry)]) = _
  have none : signalsIn [(scene.now, entry)] = [] :=
    signalsIn_eq_nil_iff.mpr (by simpa using other)
  rw [signalsIn_append, none]

theorem isQuiet_throw (problem : RunProblem) :
    Follows Scene.IsQuiet (throw problem : Activity α) := fun scene => Scene.Sends.refl scene

theorem Follows.isQuiet {activity : Activity α} (waits : activity.Follows Scene.Waits) :
    activity.Follows Scene.IsQuiet := waits.imp Scene.Waits.isQuiet

theorem isQuiet_settle (request : Request) (container : Option String) (began : Rat)
    (verdict : Verdict) : Follows Scene.IsQuiet (settle request container began verdict) := by
  refine .bind (waits_awaitExit .engine 2).isQuiet fun _ => ?_
  refine .bind (waits_drain request).isQuiet fun _ => .bind .get fun scene => ?_
  split
  · exact .bind (isQuiet_note rfl) fun _ => .pure _
  · exact isQuiet_throw _

theorem isQuiet_afterStop (request : Request) (container : Option String) (began : Rat)
    (ending : RaceEnd) : Follows Scene.IsQuiet (afterStop request container began ending) := by
  cases ending with
  | verdict verdict => exact isQuiet_settle _ _ _ _
  | consumerFailed => exact isQuiet_throw _

/-- What is quiet adds no signals to those sent before. -/
theorem leaves_sends {signals : List (Rat × Signal)} {middle : Scene} {activity : Activity α}
    (sends : scene.Sends signals middle) (quiet : activity.Follows Scene.IsQuiet) :
    activity.Leaves middle (scene.Sends signals) := by
  have behind : activity.Leaves middle (middle.Sends []) := quiet middle
  refine behind.imp fun last sends' => ?_
  have all := sends.trans sends'
  rwa [List.append_nil] at all

/-! ## Stopping -/

/-- What has reached the engine alive has been sent to it. -/
theorem sends_of_reached {signal : Signal} {asked : Scene}
    (reacts : asked.engine = scene.engine.react signal scene.now.instant)
    (notes : asked.notes = scene.notes ++ [(scene.now, .signal scene.engine.name signal)]) :
    scene.Sends [(scene.now.instant, signal)] asked where
  noted := by
    rw [notes]
    exact signalsIn_append _ _
  engine := reacts

theorem kill_sends (reachable : scene.engine.onKill ≠ .vanished) :
    (kill .engine grace).Leaves scene
      (scene.Sends (scene.engine.killAt scene.now.instant)) := by
  let noted : Scene := { scene with notes := scene.notes ++
    [(scene.now, .notice (.killEscalated scene.engine.pid grace))] }
  have quiet : scene.Sends [] noted := (isQuiet_note rfl).ok (log_apply _ scene)
  let rest (answer : Bool) : Activity Unit := do
    if answer then
      if ← hasExited .engine then pass 2
    discard (awaitExit .engine 1)
  have awaits : Follows Scene.IsQuiet (discard (awaitExit .engine 1)) :=
    .bind (waits_awaitExit .engine 1).isQuiet fun _ => .pure _
  have rests : ∀ answer, Follows Scene.IsQuiet (rest answer) := fun answer =>
    .ite (.bind (waits_hasExited .engine).isQuiet fun _ =>
      .ite (.bind (waits_pass 2).isQuiet fun _ => awaits) awaits) awaits
  have unfolded : ∀ {answer middle}, send .engine .kill noted = .ok answer middle →
      kill .engine grace scene = rest answer middle := by
    intro answer middle sent
    unfold kill
    rw [bind_of_ok (get_apply scene), bind_of_ok (log_apply _ scene)]
    exact bind_of_ok sent
  unfold Process.killAt
  by_cases exited : scene.engine.hasExited scene.now.instant = true
  · have sent : send .engine .kill noted = .ok false noted := send_of_exited .kill exited
    rw [if_pos exited]
    exact Leaves.of_eq (unfolded sent) (leaves_sends quiet (rests false))
  · rw [if_neg exited]
    rw [Bool.not_eq_true] at exited
    obtain ⟨middle, -, -, reacts, notes, sent⟩ := @send_of_alive noted .engine .kill exited reachable
    have sends : noted.Sends [(scene.now.instant, .kill)] middle := sends_of_reached reacts notes
    exact Leaves.of_eq (unfolded sent) (leaves_sends (quiet.trans sends) (rests true))

/-- A grace period that nobody cancels ends with the kill that is due then. -/
theorem grace_sends (uncancelled : scene.cancelAt = none)
    (reachable : scene.engine.onKill ≠ .vanished)
    (patient : ∀ span, grace.span = some span → 0 ≤ span) :
    Leaves (do if ← exitsWithin .engine grace.span then return
               kill .engine grace) scene
      (scene.Sends (scene.engine.dueKill grace.span scene.now.instant)) := by
  cases waited : exitsWithin .engine grace.span scene with
  | error problem last =>
      have quiet := (waits_exitsWithin .engine _).isQuiet.error waited
      cases exitsWithin_error waited with
      | unending limitless =>
          refine Leaves.of_error (bind_of_error waited) ?_
          rw [limitless]
          exact quiet
      | struck struck => cases struck.pending.symm.trans uncancelled
  | ok answer middle =>
      have quiet := (waits_exitsWithin .engine _).isQuiet.ok waited
      cases answer with
      | true =>
          obtain ⟨instant, status, exits, inTime, -⟩ := (exitsWithin_ok waited).true
          refine Leaves.of_ok (bind_of_ok waited) ?_
          rcases scene.engine.dueKill_cases grace.span scene.now.instant with
            unkilled | ⟨span, limited, alive, -⟩
          · rw [unkilled]
            exact quiet
          · have late := Process.not_hasExited_iff.mp alive instant status exits
            exact absurd (inTime span limited).2 (not_le.mpr late)
      | false =>
          obtain ⟨span, limited, ended, -⟩ := (exitsWithin_ok waited).false
          have engine : middle.engine = scene.engine :=
            ((waits_exitsWithin .engine _).ok waited).process_eq .engine
          have instant : middle.now.instant = scene.now.instant + span := by
            rw [ended, max_eq_left (patient span limited)]
          have killed := @kill_sends middle grace (engine ▸ reachable)
          rw [engine, instant] at killed
          refine Leaves.of_eq (bind_of_ok waited) (killed.imp fun last behind => ?_)
          rw [limited]
          exact quiet.trans behind

/-- A termination that nobody cancels sends the signals that are due from its beginning. -/
theorem terminate_sends (uncancelled : scene.cancelAt = none)
    (reachable : scene.engine.IsReachable) (patient : ∀ span, grace.span = some span → 0 ≤ span) :
    (terminate .engine grace).Leaves scene
      (scene.Sends (scene.engine.dueSignals grace.span scene.now.instant)) := by
  by_cases exited : scene.engine.hasExited scene.now.instant = true
  · rw [Process.dueSignals_of_hasExited _ exited]
    exact Leaves.of_ok (@terminate_of_exited scene .engine grace exited) (.refl scene)
  unfold Process.dueSignals
  rw [if_neg exited]
  rw [Bool.not_eq_true] at exited
  obtain ⟨asked, now, cancelAt, reacts, notes, unfolded⟩ :=
    @terminate_of_alive scene .engine grace exited reachable.onTerminate
  have sends : scene.Sends [(scene.now.instant, .terminate)] asked := sends_of_reached reacts notes
  have engine : asked.engine = scene.engine.react .terminate scene.now.instant := reacts
  have ends := @grace_sends asked grace (cancelAt.trans uncancelled)
    (engine ▸ (reachable.react .terminate scene.now.instant).onKill) patient
  rw [engine, now] at ends
  apply Leaves.of_eq unfolded
  exact ends.imp fun last behind => sends.trans behind

/-! ## Supervising -/

variable {request : Request} {deadline : Option Rat}

theorem leaves_sends_bind {β : Type} {signals : List (Rat × Signal)} {middle : Scene}
    {first : Activity α} {next : α → Activity β}
    (begins : first.Leaves middle (scene.Sends signals))
    (quiet : ∀ value, (next value).Follows Scene.IsQuiet) :
    (first >>= next).Leaves middle (scene.Sends signals) := by
  unfold Leaves at begins
  split at begins
  · rename_i outcome
    exact Leaves.of_eq (bind_of_ok outcome) (leaves_sends begins (quiet _))
  · rename_i outcome
    exact Leaves.of_error (bind_of_error outcome) begins

/-- A run whose race never ends sends nothing. -/
theorem supervise_of_endless (container : Option String) (began : Rat)
    (uncancelled : scene.cancelAt = none)
    (endless : (raceOf request deadline scene).finish = none) :
    supervise request container began deadline scene = .error .unending scene := by
  have guarded : guardedRace request container deadline scene = .error .unending scene := by
    rw [guardedRace_apply, race_of_endless uncancelled endless]
  exact bind_of_error guarded

/-- A run whose race ends sends the signals that are due from then on, whatever ended it. -/
theorem supervise_sends (hosted : request.runtime.isHost = true)
    (uncancelled : scene.cancelAt = none) (unsignalled : signalsIn scene.notes = [])
    (reachable : scene.engine.IsReachable)
    (patient : ∀ span, request.grace.span = some span → 0 ≤ span)
    (container : Option String) (began : Rat) {instant : Rat} {ending : RaceEnd}
    (finishes : (raceOf request deadline scene).finish = some (instant, ending)) :
    (supervise request container began deadline).Leaves scene
      (scene.Sends (scene.engine.dueSignals request.grace.span instant)) := by
  have decided := isDecided_of_uncancelled uncancelled finishes
  by_cases exits : ending = .verdict .exited
  · subst exits
    obtain ⟨middle, leads, -, settles⟩ := supervise_of_exited decided container began
    rw [Process.dueSignals_of_hasExited _ (hasExited_of_decided decided)]
    exact Leaves.of_eq settles (leaves_sends leads.waits.isQuiet (isQuiet_settle _ _ _ _))
  · obtain ⟨halted, halts, unfolded⟩ := supervise_of_decided decided exits container began
    have engine : halted.engine = scene.engine := by rw [halts.same]
    have quiet : scene.Sends [] halted :=
      ⟨by rw [signalsIn_of_keepsSilent halts.silent unsignalled, unsignalled]; rfl, engine⟩
    have stops := @terminate_sends halted request.grace (by rw [halts.same]; exact uncancelled)
      (engine ▸ reachable) patient
    rw [engine, halts.reached, ← stop_of_host hosted container] at stops
    refine Leaves.of_eq unfolded (leaves_sends_bind (stops.imp fun last sends => ?_) fun _ => ?_)
    · exact quiet.trans sends
    · exact isQuiet_afterStop request container began ending

end Activity

theorem Binary64.nonneg_of_le {value : Rat}
    (order : Binary64.le (.finite 0) (.finite value) = true) : 0 ≤ value := by
  rcases (Bool.or_eq_true _ _).mp order with below | same
  · exact (of_decide_eq_true below).le
  · exact (beq_iff_eq.mp same).le

/-- No grace period from zero on is negative. -/
theorem Number.span_nonneg {number : Number} (nonnegative : Number.int 0 ≤ number) {span : Rat}
    (limited : number.span = some span) : 0 ≤ span := by
  cases number with
  | int seconds =>
      cases limited
      exact Binary64.nonneg_of_le nonnegative
  | float seconds =>
      cases seconds with
      | finite value =>
          cases limited
          exact Binary64.nonneg_of_le nonnegative
      | negativeZero =>
          cases limited
          exact le_refl _
      | infinite negative =>
          cases negative with
          | true =>
              cases limited
              exact le_refl _
          | false => cases limited
      | nan => cases limited

/-- The race of a run that is asked for at an instant. -/
def Request.raceFrom (origin : Rat) (request : Request) : Race :=
  let start := request.launch.startInstant origin
  (Activity.field request (request.processAt start)).run (request.deadline origin) start

theorem Activity.IsUnderWay.races {request : Request} {origin : Moment} {scene : Scene}
    (underWay : IsUnderWay request origin scene) :
    raceOf request (request.deadline origin.instant) scene = request.raceFrom origin.instant :=
  underWay.raceOf_eq _

namespace Execution

open Activity

variable {request : Request} {origin : Moment}

theorem exists_of_leaves {kind : Scene → Prop}
    (leaves : (execute request).Leaves (opening request origin) kind) :
    ∃ last, kind last ∧ (run request origin).notes = last.notes ∧
      (run request origin).engine = last.engine := by
  unfold Leaves at leaves
  split at leaves
  · rename_i last outcome
    exact ⟨last, leaves, by rw [run_of_ok outcome], by rw [run_of_ok outcome]⟩
  · rename_i last outcome
    exact ⟨last, leaves, by rw [run_of_error outcome], by rw [run_of_error outcome]⟩

/-- A run whose process does not start sends nothing. -/
theorem signalsIn_of_not_starts (fails : ¬ request.Starts) :
    signalsIn (run request origin).notes = [] := by
  have silent : Follows (Scene.KeepsSilent Note.isSignal) (start request) :=
    keepsSilent_start request (fun _ _ _ => rfl) fun _ => rfl
  cases starts : start request (opening request origin) with
  | ok container started => exact absurd (start_ok rfl starts).1 fails
  | error problem last =>
      have executes : execute request (opening request origin) = .error problem last := by
        unfold execute
        rw [bind_of_ok (get_apply _), bind_of_error starts]
      rw [run_of_error executes]
      exact signalsIn_of_keepsSilent (silent.error starts) rfl

/-- A run whose process starts sends what is due from the end of its race on, if that comes. -/
theorem run_sends (hosted : request.runtime.isHost = true) (uncancelled : request.cancelAt = none)
    (reachable : request.launch.process.IsReachable) (patient : Number.int 0 ≤ request.grace)
    (starts : request.Starts) :
    let process := request.processAt (request.launch.startInstant origin.instant)
    let due := match (request.raceFrom origin.instant).finish with
      | none => []
      | some (instant, _) => process.dueSignals request.grace.span instant
    signalsIn (run request origin).notes = due ∧ (run request origin).engine = process.feel due := by
  intro process due
  obtain ⟨scene, underWay, unset, executes⟩ := @execute_of_uncancelled request origin starts uncancelled
  have unsignalled : signalsIn scene.notes = [] := signalsIn_eq_nil_iff.mpr underWay.unsignalled
  have reaches : scene.engine.IsReachable := by
    rw [underWay.engine]
    exact ⟨reachable.onTerminate, reachable.onKill⟩
  have supervises : (execute request).Leaves (opening request origin) (scene.Sends due) := by
    refine Leaves.of_eq executes ?_
    cases finishes : (request.raceFrom origin.instant).finish with
    | none =>
        have silent : due = [] := by simp only [due, finishes]
        rw [silent]
        exact Leaves.of_error (supervise_of_endless _ _ unset (underWay.races ▸ finishes)) (.refl scene)
    | some finish =>
        have signals : due = scene.engine.dueSignals request.grace.span finish.1 := by
          simp only [due, finishes, process, underWay.engine]
        rw [signals]
        exact supervise_sends hosted unset unsignalled reaches
          (fun _ limited => Number.span_nonneg patient limited) _ _ (underWay.races ▸ finishes)
  obtain ⟨last, sends, notes, engine⟩ := exists_of_leaves supervises
  rw [notes, engine, sends.noted, sends.engine, unsignalled, underWay.engine]
  exact ⟨rfl, rfl⟩

/-- A run sends no signal after the exit of its process. -/
theorem le_exit_of_mem_signalsIn (hosted : request.runtime.isHost = true)
    (uncancelled : request.cancelAt = none) (reachable : request.launch.process.IsReachable)
    (causal : request.launch.process.IsCausal) (patient : Number.int 0 ≤ request.grace)
    {sent : Rat × Signal} (member : sent ∈ signalsIn (run request origin).notes) {exit : Rat}
    {status : Int} (exits : (run request origin).engine.exit? = some (exit, status)) :
    sent.1 ≤ exit := by
  by_cases starts : request.Starts
  · obtain ⟨signals, engine⟩ := run_sends hosted uncancelled reachable patient starts
    rw [signals] at member
    rw [engine] at exits
    cases finishes : (request.raceFrom origin.instant).finish with
    | none => simp [finishes] at member
    | some finish =>
        simp only [finishes] at member exits
        have prompt : (request.processAt (request.launch.startInstant origin.instant)).IsCausal :=
          ⟨causal.onTerminate, causal.onKill⟩
        exact Process.le_exit_of_mem_dueSignals prompt
          (fun _ limited => Number.span_nonneg patient limited) member exits
  · rw [signalsIn_of_not_starts starts] at member
    cases member

/-- A run on the host that nobody cancels, of a process that can be reached while it is alive, sends
it no signal unless it lives at the end of the race, however that ends.  Then it asks the process to
terminate, and kills it if it lives at the end of the grace period.  No signal comes after the exit,
and a stop that returns leaves a process that has exited, if it obeys. -/
theorem run_sends_dueSignals (request : Request) (origin : Moment)
    (hosted : request.runtime.isHost = true) (uncancelled : request.cancelAt = none)
    (reachable : request.launch.process.IsReachable) (causal : request.launch.process.IsCausal)
    (patient : Number.int 0 ≤ request.grace) :
    let process := request.processAt (request.launch.startInstant origin.instant)
    let execution := run request origin
    (¬ request.Starts → signalsIn execution.notes = []) ∧
    (request.Starts →
      signalsIn execution.notes = (match (request.raceFrom origin.instant).finish with
        | none => []
        | some (instant, _) => process.dueSignals request.grace.span instant) ∧
      execution.engine = process.feel (signalsIn execution.notes)) ∧
    (∀ sent ∈ signalsIn execution.notes, ∀ exit status,
      execution.engine.exit? = some (exit, status) → sent.1 ≤ exit) ∧
    ∀ container scene, scene.engine.Obeys → scene.cancelAt = none →
      (request.grace.span ≠ none →
        ∃ last, stop request.runtime container request.grace scene = .ok () last) ∧
      ∀ last, stop request.runtime container request.grace scene = .ok () last →
        last.engine.hasExited last.now.instant = true := by
  intro process execution
  refine ⟨signalsIn_of_not_starts, fun starts => ?_, ?_, ?_⟩
  · obtain ⟨signals, engine⟩ := run_sends hosted uncancelled reachable patient starts
    exact ⟨signals, signals ▸ engine⟩
  · intro sent member exit status exits
    exact le_exit_of_mem_signalsIn hosted uncancelled reachable causal patient member exits
  · intro container scene obeys unset
    refine ⟨fun limited => ?_, fun last returns => stop_hasExited obeys returns⟩
    rw [stop_of_host hosted]
    exact @terminate_returns scene .engine request.grace (.inr obeys.killable) unset limited

/-- A process that goes on for ever and ignores the request to terminate, in a run that has a second
and a grace period of two. -/
def lingering : Request where
  runtime := .host false []
  image := "image"
  spec := { name := "tool", command := some ["tool"] }
  limits := { timeout := .int 1 }
  grace := .int 2
  launch := { process := { name := "tool", onTerminate := .ignores } }

theorem lingering_sends :
    signalsIn (run lingering).notes = [(1, .terminate), (3, .kill)] ∧
      (run lingering).engine.exit? = some (3, -9) := by
  have reachable : lingering.launch.process.IsReachable :=
    ⟨by simp [lingering], by simp [lingering]⟩
  have starts : lingering.Starts := ⟨rfl, List.cons_ne_nil _ _⟩
  obtain ⟨-, sends, -⟩ := run_sends_dueSignals lingering .start rfl rfl reachable
    ⟨trivial, le_refl _⟩ (by decide)
  obtain ⟨signals, engine⟩ := sends starts
  have finishes : (lingering.raceFrom 0).finish = some (1, .verdict .timeout) := by decide +kernel
  have due : (lingering.processAt (lingering.launch.startInstant 0)).dueSignals
      lingering.grace.span 1 = [(1, .terminate), (3, .kill)] := by decide +kernel
  have sent : signalsIn (run lingering).notes = [(1, .terminate), (3, .kill)] := by
    rw [signals, ← due]
    change (match (lingering.raceFrom 0).finish with
      | none => []
      | some (instant, _) => _) = _
    rw [finishes]
    rfl
  refine ⟨sent, ?_⟩
  rw [engine, sent]
  decide +kernel

end Execution

end AnalysisEngines
