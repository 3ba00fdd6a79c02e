import AnalysisEngines.Installation
import Mathlib.Data.List.Basic
import Mathlib.Data.List.TakeWhile
import Mathlib.Tactic.Common

/-!
# What an installation does

Every enabled entry contributes a warning or the pull of an image.  An installation is traced by
these contributions in order, and ends with the first pull that fails.  How it ends, and what it
reports, agrees with its trace; and what an installer did before has no say in what it does next.
-/

set_option autoImplicit false

namespace AnalysisEngines

/-- What an installation does about one entry. -/
inductive InstallEvent where
  | warning (text : String)
  | pull (engine : ResolvedEngine)
  deriving DecidableEq

namespace InstallEvent

/-- Whether an event is a pull that fails, where attempts for images end in a given way. -/
def fails (attempts : String → Container.PullAttempt) : InstallEvent → Bool
  | .warning _ => false
  | .pull engine => !(attempts engine.image).succeeded

def engine? : InstallEvent → Option ResolvedEngine
  | .warning _ => none
  | .pull engine => some engine

@[simp]
theorem fails_warning (attempts : String → Container.PullAttempt) (text : String) :
    (warning text).fails attempts = false := rfl

@[simp]
theorem fails_pull (attempts : String → Container.PullAttempt) (engine : ResolvedEngine) :
    (pull engine).fails attempts = !(attempts engine.image).succeeded := rfl

@[simp]
theorem engine?_warning (text : String) : (warning text).engine? = none := rfl

@[simp]
theorem engine?_pull (engine : ResolvedEngine) : (pull engine).engine? = some engine := rfl

end InstallEvent

def InstallStep.event : InstallStep → InstallEvent
  | .unknown name channel => .warning (notFound name channel).message
  | .attempted engine _ => .pull engine

structure InstallReport where
  pulled : List ResolvedEngine
  unknown : List Failure

namespace Installation

/-- The warnings and pulls of an installation in their order. -/
def trace (installation : Installation) : List InstallEvent :=
  installation.steps.map InstallStep.event

/-- An installation returns a report, or raises the failure that ended it. -/
def outcome (installation : Installation) : Except Failure InstallReport :=
  match installation.failure? with
  | some failure => .error failure
  | none => .ok { pulled := installation.pulled, unknown := installation.unknown }

theorem outcome_eq_ok_iff {installation : Installation} {report : InstallReport} :
    installation.outcome = .ok report ↔
      installation.failure? = none ∧ report = ⟨installation.pulled, installation.unknown⟩ := by
  unfold outcome
  cases installation.failure? <;> simp [eq_comm]

theorem outcome_eq_error_iff {installation : Installation} {failure : Failure} :
    installation.outcome = .error failure ↔ installation.failure? = some failure := by
  unfold outcome
  cases installation.failure? <;> simp

end Installation

/-- The items before the first that ends a walk, and that one. -/
def walked {α : Type} (ends : α → Bool) (items : List α) : List α :=
  items.takeWhile (fun item => !ends item) ++ (items.find? ends).toList

section Walked

variable {α β : Type} {ends : α → Bool}

theorem walked_cons (item : α) (rest : List α) :
    walked ends (item :: rest) = if ends item then [item] else item :: walked ends rest := by
  unfold walked
  cases final : ends item <;> simp [final]

theorem map_walked {ends' : β → Bool} {change : α → β} (items : List α)
    (agree : ∀ item, ends' (change item) = ends item) :
    (walked ends items).map change = walked ends' (items.map change) := by
  induction items with
  | nil => rfl
  | cons item rest ih =>
      rw [List.map_cons, walked_cons, walked_cons, agree, ← ih]
      cases ends item <;> rfl

/-- Nothing ends a walk that goes on to the last item. -/
theorem walked_eq_self_iff (items : List α) :
    (∀ item ∈ walked ends items, ends item = false) ↔ ∀ item ∈ items, ends item = false := by
  induction items with
  | nil => simp [walked]
  | cons item rest ih =>
      rw [walked_cons]
      cases final : ends item <;> simp_all

theorem walked_of_forall {items : List α} (onward : ∀ item ∈ items, ends item = false) :
    walked ends items = items := by
  induction items with
  | nil => rfl
  | cons item rest ih =>
      rw [walked_cons, onward item List.mem_cons_self,
        ih fun other member => onward other (List.mem_cons_of_mem _ member)]
      rfl

theorem getLast?_walked {items : List α} {item : α} (member : item ∈ walked ends items)
    (final : ends item = true) : (walked ends items).getLast? = some item := by
  unfold walked at member ⊢
  rcases List.mem_append.mp member with before | found
  · have onward := List.mem_takeWhile_imp before
    simp [final] at onward
  · rw [Option.mem_toList] at found
    rw [found, Option.toList_some, List.getLast?_concat]

end Walked

namespace Installer

variable {σ : Type} {installer : Installer} {pull : Puller σ}
  {attempts : String → Container.PullAttempt}

/-- The engine that an entry stands for, on its own channel or on the default one. -/
def resolve (installer : Installer) (entry : EngineEntry) : Except Failure ResolvedEngine :=
  installer.registry.resolve entry.name (entry.effectiveChannel installer.defaultChannel)

/-- What an enabled entry contributes to a trace. -/
def contribution (installer : Installer) (entry : EngineEntry) : InstallEvent :=
  match installer.resolve entry with
  | .ok engine => .pull engine
  | .error _ => .warning ("unknown engine <" ++
      (entry.name ++ ":" ++ entry.effectiveChannel installer.defaultChannel) ++ ">")

/-- The failure to find an entry's engine, which is warned about. -/
def unresolved? (installer : Installer) (entry : EngineEntry) : Option Failure :=
  match installer.resolve entry with
  | .ok _ => none
  | .error failure => some failure

def contributions (installer : Installer) (entries : List EngineEntry) : List InstallEvent :=
  (Configuration.enabled entries).map installer.contribution

/-- The batches that one installer is given, one after the other. -/
def installAll (installer : Installer) (pull : Puller σ) :
    List (List EngineEntry) → σ → List Installation × σ
  | [], state => ([], state)
  | entries :: rest, state =>
      let (installation, state) := installer.install pull entries state
      let (later, state) := installer.installAll pull rest state
      (installation :: later, state)

/-- The step for an entry where attempts end in a given way. -/
def step (installer : Installer) (attempts : String → Container.PullAttempt) (entry : EngineEntry) :
    InstallStep :=
  match installer.resolve entry with
  | .ok engine => .attempted engine (attempts engine.image)
  | .error _ => .unknown entry.name (entry.effectiveChannel installer.defaultChannel)

/-- An entry is resolved to an engine, or else it is unknown and warned about. -/
inductive Treats (installer : Installer) (attempts : String → Container.PullAttempt)
    (entry : EngineEntry) : Prop where
  | resolved (engine : ResolvedEngine) :
      installer.registry.find? entry.name (entry.effectiveChannel installer.defaultChannel) =
        some engine →
      installer.resolve entry = .ok engine →
      installer.contribution entry = .pull engine →
      installer.step attempts entry = .attempted engine (attempts engine.image) →
      Treats installer attempts entry
  | unknown (failure : Failure) :
      installer.registry.find? entry.name (entry.effectiveChannel installer.defaultChannel) =
        none →
      installer.resolve entry = .error failure →
      installer.contribution entry = .warning failure.message →
      installer.step attempts entry =
        .unknown entry.name (entry.effectiveChannel installer.defaultChannel) →
      (installer.step attempts entry).warning? = some failure →
      Treats installer attempts entry

theorem treats (installer : Installer) (attempts : String → Container.PullAttempt)
    (entry : EngineEntry) : installer.Treats attempts entry := by
  cases found : installer.registry.find? entry.name
      (entry.effectiveChannel installer.defaultChannel) with
  | some engine =>
      have resolves : installer.resolve entry = .ok engine := by
        rw [resolve, Registry.resolve, found]
      exact .resolved engine found resolves (by rw [contribution, resolves])
        (by rw [step, resolves])
  | none =>
      have resolves : installer.resolve entry = .error (InstallStep.notFound entry.name
          (entry.effectiveChannel installer.defaultChannel)) := by
        rw [resolve, Registry.resolve, found]
        rfl
      have unknown : installer.step attempts entry =
          .unknown entry.name (entry.effectiveChannel installer.defaultChannel) := by
        rw [step, resolves]
      refine .unknown _ found resolves ?_ unknown (by rw [unknown]; rfl)
      rw [contribution, resolves]
      rfl

/-- The event of a step is what its entry contributes, and it fails if the step does. -/
theorem event_step (entry : EngineEntry) :
    (installer.step attempts entry).event = installer.contribution entry ∧
      (installer.step attempts entry).isFailure =
        (installer.contribution entry).fails attempts := by
  cases installer.treats attempts entry with
  | resolved engine _ _ pulls attempted =>
      rw [attempted, pulls]
      exact ⟨rfl, rfl⟩
  | unknown failure _ resolves warns unknown _ =>
      unfold contribution
      rw [unknown, resolves]
      exact ⟨rfl, rfl⟩

theorem pulled?_step {entry : EngineEntry}
    (passes : (installer.contribution entry).fails attempts = false) :
    (installer.step attempts entry).pulled? = (installer.resolve entry).toOption := by
  cases installer.treats attempts entry with
  | unknown failure _ resolves _ unknown _ =>
      rw [unknown, resolves]
      rfl
  | resolved engine _ resolves pulls attempted =>
      rw [pulls, InstallEvent.fails_pull, Bool.not_eq_false'] at passes
      rw [attempted, resolves, InstallStep.pulled?, if_pos passes]
      rfl

theorem warning?_step (entry : EngineEntry) :
    (installer.step attempts entry).warning? = installer.unresolved? entry := by
  unfold unresolved?
  cases installer.treats attempts entry with
  | unknown failure _ resolves _ _ warns => rw [warns, resolves]
  | resolved engine _ resolves _ attempted =>
      rw [attempted, resolves]
      rfl

/-- The entries that are taken, where attempts for images end in a given way. -/
def reached (installer : Installer) (attempts : String → Container.PullAttempt)
    (entries : List EngineEntry) : List EngineEntry :=
  walked (fun entry => (installer.contribution entry).fails attempts) entries

theorem map_contribution_reached (entries : List EngineEntry) :
    (installer.reached attempts entries).map installer.contribution =
      walked (InstallEvent.fails attempts) (entries.map installer.contribution) :=
  map_walked entries fun _ => rfl

/-- The steps are those for the entries that are taken, and the puller is asked once for the image
of each engine among them. -/
theorem steps_eq (steady : ∀ image state, (pull image state).1 = attempts image)
    (entries : List EngineEntry) (state : σ) :
    installer.steps pull entries state =
      ((installer.reached attempts entries).map (installer.step attempts),
        (((installer.reached attempts entries).map installer.contribution).filterMap
          InstallEvent.engine?).foldl (fun state engine => (pull engine.image state).2) state) := by
  induction entries generalizing state with
  | nil => rfl
  | cons entry rest ih =>
      unfold reached at ih ⊢
      rw [walked_cons, steps]
      dsimp only
      cases installer.treats attempts entry with
      | unknown failure missing _ warns unknown _ =>
          simp [missing, warns, unknown, ih, List.filterMap_cons]
      | resolved engine found _ pulls attempted =>
          cases succeeds : (attempts engine.image).succeeded <;>
            simp [found, steady, pulls, attempted, InstallStep.isFailure, succeeds, ih]

end Installer

/-- An installation of entries as it has to be, where attempts for images end in a given way. -/
structure Installation.IsOf (installer : Installer) (attempts : String → Container.PullAttempt)
    (entries : List EngineEntry) (installation : Installation) : Prop where
  trace : installation.trace =
    walked (InstallEvent.fails attempts) (installer.contributions entries)
  returns : (∃ report, installation.outcome = .ok report) ↔
    ∀ event ∈ installation.trace, event.fails attempts = false
  report : ∀ report, installation.outcome = .ok report →
    report.pulled = (Configuration.enabled entries).filterMap
      (fun entry => (installer.resolve entry).toOption) ∧
    report.unknown = (Configuration.enabled entries).filterMap installer.unresolved? ∧
    report.pulled.length + report.unknown.length = (Configuration.enabled entries).length
  raises : ∀ failure, installation.outcome = .error failure →
    ∃ engine, installation.trace.getLast? = some (.pull engine) ∧
      (attempts engine.image).succeeded = false ∧ failure.kind = .imagePull ∧
      failure.context.image = .text engine.image ∧ failure.context.engine = .text engine.name ∧
      failure.context.channel = .text engine.channel

theorem InstallStep.failure?_eq_none_iff (step : InstallStep) :
    step.failure? = none ↔ step.isFailure = false := by
  cases step <;> simp [failure?, isFailure]

namespace Installer

variable {σ : Type} {installer : Installer} {pull : Puller σ}
  {attempts : String → Container.PullAttempt}

theorem length_resolutions (entries : List EngineEntry) :
    (entries.filterMap fun entry => (installer.resolve entry).toOption).length +
      (entries.filterMap installer.unresolved?).length = entries.length := by
  induction entries with
  | nil => rfl
  | cons entry rest ih =>
      cases resolves : installer.resolve entry <;>
        simp [unresolved?, resolves, Except.toOption, ← ih] <;> omega

/-- Only the state that an installation leaves depends on the state that it finds. -/
theorem install_eq (steady : ∀ image state, (pull image state).1 = attempts image)
    (entries : List EngineEntry) (state : σ) :
    installer.install pull entries state =
      ({ steps := (installer.reached attempts (Configuration.enabled entries)).map
          (installer.step attempts) },
        ((((installer.reached attempts (Configuration.enabled entries)).map
          installer.contribution).filterMap InstallEvent.engine?).foldl
            (fun state engine => (pull engine.image state).2) state)) := by
  rw [install, steps_eq steady]

theorem trace_of_steps {entries : List EngineEntry} {installation : Installation}
    (steps : installation.steps =
      (installer.reached attempts entries).map (installer.step attempts)) :
    installation.trace = (installer.reached attempts entries).map installer.contribution := by
  rw [Installation.trace, steps, List.map_map]
  exact List.map_congr_left fun entry _ => (event_step entry).1

/-- The failure of an installation is that of a pull, and carries what was pulled. -/
theorem failure_of_steps {entries : List EngineEntry} {installation : Installation}
    (steps : installation.steps =
      (installer.reached attempts entries).map (installer.step attempts))
    {failure : Failure} (failed : installation.failure? = some failure) :
    ∃ engine, InstallEvent.pull engine ∈ installation.trace ∧
      (attempts engine.image).succeeded = false ∧
      failure = (Failure.imagePull (.text engine.image)).withContext
        [("engine", .text engine.name), ("channel", .text engine.channel)] := by
  rw [Installation.failure?, steps] at failed
  obtain ⟨step, member, own⟩ := List.exists_of_findSome?_eq_some failed
  obtain ⟨entry, taken, rfl⟩ := List.mem_map.mp member
  cases installer.treats attempts entry with
  | unknown _ _ _ _ unknown _ =>
      rw [unknown] at own
      cases own
  | resolved engine _ _ pulls attempted =>
      rw [attempted] at own
      refine ⟨engine, ?_, ?_⟩
      · rw [trace_of_steps steps, ← pulls]
        exact List.mem_map_of_mem taken
      · cases succeeds : (attempts engine.image).succeeded <;>
          simp_all [InstallStep.failure?]

/-- An installation that takes all entries has pulled or warned about each. -/
theorem report_of_steps {entries : List EngineEntry} {installation : Installation}
    (steps : installation.steps = entries.map (installer.step attempts))
    (passes : ∀ entry ∈ entries, (installer.contribution entry).fails attempts = false) :
    installation.pulled = entries.filterMap (fun entry => (installer.resolve entry).toOption) ∧
      installation.unknown = entries.filterMap installer.unresolved? := by
  constructor
  · rw [Installation.pulled, steps, List.filterMap_map]
    exact List.filterMap_congr fun entry member => pulled?_step (passes entry member)
  · rw [Installation.unknown, steps, List.filterMap_map]
    exact List.filterMap_congr fun entry _ => warning?_step entry

theorem install_isOf (steady : ∀ image state, (pull image state).1 = attempts image)
    (entries : List EngineEntry) (state : σ) :
    (installer.install pull entries state).1.IsOf installer attempts entries := by
  have steps : (installer.install pull entries state).1.steps = _ :=
    congrArg (·.1.steps) (install_eq steady entries state)
  generalize (installer.install pull entries state).1 = installation at steps
  have trace := trace_of_steps steps
  have contributed : (installer.reached attempts (Configuration.enabled entries)).map
      installer.contribution = _ := map_contribution_reached _
  have failureless : installation.failure? = none ↔
      ∀ event ∈ installation.trace, event.fails attempts = false := by
    rw [Installation.failure?, steps, trace, List.findSome?_eq_none_iff]
    simp only [List.forall_mem_map, InstallStep.failure?_eq_none_iff, (event_step _).2]
  constructor
  · exact trace.trans contributed
  · rw [← failureless]
    simp only [Installation.outcome_eq_ok_iff, exists_and_left, exists_eq, and_true]
  · intro report returned
    obtain ⟨unfailed, rfl⟩ := Installation.outcome_eq_ok_iff.mp returned
    have passes : ∀ entry ∈ Configuration.enabled entries,
        (installer.contribution entry).fails attempts = false := by
      have passes := failureless.mp unfailed
      rw [trace, List.forall_mem_map] at passes
      exact (walked_eq_self_iff _).mp passes
    rw [reached, walked_of_forall passes] at steps
    obtain ⟨pulled, unknown⟩ := report_of_steps steps passes
    exact ⟨pulled, unknown, by rw [pulled, unknown, length_resolutions]⟩
  · intro failure raised
    obtain ⟨engine, pulled, unsuccessful, rfl⟩ :=
      failure_of_steps steps (Installation.outcome_eq_error_iff.mp raised)
    refine ⟨engine, ?_, unsuccessful, rfl, rfl, rfl, rfl⟩
    rw [trace, contributed] at pulled ⊢
    exact getLast?_walked pulled (by simp [unsuccessful])

theorem install_state (steady : ∀ image state, (pull image state).1 = attempts image)
    (entries : List EngineEntry) (state : σ) :
    (installer.install pull entries state).2 =
      ((installer.install pull entries state).1.trace.filterMap InstallEvent.engine?).foldl
        (fun state engine => (pull engine.image state).2) state := by
  have whole : installer.install pull entries state = _ := install_eq steady entries state
  rw [trace_of_steps (congrArg (·.1.steps) whole)]
  exact congrArg (·.2) whole

/-- The batches of one installer are each what they would be alone, and as they have to be.  Over
all batches the puller is asked once for each pull that is traced, in order. -/
theorem installAll_isOf (steady : ∀ image state, (pull image state).1 = attempts image)
    (batches : List (List EngineEntry)) (state : σ) :
    (∀ fresh, (installer.installAll pull batches state).1 =
      batches.map fun entries => (installer.install pull entries fresh).1) ∧
    (∀ (place : Nat) (entries : List EngineEntry), batches[place]? = some entries →
      ∃ installation, (installer.installAll pull batches state).1[place]? = some installation ∧
        installation.IsOf installer attempts entries) ∧
    (installer.installAll pull batches state).2 =
      (((installer.installAll pull batches state).1.flatMap Installation.trace).filterMap
        InstallEvent.engine?).foldl (fun state engine => (pull engine.image state).2) state := by
  have alone : ∀ fresh, (installer.installAll pull batches state).1 =
      batches.map fun entries => (installer.install pull entries fresh).1 := by
    intro fresh
    induction batches generalizing state with
    | nil => rfl
    | cons entries rest ih =>
        rw [List.map_cons, ← ih (installer.install pull entries state).2,
          install_eq steady entries fresh, installAll, install_eq steady entries state]
  refine ⟨alone, fun place entries given => ?_, ?_⟩
  · refine ⟨_, ?_, install_isOf steady entries state⟩
    rw [alone state, List.getElem?_map, given, Option.map_some]
  · clear alone
    induction batches generalizing state with
    | nil => rfl
    | cons entries rest ih =>
        rw [installAll]
        dsimp only
        rw [List.flatMap_cons, List.filterMap_append, List.foldl_append,
          ← install_state steady entries state]
        exact ih _

/-- An installer of two engines. -/
def pair : Installer where
  registry := { content :=
    [{ name := "linter"
       channels := [("stable", "images/linter"), ("beta", "images/linter:beta")] },
      { name := "tidier", channels := [("stable", "images/tidier")] }] }

/-- Two batches; the first ends with a failure before its last entry. -/
def pairBatches : List (List EngineEntry) :=
  [[⟨"linter", none, true⟩, ⟨"tidier", none, false⟩, ⟨"tidier", some "beta", true⟩,
      ⟨"linter", some "beta", true⟩, ⟨"tidier", some "", true⟩, ⟨"linter", none, true⟩],
    [⟨"linter", none, true⟩, ⟨"unheard", none, true⟩]]

/-- Attempts fail for one image only, and each is counted. -/
def countingPull : Puller Nat := fun image count =>
  ({ succeeded := image != "images/tidier", logs := [] }, count + 1)

theorem pair_isOf :
    ∃ first second, (pair.installAll countingPull pairBatches 0).1 = [first, second] ∧
      first.trace =
        [.pull ⟨"linter", "stable", "images/linter"⟩, .warning "unknown engine <tidier:beta>",
          .pull ⟨"linter", "beta", "images/linter:beta"⟩,
          .pull ⟨"tidier", "stable", "images/tidier"⟩] ∧
      second.trace =
        [.pull ⟨"linter", "stable", "images/linter"⟩,
          .warning "unknown engine <unheard:stable>"] ∧
      (¬ ∃ report, first.outcome = .ok report) ∧ ∃ report, second.outcome = .ok report := by
  have steady : ∀ image (state : Nat), (countingPull image state).1 =
      { succeeded := image != "images/tidier", logs := [] } := fun _ _ => rfl
  obtain ⟨-, isOf, -⟩ := @installAll_isOf _ pair _ _ steady pairBatches 0
  obtain ⟨first, foundFirst, isFirst⟩ := isOf 0 _ rfl
  obtain ⟨second, foundSecond, isSecond⟩ := isOf 1 _ rfl
  refine ⟨first, second, ?_, isFirst.trace.trans (by decide), isSecond.trace.trans (by decide),
    ?_, ?_⟩
  · rw [← Option.some.inj foundFirst, ← Option.some.inj foundSecond]
    rfl
  · rw [isFirst.returns, isFirst.trace]
    decide
  · rw [isSecond.returns, isSecond.trace]
    decide

end Installer

end AnalysisEngines
