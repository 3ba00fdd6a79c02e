import AnalysisEngines.Proofs.CommandLine.Telling
import AnalysisEngines.Proofs.Installation

/-!
# The course of an installation

A run that installs loads two documents, lets the installer pull images, tells what came of each
entry, and prints lines for the images that were pulled.  Up to these lines nothing is printed, and
nothing breaks the run down once the documents are loaded: warnings are told whatever is in them.
So a run goes one of four ways: `install_goes`.
-/

set_option autoImplicit false

namespace AnalysisEngines

/-- All attempts to pull an image succeeded. -/
def Installation.Succeeds (installation : Installation) : Prop :=
  ∀ step ∈ installation.steps, step.isFailure = false

theorem Installation.failure?_eq_none_iff (installation : Installation) :
    installation.failure? = none ↔ installation.Succeeds := by
  unfold failure? Succeeds
  simp only [List.findSome?_eq_none_iff, InstallStep.failure?_eq_none_iff]

namespace CommandLine

namespace World

variable {σ : Type} (world : World σ)

theorem recount_keeps (step : InstallStep) (session : Session) :
    ∃ after, world.recount step session = .ok ⟨⟩ after ∧ session.Keeps after := by
  obtain ⟨middle, logged, kept⟩ := Act.forIn_keeps step.logs (Act.log_keeps world.time) session
  obtain ⟨after, warned, keptThen⟩ := Act.forIn_option_keeps step.warning?
    (fun failure => Act.warn_keeps failure.message) middle
  refine ⟨after, ?_, kept.trans keptThen⟩
  unfold recount
  rw [bind_of_ok logged, bind_of_ok warned]
  rfl

/-! ## The lines of an installation -/

/-- An image can be told of: its line can be printed. -/
def IsTold (image : String) : Prop :=
  ∃ lines, Console.printMarkup true (pulledMarkup image) = .ok lines

/-- The lines that tell of an image. -/
def linesOf (image : String) : List String :=
  (Console.printMarkup true (pulledMarkup image)).toOption.getD []

theorem tellOf_of_error {image : String} {fault : Console.MarkupFault}
    (printed : Console.printMarkup true (pulledMarkup image) = .error fault) (rest : List String)
    (session : Session) :
    tellOf (image :: rest) session = .error (.broken (.markup fault)) session := by
  rw [tellOf, List.forIn_cons, printed]
  rfl

theorem tellOf_of_ok {image : String} {lines : List String}
    (printed : Console.printMarkup true (pulledMarkup image) = .ok lines) (rest : List String)
    (session : Session) :
    tellOf (image :: rest) session =
      tellOf rest { session with output := session.output ++ lines } := by
  rw [tellOf, List.forIn_cons, printed]
  rfl

/-- All images are told of, or the first that cannot be breaks the program down. -/
theorem tellOf_cases (images : List String) (session : Session) :
    ((∀ image ∈ images, IsTold image) ∧
      tellOf images session =
        .ok ⟨⟩ { session with output := session.output ++ images.flatMap linesOf }) ∨
    ((∃ image ∈ images, ¬ IsTold image) ∧
      ∃ fault after, tellOf images session = .error (.broken (.markup fault)) after ∧
        after.installation = session.installation) := by
  induction images generalizing session with
  | nil =>
      refine .inl ⟨nofun, ?_⟩
      rw [List.flatMap_nil, List.append_nil]
      rfl
  | cons image rest ih =>
      cases printed : Console.printMarkup true (pulledMarkup image) with
      | error fault =>
          have untold : ¬ IsTold image := by
            rintro ⟨lines, told⟩
            cases printed.symm.trans told
          exact .inr ⟨⟨image, List.mem_cons_self, untold⟩, fault, session,
            tellOf_of_error printed rest session, rfl⟩
      | ok lines =>
          have own : linesOf image = lines := by
            rw [linesOf, printed]
            rfl
          rw [tellOf_of_ok printed]
          rcases ih { session with output := session.output ++ lines } with
            ⟨told, all⟩ | ⟨⟨other, member, untold⟩, fault, after, broken, same⟩
          · refine .inl ⟨List.forall_mem_cons.mpr ⟨⟨lines, printed⟩, told⟩, ?_⟩
            rw [all, List.flatMap_cons, own, ← List.append_assoc]
          · exact .inr ⟨⟨other, List.mem_cons_of_mem _ member, untold⟩, fault, after, broken, same⟩

/-! ## The course of an installation -/

variable (state : σ) (settings : Settings) (manifest config channel : Option String)

/-- The manifest and the configuration of a run load. -/
structure Loads (registry : Registry) (entries : List EngineEntry) : Prop where
  registry : Registry.ofFile world.files (manifest.getD settings.manifestPath) = .ok registry
  entries : Configuration.ofFile world.files (config.getD settings.configPath)
    settings.defaultEngines = .ok entries

/-- What the installer does with what was loaded. -/
def installed (registry : Registry) (entries : List EngineEntry) : Installation :=
  let installer : Installer :=
    { registry, defaultChannel := (given? channel).getD settings.defaultChannel }
  (installer.install (world.client settings.clientName) entries state).1

/-- How an installation goes that begins in a session. -/
inductive Goes (session : Session) : Ending × Session → Prop
  | unloaded {ending after} :
      (¬ ∃ registry entries, world.Loads settings manifest config registry entries) →
      ending.status = 1 → session.Keeps after → Goes session (ending, after)
  | failed {registry entries ending after} :
      world.Loads settings manifest config registry entries →
      ¬ (world.installed state settings channel registry entries).Succeeds →
      ending.status = 1 →
      after.installation = world.installed state settings channel registry entries →
      Goes session (ending, after)
  | untold {registry entries ending after} :
      world.Loads settings manifest config registry entries →
      (world.installed state settings channel registry entries).Succeeds →
      (∃ image ∈ (world.installed state settings channel registry entries).images,
        ¬ IsTold image) →
      ending.status = 1 →
      after.installation = world.installed state settings channel registry entries →
      Goes session (ending, after)
  | told {registry entries after} :
      world.Loads settings manifest config registry entries →
      (world.installed state settings channel registry entries).Succeeds →
      (∀ image ∈ (world.installed state settings channel registry entries).images,
        IsTold image) →
      after.installation = world.installed state settings channel registry entries →
      after.output = session.output ++
        (world.installed state settings channel registry entries).images.flatMap linesOf →
      Goes session (.done, after)

theorem registry_keeps (path : String) (session : Session) :
    (∃ registry after, Registry.ofFile world.files path = .ok registry ∧
      world.registry path session = .ok registry after ∧ session.Keeps after) ∨
    ((∀ registry, Registry.ofFile world.files path ≠ .ok registry) ∧
      ∃ ending after, world.registry path session = .error ending after ∧ ending.status = 1 ∧
        session.Keeps after) := by
  unfold World.registry
  cases loaded : Registry.ofFile world.files path with
  | ok registry =>
      obtain ⟨after, logged, kept⟩ := Act.log_keeps world.time registry.loadedEntry session
      exact .inl ⟨registry, after, rfl, bind_of_ok logged, kept⟩
  | error problem =>
      refine .inr ⟨nofun, ?_⟩
      cases problem with
      | fault fault => exact Act.fail_keeps fault.message session
      | scalar | text => exact ⟨_, session, rfl, rfl, rfl, rfl⟩

theorem configuration_keeps (path : String) (defaults : List (String × String))
    (session : Session) :
    (∃ entries, Configuration.ofFile world.files path defaults = .ok entries ∧
      world.configuration path defaults session = .ok entries session) ∨
    ((∀ entries, Configuration.ofFile world.files path defaults ≠ .ok entries) ∧
      ∃ ending after, world.configuration path defaults session = .error ending after ∧
        ending.status = 1 ∧ session.Keeps after) := by
  unfold World.configuration
  cases loaded : Configuration.ofFile world.files path defaults with
  | ok entries => exact .inl ⟨entries, rfl, rfl⟩
  | error problem =>
      refine .inr ⟨nofun, ?_⟩
      cases problem with
      | fault fault => exact Act.fail_keeps fault.failure.message session
      | invalid | noSections | scalar | text => exact ⟨_, session, rfl, rfl, rfl, rfl⟩

/-- Up to a failure nothing is printed. -/
theorem report_eq (installation : Installation) (session : Session) :
    ∃ after, after.output = session.output ∧ after.installation = installation ∧
      world.report installation session = (do
        for failure in installation.failure? do
          Act.fail failure.message
        if installation.pulled.isEmpty then Act.tell ["No engine images to pull."]
        else tellOf installation.images : Act Unit) after := by
  let start : Session := { session with installation }
  obtain ⟨middle, recounted, kept⟩ := Act.forIn_keeps installation.steps world.recount_keeps start
  obtain ⟨after, logged, keptThen⟩ :=
    Act.forIn_option_keeps installation.completion? (Act.log_keeps world.time) middle
  have same := kept.trans keptThen
  refine ⟨after, same.output, same.installation, ?_⟩
  unfold report
  rw [bind_of_ok (modify_apply _ session), bind_of_ok recounted, bind_of_ok logged]

theorem report_of_failure {installation : Installation} {failure : Failure}
    (failed : installation.failure? = some failure) (session : Session) :
    ∃ ending after, world.report installation session = .error ending after ∧ ending.status = 1 ∧
      after.installation = installation := by
  obtain ⟨middle, -, recorded, reports⟩ := world.report_eq installation session
  obtain ⟨ending, after, raises, status, kept⟩ := @Act.fail_keeps PUnit failure.message middle
  refine ⟨ending, after, ?_, status, kept.installation.trans recorded⟩
  rw [reports, failed]
  exact bind_of_error (bind_of_error (bind_of_error raises))

theorem report_of_success {installation : Installation} (succeeded : installation.failure? = none)
    (session : Session) :
    ∃ middle, middle.output = session.output ∧ middle.installation = installation ∧
      world.report installation session = tellOf installation.images middle := by
  obtain ⟨middle, unprinted, recorded, reports⟩ := world.report_eq installation session
  rw [succeeded] at reports
  by_cases nothing : installation.pulled.isEmpty = true
  · have silent : installation.images = [] := by
      rw [Installation.images, List.isEmpty_iff.mp nothing]
      rfl
    refine ⟨{ middle with messages := middle.messages ++ ["No engine images to pull."] },
      unprinted, recorded, ?_⟩
    rw [reports, silent]
    simp only [nothing]
    rfl
  · refine ⟨middle, unprinted, recorded, ?_⟩
    rw [reports]
    simp only [nothing]
    rfl

/-- Whatever the files hold and however the pulls end, an installation goes one of the four ways. -/
theorem install_goes (session : Session) :
    world.Goes state settings manifest config channel session
      (ended (world.install state settings manifest config channel session)) := by
  unfold install
  rcases world.registry_keeps (manifest.getD settings.manifestPath) session with
    ⟨registry, middle, isRegistry, returns, kept⟩ |
    ⟨noRegistry, ending, after, raises, status, kept⟩
  · rw [bind_of_ok returns]
    rcases world.configuration_keeps (config.getD settings.configPath) settings.defaultEngines
      middle with
      ⟨entries, areEntries, returns⟩ | ⟨noEntries, ending, after, raises, status, keptThen⟩
    · rw [bind_of_ok returns]
      have loads : world.Loads settings manifest config registry entries := ⟨isRegistry, areEntries⟩
      change world.Goes state settings manifest config channel session
        (ended (world.report (world.installed state settings channel registry entries) middle))
      cases failed : (world.installed state settings channel registry entries).failure? with
      | some failure =>
          have unsuccessful := mt (Installation.failure?_eq_none_iff _).mpr
            (by rw [failed]; exact Option.some_ne_none failure)
          obtain ⟨ending, after, raises, status, recorded⟩ :=
            world.report_of_failure failed middle
          rw [raises]
          exact .failed loads unsuccessful status recorded
      | none =>
          have succeeds := (Installation.failure?_eq_none_iff _).mp failed
          obtain ⟨before, unprinted, recorded, reports⟩ := world.report_of_success failed middle
          rw [reports]
          rcases tellOf_cases
            (world.installed state settings channel registry entries).images before with
            ⟨told, tells⟩ | ⟨untold, fault, after, breaks, same⟩
          · rw [tells]
            refine .told loads succeeds told recorded ?_
            exact congrArg (· ++ _) (unprinted.trans kept.output)
          · rw [breaks]
            exact .untold loads succeeds untold rfl (same.trans recorded)
    · rw [bind_of_error raises]
      refine .unloaded ?_ status (kept.trans keptThen)
      rintro ⟨_, entries, loads⟩
      exact noEntries entries loads.entries
  · rw [bind_of_error raises]
    refine .unloaded ?_ status kept
    rintro ⟨registry, _, loads⟩
    exact noRegistry registry loads.registry

end World

end CommandLine

end AnalysisEngines
