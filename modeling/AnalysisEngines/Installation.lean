import AnalysisEngines.Configuration
import AnalysisEngines.Container.Client

/-!
Installing engines: pulling the images of all that are enabled.

Entries are taken in order.  An engine that the registry does not know is warned about and
skipped; the first image that cannot be pulled ends the installation.
-/

set_option autoImplicit false

namespace AnalysisEngines

structure Installer where
  registry : Registry
  defaultChannel : String := "stable"

/-- What comes of one entry. -/
inductive InstallStep where
  | unknown (name channel : String)
  | attempted (engine : ResolvedEngine) (attempt : Container.PullAttempt)

namespace InstallStep

def logger : String := "analyzer.engines.installer"

def notFound (name channel : String) : Failure := .engineNotFound (.text name) (.text channel)

/-- What is warned about. -/
def warning? : InstallStep → Option Failure
  | .unknown name channel => some (notFound name channel)
  | .attempted .. => none

def isFailure : InstallStep → Bool
  | .unknown .. => false
  | .attempted _ attempt => !attempt.succeeded

def pulled? : InstallStep → Option ResolvedEngine
  | .unknown .. => none
  | .attempted engine attempt => if attempt.succeeded then some engine else none

/-- The command that a step ran. -/
def command? : InstallStep → Option (List String)
  | .unknown .. => none
  | .attempted _ attempt => attempt.command

def failure? : InstallStep → Option Failure
  | .unknown .. => none
  | .attempted engine attempt =>
      if attempt.succeeded then none
      else some ((Failure.imagePull (.text engine.image)).withContext
        [("engine", .text engine.name), ("channel", .text engine.channel)])

/-- The log of a step, with the client's own entries where they arise. -/
def logs : InstallStep → List Log.Entry
  | .unknown name channel =>
      [⟨.warning, logger, "unknown_engine", [("engine", .text name), ("channel", .text channel)]⟩]
  | .attempted engine attempt =>
      [⟨.info, logger, "image_pull_started",
        [("engine", .text engine.name), ("channel", .text engine.channel),
          ("image", .text engine.image)]⟩] ++ attempt.logs ++
      [⟨if attempt.succeeded then .info else .error, logger,
        if attempt.succeeded then "image_pulled" else "image_pull_failed",
        [("engine", .text engine.name), ("image", .text engine.image)]⟩]

end InstallStep

/-- A puller has a state, and makes one attempt for an image. -/
abbrev Puller (σ : Type) : Type := String → σ → Container.PullAttempt × σ

structure Installation where
  steps : List InstallStep

namespace Installation

def pulled (installation : Installation) : List ResolvedEngine :=
  installation.steps.filterMap InstallStep.pulled?

def unknown (installation : Installation) : List Failure :=
  installation.steps.filterMap InstallStep.warning?

def failure? (installation : Installation) : Option Failure :=
  installation.steps.findSome? InstallStep.failure?

def commands (installation : Installation) : List (List String) :=
  installation.steps.filterMap InstallStep.command?

def images (installation : Installation) : List String := installation.pulled.map (·.image)

/-- What is logged once all entries were taken. -/
def completion? (installation : Installation) : Option Log.Entry :=
  match installation.failure? with
  | some _ => none
  | none => some ⟨.info, InstallStep.logger, "install_complete",
      [("pulled", .ofNat installation.pulled.length),
        ("unknown", .ofNat installation.unknown.length)]⟩

def logs (installation : Installation) : List Log.Entry :=
  installation.steps.flatMap InstallStep.logs ++ installation.completion?.toList

end Installation

namespace Installer

variable {σ : Type}

/-- The steps of enabled entries up to the first failure. -/
def steps (installer : Installer) (pull : Puller σ) :
    List EngineEntry → σ → List InstallStep × σ
  | [], state => ([], state)
  | entry :: rest, state =>
      let channel := entry.effectiveChannel installer.defaultChannel
      match installer.registry.find? entry.name channel with
      | none =>
          let (later, state) := steps installer pull rest state
          (.unknown entry.name channel :: later, state)
      | some engine =>
          let (attempt, state) := pull engine.image state
          let step := InstallStep.attempted engine attempt
          if step.isFailure then ([step], state)
          else
            let (later, state) := steps installer pull rest state
            (step :: later, state)

def install (installer : Installer) (pull : Puller σ) (entries : List EngineEntry) (state : σ) :
    Installation × σ :=
  let (steps, state) := installer.steps pull (Configuration.enabled entries) state
  ({ steps }, state)

end Installer

end AnalysisEngines
