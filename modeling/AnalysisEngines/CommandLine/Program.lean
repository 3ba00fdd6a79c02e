import AnalysisEngines.CommandLine.Invocation
import AnalysisEngines.CommandLine.Session

/-!
The program: listing the engines of a manifest, and installing those that a project enables.

Settings are read and the journal is set up before a command is looked at.  Problems with documents
and pulls are told in the program's own words.
-/

set_option autoImplicit false

namespace AnalysisEngines.CommandLine

def version : String := "analyzer 0.1.0"

def usage : List String :=
  ["Usage: analyzer [--version] [--log-level LEVEL] [--help] engines COMMAND",
    "",
    "  list     List the engines of the manifest.  Options: --manifest FILE",
    "  install  Pull the images of all enabled engines.  Options: --manifest FILE,",
    "           --config FILE, --channel NAME"]

/-- What a run of the program meets: variables, files, a time to put on log entries, and clients
by name that pull images. -/
structure World (σ : Type) where
  environment : List (String × String) := []
  files : Files := {}
  time : String := ""
  client : String → Puller σ

namespace World

variable {σ : Type}

/-- Reads the settings and sets up the journal. -/
def start (world : World σ) (level : Option String) : Act Settings := do
  Act.tell ((Settings.skippedLines world.files).map EnvFile.skippedMessage)
  let settings ← Act.lift .settings (Settings.load [] world.environment world.files)
  let (fault, journal) := ({} : Log.Journal).configure
    { level := .text ((given? level).getD settings.logLevel), asJson := settings.logsAsJson }
  modify fun session => { session with journal }
  match fault with
  | some fault => Act.breakDown (.level fault)
  | none => return settings

def registry (world : World σ) (path : String) : Act Registry := do
  match Registry.ofFile world.files path with
  | .ok registry =>
      Act.log world.time registry.loadedEntry
      return registry
  | .error (.fault fault) => Act.fail fault.message
  | .error problem => Act.breakDown (.manifest problem)

def configuration (world : World σ) (path : String) (defaults : List (String × String)) :
    Act (List EngineEntry) :=
  match Configuration.ofFile world.files path defaults with
  | .ok entries => return entries
  | .error (.fault fault) => Act.fail fault.failure.message
  | .error problem => Act.breakDown (.configuration problem)

def list (world : World σ) (settings : Settings) (manifest : Option String) : Act Unit := do
  let registry ← world.registry (manifest.getD settings.manifestPath)
  Act.print ["Available engines:"]
  for entry in registry.entries do
    Act.print (Console.printText ("- " ++ entry.name ++ ": " ++ entry.description))

/-- Tells what came of one entry. -/
def recount (world : World σ) (step : InstallStep) : Act Unit := do
  for entry in step.logs do
    Act.log world.time entry
  for failure in step.warning? do
    Act.warn failure.message

/-- The line for an image that was pulled. -/
def pulledMarkup (image : String) : String := "[green]✓[/green] pulled " ++ image

/-- Tells of images that were pulled, one after the other. -/
def tellOf (images : List String) : Act Unit := do
  for image in images do
    Act.print (← Act.lift .markup (Console.printMarkup true (pulledMarkup image)))

/-- Tells what came of an installation. -/
def report (world : World σ) (installation : Installation) : Act Unit := do
  modify fun session => { session with installation }
  for step in installation.steps do
    world.recount step
  for entry in installation.completion? do
    Act.log world.time entry
  for failure in installation.failure? do
    Act.fail failure.message
  if installation.pulled.isEmpty then Act.tell ["No engine images to pull."]
  else tellOf installation.images

def install (world : World σ) (state : σ) (settings : Settings)
    (manifest config channel : Option String) : Act Unit := do
  let registry ← world.registry (manifest.getD settings.manifestPath)
  let entries ← world.configuration (config.getD settings.configPath) settings.defaultEngines
  let installer : Installer :=
    { registry, defaultChannel := (given? channel).getD settings.defaultChannel }
  let (installation, _) := installer.install (world.client settings.clientName) entries state
  world.report installation

def perform (world : World σ) (state : σ) (settings : Settings) : Command → Act Unit
  | .help => Act.print usage
  | .misuse => throw .misused
  | .zeroInPath => Act.breakDown (.text .zeroInPath)
  | .list manifest => world.list settings manifest
  | .install manifest config channel => world.install state settings manifest config channel

def answer (world : World σ) (state : σ) : Invocation → Act Unit
  | .version => Act.print [version]
  | .help => Act.print usage
  | .misuse => throw .misused
  | .run level command => do
      let settings ← world.start level
      world.perform state settings command

/-- How an act ends, and the session then. -/
def ended : EStateM.Result Ending Session Unit → Ending × Session
  | .ok _ session => (.done, session)
  | .error ending session => (ending, session)

def run (world : World σ) (state : σ) (arguments : List String) : Ending × Session :=
  ended (world.answer state (Invocation.ofArguments arguments) {})

/-- The files that a run reads beside the file of variables, which has to be known. -/
def paths (world : World σ) (arguments : List String) : List String :=
  match Invocation.ofArguments arguments, Settings.load [] world.environment world.files with
  | .run _ (.list manifest), .ok settings => [manifest.getD settings.manifestPath]
  | .run _ (.install manifest config _), .ok settings =>
      [manifest.getD settings.manifestPath, config.getD settings.configPath]
  | _, _ => []

end World

end AnalysisEngines.CommandLine
