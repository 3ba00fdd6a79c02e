import AnalysisEngines.Console.Printing
import AnalysisEngines.Installation
import AnalysisEngines.Log.Journal
import AnalysisEngines.Settings.Basic

/-!
A session at a terminal: what one run of the program writes, and how it ends.

A breakdown is a fault that the program has no words of its own for.  What was written before it
stays written.
-/

set_option autoImplicit false

namespace AnalysisEngines.CommandLine

inductive Breakdown where
  | settings (problem : SettingsProblem)
  | level (fault : Log.LevelFault)
  | manifest (problem : DocumentProblem ManifestFault)
  | configuration (problem : ConfigurationProblem)
  | markup (fault : Console.MarkupFault)
  | text (fault : TextFault)

inductive Ending where
  | done
  | failed
  | misused
  | broken (breakdown : Breakdown)

/-- What the program answers to the one that started it. -/
def Ending.status : Ending → Nat
  | .done => 0
  | .failed | .broken _ => 1
  | .misused => 2

structure Session where
  output : List String := []
  messages : List String := []
  journal : Log.Journal := {}
  installation : Installation := ⟨[]⟩

/-- A part of a session.  It ends the session early by throwing an ending. -/
abbrev Act (α : Type) : Type := EStateM Ending Session α

namespace Act

def breakDown {α : Type} (breakdown : Breakdown) : Act α := throw (.broken breakdown)

def lift {ε α : Type} (wrap : ε → Breakdown) : Except ε α → Act α
  | .ok value => pure value
  | .error fault => breakDown (wrap fault)

def print (lines : List String) : Act Unit :=
  modify fun session => { session with output := session.output ++ lines }

def tell (lines : List String) : Act Unit :=
  modify fun session => { session with messages := session.messages ++ lines }

/-- A marked label with a text as it is. -/
def tellLabelled (label text : String) : Act Unit := do
  tell (← lift .markup (Console.printMarkup false (label ++ Console.escape text)))

def warn (message : String) : Act Unit := tellLabelled "[yellow]WARNING:[/yellow] " message

def fail {α : Type} (message : String) : Act α := do
  tellLabelled "[bold red]Error[/bold red]: " message
  throw .failed

def log (time : String) (entry : Log.Entry) : Act Unit :=
  modify fun session =>
    let (lines, journal) := session.journal.log time none entry
    { session with messages := session.messages ++ lines, journal }

end Act

end AnalysisEngines.CommandLine
