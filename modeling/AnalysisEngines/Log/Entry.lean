import AnalysisEngines.Value.Basic

/-!
Log entries: a level, the name of the part that logs, an event and its fields.
-/

set_option autoImplicit false

namespace AnalysisEngines.Log

inductive Level where
  | debug
  | info
  | warning
  | error
  | critical
  deriving DecidableEq, Inhabited

namespace Level

def name : Level → String
  | .debug => "debug"
  | .info => "info"
  | .warning => "warning"
  | .error => "error"
  | .critical => "critical"

/-- Other words for levels. -/
def synonyms : List (String × Level) :=
  [("warn", .warning), ("exception", .error), ("fatal", .critical)]

def ofName? (text : String) : Option Level :=
  match [debug, info, warning, error, critical].find? fun level => level.name == text with
  | some level => some level
  | none => synonyms.lookup text

def severity : Level → Nat
  | .debug => 10
  | .info => 20
  | .warning => 30
  | .error => 40
  | .critical => 50

/-- Whether an entry of a level is at least as severe. -/
def admits (threshold level : Level) : Bool := threshold.severity ≤ level.severity

end Level

abbrev Fields := List (String × Value)

/-- Gives a field a value, in place if the name is there. -/
def assignField (name : String) (value : Value) : Fields → Fields
  | [] => [(name, value)]
  | (known, old) :: rest =>
      if known = name then (known, value) :: rest
      else (known, old) :: assignField name value rest

def assignFields (fields : Fields) (known : Fields) : Fields :=
  fields.foldl (fun result field => assignField field.1 field.2 result) known

def dropFields (names : List String) (fields : Fields) : Fields :=
  fields.filter fun field => !names.contains field.1

structure Entry where
  level : Level
  logger : String
  event : String
  fields : Fields
  deriving Inhabited

/-- An entry as one mapping. -/
def Entry.record (entry : Entry) : Value :=
  .textMap ([("event", .text entry.event), ("level", .text entry.level.name),
    ("logger", .text entry.logger)] ++ entry.fields)

/-- The engine that an entry is about; none is the empty text. -/
def Entry.engine (entry : Entry) : String :=
  ((entry.fields.lookup "engine").bind Value.text?).getD ""

/-- Entries by engine, each engine at its first entry. -/
def byEngine (entries : List Entry) : List (String × List Entry) :=
  (entries.map Entry.engine).eraseDups.map fun engine =>
    (engine, entries.filter fun entry => entry.engine == engine)

/-- An entry under bound variables: its own fields win. -/
def Entry.under (bound : Fields) (entry : Entry) : Entry :=
  { entry with fields := assignFields entry.fields bound }

end AnalysisEngines.Log
