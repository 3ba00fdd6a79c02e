import AnalysisEngines.Json.Writing
import AnalysisEngines.Log.Entry
import AnalysisEngines.Text.Blank
import AnalysisEngines.Text.LetterCase

/-!
A journal writes log entries as lines.

Bound variables go with every entry, under the fields of its own.  A scope binds variables when it
is entered and unbinds their names when it is left.  A handle keeps the style of its first entry;
threshold and service are always those of the journal.
-/

set_option autoImplicit false

namespace AnalysisEngines.Log

inductive LevelFault where
  /-- No level has this name, in upper case. -/
  | noSuchName (name : String)
  /-- The name stands for a text that is no level. -/
  | noLevel (meant : String)
  /-- The name stands for something else. -/
  | noLevelKind (shown : String)
  | notText (kindName : String)

namespace LevelFault

def message : LevelFault → String
  | .noSuchName name => "module 'logging' has no attribute '" ++ name ++ "'"
  | .noLevel meant => "Unknown level: " ++ Text.quoted meant
  | .noLevelKind shown => "Level not an integer or a valid string: " ++ shown
  | .notText kindName => Text.quoted kindName ++ " object has no attribute 'upper'"

end LevelFault

/-- The least severity that a level lets through. -/
def thresholds : List (String × Nat) :=
  [("CRITICAL", 50), ("FATAL", 50), ("ERROR", 40), ("WARNING", 30), ("WARN", 30), ("INFO", 20),
    ("DEBUG", 10), ("NOTSET", 0)]

/-- The names that stand for something other than a level. -/
def otherNames : List (String × LevelFault) :=
  [("BASIC_FORMAT", .noLevel "%(levelname)s:%(name)s:%(message)s"),
    ("_STYLES", .noLevelKind (
      "\x7b'%': (<class 'logging.PercentStyle'>, '%(levelname)s:%(name)s:%(message)s'), " ++
      "'\x7b': (<class 'logging.StrFormatStyle'>, " ++
      "'\x7blevelname\x7d:\x7bname\x7d:\x7bmessage\x7d'), " ++
      "'$': (<class 'logging.StringTemplateStyle'>, " ++
      "'$\x7blevelname\x7d:$\x7bname\x7d:$\x7bmessage\x7d')\x7d"))]

/-- Level names count in any letter case. -/
def thresholdOf : Value → Except LevelFault Nat
  | .text name =>
      let upper := Text.upper name
      match thresholds.lookup upper with
      | some threshold => .ok threshold
      | none => .error ((otherNames.lookup upper).getD (.noSuchName upper))
  | other => .error (.notText other.kindName)

structure Style where
  asJson : Bool := true
  stamped : Bool := true

namespace Style

def eventWidth : Nat := 30

def levelWidth : Nat := 9

def pad (width : Nat) (text : String) : String :=
  text ++ String.ofList (List.replicate (width - text.length) ' ')

def needsQuotes (c : Char) : Bool :=
  c == ' ' || c == '\t' || c == '=' || c == '\r' || c == '\n' || c == '"' || c == '\''

def shown : Value → String
  | .text text => if text.toList.any needsQuotes then Text.quoted text else text
  | other => other.quoted

/-- The fields with a place of their own on a line, and how they show there. -/
def columns : List (String × (String → String)) :=
  [("timestamp", id),
    ("level", fun level => "[" ++ pad levelWidth level ++ "]"),
    ("event", pad eventWidth),
    ("logger", fun logger => "[" ++ logger ++ "]"),
    ("logger_name", fun logger => "[" ++ logger ++ "]")]

/-- Fields that stand on lines of their own behind the others. -/
def blocks : List String := ["stack", "exception"]

def blockSeparator : String := "\n" ++ String.ofList (List.replicate 79 '=') ++ "\n"

def plainLine (fields : Fields) : String :=
  let placed := columns.filterMap fun (name, place) =>
    (fields.lookup name).map fun value => place value.display
  let named := dropFields (columns.map (·.1) ++ blocks) fields
  let others := (named.mergeSort fun left right => left.1 ≤ right.1).map fun (name, value) =>
    name ++ "=" ++ shown value
  let line := " ".intercalate ((placed ++ others).filter (· != ""))
  let trimmed := String.ofList (Text.dropEnd (· == ' ') line.toList)
  let shownBlocks := blocks.filterMap fun name => (fields.lookup name).map Value.display
  "\n".intercalate (trimmed :: shownBlocks.intersperse blockSeparator)

def line (style : Style) (fields : Fields) : String :=
  if style.asJson then Json.write (.textMap fields) else plainLine fields

end Style

structure Journal where
  threshold : Nat := Level.warning.severity
  service : Value := .text "analyzer"
  style : Style := {}
  bound : Fields := []
  /-- The names of entered scopes, the innermost first. -/
  scopes : List (List String) := []
  /-- The logger and style of each handle in use. -/
  handles : List (String × String × Style) := []

/-- How a journal writes.  Unless told otherwise it writes JSON. -/
structure Options where
  level : Value := .text "INFO"
  asJson : Option Bool := none
  service : Value := .text "analyzer"
  stamped : Bool := true

namespace Journal

/-- A level that is none leaves the threshold as it is, and changes the rest nonetheless. -/
def configure (options : Options) (journal : Journal) : Option LevelFault × Journal :=
  let journal := { journal with
    service := options.service
    style := { asJson := options.asJson.getD true, stamped := options.stamped } }
  match thresholdOf options.level with
  | .ok threshold => (none, { journal with threshold })
  | .error fault => (some fault, journal)

def bind (fields : Fields) (journal : Journal) : Journal :=
  { journal with bound := assignFields fields journal.bound }

def unbind (names : List String) (journal : Journal) : Journal :=
  { journal with bound := dropFields names journal.bound }

def clear (journal : Journal) : Journal := { journal with bound := [] }

def enter (fields : Fields) (journal : Journal) : Journal :=
  { journal.bind fields with scopes := fields.map (·.1) :: journal.scopes }

/-- Leaves the innermost scope. -/
def leave (journal : Journal) : Journal :=
  match journal.scopes with
  | [] => journal
  | names :: outer => { journal.unbind names with scopes := outer }

/-- Fields with others under them. -/
def above (upper lower : Fields) : Fields :=
  upper ++ dropFields (upper.map (·.1)) lower

/-- All fields of an entry.  Level and logger are the entry's, whatever its fields say. -/
def fieldsOf (style : Style) (time : String) (entry : Entry) (journal : Journal) : Fields :=
  let own := assignField "event" (.text entry.event) entry.fields
  let stamped := if style.stamped then assignField "timestamp" (.text time) own else own
  let named := assignFields [("level", .text entry.level.name), ("logger", .text entry.logger)]
    (above stamped journal.bound)
  above (dropFields ["stack_info", "exc_info"] named) [("service", journal.service)]

/-- The text of an entry, unless it is below the threshold. -/
def lines (style : Style) (time : String) (entry : Entry) (journal : Journal) : List String :=
  if entry.level.severity < journal.threshold then []
  else [style.line (journal.fieldsOf style time entry)]

/-- Writes an entry, through a handle if there is one. -/
def log (time : String) (handle : Option String) (entry : Entry) (journal : Journal) :
    List String × Journal :=
  match handle with
  | none => (journal.lines journal.style time entry, journal)
  | some id =>
      match journal.handles.lookup id with
      | some (logger, style) => (journal.lines style time { entry with logger }, journal)
      | none =>
          (journal.lines journal.style time entry,
            { journal with handles := (id, entry.logger, journal.style) :: journal.handles })

end Journal

end AnalysisEngines.Log
