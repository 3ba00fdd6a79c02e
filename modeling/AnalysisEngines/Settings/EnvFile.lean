import AnalysisEngines.Text.Blank

/-!
Files of environment variables.

A statement is a name, mostly with `=` and a value, on a line of its own; `export` may stand in
front and a comment behind.  A quoted value may go over lines.  A statement that is none of this
is skipped to the end of its line.  Values may refer to variables as `${NAME}`, with a value to
take if there is none as `${NAME:-value}`.
-/

set_option autoImplicit false

namespace AnalysisEngines.EnvFile

inductive Statement where
  | comment
  | assignment (name : String) (value : Option String)
  | faulty

def isInnerBlank (c : Char) : Bool := Text.isBlank c && c != '\n' && c != '\r'

def skipBlank (text : List Char) : List Char := text.dropWhile isInnerBlank

def isLineEnd (c : Char) : Bool := c == '\n' || c == '\r'

/-- What follows the line that a text starts in. -/
def dropLine (text : List Char) : List Char := (text.dropWhile (!isLineEnd ·)).drop 1

def skipExport (text : List Char) : List Char :=
  if "export".toList.isPrefixOf text then
    let rest := text.drop 6
    if (rest.takeWhile isInnerBlank).isEmpty then text else skipBlank rest
  else text

def isNameChar (c : Char) : Bool := c != '=' && c != '#' && !Text.isBlank c

/-- The name of a variable, if there is one before the comment.  Like every step that may fail, it
tells where it does. -/
def name (text : List Char) : Except (List Char) (Option String × List Char) :=
  match text with
  | '#' :: _ => .ok (none, text)
  | '\'' :: rest =>
      let (inner, behind) := rest.span (· != '\'')
      if inner.isEmpty || behind.isEmpty then .error text
      else .ok (some (String.ofList inner), behind.drop 1)
  | _ =>
      let (inner, rest) := text.span isNameChar
      if inner.isEmpty then .error text else .ok (some (String.ofList inner), rest)

/-- The text up to a closing quote.  A quote behind a backslash closes only if no later one
does. -/
def quotedBody (quote : Char) : List Char → Option (List Char × List Char)
  | [] => none
  | '\\' :: c :: rest =>
      if c = quote then
        match quotedBody quote rest with
        | some (body, behind) => some ('\\' :: c :: body, behind)
        | none => some (['\\'], rest)
      else (quotedBody quote (c :: rest)).map fun (body, behind) => ('\\' :: body, behind)
  | c :: rest =>
      if c = quote then some ([], rest)
      else (quotedBody quote rest).map fun (body, behind) => (c :: body, behind)

def singleEscape? : Char → Option Char
  | '\\' => some '\\'
  | '\'' => some '\''
  | _ => none

def doubleEscape? : Char → Option Char
  | '\\' => some '\\'
  | '\'' => some '\''
  | '"' => some '"'
  | 'a' => some '\x07'
  | 'b' => some '\x08'
  | 'f' => some '\x0c'
  | 'n' => some '\n'
  | 'r' => some '\r'
  | 't' => some '\t'
  | 'v' => some '\x0b'
  | _ => none

def unescape (escape? : Char → Option Char) : List Char → List Char
  | '\\' :: c :: rest =>
      match escape? c with
      | some meant => meant :: unescape escape? rest
      | none => '\\' :: unescape escape? (c :: rest)
  | c :: rest => c :: unescape escape? rest
  | [] => []

/-- A text without the white space and comment at its end. -/
def cutComment : List Char → List Char
  | [] => []
  | c :: rest =>
      if Text.isBlank c && (rest.dropWhile Text.isBlank).head? == some '#' then []
      else c :: cutComment rest

def quotedValue (quote : Char) (escape? : Char → Option Char) (text : List Char) :
    Except (List Char) (String × List Char) :=
  match quotedBody quote (text.drop 1) with
  | some (body, rest) => .ok (String.ofList (unescape escape? body), rest)
  | none => .error text

def value (text : List Char) : Except (List Char) (String × List Char) :=
  match text.head? with
  | some '\'' => quotedValue '\'' singleEscape? text
  | some '"' => quotedValue '"' doubleEscape? text
  | _ =>
      let (line, rest) := text.span (!isLineEnd ·)
      .ok (String.ofList (Text.dropEnd Text.isBlank (cutComment line)), rest)

def optionalValue (text : List Char) : Except (List Char) (Option String × List Char) :=
  match text with
  | '=' :: rest => (value (skipBlank rest)).map fun (value, rest) => (some value, rest)
  | _ => .ok (none, text)

def skipComment (text : List Char) : List Char :=
  match skipBlank text with
  | '#' :: rest => rest.dropWhile (!isLineEnd ·)
  | _ => text

def lineEnd (text : List Char) : Except (List Char) (Unit × List Char) :=
  match skipBlank text with
  | [] => .ok ((), [])
  | c :: rest => if isLineEnd c then .ok ((), rest) else .error text

def wellFormed (text : List Char) : Except (List Char) (Statement × List Char) := do
  let (name, rest) ← name (skipExport text)
  let (value, rest) ← optionalValue (skipBlank rest)
  let ((), rest) ← lineEnd (skipComment rest)
  return (match name with
    | some name => .assignment name value
    | none => .comment, rest)

/-- The statement that a text starts with, behind white space, and what follows it. -/
def statement (text : List Char) : Statement × List Char :=
  let start := text.dropWhile Text.isBlank
  if start.isEmpty then (.comment, [])
  else match wellFormed start with
    | .ok read => read
    | .error rest => (.faulty, dropLine rest)

/-- The statements from a line on, each with the line where its white space starts. -/
def statementsFrom : Nat → Nat → List Char → List (Nat × Statement)
  | 0, _, _ => []
  | _ + 1, _, [] => []
  | fuel + 1, line, text =>
      let (read, rest) := statement text
      let consumed := text.take (text.length - rest.length)
      (line, read) :: statementsFrom fuel (line + consumed.count '\n') rest

def statements (text : String) : List (Nat × Statement) :=
  let chars := text.toList
  statementsFrom chars.length 1 chars

/-- The lines with statements that are skipped. -/
def faultyLines (text : String) : List Nat :=
  (statements text).filterMap fun (line, read) =>
    match read with
    | .faulty => some line
    | _ => none

def skippedMessage (line : Nat) : String :=
  "python-dotenv could not parse statement starting at line " ++ toString line

/-- Variables in order of first appearance; one without a value may still have a name. -/
abbrev Variables := List (String × Option String)

def Variables.assign (name : String) (value : Option String) : Variables → Variables
  | [] => [(name, value)]
  | known :: rest =>
      if known.1 = name then (name, value) :: rest else known :: Variables.assign name value rest

structure Reference where
  name : String
  default : String

/-- The reference behind a dollar sign, and what follows it. -/
def reference? (text : List Char) : Option (Reference × List Char) :=
  match text with
  | '\x7b' :: inner =>
      let (name, rest) := inner.span fun c => c != '\x7d' && c != ':'
      match rest with
      | '\x7d' :: rest => some (⟨String.ofList name, ""⟩, rest)
      | ':' :: '-' :: rest =>
          let (default, rest) := rest.span (· != '\x7d')
          if rest.isEmpty then none
          else some (⟨String.ofList name, String.ofList default⟩, rest.drop 1)
      | _ => none
  | _ => none

/-- A text with the values of variables in place of the references to them. -/
def expandChars (known : Variables) : Nat → List Char → List Char
  | 0, text => text
  | _ + 1, [] => []
  | fuel + 1, c :: rest =>
      match if c = '$' then reference? rest else none with
      | some (reference, rest) =>
          let value := match known.lookup reference.name with
            | some value => value.getD ""
            | none => reference.default
          value.toList ++ expandChars known fuel rest
      | none => c :: expandChars known fuel rest

def expand (known : Variables) (text : String) : String :=
  String.ofList (expandChars known text.length text.toList)

/-- The variables of a file.  A value may refer to variables of the environment and to those that
come before it, which win. -/
def read (environment : List (String × String)) (text : String) : Variables :=
  let outer : Variables := environment.reverse.map fun (name, value) => (name, some value)
  (statements text).foldl (fun known (_, read) =>
    match read with
    | .assignment name value =>
        Variables.assign name (value.map (expand (known ++ outer))) known
    | _ => known) []

end AnalysisEngines.EnvFile
