import AnalysisEngines.Failure
import AnalysisEngines.Files.Basic

/-!
Source text of one file, with character offsets resolved to lines and columns.

A line starts at offset zero and behind every line feed.  The line of an offset is the number of
line starts up to it.
-/

set_option autoImplicit false

namespace AnalysisEngines

structure SourceBuffer where
  name : String
  source : List Char

inductive OffsetFault where
  | notAnInteger (buffer : String) (offset : Value)
  | outside (buffer : String) (offset : Int) (length : Nat)

namespace OffsetFault

def message : OffsetFault → String
  | .notAnInteger _ offset => "offset must be an integer, got " ++ offset.quoted
  | .outside _ offset length =>
      "offset " ++ toString offset ++ " outside source of length " ++ toString length

def buffer : OffsetFault → String
  | .notAnInteger buffer _ | .outside buffer _ _ => buffer

def failure (fault : OffsetFault) : Failure :=
  .ofKind .invalidLocation fault.message { path := .text fault.buffer }

end OffsetFault

namespace SourceBuffer

def ofText (name source : String) : SourceBuffer := ⟨name, source.toList⟩

/-- The text of a file, under its normalized path. -/
def ofFile (files : Files) (path : String) : Except TextFault SourceBuffer :=
  let name := Path.normalize path
  (files.readText name).map (ofText name)

def length (buffer : SourceBuffer) : Nat := buffer.source.length

/-- Offsets behind the line feeds of a text that starts at an offset. -/
def startsFrom (offset : Nat) : List Char → List Nat
  | [] => []
  | c :: rest =>
      if c = '\n' then (offset + 1) :: startsFrom (offset + 1) rest
      else startsFrom (offset + 1) rest

def lineStarts (buffer : SourceBuffer) : List Nat := 0 :: startsFrom 0 buffer.source

/-- The number of lines; a final line feed opens no new one. -/
def lineCount (buffer : SourceBuffer) : Nat :=
  let starts := buffer.lineStarts
  if 1 < starts.length ∧ starts.getLast? = some buffer.length then starts.length - 1
  else starts.length

structure Place where
  line : Nat
  column : Nat
  deriving DecidableEq

/-- How many entries of an ascending table are up to a number, by halving the range between two
bounds on the answer. -/
def countUpTo (table : Array Nat) (number low high : Nat) : Nat :=
  if low < high then
    let middle := (low + high) / 2
    if number < table.getD middle 0 then countUpTo table number low middle
    else countUpTo table number (middle + 1) high
  else low
termination_by high - low

/-- Line and column of an offset, both from one. -/
def placeOf (buffer : SourceBuffer) (offset : Nat) : Place :=
  let starts := buffer.lineStarts.toArray
  let line := countUpTo starts offset 0 starts.size
  ⟨line, offset - starts.getD (line - 1) 0 + 1⟩

def place (buffer : SourceBuffer) (offset : Value) : Except OffsetFault Place :=
  match offset with
  | .number (.int given) =>
      if given < 0 ∨ (buffer.length : Int) < given then
        .error (.outside buffer.name given buffer.length)
      else .ok (buffer.placeOf given.toNat)
  | other => .error (.notAnInteger buffer.name other)

def brief (buffer : SourceBuffer) : String :=
  "SourceBuffer(" ++ Text.quoted buffer.name ++ ", " ++ toString buffer.length ++ " chars)"

end SourceBuffer

end AnalysisEngines
