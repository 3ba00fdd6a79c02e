import AnalysisEngines.SourceBuffer
import AnalysisEngines.Text.Blank

/-!
Locations of issues: line ranges, or positions that are lines or offsets.

`Location.parse` reads one from a document value, and `Location.render` writes its line range,
with offsets resolved in a source buffer.
-/

set_option autoImplicit false

namespace AnalysisEngines

inductive Position where
  | line (line : Value)
  | offset (offset : Value)

inductive Location where
  | lines (first last : Value)
  | positions (first last : Position)

inductive LocationFault where
  | positionNotMapping (given : Value)
  | positionEmpty (given : Value)
  | notMapping (given : Value)
  | linesNotMapping (given : Value)
  | positionsNotMapping (given : Value)
  | empty (given : Value)
  | noBuffer (offset : Value)
  | badOffset (fault : OffsetFault)

namespace LocationFault

def message : LocationFault → String
  | .positionNotMapping _ => "position must be a mapping"
  | .positionEmpty _ => "position has neither line nor offset"
  | .notMapping _ => "location must be a mapping"
  | .linesNotMapping _ => "lines must be a mapping"
  | .positionsNotMapping _ => "positions must be a mapping"
  | .empty _ => "location has neither lines nor positions"
  | .noBuffer offset => "offset " ++ offset.display ++ " requires a source buffer"
  | .badOffset fault => fault.message

/-- The value that was read when the fault was found. -/
def given? : LocationFault → Option Value
  | .positionNotMapping given | .positionEmpty given | .notMapping given
  | .linesNotMapping given | .positionsNotMapping given | .empty given => some given
  | .noBuffer _ | .badOffset _ => none

def failure (fault : LocationFault) : Failure :=
  match fault with
  | .badOffset offsetFault => offsetFault.failure
  | other =>
      .ofKind .invalidLocation other.message
        { further := match other.given? with
            | some given => [(.text "location", .text given.quoted)]
            | none => [] }

end LocationFault

namespace Position

/-- A line wins over an offset. -/
def parse (given : Value) : Except LocationFault Position :=
  match given with
  | .map entries =>
      match Value.member "line" entries, Value.member "offset" entries with
      | .null, .null => .error (.positionEmpty given)
      | .null, place => .ok (.offset place)
      | place, _ => .ok (.line place)
  | _ => .error (.positionNotMapping given)

def quoted : Position → String
  | .line place => "ExplicitLine(line=" ++ place.quoted ++ ")"
  | .offset place => "Offset(offset=" ++ place.quoted ++ ")"

def resolve (buffer : Option SourceBuffer) : Position → Except LocationFault Value
  | .line place => .ok place
  | .offset place =>
      match buffer with
      | none => .error (.noBuffer place)
      | some source =>
          match source.place place with
          | .ok found => .ok (.ofNat found.line)
          | .error fault => .error (.badOffset fault)

end Position

namespace Location

/-- Lines win over positions. -/
def parse (given : Value) : Except LocationFault Location :=
  match given with
  | .map entries =>
      match Value.member "lines" entries with
      | .map ends => .ok (.lines (Value.member "begin" ends) (Value.member "end" ends))
      | .null =>
          match Value.member "positions" entries with
          | .map ends => do
              let first ← Position.parse (Value.member "begin" ends)
              let last ← Position.parse (Value.member "end" ends)
              return .positions first last
          | .null => .error (.empty given)
          | _ => .error (.positionsNotMapping given)
      | _ => .error (.linesNotMapping given)
  | _ => .error (.notMapping given)

def quoted : Location → String
  | .lines first last => "Lines(begin=" ++ first.quoted ++ ", end=" ++ last.quoted ++ ")"
  | .positions first last =>
      "Positions(begin=" ++ first.quoted ++ ", end=" ++ last.quoted ++ ")"

/-- First and last line of a location. -/
def range (buffer : Option SourceBuffer) : Location → Except LocationFault (Value × Value)
  | .lines first last => .ok (first, last)
  | .positions first last => do
      let first ← first.resolve buffer
      let last ← last.resolve buffer
      return (first, last)

def endText : Value → String
  | .null => ""
  | given => given.display

/-- One line if both ends are the same, else both ends with a dash between. -/
def rangeText (first last : Value) : String :=
  if first.same last then endText first else endText first ++ "-" ++ endText last

/-- The line range and a suffix; a blank range stays without one. -/
def render (buffer : Option SourceBuffer) (suffix : String) (location : Location) :
    Except LocationFault String := do
  let (first, last) ← location.range buffer
  let text := rangeText first last
  return if Text.isBlankText text then "" else text ++ suffix

end Location

end AnalysisEngines
