import AnalysisEngines.Location.Basic

/-!
The rendered location of one issue.

The text is computed when it is first asked for, and kept from the first success on.
-/

set_option autoImplicit false

namespace AnalysisEngines

structure LocationDescription where
  location : Location
  buffer : Option SourceBuffer
  suffix : String
  kept : Option String := none

namespace LocationDescription

def ofValue (buffer : Option SourceBuffer) (given : Value) (suffix : String) :
    Except LocationFault LocationDescription :=
  (Location.parse given).map fun location => { location, buffer, suffix }

/-- The text, and the description that has kept it. -/
def render (description : LocationDescription) :
    Except LocationFault String × LocationDescription :=
  match description.kept with
  | some text => (.ok text, description)
  | none =>
      match description.location.render description.buffer description.suffix with
      | .ok text => (.ok text, { description with kept := some text })
      | .error fault => (.error fault, description)

/-- As a text a description reads as it is rendered. -/
def display (description : LocationDescription) :
    Except LocationFault String × LocationDescription :=
  description.render

def brief (description : LocationDescription) : String :=
  "LocationDescription(" ++ description.location.quoted ++ ", suffix=" ++
    Text.quoted description.suffix ++ ")"

end LocationDescription

end AnalysisEngines
