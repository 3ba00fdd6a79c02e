import AnalysisEngines.Text.Blank
import AnalysisEngines.Text.LetterCase

/-!
Names of containers.

A generated name is `analyzer-`, a slug of the engine's name and a token.  The slug keeps lower-case
letters, digits, `_`, `.` and `-` and has `-` for everything else.
-/

set_option autoImplicit false

namespace AnalysisEngines.Container

/-- A code point of an engine's name: a character, or a surrogate, which is none. -/
inductive CodePoint where
  | char (c : Char)
  | surrogate (code : Nat)

namespace CodePoint

def ofText (text : String) : List CodePoint := text.toList.map .char

/-- Surrogates have no case.  That a sigma ends a word makes no difference here: a slug keeps neither
of the small ones. -/
def lower : CodePoint → List CodePoint
  | .char c => (Text.lowerChar c).map .char
  | .surrogate code => [.surrogate code]

end CodePoint

def isSlugChar (c : Char) : Bool :=
  ('a' ≤ c && c ≤ 'z') || ('0' ≤ c && c ≤ '9') || c == '_' || c == '.' || c == '-'

/-- What a slug has in the place of a code point. -/
def slugChar : CodePoint → Char
  | .char c => if isSlugChar c then c else '-'
  | .surrogate _ => '-'

def slugLength : Nat := 40

/-- The slug of an engine's name; `engine` when nothing but `-` is left of it. -/
def slugOf (engine : List CodePoint) : List Char :=
  let replaced := (engine.flatMap CodePoint.lower).map slugChar
  let trimmed := Text.stripChars (· == '-') replaced
  (if trimmed.isEmpty then "engine".toList else trimmed).take slugLength

def slug (engineName : String) : List Char := slugOf (CodePoint.ofText engineName)

def nameStem (engineName : String) : String :=
  "analyzer-" ++ String.ofList (slug engineName)

def nameFor (engineName token : String) : String := nameStem engineName ++ "-" ++ token

end AnalysisEngines.Container
