import AnalysisEngines.Console.EmojiTable
import AnalysisEngines.Text.Blank
import AnalysisEngines.Text.LetterCase

/-!
Emoji by name: a name between colons shows as the emoji, if there is one.

The name may be followed by `-emoji` or `-text` for the colored or the plain form.  White space
cannot be in a name.
-/

set_option autoImplicit false

namespace AnalysisEngines.Console

def ofCodePoints (codes : List Nat) : List Char := codes.map Char.ofNat

def skinTones : List (String × Char) :=
  [("_medium-light_skin_tone", Char.ofNat 0x1f3fc), ("_medium-dark_skin_tone", Char.ofNat 0x1f3fe),
    ("_light_skin_tone", Char.ofNat 0x1f3fb), ("_medium_skin_tone", Char.ofNat 0x1f3fd),
    ("_dark_skin_tone", Char.ofNat 0x1f3ff)]

def coloredForm : Char := Char.ofNat 0xfe0f

def plainForm : Char := Char.ofNat 0xfe0e

/-- An emoji in a skin tone: the tone comes behind the first character, in place of a form. -/
def withTone (tone : Char) : List Char → List Char
  | [] => []
  | first :: rest => first :: tone :: rest.dropWhile (· == coloredForm)

def tonedEmoji? (name : String) : Option (List Char) := do
  let (ending, tone) ← skinTones.find? fun entry => name.endsWith entry.1
  let base := String.ofList (name.toList.take (name.length - ending.length))
  return withTone tone (ofCodePoints (← tonedEmoji.lookup base))

def emoji? (name : String) : Option (List Char) :=
  (((plainEmoji.lookup name).or (tonedEmoji.lookup name)).map ofCodePoints).or (tonedEmoji? name)

/-- What a name between colons says: the name proper and a form. -/
def splitForm (name : List Char) : List Char × List Char :=
  let cut (ending : String) : List Char := name.take (name.length - ending.length)
  if "-emoji".toList.isSuffixOf name then (cut "-emoji", [coloredForm])
  else if "-text".toList.isSuffixOf name then (cut "-text", [plainForm])
  else (name, [])

/-- A code at the start of a text: what stands between the colons, and what follows. -/
def code? : List Char → Option (List Char × List Char)
  | ':' :: rest =>
      let (name, behind) := rest.span fun c => c != ':' && !Text.isBlank c
      match behind with
      | ':' :: behind => some (name, behind)
      | _ => none
  | _ => none

/-- A code without an emoji stays as it is, both colons included. -/
def codeText (name : List Char) : List Char :=
  let (proper, form) := splitForm name
  match emoji? (Text.lower (String.ofList proper)) with
  | some emoji => emoji ++ form
  | none => [':'] ++ name ++ [':']

def showEmojiFrom : Nat → List Char → List Char
  | 0, text => text
  | _ + 1, [] => []
  | fuel + 1, c :: rest =>
      match code? (c :: rest) with
      | some (name, behind) => codeText name ++ showEmojiFrom fuel behind
      | none => c :: showEmojiFrom fuel rest

/-- A text with emoji in place of their codes. -/
def showEmoji (text : List Char) : List Char := showEmojiFrom text.length text

end AnalysisEngines.Console
