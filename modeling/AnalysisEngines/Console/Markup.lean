import AnalysisEngines.Console.Emoji
import AnalysisEngines.Console.StyleName

/-!
Text with markup.

A tag in brackets opens a style, and one with a slash closes it: the style it names, or the last
one that is open.  A backslash before a tag makes it plain text, and two stand for one.  `escape`
puts the backslashes in.  On a terminal without styles only the text between tags shows.
-/

set_option autoImplicit false

namespace AnalysisEngines.Console

structure Tag where
  name : String
  parameters : Option String

def Tag.ofContent (content : List Char) : Tag :=
  let (name, rest) := content.span (· != '=')
  { name := String.ofList name
    parameters := if rest.isEmpty then none else some (String.ofList (rest.drop 1)) }

def Tag.markup (tag : Tag) : String :=
  "[" ++ tag.name ++ (tag.parameters.elim "" fun given => "=" ++ given) ++ "]"

inductive MarkupFault where
  | noOpenTag (tag : Tag) (position : Nat)
  | nothingToClose (position : Nat)

def MarkupFault.message : MarkupFault → String
  | .noOpenTag tag position =>
      "closing tag '" ++ tag.markup ++ "' at position " ++ toString position ++
        " doesn't match any open tag"
  | .nothingToClose position =>
      "closing tag '[/]' at position " ++ toString position ++ " has nothing to close"

inductive Piece where
  | text (content : List Char)
  | tag (position : Nat) (tag : Tag)

def opensTag (c : Char) : Bool :=
  ('a' ≤ c && c ≤ 'z') || c == '#' || c == '/' || c == '@'

/-- The content of a tag at the start of a text, and what follows it. -/
def tagContent? : List Char → Option (List Char × List Char)
  | '[' :: first :: rest =>
      if opensTag first then
        let (inner, behind) := rest.span fun c => c != '[' && c != ']'
        match behind with
        | ']' :: behind => some (first :: inner, behind)
        | _ => none
      else none
  | _ => none

def plainPiece (content : List Char) : List Piece :=
  if content.isEmpty then [] else [.text content]

/-- The pieces from a position on; `plain` is the text before it since the last tag. -/
def piecesFrom : Nat → Nat → List Char → List Char → List Piece
  | 0, _, plain, text => plainPiece (plain ++ text)
  | _ + 1, _, plain, [] => plainPiece plain
  | fuel + 1, position, plain, c :: rest =>
      let (slashes, start) := (c :: rest).span (· == '\\')
      match tagContent? start with
      | some (content, behind) =>
          let pairs := slashes.length / 2
          let literal := List.replicate pairs '\\'
          let next := position + slashes.length + content.length + 2
          let tag := if slashes.length % 2 = 1 then .text (['['] ++ content ++ [']'])
            else .tag (position + 2 * pairs) (Tag.ofContent content)
          plainPiece plain ++ plainPiece literal ++ tag :: piecesFrom fuel next [] behind
      | none =>
          if slashes.isEmpty then piecesFrom fuel (position + 1) (plain ++ [c]) rest
          else piecesFrom fuel (position + slashes.length) (plain ++ slashes) start

def pieces (markup : List Char) : List Piece := piecesFrom (markup.length + 1) 0 [] markup

/-- A bracket behind a backslash is a bracket, even without a tag. -/
def openBrackets : List Char → List Char
  | '\\' :: '[' :: rest => '[' :: openBrackets rest
  | c :: rest => c :: openBrackets rest
  | [] => []

/-- The open styles without the last one of a name. -/
def closeStyle? (name : String) (opened : List String) : Option (List String) :=
  if opened.contains name then some (opened.erase name) else none

/-- The open styles behind a tag, the last one first. -/
def restyle (position : Nat) (tag : Tag) (opened : List String) :
    Except MarkupFault (List String) :=
  if tag.name.startsWith "/" then
    let given := Text.strip (String.ofList (tag.name.toList.drop 1))
    if given = "" then
      match opened with
      | [] => .error (.nothingToClose position)
      | _ :: opened => .ok opened
    else match closeStyle? (standardName given) opened with
      | some opened => .ok opened
      | none => .error (.noOpenTag tag position)
  else .ok (standardName tag.name :: opened)

/-- What a text between tags shows. -/
def shownText (content : List Char) : List Char := showEmoji (openBrackets content)

/-- The text that pieces show, with the open styles. -/
def textOf (opened : List String) : List Piece → Except MarkupFault (List Char)
  | [] => .ok []
  | .text content :: rest => (textOf opened rest).map (shownText content ++ ·)
  | .tag position tag :: rest => do
      let opened ← restyle position tag opened
      textOf opened rest

/-- What markup shows. -/
def plainText (markup : String) : Except MarkupFault String :=
  (textOf [] (pieces markup.toList)).map String.ofList

def escapePiece (slashes content : List Char) : List Char :=
  slashes ++ slashes ++ ['\\', '['] ++ content ++ [']']

def escapeFrom : Nat → List Char → List Char
  | 0, text => text
  | _ + 1, [] => []
  | fuel + 1, c :: rest =>
      let (slashes, start) := (c :: rest).span (· == '\\')
      match tagContent? start with
      | some (content, behind) => escapePiece slashes content ++ escapeFrom fuel behind
      | none =>
          if slashes.isEmpty then c :: escapeFrom fuel rest
          else slashes ++ escapeFrom fuel start

/-- Markup that shows a text; a single backslash at the end is doubled. -/
def escape (text : String) : String :=
  let escaped := escapeFrom (text.length + 1) text.toList
  String.ofList (
    if ['\\'].isSuffixOf escaped && !(['\\', '\\'].isSuffixOf escaped) then escaped ++ ['\\']
    else escaped)

end AnalysisEngines.Console
