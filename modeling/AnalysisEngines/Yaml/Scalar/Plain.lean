import AnalysisEngines.Yaml.Cursor

/-!
Plain scalars: text without quotes.

A plain scalar goes on over line breaks as long as the lines are indented.  It ends before a
comment, before a colon with a gap behind it and, inside brackets, before their punctuation.
-/

set_option autoImplicit false

namespace AnalysisEngines.Yaml.Plain

def isBracketMark (c : Char) : Bool :=
  c == ',' || c == '[' || c == ']' || c == '\x7b' || c == '\x7d'

/-- Characters that a plain scalar cannot start with. -/
def isIndicator (c : Char) : Bool :=
  isBracketMark c || c == '-' || c == '?' || c == ':' || c == '#' || c == '&' || c == '*' ||
    c == '!' || c == '|' || c == '>' || c == '\'' || c == '"' || c == '%' || c == '@' ||
    c == Char.ofNat 0x60

/-- Some indicators may start one if no gap follows. -/
def startsAt (bracketed : Bool) (cursor : Cursor) : Bool :=
  let c := cursor.next
  (!isGap c && !isIndicator c) ||
    (!isGap (cursor.ahead 1) && (c == '-' || (!bracketed && (c == '?' || c == ':'))))

/-- The longest run without a gap. -/
def word (bracketed : Bool) : List Char → List Char
  | [] => []
  | c :: rest =>
      let following := rest.headD '\x00'
      if isGap c ||
          (c == ':' && (isGap following || (bracketed && isBracketMark following))) ||
          (bracketed && (c == '?' || isBracketMark c)) then []
      else c :: word bracketed rest

/-- Further line breaks; `none` where a document ends. -/
def breaks : Nat → Cursor → Option (List Char) × Cursor
  | 0, cursor => (some [], cursor)
  | fuel + 1, cursor =>
      if cursor.showsDocumentEdge then (none, cursor)
      else
        let cursor := cursor.skipSpaces
        if isLineBreak cursor.next then
          let (first, cursor) := cursor.lineBreak
          let (more, cursor) := breaks fuel cursor
          (more.map (first ++ ·), cursor)
        else (some [], cursor)

/-- The space behind a word: as it stands or folded, whether it has a line break in it, and the
place behind it. -/
structure Gap where
  text : List Char
  broken : Bool
  cursor : Cursor

def gap (fuel : Nat) (cursor : Cursor) : Gap :=
  let (blanks, cursor) := cursor.span (· == ' ')
  if isLineBreak cursor.next then
    let (first, cursor) := cursor.lineBreak
    match breaks fuel cursor with
    | (none, cursor) => ⟨[], true, cursor⟩
    | (some more, cursor) =>
        let folded := if first != ['\n'] then first else if more.isEmpty then [' '] else []
        ⟨folded ++ more, true, cursor⟩
  else ⟨blanks, false, cursor⟩

/-- A scalar, and whether the last space behind its words has a line break in it. -/
def words (bracketed : Bool) (indent : Int) : Nat → Cursor → List Char → Bool →
    List Char × Bool × Cursor
  | 0, cursor, _, broken => ([], broken, cursor)
  | fuel + 1, cursor, space, broken =>
      if cursor.next == '#' then ([], broken, cursor)
      else
        let text := word bracketed cursor.rest
        if text.isEmpty then ([], broken, cursor)
        else
          let after := gap fuel (cursor.skip text.length)
          if after.text.isEmpty || after.cursor.next == '#' ||
              (!bracketed && (after.cursor.column : Int) < indent) then
            (space ++ text, after.broken, after.cursor)
          else
            let (more, broken, cursor) :=
              words bracketed indent fuel after.cursor after.text after.broken
            (space ++ text ++ more, broken, cursor)

end AnalysisEngines.Yaml.Plain
