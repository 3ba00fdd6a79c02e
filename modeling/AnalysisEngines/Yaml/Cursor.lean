import AnalysisEngines.Yaml.Fault

/-!
A place in the text of a document.

A document has no zero characters, so that `Cursor.next` can show one at the end.
-/

set_option autoImplicit false

namespace AnalysisEngines.Yaml

def byteOrderMark : Char := Char.ofNat 0xfeff

def isLineBreak (c : Char) : Bool :=
  c == '\n' || c == '\r' || c == '\x85' || c == '\u2028' || c == '\u2029'

def isEnd (c : Char) : Bool := c == '\x00'

def isBreakOrEnd (c : Char) : Bool := isEnd c || isLineBreak c

def isTabOrSpace (c : Char) : Bool := c == ' ' || c == '\t'

/-- What ends a word: white space, or the end of the text. -/
def isGap (c : Char) : Bool := isBreakOrEnd c || isTabOrSpace c

def isSpaceOrBreakOrEnd (c : Char) : Bool := isBreakOrEnd c || c == ' '

/-- Letters, digits, hyphens and underscores make up names. -/
def isNameChar (c : Char) : Bool := c.isAlphanum || c == '-' || c == '_'

def isHexDigit (c : Char) : Bool :=
  c.isDigit || ('a' ≤ c && c ≤ 'f') || ('A' ≤ c && c ≤ 'F')

def hexDigitValue (c : Char) : Nat :=
  if c.isDigit then c.toNat - '0'.toNat
  else if 'a' ≤ c then c.toNat - 'a'.toNat + 10
  else c.toNat - 'A'.toNat + 10

def ofHexDigits (digits : List Char) : Nat :=
  digits.foldl (fun total c => total * 16 + hexDigitValue c) 0

/-- Only these may be in a document. -/
def isAllowed (c : Char) : Bool :=
  let code := c.toNat
  code == 9 || code == 10 || code == 13 || (0x20 ≤ code && code ≤ 0x7e) || code == 0x85 ||
    (0xa0 ≤ code && code ≤ 0xfffd) || 0x10000 ≤ code

/-- The text from a place on, and where the place is.  Lines and columns count from zero. -/
structure Cursor where
  rest : List Char
  index : Nat := 0
  line : Nat := 0
  column : Nat := 0

namespace Cursor

def next (cursor : Cursor) : Char := cursor.rest.headD '\x00'

def ahead (count : Nat) (cursor : Cursor) : Char := (cursor.rest.drop count).headD '\x00'

/-- One character on.  A carriage return before a line feed opens no line, and a byte order mark
takes no column. -/
def step (cursor : Cursor) : Cursor :=
  match cursor.rest with
  | [] => cursor
  | c :: rest =>
      if isLineBreak c && !(c == '\r' && rest.head? == some '\n') then
        { rest, index := cursor.index + 1, line := cursor.line + 1, column := 0 }
      else
        { rest, index := cursor.index + 1, line := cursor.line
          column := if c = byteOrderMark then cursor.column else cursor.column + 1 }

def skip : Nat → Cursor → Cursor
  | 0, cursor => cursor
  | count + 1, cursor => skip count cursor.step

/-- The longest run of accepted characters, and the place behind it. -/
def span (accepts : Char → Bool) (cursor : Cursor) : List Char × Cursor :=
  let run := cursor.rest.takeWhile accepts
  (run, cursor.skip run.length)

def skipWhile (accepts : Char → Bool) (cursor : Cursor) : Cursor := (cursor.span accepts).2

def skipSpaces (cursor : Cursor) : Cursor := cursor.skipWhile (· == ' ')

/-- Up to a number of spaces that would lead to a column. -/
def skipSpacesTo (column : Nat) (cursor : Cursor) : Cursor :=
  let run := cursor.rest.takeWhile (· == ' ')
  cursor.skip (min run.length (column - cursor.column))

/-- A comment up to its line break. -/
def skipComment (cursor : Cursor) : Cursor :=
  if cursor.next = '#' then cursor.skipWhile fun c => !isLineBreak c else cursor

/-- The line break at a place, if there is one, as the character that it stands for. -/
def lineBreak (cursor : Cursor) : List Char × Cursor :=
  match cursor.rest with
  | '\r' :: '\n' :: _ => (['\n'], cursor.skip 2)
  | c :: _ =>
      if c == '\u2028' || c == '\u2029' then ([c], cursor.step)
      else if isLineBreak c then (['\n'], cursor.step)
      else ([], cursor)
  | [] => ([], cursor)

/-- Whether three characters and a gap follow, as at the edges of documents. -/
def showsMark (mark : Char) (cursor : Cursor) : Bool :=
  cursor.rest.take 3 == [mark, mark, mark] && isGap (cursor.ahead 3)

def showsDocumentEdge (cursor : Cursor) : Bool :=
  cursor.showsMark '-' || cursor.showsMark '.'

/-- The rest of a line that may only hold a comment. -/
def skipBlankLineEnd (cursor : Cursor) : Except Fault Cursor :=
  let cursor := cursor.skipSpaces.skipComment
  if isBreakOrEnd cursor.next then .ok cursor.lineBreak.2 else .error .malformed

end Cursor

end AnalysisEngines.Yaml
