import AnalysisEngines.Yaml.Cursor

/-!
Scalars in single or double quotes.

Line breaks inside are folded: a single one reads as a space, and of several the first is
dropped.  Single quotes know one escape, a doubled quote.
-/

set_option autoImplicit false

namespace AnalysisEngines.Yaml.Quoted

/-- What stands behind a backslash for one character. -/
def escaped? : Char → Option Char
  | '0' => some '\x00'
  | 'a' => some '\x07'
  | 'b' => some '\x08'
  | 't' => some '\t'
  | '\t' => some '\t'
  | 'n' => some '\n'
  | 'v' => some '\x0b'
  | 'f' => some '\x0c'
  | 'r' => some '\r'
  | 'e' => some '\x1b'
  | ' ' => some ' '
  | '"' => some '"'
  | '\\' => some '\\'
  | '/' => some '/'
  | 'N' => some '\x85'
  | '_' => some '\xa0'
  | 'L' => some '\u2028'
  | 'P' => some '\u2029'
  | _ => none

/-- How many hexadecimal digits a code point has behind its letter. -/
def codeLength? : Char → Option Nat
  | 'x' => some 2
  | 'u' => some 4
  | 'U' => some 8
  | _ => none

def codePoint (length : Nat) (cursor : Cursor) : Except Fault (List Char × Cursor) :=
  let digits := cursor.rest.take length
  if digits.length < length || !digits.all isHexDigit then .error .malformed
  else
    let code := ofHexDigits digits
    if 0x10ffff < code then .error (.codePoint code)
    else .ok ([Char.ofNat code], cursor.skip length)

/-- Line breaks with blanks between them. -/
def breaks : Nat → Cursor → Except Fault (List Char × Cursor)
  | 0, cursor => .ok ([], cursor)
  | fuel + 1, cursor =>
      if cursor.showsDocumentEdge then .error .malformed
      else
        let cursor := cursor.skipWhile isTabOrSpace
        if isLineBreak cursor.next then do
          let (first, cursor) := cursor.lineBreak
          let (more, cursor) ← breaks fuel cursor
          return (first ++ more, cursor)
        else .ok ([], cursor)

/-- A backslash and what belongs to it. -/
def escape (fuel : Nat) (cursor : Cursor) : Except Fault (List Char × Cursor) :=
  let cursor := cursor.step
  match escaped? cursor.next with
  | some c => .ok ([c], cursor.step)
  | none =>
      match codeLength? cursor.next with
      | some length => codePoint length cursor.step
      | none =>
          if isLineBreak cursor.next then breaks fuel cursor.lineBreak.2
          else .error .malformed

def isOrdinary (c : Char) : Bool := !(c == '\'' || c == '"' || c == '\\' || isGap c)

/-- Everything up to white space, the closing quote or the end. -/
def word (double : Bool) : Nat → Cursor → Except Fault (List Char × Cursor)
  | 0, cursor => .ok ([], cursor)
  | fuel + 1, cursor =>
      let (run, cursor) := cursor.span isOrdinary
      let c := cursor.next
      let goOn (taken : List Char) (cursor : Cursor) : Except Fault (List Char × Cursor) := do
        let (more, cursor) ← word double fuel cursor
        return (run ++ taken ++ more, cursor)
      if !double && c == '\'' && cursor.ahead 1 == '\'' then goOn ['\''] (cursor.skip 2)
      else if (double && c == '\'') || (!double && (c == '"' || c == '\\')) then
        goOn [c] cursor.step
      else if double && c == '\\' then do
        let (taken, cursor) ← escape fuel cursor
        goOn taken cursor
      else .ok (run, cursor)

/-- The white space between two words. -/
def gap (fuel : Nat) (cursor : Cursor) : Except Fault (List Char × Cursor) :=
  let (blanks, cursor) := cursor.span isTabOrSpace
  if isEnd cursor.next then .error .malformed
  else if isLineBreak cursor.next then do
    let (first, cursor) := cursor.lineBreak
    let (more, cursor) ← breaks fuel cursor
    let folded := if first != ['\n'] then first else if more.isEmpty then [' '] else []
    return (folded ++ more, cursor)
  else .ok (blanks, cursor)

def words (quote : Char) : Nat → Cursor → Except Fault (List Char × Cursor)
  | 0, _ => .error .malformed
  | fuel + 1, cursor =>
      if cursor.next == quote then .ok ([], cursor.step)
      else do
        let (space, cursor) ← gap fuel cursor
        let (text, cursor) ← word (quote == '"') fuel cursor
        let (more, cursor) ← words quote fuel cursor
        return (space ++ text ++ more, cursor)

/-- A scalar from its opening quote on. -/
def scalar (fuel : Nat) (cursor : Cursor) : Except Fault (String × Cursor) := do
  let quote := cursor.next
  let (first, cursor) ← word (quote == '"') fuel cursor.step
  let (more, cursor) ← words quote fuel cursor
  return (String.ofList (first ++ more), cursor)

end AnalysisEngines.Yaml.Quoted
