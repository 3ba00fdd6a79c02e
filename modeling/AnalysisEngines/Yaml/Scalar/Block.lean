import AnalysisEngines.Yaml.Cursor

/-!
Block scalars: indented lines, taken literally or folded.

The header may give the indentation, and what becomes of the line breaks at the end: one is
kept, or none, or all.
-/

set_option autoImplicit false

namespace AnalysisEngines.Yaml.Block

inductive Chomping where
  | strip
  | clip
  | keep
  deriving DecidableEq

structure Header where
  chomping : Chomping := .clip
  increment : Option Nat := none

def chomping? : Char → Option Chomping
  | '+' => some .keep
  | '-' => some .strip
  | _ => none

def increment (header : Header) (cursor : Cursor) : Except Fault (Header × Cursor) :=
  let c := cursor.next
  if c.isDigit then
    if c == '0' then .error .malformed
    else .ok ({ header with increment := some (c.toNat - '0'.toNat) }, cursor.step)
  else .ok (header, cursor)

/-- The two indicators in either order. -/
def indicators (cursor : Cursor) : Except Fault (Header × Cursor) := do
  let (header, cursor) ← match chomping? cursor.next with
    | some chomping => increment { chomping } cursor.step
    | none => do
        let (header, cursor) ← increment {} cursor
        match header.increment, chomping? cursor.next with
        | some _, some chomping => return ({ header with chomping }, cursor.step)
        | _, _ => return (header, cursor)
  if isSpaceOrBreakOrEnd cursor.next then return (header, cursor) else throw .malformed

/-- The blank lines at the start, and the widest column of spaces in them. -/
def leading : Nat → Cursor → Nat → List Char × Nat × Cursor
  | 0, cursor, widest => ([], widest, cursor)
  | fuel + 1, cursor, widest =>
      if cursor.next == ' ' then
        let cursor := cursor.step
        leading fuel cursor (max widest cursor.column)
      else if isLineBreak cursor.next then
        let (first, cursor) := cursor.lineBreak
        let (more, widest, cursor) := leading fuel cursor widest
        (first ++ more, widest, cursor)
      else ([], widest, cursor)

/-- Line breaks, and the indentation behind them. -/
def breaks (indent : Nat) : Nat → Cursor → List Char × Cursor
  | 0, cursor => ([], cursor)
  | fuel + 1, cursor =>
      let cursor := cursor.skipSpacesTo indent
      if isLineBreak cursor.next then
        let (first, cursor) := cursor.lineBreak
        let (more, cursor) := breaks indent fuel cursor
        (first ++ more, cursor)
      else ([], cursor)

def chomp (chomping : Chomping) (last more : List Char) : List Char :=
  match chomping with
  | .strip => []
  | .clip => last
  | .keep => last ++ more

/-- The lines from the first indented one on; `before` holds the breaks in front of it. -/
def body (folded : Bool) (chomping : Chomping) (indent : Nat) :
    Nat → Cursor → List Char → List Char × Cursor
  | 0, cursor, _ => ([], cursor)
  | fuel + 1, cursor, before =>
      let flush := !isTabOrSpace cursor.next
      let (text, cursor) := cursor.span fun c => !isLineBreak c
      let (last, cursor) := cursor.lineBreak
      let (more, cursor) := breaks indent fuel cursor
      if cursor.column = indent ∧ !isEnd cursor.next then
        let joint :=
          if folded && last == ['\n'] && flush && !isTabOrSpace cursor.next then
            (if more.isEmpty then [' '] else [])
          else last
        let (tail, cursor) := body folded chomping indent fuel cursor more
        (before ++ text ++ joint ++ tail, cursor)
      else (before ++ text ++ chomp chomping last more, cursor)

/-- A scalar from its indicator on, inside a block of the given indentation. -/
def scalar (fuel : Nat) (parent : Int) (cursor : Cursor) : Except Fault (String × Cursor) := do
  let folded := cursor.next == '>'
  let (header, cursor) ← indicators cursor.step
  let cursor ← cursor.skipBlankLineEnd
  let least := max 1 (parent + 1).toNat
  let (before, indent, cursor) := match header.increment with
    | none =>
        let (before, widest, cursor) := leading fuel cursor 0
        (before, max least widest, cursor)
    | some increment =>
        let indent := least + increment - 1
        let (before, cursor) := breaks indent fuel cursor
        (before, indent, cursor)
  let (text, cursor) :=
    if cursor.column = indent ∧ !isEnd cursor.next then
      body folded header.chomping indent fuel cursor before
    else (chomp header.chomping [] before, cursor)
  return (String.ofList text, cursor)

end AnalysisEngines.Yaml.Block
