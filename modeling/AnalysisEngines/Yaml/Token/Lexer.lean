import AnalysisEngines.Yaml.Scalar.Block
import AnalysisEngines.Yaml.Scalar.Plain
import AnalysisEngines.Yaml.Scalar.Quoted
import AnalysisEngines.Yaml.Token.Mark

/-!
From text to tokens.

What may turn out to be the key of a mapping is remembered until a colon follows it on the same
line, at most `keyReach` characters on; the token that announces it is then put in front of it.
-/

set_option autoImplicit false

namespace AnalysisEngines.Yaml

/-- A place where a key may have started. -/
structure PossibleKey where
  /-- How many tokens come before it. -/
  position : Nat
  /-- Whether nothing but a key can stand there. -/
  required : Bool
  index : Nat
  line : Nat
  column : Nat

structure Lexer where
  cursor : Cursor
  /-- Bounds the characters that one token can take. -/
  fuel : Nat
  tokens : Array Token := #[]
  /-- The column of the innermost block; none is open at minus one. -/
  indent : Int := -1
  outerIndents : List Int := []
  keyAllowed : Bool := true
  /-- The possible key inside the innermost brackets. -/
  possible : Option PossibleKey := none
  /-- Those of the brackets around, innermost first. -/
  outerPossible : List (Option PossibleKey) := []

namespace Lexer

def keyReach : Nat := 1024

def bracketed (lexer : Lexer) : Bool := !lexer.outerPossible.isEmpty

def emit (token : Token) (lexer : Lexer) : Lexer :=
  { lexer with tokens := lexer.tokens.push token }

def isStale (cursor : Cursor) (key : PossibleKey) : Bool :=
  key.line != cursor.line || keyReach < cursor.index - key.index

/-- Forgets the possible keys that are out of reach. -/
def dropStale (lexer : Lexer) : Except Fault Lexer :=
  let stale := isStale lexer.cursor
  let lost (key : Option PossibleKey) : Bool := key.any fun key => stale key && key.required
  if lost lexer.possible || lexer.outerPossible.any lost then .error .malformed
  else
    let fresh (key : Option PossibleKey) : Option PossibleKey := key.filter fun key => !stale key
    .ok { lexer with
      possible := fresh lexer.possible
      outerPossible := lexer.outerPossible.map fresh }

def dropKey (lexer : Lexer) : Except Fault Lexer :=
  if lexer.possible.any (·.required) then .error .malformed
  else .ok { lexer with possible := none }

/-- Remembers the place as a possible key. -/
def rememberKey (lexer : Lexer) : Except Fault Lexer :=
  if lexer.keyAllowed then do
    let lexer ← lexer.dropKey
    return { lexer with
      possible := some
        { position := lexer.tokens.size
          required := !lexer.bracketed && lexer.indent == lexer.cursor.column
          index := lexer.cursor.index
          line := lexer.cursor.line
          column := lexer.cursor.column } }
  else .ok lexer

/-- Closes the blocks that start to the right of a column. -/
def closeBlocks (column : Int) (lexer : Lexer) : Lexer :=
  if lexer.bracketed then lexer
  else go lexer.outerIndents lexer
where
  go : List Int → Lexer → Lexer
    | [], lexer => lexer
    | outer :: rest, lexer =>
        if column < lexer.indent then
          go rest { lexer.emit .blockEnd with indent := outer, outerIndents := rest }
        else lexer

/-- Whether a block that starts at a column is a new one. -/
def opensBlock (column : Nat) (lexer : Lexer) : Bool := lexer.indent < (column : Int)

def openBlock (column : Nat) (lexer : Lexer) : Lexer :=
  { lexer with indent := column, outerIndents := lexer.indent :: lexer.outerIndents }

/-- Skips spaces, comments and line breaks.  Outside brackets a new line may start with a key. -/
def skipToToken : Nat → Lexer → Lexer
  | 0, lexer => lexer
  | fuel + 1, lexer =>
      let cursor := lexer.cursor.skipSpaces.skipComment
      if isLineBreak cursor.next then
        skipToToken fuel { lexer with
          cursor := cursor.lineBreak.2
          keyAllowed := lexer.keyAllowed || !lexer.bracketed }
      else { lexer with cursor }

def skipByteOrderMark (lexer : Lexer) : Lexer :=
  if lexer.cursor.index = 0 ∧ lexer.cursor.next = byteOrderMark then
    { lexer with cursor := lexer.cursor.step }
  else lexer

def textEnd (lexer : Lexer) : Except Fault Lexer := do
  let lexer ← (lexer.closeBlocks (-1)).dropKey
  return lexer.emit .textEnd

/-- A token that belongs to no block. -/
def outside (lexer : Lexer) (read : Cursor → Except Fault (Token × Cursor)) :
    Except Fault Lexer := do
  let lexer ← (lexer.closeBlocks (-1)).dropKey
  let (token, cursor) ← read lexer.cursor
  return { lexer.emit token with cursor, keyAllowed := false }

def openBrackets (token : Token) (lexer : Lexer) : Except Fault Lexer := do
  let lexer ← lexer.rememberKey
  return { lexer.emit token with
    cursor := lexer.cursor.step
    keyAllowed := true
    possible := none
    outerPossible := lexer.possible :: lexer.outerPossible }

def closeBrackets (token : Token) (lexer : Lexer) : Except Fault Lexer := do
  let lexer ← lexer.dropKey
  match lexer.outerPossible with
  | [] => throw .malformed
  | possible :: outerPossible =>
      return { lexer.emit token with
        cursor := lexer.cursor.step, keyAllowed := false, possible, outerPossible }

def flowEntry (lexer : Lexer) : Except Fault Lexer := do
  let lexer ← lexer.dropKey
  return { lexer.emit .flowEntry with cursor := lexer.cursor.step, keyAllowed := true }

/-- Opens a block for a mark at a column, outside brackets and where marks are allowed. -/
def startMark (start : Token) (lexer : Lexer) : Except Fault Lexer :=
  if lexer.bracketed then .ok lexer
  else if !lexer.keyAllowed then .error .malformed
  else
    let column := lexer.cursor.column
    if lexer.opensBlock column then .ok ((lexer.openBlock column).emit start) else .ok lexer

def blockEntry (lexer : Lexer) : Except Fault Lexer := do
  let lexer ← (← lexer.startMark .blockListStart).dropKey
  return { lexer.emit .blockEntry with cursor := lexer.cursor.step, keyAllowed := true }

def announcedKey (lexer : Lexer) : Except Fault Lexer := do
  let lexer ← (← lexer.startMark .blockMapStart).dropKey
  return { lexer.emit .key with
    cursor := lexer.cursor.step, keyAllowed := !lexer.bracketed }

/-- A colon: it makes the possible key a key, and else belongs to an announced or an absent one. -/
def value (lexer : Lexer) : Except Fault Lexer :=
  match lexer.possible with
  | some key =>
      let lexer := { lexer with possible := none, keyAllowed := false }
      let opened : Bool := !lexer.bracketed && lexer.opensBlock key.column
      let inner := if opened then lexer.openBlock key.column else lexer
      let announced := if opened then #[Token.blockMapStart, .key] else #[.key]
      let tokens := lexer.tokens.extract 0 key.position ++ announced ++
        lexer.tokens.extract key.position lexer.tokens.size
      .ok { inner with tokens := tokens.push .value, cursor := lexer.cursor.step }
  | none => do
      let lexer ← lexer.startMark .blockMapStart
      return { lexer.emit .value with
        cursor := lexer.cursor.step, keyAllowed := !lexer.bracketed }

/-- A token that may start a key. -/
def node (lexer : Lexer) (read : Cursor → Except Fault (Token × Cursor)) :
    Except Fault Lexer := do
  let lexer ← lexer.rememberKey
  let (token, cursor) ← read lexer.cursor
  return { lexer.emit token with cursor, keyAllowed := false }

def plain (lexer : Lexer) : Except Fault Lexer := do
  let lexer ← lexer.rememberKey
  let (text, broken, cursor) :=
    Plain.words lexer.bracketed (lexer.indent + 1) lexer.fuel lexer.cursor [] false
  return { lexer.emit (.scalar (String.ofList text) true) with cursor, keyAllowed := broken }

def block (lexer : Lexer) : Except Fault Lexer := do
  let lexer ← lexer.dropKey
  let (text, cursor) ← Block.scalar lexer.fuel lexer.indent lexer.cursor
  return { lexer.emit (.scalar text false) with cursor, keyAllowed := true }

/-- Adds the next token, and those that indentation and keys put around it. -/
def next (lexer : Lexer) : Except Fault Lexer := do
  let lexer ← (lexer.skipByteOrderMark.skipToToken lexer.fuel).dropStale
  let lexer := lexer.closeBlocks lexer.cursor.column
  let fuel := lexer.fuel
  let cursor := lexer.cursor
  let c := cursor.next
  let atMargin : Bool := cursor.column == 0
  let gapFollows := isGap (cursor.ahead 1)
  if isEnd c then lexer.textEnd
  else if c == '%' && atMargin then lexer.outside (Mark.directive fuel)
  else if atMargin && cursor.showsMark '-' then
    lexer.outside fun cursor => .ok (.documentStart, cursor.skip 3)
  else if atMargin && cursor.showsMark '.' then
    lexer.outside fun cursor => .ok (.documentEnd, cursor.skip 3)
  else if c == '[' then lexer.openBrackets .flowListStart
  else if c == '\x7b' then lexer.openBrackets .flowMapStart
  else if c == ']' then lexer.closeBrackets .flowListEnd
  else if c == '\x7d' then lexer.closeBrackets .flowMapEnd
  else if c == ',' then lexer.flowEntry
  else if c == '-' && gapFollows then lexer.blockEntry
  else if c == '?' && (lexer.bracketed || gapFollows) then lexer.announcedKey
  else if c == ':' && (lexer.bracketed || gapFollows) then lexer.value
  else if c == '*' then
    lexer.node fun cursor => (Mark.anchorName cursor).map fun found =>
      (.reference found.1, found.2)
  else if c == '&' then
    lexer.node fun cursor => (Mark.anchorName cursor).map fun found =>
      (.anchor found.1, found.2)
  else if c == '!' then lexer.node (Mark.tag fuel)
  else if (c == '|' || c == '>') && !lexer.bracketed then lexer.block
  else if c == '\'' || c == '"' then
    lexer.node fun cursor => (Quoted.scalar fuel cursor).map fun found =>
      (.scalar found.1 false, found.2)
  else if Plain.startsAt lexer.bracketed cursor then lexer.plain
  else throw .malformed

/-- The tokens up to the end of the text, or up to a fault. -/
def run : Nat → Lexer → Array Token × Option Fault
  | 0, lexer => (lexer.tokens, some .malformed)
  | fuel + 1, lexer =>
      match lexer.next with
      | .error fault => (lexer.tokens, some fault)
      | .ok after =>
          if after.tokens.back? = some .textEnd then (after.tokens, none) else run fuel after

def tokens? (text : List Char) : Array Token × Option Fault :=
  let size := text.length + 2
  run size { cursor := { rest := text }, fuel := size }

end Lexer

end AnalysisEngines.Yaml
