import AnalysisEngines.Text.Utf8
import AnalysisEngines.Yaml.Cursor
import AnalysisEngines.Yaml.Token.Basic

/-!
Directives, anchors, references and tags: tokens that are read from one place, whatever the
indentation is.
-/

set_option autoImplicit false

namespace AnalysisEngines.Yaml.Mark

def isUriChar (c : Char) : Bool :=
  c.isAlphanum || "-;/?:@&=+$,_.!~*'()[]".toList.contains c

def closesAnchor (c : Char) : Bool :=
  isGap c || "?:,]\x7d%@".toList.contains c || c == Char.ofNat 0x60

/-- Bytes that are written as hexadecimal digits behind percent signs. -/
def escapedBytes : Nat → Cursor → Except Fault (Bytes × Cursor)
  | 0, cursor => .ok ([], cursor)
  | fuel + 1, cursor =>
      if cursor.next == '%' then do
        let digits := cursor.step.rest.take 2
        if digits.length < 2 || !digits.all isHexDigit then throw .malformed
        let (more, cursor) ← escapedBytes fuel (cursor.skip 3)
        return (UInt8.ofNat (ofHexDigits digits) :: more, cursor)
      else .ok ([], cursor)

def uriParts : Nat → Cursor → Except Fault (String × Cursor)
  | 0, cursor => .ok ("", cursor)
  | fuel + 1, cursor =>
      let (run, cursor) := cursor.span isUriChar
      if cursor.next == '%' then do
        let (bytes, cursor) ← escapedBytes fuel cursor
        match Utf8.decode bytes with
        | .error _ => throw .malformed
        | .ok text =>
            let (more, cursor) ← uriParts fuel cursor
            return (String.ofList run ++ text ++ more, cursor)
      else .ok (String.ofList run, cursor)

def uri (fuel : Nat) (cursor : Cursor) : Except Fault (String × Cursor) :=
  if isUriChar cursor.next || cursor.next == '%' then uriParts fuel cursor
  else .error .malformed

/-- A name between exclamation marks; a space may follow the first one. -/
def handle (cursor : Cursor) : Except Fault (String × Cursor) :=
  if cursor.next != '!' then .error .malformed
  else if cursor.ahead 1 == ' ' then .ok ("!", cursor.step)
  else
    let (name, after) := cursor.step.span isNameChar
    if after.next == '!' then .ok ("!" ++ String.ofList name ++ "!", after.step)
    else .error .malformed

/-- Whether another exclamation mark comes before the next space. -/
def hasHandle (cursor : Cursor) : Bool :=
  let word := cursor.step.rest.takeWhile fun c => !isSpaceOrBreakOrEnd c
  word.contains '!'

def tag (fuel : Nat) (cursor : Cursor) : Except Fault (Token × Cursor) := do
  let second := cursor.ahead 1
  let (token, cursor) ←
    if second == '<' then do
      let (suffix, cursor) ← uri fuel (cursor.skip 2)
      if cursor.next != '>' then throw .malformed
      pure (Token.tag none suffix, cursor.step)
    else if isGap second then pure (Token.tag none "!", cursor.step)
    else do
      let (name, cursor) ← if hasHandle cursor then handle cursor else pure ("!", cursor.step)
      let (suffix, cursor) ← uri fuel cursor
      pure (Token.tag (some name) suffix, cursor)
  if isSpaceOrBreakOrEnd cursor.next then return (token, cursor) else throw .malformed

/-- The name behind the sign of an anchor or a reference. -/
def anchorName (cursor : Cursor) : Except Fault (String × Cursor) :=
  let (name, cursor) := cursor.step.span isNameChar
  if name.isEmpty || !closesAnchor cursor.next then .error .malformed
  else .ok (String.ofList name, cursor)

def natural (cursor : Cursor) : Except Fault (Nat × Cursor) :=
  let (digits, cursor) := cursor.span Char.isDigit
  if digits.isEmpty then .error .malformed
  else .ok (digits.foldl (fun total c => total * 10 + (c.toNat - '0'.toNat)) 0, cursor)

def version (cursor : Cursor) : Except Fault (Directive × Cursor) := do
  let (major, cursor) ← natural cursor.skipSpaces
  if cursor.next != '.' then throw .malformed
  let (minor, cursor) ← natural cursor.step
  if isSpaceOrBreakOrEnd cursor.next then return (.version major minor, cursor)
  else throw .malformed

def handleExpansion (fuel : Nat) (cursor : Cursor) : Except Fault (Directive × Cursor) := do
  let (name, cursor) ← handle cursor.skipSpaces
  if cursor.next != ' ' then throw .malformed
  let (expansion, cursor) ← uri fuel cursor.skipSpaces
  if isSpaceOrBreakOrEnd cursor.next then return (.handle name expansion, cursor)
  else throw .malformed

/-- A directive up to the end of its line. -/
def directive (fuel : Nat) (cursor : Cursor) : Except Fault (Token × Cursor) := do
  let (name, cursor) := cursor.step.span isNameChar
  if name.isEmpty || !isSpaceOrBreakOrEnd cursor.next then throw .malformed
  let (content, cursor) ←
    if name == "YAML".toList then version cursor
    else if name == "TAG".toList then handleExpansion fuel cursor
    else pure (Directive.reserved, cursor.skipWhile fun c => !isLineBreak c)
  let cursor ← cursor.skipBlankLineEnd
  return (.directive content, cursor)

end AnalysisEngines.Yaml.Mark
