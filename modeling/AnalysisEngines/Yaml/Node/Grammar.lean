import AnalysisEngines.Yaml.Node.Implicit
import AnalysisEngines.Yaml.Token.Lexer

/-!
The grammar of documents: from tokens to the one node that a text holds.

A reference stands for the node with its anchor.  Inside that node itself it stands for nothing.
-/

set_option autoImplicit false

namespace AnalysisEngines.Yaml

structure Reading where
  tokens : List Token
  /-- Why there are no tokens behind the last one. -/
  ended : Fault
  /-- Nodes by anchor; those that are still being read have none. -/
  anchors : List (String × Option Node) := []
  handles : List (String × String) := []

namespace Grammar

abbrev Parse : Type → Type := StateT Reading (Except Fault)

def peek : Parse Token := do
  let reading ← get
  match reading.tokens with
  | token :: _ => return token
  | [] => throw reading.ended

def advance : Parse Unit :=
  modify fun reading => { reading with tokens := reading.tokens.drop 1 }

def malformed {α : Type} : Parse α := throw .malformed

/-- Takes a token if it is next. -/
def accept (token : Token) : Parse Bool := do
  if (← peek) = token then
    advance
    return true
  else return false

def expect (token : Token) : Parse Unit := do
  if !(← accept token) then malformed

def nextIsAny (tokens : List Token) : Parse Bool := do
  return tokens.contains (← peek)

/-- The handles that every document knows. -/
def standardHandles : List (String × String) := [("!", "!"), ("!!", Tag.commonStart)]

inductive WrittenTag where
  | absent
  /-- An exclamation mark alone: the node means what it looks like. -/
  | unspecific
  | given (tag : Tag)

def writtenTag (handle : Option String) (suffix : String) : Parse WrittenTag := do
  let uri ← match handle with
    | none => pure suffix
    | some name =>
        match (← get).handles.find? fun known => known.1 == name with
        | some (_, expansion) => pure (expansion ++ suffix)
        | none => malformed
  return if uri = "!" then .unspecific else .given (.ofUri uri)

structure Properties where
  anchor : Option String := none
  tag : WrittenTag := .absent

/-- An anchor and a tag in either order; what comes first of them is looked up last. -/
def properties : Parse Properties := do
  let readAnchor : Parse (Option String) := do
    match ← peek with
    | .anchor name => advance; return some name
    | _ => return none
  let readTag : Parse (Option (Option String × String)) := do
    match ← peek with
    | .tag handle suffix => advance; return some (handle, suffix)
    | _ => return none
  let before ← readAnchor
  let written ← readTag
  let anchor ← match before, written with
    | none, some _ => readAnchor
    | _, _ => pure before
  let tag ← match written with
    | some (handle, suffix) => writtenTag handle suffix
    | none => pure .absent
  return { anchor, tag }

def scalarTag (tag : WrittenTag) (text : String) (isPlain : Bool) : Tag :=
  match tag with
  | .given tag => tag
  | .unspecific => .ofPlain text
  | .absent => if isPlain then .ofPlain text else .text

def listTag : WrittenTag → Tag
  | .given tag => tag
  | _ => .list

def mapTag : WrittenTag → Tag
  | .given tag => tag
  | _ => .map

/-- An anchor names one node only. -/
def openAnchor : Option String → Parse Unit
  | none => pure ()
  | some name => do
      if (← get).anchors.any fun known => known.1 == name then malformed
      modify fun reading => { reading with anchors := (name, none) :: reading.anchors }

def closeAnchor (anchor : Option String) (node : Node) : Parse Node := do
  match anchor with
  | none => return node
  | some name =>
      modify fun reading => { reading with
        anchors := reading.anchors.map fun known =>
          if known.1 == name then (name, some node) else known }
      return node

def referent (name : String) : Parse Node := do
  match (← get).anchors.find? fun known => known.1 == name with
  | some (_, some node) => return node
  | some (_, none) => return .empty
  | none => malformed

mutual

/-- A node.  Block lists and block mappings may be ruled out, and a list may be allowed whose
entries stand in the column of the key before it. -/
def node (block unindented : Bool) : Nat → Parse Node
  | 0 => malformed
  | fuel + 1 => do
      match ← peek with
      | .reference name =>
          advance
          referent name
      | _ =>
          let properties ← properties
          openAnchor properties.anchor
          let built ← content block unindented properties fuel
          closeAnchor properties.anchor built

def content (block unindented : Bool) (properties : Properties) : Nat → Parse Node
  | 0 => malformed
  | fuel + 1 => do
      match ← peek with
      | .blockEntry =>
          if unindented then
            return .list (listTag properties.tag) (← unindentedItems fuel)
          else absent properties
      | .scalar text isPlain =>
          advance
          return .scalar (scalarTag properties.tag text isPlain) text
      | .flowListStart =>
          advance
          return .list (listTag properties.tag) (← flowItems true fuel)
      | .flowMapStart =>
          advance
          return .map (mapTag properties.tag) (← flowEntries true fuel)
      | .blockListStart =>
          if block then
            advance
            return .list (listTag properties.tag) (← blockItems fuel)
          else absent properties
      | .blockMapStart =>
          if block then
            advance
            return .map (mapTag properties.tag) (← blockEntries fuel)
          else absent properties
      | _ => absent properties

/-- No content is an empty scalar, if it has an anchor or a tag. -/
def absent (properties : Properties) : Parse Node :=
  match properties.anchor, properties.tag with
  | none, .absent => malformed
  | _, tag => return .scalar (scalarTag tag "" true) ""

def blockItems : Nat → Parse (List Node)
  | 0 => malformed
  | fuel + 1 => do
      if ← accept .blockEntry then
        let item ← if ← nextIsAny [.blockEntry, .blockEnd] then pure Node.empty
          else node true false fuel
        return item :: (← blockItems fuel)
      else
        expect .blockEnd
        return []

def unindentedItems : Nat → Parse (List Node)
  | 0 => malformed
  | fuel + 1 => do
      if ← accept .blockEntry then
        let item ← if ← nextIsAny [.blockEntry, .key, .value, .blockEnd] then pure Node.empty
          else node true false fuel
        return item :: (← unindentedItems fuel)
      else return []

/-- Keys and values may both be missing, but a value without a mark may not. -/
def blockEntries : Nat → Parse (List (Node × Node))
  | 0 => malformed
  | fuel + 1 => do
      if ← accept .key then
        let key ← blockPart fuel
        let value ← if ← accept .value then blockPart fuel else pure Node.empty
        return (key, value) :: (← blockEntries fuel)
      else if ← accept .blockEnd then return []
      else malformed

def blockPart : Nat → Parse Node
  | 0 => malformed
  | fuel + 1 => do
      if ← nextIsAny [.key, .value, .blockEnd] then return .empty else node true true fuel

def flowItems (first : Bool) : Nat → Parse (List Node)
  | 0 => malformed
  | fuel + 1 => do
      if ← accept .flowListEnd then return []
      else
        if !first then expect .flowEntry
        if ← accept .key then
          let key ← flowPart [.value, .flowEntry, .flowListEnd] fuel
          let value ← if ← accept .value then flowPart [.flowEntry, .flowListEnd] fuel
            else pure Node.empty
          return .map .map [(key, value)] :: (← flowItems false fuel)
        else if ← accept .flowListEnd then return []
        else
          let item ← node false false fuel
          return item :: (← flowItems false fuel)

def flowEntries (first : Bool) : Nat → Parse (List (Node × Node))
  | 0 => malformed
  | fuel + 1 => do
      if ← accept .flowMapEnd then return []
      else
        if !first then expect .flowEntry
        if ← accept .key then
          let key ← flowPart [.value, .flowEntry, .flowMapEnd] fuel
          let value ← if ← accept .value then flowPart [.flowEntry, .flowMapEnd] fuel
            else pure Node.empty
          return (key, value) :: (← flowEntries false fuel)
        else if ← accept .flowMapEnd then return []
        else
          let key ← node false false fuel
          return (key, .empty) :: (← flowEntries false fuel)

/-- A node inside brackets that may be missing before some tokens. -/
def flowPart (closing : List Token) : Nat → Parse Node
  | 0 => malformed
  | fuel + 1 => do
      if ← nextIsAny closing then return .empty else node false false fuel

end

structure Prolog where
  version : Bool := false
  handles : List (String × String) := []

/-- Directives in front of a document: one version at most, and each handle once. -/
def prolog : Nat → Prolog → Parse Prolog
  | 0, _ => malformed
  | fuel + 1, known => do
      match ← peek with
      | .directive directive =>
          advance
          match directive with
          | .version major _ =>
              if known.version || major != 1 then malformed
              else prolog fuel { known with version := true }
          | .handle name expansion =>
              if known.handles.any fun handle => handle.1 == name then malformed
              else prolog fuel { known with handles := (name, expansion) :: known.handles }
          | .reserved => prolog fuel known
      | _ => return known

def skipDocumentEnds : Nat → Parse Unit
  | 0 => malformed
  | fuel + 1 => do
      if ← accept .documentEnd then skipDocumentEnds fuel

/-- The node of a document whose start is marked. -/
def markedDocument (fuel : Nat) : Parse Node := do
  let known ← prolog fuel {}
  modify fun reading => { reading with handles := known.handles ++ standardHandles }
  expect .documentStart
  match ← peek with
  | .directive _ | .documentStart | .documentEnd | .textEnd => return .empty
  | _ => node true false fuel

/-- The one document of a text, or nothing. -/
def document (fuel : Nat) : Parse (Option Node) := do
  let root ← match ← peek with
    | .textEnd => pure none
    | .directive _ | .documentStart => some <$> markedDocument fuel
    | _ =>
        modify fun reading => { reading with handles := standardHandles }
        some <$> node true false fuel
  skipDocumentEnds fuel
  expect .textEnd
  return root

end Grammar

/-- The node that a text holds, if it holds one. -/
def Node.ofText (text : List Char) : Except Fault (Option Node) :=
  let (tokens, fault) := Lexer.tokens? text
  let reading : Reading := { tokens := tokens.toList, ended := fault.getD .malformed }
  ((Grammar.document (3 * tokens.size + 8)).run reading).map (·.1)

end AnalysisEngines.Yaml
