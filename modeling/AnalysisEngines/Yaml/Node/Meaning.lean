import AnalysisEngines.Yaml.Node.Scalar

/-!
The value of a node.

Values are found level by level, from the root down: of several faults, the one that is nearest to
the root counts, and of those on one level the first.  `Meaning` therefore holds the first fault
of each level beside the value.
-/

set_option autoImplicit false

namespace AnalysisEngines.Yaml

structure Meaning where
  value : Value
  /-- The first fault of each level, from the node itself down. -/
  faults : List (Option Fault) := []

namespace Meaning

/-- The first fault of each level of two neighbours. -/
def besides : List (Option Fault) → List (Option Fault) → List (Option Fault)
  | [], right => right
  | left, [] => left
  | first :: lefts, second :: rights => first.or second :: besides lefts rights

def ofExcept : Except Fault Value → Meaning
  | .ok value => { value }
  | .error fault => { value := .null, faults := [some fault] }

def malformed : Meaning := ofExcept (.error .malformed)

/-- Puts what a node holds one level below it. -/
def below (value : Value) (faults : List (Option Fault)) : Meaning :=
  { value, faults := none :: faults }

def firstFault? (meaning : Meaning) : Option Fault := meaning.faults.findSome? id

def toExcept (meaning : Meaning) : Except Fault Value :=
  match meaning.firstFault? with
  | some fault => .error fault
  | none => .ok meaning.value

end Meaning

/-- What a node means where it stands, and what it contributes to nodes around it. -/
structure Understanding where
  meaning : Meaning
  /-- The entries of a mapping, with those that it takes over in front of its own. -/
  entries : Option (List (Meaning × Meaning)) := none
  /-- What a mapping or a list of mappings gives away. -/
  given : Option (List (Meaning × Meaning)) := none
  /-- The only entry of a mapping that takes over nothing. -/
  single : Option (Meaning × Meaning) := none

namespace Node

mutual

/-- The text of a node that is tagged as a scalar.  A mapping stands for the value of its `=`
key. -/
def scalarText? : Node → Option String
  | .scalar _ text => some text
  | .list .. => none
  | .map _ entries => entriesText? entries

def entriesText? : List (Node × Node) → Option String
  | [] => none
  | (key, value) :: rest => if key.tag = .value then scalarText? value else entriesText? rest

end

/-- A scalar under a tag; a tag for collections is looked at one level below. -/
def scalarMeaning (tag : Tag) (text : Option String) : Meaning :=
  match tag, text with
  | .list, _ | .map, _ | .set, _ | .orderedMap, _ | .pairs, _ => .below .null [some .malformed]
  | _, some text => .ofExcept (Scalar.value tag text)
  | _, none => .malformed

/-- A key has to be comparable. -/
def keyFaults (key : Meaning) : List (Option Fault) :=
  Meaning.besides (key.faults.take 1)
    (if key.value.isKey then [] else [some .malformed])

def entryFaults (entries : List (Meaning × Meaning)) : List (Option Fault) :=
  entries.foldr (fun entry known =>
    Meaning.besides (keyFaults entry.1) (Meaning.besides entry.2.faults known)) []

def mapMeaning (tag : Tag) (entries : Option (List (Meaning × Meaning))) : Meaning :=
  match entries with
  | none => .below .null [some .malformed]
  | some entries =>
      let values := Value.mapOfList (entries.map fun entry => (entry.1.value, entry.2.value))
      .below (match tag, values with
        | .set, .map known => .set (known.map (·.1))
        | _, _ => values) (entryFaults entries)

def pairFaults : List Understanding → List (Option Fault)
  | [] => []
  | item :: rest =>
      match item.single with
      | some (key, value) =>
          Meaning.besides key.faults (Meaning.besides value.faults (pairFaults rest))
      | none => [some .malformed]

def listMeaning (tag : Tag) (items : List Understanding) : Meaning :=
  match tag with
  | .list =>
      .below (.list (items.map (·.meaning.value)))
        (items.foldr (fun item known => Meaning.besides item.meaning.faults known) [])
  | .orderedMap | .pairs =>
      .below (.list (items.filterMap fun item =>
          item.single.map fun (key, value) => .pair key.value value.value))
        (pairFaults items)
  | other => scalarMeaning other none

/-- One entry as it was read. -/
structure ReadEntry where
  keyTag : Tag
  /-- The key as text, if its tag makes it stand for its mapping. -/
  keyText : Meaning
  key : Understanding
  value : Understanding

/-- Entries taken over and own entries, both in order. -/
def mergedEntries : List ReadEntry → Option (List (Meaning × Meaning) × List (Meaning × Meaning))
  | [] => some ([], [])
  | entry :: rest => do
      let (taken, own) ← mergedEntries rest
      if entry.keyTag = .merge then return ((← entry.value.given) ++ taken, own)
      else
        let key := if entry.keyTag = .value then entry.keyText else entry.key.meaning
        return (taken, (key, entry.value.meaning) :: own)

/-- The first of several mappings comes last, so that it counts. -/
def givenByItems : List Understanding → Option (List (Meaning × Meaning))
  | [] => some []
  | item :: rest => do return (← givenByItems rest) ++ (← item.entries)

mutual

def understand : Node → Understanding
  | .scalar tag text => { meaning := scalarMeaning tag (some text) }
  | .list tag items =>
      let items := understandItems items
      { meaning := listMeaning tag items, given := givenByItems items }
  | .map tag contents =>
      let read := understandEntries contents
      let entries := (mergedEntries read).map fun (taken, own) => taken ++ own
      let meaning := match tag with
        | .map | .set => mapMeaning tag entries
        | other => scalarMeaning other (entriesText? contents)
      { meaning, entries, given := entries
        single := match read with
          | [entry] => some (entry.key.meaning, entry.value.meaning)
          | _ => none }

def understandItems : List Node → List Understanding
  | [] => []
  | item :: rest => understand item :: understandItems rest

def understandEntries : List (Node × Node) → List ReadEntry
  | [] => []
  | (key, value) :: rest =>
      { keyTag := key.tag
        keyText := scalarMeaning .text (scalarText? key)
        key := understand key
        value := understand value } :: understandEntries rest

end

def value (node : Node) : Except Fault Value := (understand node).meaning.toExcept

end Node

end AnalysisEngines.Yaml
