import AnalysisEngines.Text.Blank
import AnalysisEngines.Text.LetterCase
import AnalysisEngines.Value.Display

/-!
Checked fields of records: what a field expects, and what is wrong with a value that it is given.

A field takes what clearly stands for a value of its kind: numbers and truth values may be given
as text.  Each fault has a place, so that all faults of a record are found at once.
-/

set_option autoImplicit false

namespace AnalysisEngines.Validation

inductive Issue where
  | missing
  | notText
  | emptyText
  | notAPath
  | notAMap
  | notATruthValue
  | unclearTruthValue
  | notANumber
  | unclearNumber
  | notAnInteger
  | unclearInteger
  | integerTooLong
  | fractional
  | notFinite
  | notAbove (limit : Nat)
  | below (limit : Nat)
  deriving DecidableEq

namespace Issue

def code : Issue → String
  | .missing => "missing"
  | .notText => "string_type"
  | .emptyText => "string_too_short"
  | .notAPath => "path_type"
  | .notAMap => "dict_type"
  | .notATruthValue => "bool_type"
  | .unclearTruthValue => "bool_parsing"
  | .notANumber => "float_type"
  | .unclearNumber => "float_parsing"
  | .notAnInteger => "int_type"
  | .unclearInteger => "int_parsing"
  | .integerTooLong => "int_parsing_size"
  | .fractional => "int_from_float"
  | .notFinite => "finite_number"
  | .notAbove _ => "greater_than"
  | .below _ => "greater_than_equal"

def message : Issue → String
  | .missing => "Field required"
  | .notText => "Input should be a valid string"
  | .emptyText => "String should have at least 1 character"
  | .notAPath => "Input is not a valid path"
  | .notAMap => "Input should be a valid dictionary"
  | .notATruthValue => "Input should be a valid boolean"
  | .unclearTruthValue => "Input should be a valid boolean, unable to interpret input"
  | .notANumber => "Input should be a valid number"
  | .unclearNumber => "Input should be a valid number, unable to parse string as a number"
  | .notAnInteger => "Input should be a valid integer"
  | .unclearInteger => "Input should be a valid integer, unable to parse string as an integer"
  | .integerTooLong => "Unable to parse input string as an integer, exceeded maximum size"
  | .fractional => "Input should be a valid integer, got a number with a fractional part"
  | .notFinite => "Input should be a finite number"
  | .notAbove limit => "Input should be greater than " ++ toString limit
  | .below limit => "Input should be greater than or equal to " ++ toString limit

end Issue

/-- A fault of one field, or of one entry in it. -/
structure Problem where
  place : List Value
  issue : Issue

/-- A problem as one mapping. -/
def Problem.record (problem : Problem) : Value :=
  .textMap [("type", .text problem.issue.code), ("loc", .list problem.place),
    ("msg", .text problem.issue.message)]

abbrev Checked (α : Type) : Type := Except (List Problem) α

/-- Two checks; the faults of both count, the first ones first. -/
def both {α β : Type} (left : Checked α) (right : Checked β) : Checked (α × β) :=
  match left, right with
  | .ok first, .ok second => .ok (first, second)
  | .error faults, .ok _ => .error faults
  | .ok _, .error faults => .error faults
  | .error first, .error second => .error (first ++ second)

/-- Gives a checked function its next argument; the faults of both count. -/
def taking {α β : Type} (given : Checked α) (build : Checked (α → β)) : Checked β :=
  (both build given).map fun (build, value) => build value

def fault {α : Type} (field : String) (issue : Issue) : Checked α :=
  .error [⟨[.text field], issue⟩]

def text (field : String) : Value → Checked String
  | .text given => .ok given
  | _ => fault field .notText

def nonEmptyText (field : String) (given : Value) : Checked String :=
  match text field given with
  | .ok "" => fault field .emptyText
  | other => other

def optionalText (field : String) : Value → Checked (Option String)
  | .null => .ok none
  | given => (text field given).map some

def path (field : String) : Value → Checked String
  | .text given => .ok given
  | _ => fault field .notAPath

def trueWords : List String := ["1", "on", "t", "true", "y", "yes"]

def falseWords : List String := ["0", "off", "f", "false", "n", "no"]

def truthOf? (given : Rat) : Option Bool :=
  if given = 0 then some false else if given = 1 then some true else none

/-- Words in any letter case, zero and one. -/
def truth (field : String) : Value → Checked Bool
  | .bool given => .ok given
  | .text given =>
      let word := String.ofList (given.toList.map Char.toLower)
      if trueWords.contains word then .ok true
      else if falseWords.contains word then .ok false
      else fault field .unclearTruthValue
  | .number (.int given) =>
      match truthOf? given with
      | some truth => .ok truth
      | none => fault field .unclearTruthValue
  | .number (.float given) =>
      match given.toRat? with
      | none => fault field .notATruthValue
      | some value =>
          if value.den ≠ 1 then fault field .notATruthValue
          else match truthOf? value with
            | some truth => .ok truth
            | none => fault field .unclearTruthValue
  | _ => fault field .notATruthValue

def optionalTruth (field : String) : Value → Checked (Option Bool)
  | .null => .ok none
  | given => (truth field given).map some

/-- Single underscores inside a numeral count for nothing. -/
def groupedDigits? (given : List Char) : Option (List Char) :=
  let hasPair := (given.zip (given.drop 1)).any fun (left, right) => left == '_' && right == '_'
  if given.head? == some '_' || given.getLast? == some '_' || hasPair then none
  else some (given.filter (· != '_'))

def numberOf? (given : String) : Option Binary64 := do
  let trimmed := Text.strip given
  let plain ← groupedDigits? trimmed.toList
  Binary64.ofText? (String.ofList plain)

def number (field : String) : Value → Checked Binary64
  | .number given =>
      match given.toBinary64? with
      | some value => .ok value
      | none => fault field .notANumber
  | .bool given => .ok (.finite (if given then 1 else 0))
  | .text given =>
      match numberOf? given with
      | some value => .ok value
      | none => fault field .unclearNumber
  | _ => fault field .notANumber

/-- The longest numeral of an integer. -/
def integerLength : Nat := 4300

/-- A whole numeral; zeros may stand behind a point. -/
def integerOf? (given : String) : Option (Except Issue Int) := do
  let (negative, body) := Numeral.sign (Text.stripChars Text.isBlank given.toList)
  let (whole, fraction) := body.span (· != '.')
  let digits ← groupedDigits? whole
  if digits.isEmpty || !digits.all Numeral.isDigit || !(fraction.drop 1).all (· == '0') then none
  let size : Int := Numeral.natOfDigits digits
  return if integerLength < (digits.dropWhile (· == '0')).length then .error .integerTooLong
    else .ok (if negative then -size else size)

def integer (field : String) : Value → Checked Int
  | .number (.int given) => .ok given
  | .bool given => .ok (if given then 1 else 0)
  | .number (.float given) =>
      match given.toRat? with
      | none => fault field .notFinite
      | some value => if value.den = 1 then .ok value.num else fault field .fractional
  | .text given =>
      match integerOf? given with
      | none => fault field .unclearInteger
      | some (.ok value) => .ok value
      | some (.error issue) => fault field issue
  | _ => fault field .notAnInteger

def above (field : String) (limit : Nat) (given : Checked Number) : Checked Number := do
  let number ← given
  if Number.int limit < number then return number else fault field (.notAbove limit)

def atLeast (field : String) (limit : Nat) (given : Checked Number) : Checked Number := do
  let number ← given
  if Number.int limit ≤ number then return number else fault field (.below limit)

/-- How a key shows in the place of a fault. -/
def keyPlace : Value → Value
  | .text key => .text key
  | .number (.int key) => .int key
  | .bool key => .int (if key then 1 else 0)
  | other => .text other.quoted

/-- A mapping from texts to texts. -/
def textMap (field : String) : Value → Checked (List (String × String))
  | .map entries =>
      entries.foldr (fun entry known =>
        let key : Checked String := match entry.1 with
          | .text key => .ok key
          | other => .error [⟨[.text field, keyPlace other, .text "[key]"], .notText⟩]
        let value : Checked String := match entry.2 with
          | .text value => .ok value
          | _ => .error [⟨[.text field, keyPlace entry.1], .notText⟩]
        (both (both key value) known).map fun (first, rest) => first :: rest) (.ok [])
  | _ => fault field .notAMap

end AnalysisEngines.Validation
