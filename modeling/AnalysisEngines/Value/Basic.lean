import AnalysisEngines.Number.Basic
import AnalysisEngines.Text.Utf8

/-!
Values of configuration documents, log fields and metadata.

A mapping is a list of entries in order of first appearance.  Keys are compared by `sameKey`, by
which `true`, `1` and `1.0` are one key; `Value.assign` keeps the first key and the last value.
-/

set_option autoImplicit false

namespace AnalysisEngines

structure CalendarDate where
  year : Nat
  month : Nat
  day : Nat
  deriving DecidableEq

structure TimeOfDay where
  hour : Nat
  minute : Nat
  second : Nat
  microsecond : Nat
  deriving DecidableEq

inductive Value where
  | null
  | bool (value : Bool)
  | number (value : Number)
  | text (value : String)
  | bytes (value : Bytes)
  | date (day : CalendarDate)
  /-- A point in time; the offset from universal time in seconds, if one was given. -/
  | timestamp (day : CalendarDate) (time : TimeOfDay) (offset : Option Int)
  | list (items : List Value)
  | pair (left right : Value)
  | set (items : List Value)
  | map (entries : List (Value × Value))
  deriving Inhabited

namespace Value

def int (value : Int) : Value := .number (.int value)
def float (value : Binary64) : Value := .number (.float value)
def ofNat (value : Nat) : Value := .int value
def ofText? : Option String → Value
  | some value => .text value
  | none => .null

def textMap (entries : List (String × Value)) : Value :=
  .map (entries.map fun entry => (.text entry.1, entry.2))

def text? : Value → Option String
  | .text value => some value
  | _ => none

/-- Booleans count as the integers zero and one. -/
def number? : Value → Option Number
  | .bool value => some (.int (if value then 1 else 0))
  | .number value => some value
  | _ => none

mutual

/-- Structural sameness, with numbers and booleans compared by numerical value. -/
def same : Value → Value → Bool
  | .null, .null => true
  | .text left, .text right => left == right
  | .bytes left, .bytes right => left == right
  | .date left, .date right => left == right
  | .timestamp leftDay leftTime leftOffset, .timestamp rightDay rightTime rightOffset =>
      leftDay == rightDay && leftTime == rightTime && leftOffset == rightOffset
  | .list left, .list right => sameItems left right
  | .pair leftFirst leftSecond, .pair rightFirst rightSecond =>
      same leftFirst rightFirst && same leftSecond rightSecond
  | .set left, .set right => left.length == right.length && eachIn left right
  | .map left, .map right => left.length == right.length && eachEntryIn left right
  | .bool left, .bool right => left == right
  | .bool left, .number right =>
      (Number.int (if left then 1 else 0)).numericallyEqual right
  | .number left, .bool right =>
      left.numericallyEqual (Number.int (if right then 1 else 0))
  | .number left, .number right => left.numericallyEqual right
  | _, _ => false

def sameItems : List Value → List Value → Bool
  | [], [] => true
  | left :: lefts, right :: rights => same left right && sameItems lefts rights
  | _, _ => false

/-- Whether every item is among others, in any order. -/
def eachIn : List Value → List Value → Bool
  | [], _ => true
  | left :: lefts, others => others.any (fun other => same left other) && eachIn lefts others

def eachEntryIn : List (Value × Value) → List (Value × Value) → Bool
  | [], _ => true
  | (key, value) :: rest, others =>
      others.any (fun other => same key other.1 && same value other.2) &&
        eachEntryIn rest others

end

def sameKey (left right : Value) : Bool := same left right

/-- Only these may be keys of a mapping or members of a set. -/
def isKey : Value → Bool
  | .list _ | .set _ | .map _ => false
  | .pair left right => isKey left && isKey right
  | _ => true

/-- Gives a key a value: at its first place if it has one, else at the end. -/
def assign (key value : Value) : List (Value × Value) → List (Value × Value)
  | [] => [(key, value)]
  | (oldKey, old) :: rest =>
      if sameKey oldKey key then (oldKey, value) :: rest
      else (oldKey, old) :: assign key value rest

def mapOfList (entries : List (Value × Value)) : Value :=
  .map (entries.foldl (fun known entry => assign entry.1 entry.2 known) [])

def lookup (name : String) (entries : List (Value × Value)) : Option Value :=
  (entries.find? fun entry => sameKey entry.1 (.text name)).map (·.2)

/-- The value of a name; an absent one counts as `null`. -/
def member (name : String) (entries : List (Value × Value)) : Value :=
  (lookup name entries).getD .null

def get? (name : String) : Value → Option Value
  | .map entries => lookup name entries
  | _ => none

/-- Whether a value counts as given: nothing, no, zero and everything empty do not. -/
def isGiven : Value → Bool
  | .null => false
  | .bool value => value
  | .number value => !value.isZero
  | .text value => value != ""
  | .bytes value => !value.isEmpty
  | .list items => !items.isEmpty
  | .set items => !items.isEmpty
  | .map entries => !entries.isEmpty
  | .date _ | .timestamp .. | .pair .. => true

end Value

end AnalysisEngines
