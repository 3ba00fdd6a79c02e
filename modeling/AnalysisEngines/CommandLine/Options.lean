/-!
Options among the arguments of a command.

A long option stands behind two hyphens and a letter behind one.  Letters may be clustered, and the
value of an option is the rest of its argument, or else the next argument whatever that looks like.
Options may end at the first other argument or stand among the others; `--` always ends them.
-/

set_option autoImplicit false

namespace AnalysisEngines.CommandLine

structure Flag where
  name : String
  letter : Option Char := none
  takesValue : Bool := true

/-- An option that was given, by name; one without a value has an empty one. -/
structure GivenOption where
  name : String
  value : String := ""

/-- What one argument says.  The value of the last option may be in the next argument. -/
structure Word where
  given : List GivenOption := []
  awaiting : Option String := none

namespace Word

/-- A long option, without its hyphens. -/
def ofLong? (known : List Flag) (text : List Char) : Option Word :=
  let (name, rest) := text.span (· != '=')
  match known.find? fun flag => flag.name.toList == name with
  | none => none
  | some flag =>
      match flag.takesValue, rest with
      | true, [] => some { awaiting := some flag.name }
      | true, _ :: value => some { given := [⟨flag.name, String.ofList value⟩] }
      | false, [] => some { given := [⟨flag.name, ""⟩] }
      | false, _ :: _ => none

def ofLetters? (known : List Flag) : List Char → Option Word
  | [] => some {}
  | letter :: rest =>
      match known.find? fun flag => flag.letter == some letter with
      | none => none
      | some flag =>
          if flag.takesValue then
            if rest.isEmpty then some { awaiting := some flag.name }
            else some { given := [⟨flag.name, String.ofList rest⟩] }
          else (ofLetters? known rest).map fun word =>
            { word with given := ⟨flag.name, ""⟩ :: word.given }

/-- What an argument with a hyphen in front says. -/
def ofArgument? (known : List Flag) (argument : List Char) : Option Word :=
  match argument with
  | '-' :: '-' :: text => ofLong? known text
  | _ => ofLetters? known (argument.drop 1)

end Word

/-- Whether an argument is about options: a hyphen alone is not. -/
def isOption : List Char → Bool
  | '-' :: _ :: _ => true
  | _ => false

structure Arguments where
  options : List GivenOption := []
  others : List String := []

namespace Arguments

/-- The value of an option, which is the last one that was given. -/
def value? (name : String) (arguments : Arguments) : Option String :=
  (arguments.options.reverse.find? fun given => given.name == name).map (·.value)

/-- The first of some options that was given. -/
def first? (names : List String) (arguments : Arguments) : Option String :=
  (arguments.options.find? fun given => names.contains given.name).map (·.name)

def giving (options : List GivenOption) (arguments : Arguments) : Arguments :=
  { arguments with options := options ++ arguments.options }

/-- Reads arguments behind those that left an option without its value, or none.  There is no
reading with an option that is not known, or without a value that it takes. -/
def readFrom (known : List Flag) (mingled : Bool) :
    Option String → List String → Option Arguments
  | none, [] => some {}
  | some _, [] => none
  | some name, value :: rest =>
      (readFrom known mingled none rest).map (giving [⟨name, value⟩])
  | none, argument :: rest =>
      if argument = "--" then some { others := rest }
      else if isOption argument.toList then
        match Word.ofArgument? known argument.toList with
        | some word => (readFrom known mingled word.awaiting rest).map (giving word.given)
        | none => none
      else if mingled then
        (readFrom known mingled none rest).map fun arguments =>
          { arguments with others := argument :: arguments.others }
      else some { others := argument :: rest }

def read? (known : List Flag) (mingled : Bool) (arguments : List String) : Option Arguments :=
  readFrom known mingled none arguments

end Arguments

end AnalysisEngines.CommandLine
