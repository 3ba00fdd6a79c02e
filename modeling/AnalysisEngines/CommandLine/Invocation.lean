import AnalysisEngines.CommandLine.Options

/-!
What the arguments of the program ask for.

The program has the group of commands `engines`, with the commands `list` and `install`.  Options
stand behind the name that they belong to.  Help and version come before anything else, once the
options are well formed.
-/

set_option autoImplicit false

namespace AnalysisEngines.CommandLine

/-- What is asked of the group of commands. -/
inductive Command where
  | help
  | misuse
  /-- A path with a zero character in it leads nowhere at all. -/
  | zeroInPath
  | list (manifest : Option String)
  | install (manifest config channel : Option String)
  deriving DecidableEq

inductive Invocation where
  | version
  | help
  | misuse
  | run (level : Option String) (command : Command)
  deriving DecidableEq

def helpFlag : Flag := { name := "help", takesValue := false }

def manifestFlag : Flag := { name := "manifest", letter := some 'm' }

def configFlag : Flag := { name := "config", letter := some 'c' }

def channelFlag : Flag := { name := "channel" }

def versionFlag : Flag := { name := "version", letter := some 'V', takesValue := false }

def levelFlag : Flag := { name := "log-level" }

def groupName : String := "engines"

namespace Command

/-- Reads the arguments of a command that takes options only. -/
def ofOptions (flags paths : List Flag) (arguments : List String) (build : Arguments → Command) :
    Command :=
  match Arguments.read? (helpFlag :: flags) true arguments with
  | none => .misuse
  | some given =>
      if (given.value? helpFlag.name).isSome then .help
      else if paths.any fun flag =>
          (given.value? flag.name).any fun path => path.toList.contains '\x00' then .zeroInPath
      else if given.others.isEmpty then build given
      else .misuse

def listOf (arguments : List String) : Command :=
  ofOptions [manifestFlag] [manifestFlag] arguments fun given =>
    .list (given.value? manifestFlag.name)

def installOf (arguments : List String) : Command :=
  ofOptions [manifestFlag, configFlag, channelFlag] [manifestFlag, configFlag] arguments
    fun given =>
      .install (given.value? manifestFlag.name) (given.value? configFlag.name)
        (given.value? channelFlag.name)

/-- Reads the arguments of the group. -/
def ofArguments (arguments : List String) : Command :=
  match Arguments.read? [helpFlag] false arguments with
  | none => .misuse
  | some given =>
      if (given.value? helpFlag.name).isSome then .help
      else match given.others with
        | "list" :: rest => listOf rest
        | "install" :: rest => installOf rest
        | _ => .misuse

end Command

namespace Invocation

def ofArguments (arguments : List String) : Invocation :=
  match Arguments.read? [versionFlag, levelFlag, helpFlag] false arguments with
  | none => .misuse
  | some given =>
      match given.first? [versionFlag.name, helpFlag.name] with
      | some name => if name = versionFlag.name then .version else .help
      | none =>
          match given.others with
          | [] => .misuse
          | group :: rest =>
              if group = groupName then
                .run (given.value? levelFlag.name) (Command.ofArguments rest)
              else .misuse

end Invocation

end AnalysisEngines.CommandLine
