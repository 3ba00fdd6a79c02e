import AnalysisEngines.Container.Command
import AnalysisEngines.Proofs.NameOrder
import Mathlib.Tactic.Common

/-!
# What the command line of a container says

The client reads options, each with a value, up to the first word in an option's place that is no
option: this is the image, and what follows it is the command.  A value stands in no option's place,
so it is never read as an option, whatever it looks like: `runCommand_encodes`.
-/

set_option autoImplicit false

namespace AnalysisEngines.Container

/-- Whether a word is read as an option where one may stand. -/
def isOption (word : String) : Bool := word.toList.head? == some '-'

/-- A command line of `run` as the client reads it. -/
structure Reading where
  options : List (String × String)
  image : String
  command : List String
  deriving DecidableEq

namespace Reading

variable {reading : Reading} {client : String}

/-- The words from the options on. -/
def tail (reading : Reading) : List String :=
  reading.options.flatMap (fun given => [given.1, given.2]) ++ reading.image :: reading.command

def words (client : String) (reading : Reading) : List String :=
  client :: "run" :: "--rm" :: reading.tail

/-- Options look like options, and the image does not. -/
structure IsProper (reading : Reading) : Prop where
  options : ∀ given ∈ reading.options, isOption given.1 = true
  image : isOption reading.image = false

def withOption (name value : String) (reading : Reading) : Reading :=
  { reading with options := (name, value) :: reading.options }

def ofTail? : List String → Option Reading
  | [] => none
  | [word] => if isOption word then none else some ⟨[], word, []⟩
  | word :: value :: rest =>
      if isOption word then (ofTail? rest).map (withOption word value)
      else some ⟨[], word, value :: rest⟩

def ofWords? : List String → Option Reading
  | _ :: "run" :: "--rm" :: rest => ofTail? rest
  | _ => none

/-- A proper reading is read off its own words. -/
theorem IsProper.ofTail?_tail (proper : reading.IsProper) :
    ofTail? reading.tail = some reading := by
  obtain ⟨options, image, command⟩ := reading
  obtain ⟨each, plain⟩ := proper
  simp only at each plain
  induction options with
  | nil => cases command <;> simp [tail, ofTail?, plain]
  | cons given rest ih =>
      have later := ih fun other member => each other (List.mem_cons_of_mem _ member)
      have first : isOption given.1 = true := each given List.mem_cons_self
      change ofTail? (given.1 :: given.2 :: tail ⟨rest, image, command⟩) = _
      rw [ofTail?, if_pos first, later]
      rfl

/-- The words have no other proper reading. -/
theorem IsProper.eq_of_words {other : Reading} (proper : reading.IsProper)
    (proper' : other.IsProper) (same : other.words client = reading.words client) :
    other = reading := by
  have tails : other.tail = reading.tail := by
    simpa only [words, List.cons.injEq, true_and] using same
  apply Option.some.inj
  calc some other = ofTail? other.tail := proper'.ofTail?_tail.symm
    _ = ofTail? reading.tail := by rw [tails]
    _ = some reading := proper.ofTail?_tail

end Reading

/-! ## The options of a spec -/

/-- The values that an option has been given, in order. -/
def values (name : String) (options : List (String × String)) : List String :=
  options.filterMap fun given => if given.1 = name then some given.2 else none

/-- Each option once for each of its values. -/
def spread (groups : List (String × List String)) : List (String × String) :=
  groups.flatMap fun group => group.2.map fun value => (group.1, value)

theorem values_spread (name : String) (groups : List (String × List String)) :
    values name (spread groups) =
      groups.flatMap fun group => if group.1 = name then group.2 else [] := by
  induction groups with
  | nil => rfl
  | cons group rest ih =>
      have first : (group.2.map fun value => (group.1, value)).filterMap
          (fun given => if given.1 = name then some given.2 else none) =
            if group.1 = name then group.2 else [] := by
        rw [List.filterMap_map]
        by_cases same : group.1 = name <;> simp [same]
      rw [spread, List.flatMap_cons, values, List.filterMap_append, first, List.flatMap_cons]
      exact congrArg _ ih

theorem flatMap_spread (groups : List (String × List String)) :
    ((spread groups).flatMap fun given => [given.1, given.2]) =
      groups.flatMap fun group => group.2.flatMap fun value => [group.1, value] := by
  simp only [spread, List.flatMap_assoc, List.flatMap_map]

def assignmentText (entry : String × String) : String := entry.1 ++ "=" ++ entry.2

/-- The options of a spec in order, each with its values.  An option without a value is left out. -/
def optionGroups (spec : Spec) (container : String) : List (String × List String) :=
  [("--name", [container]),
    ("--cap-drop", ["all"]),
    ("--security-opt", ["no-new-privileges"]),
    ("--net", if spec.networkDisabled then ["none"] else []),
    ("--memory", (given? spec.memory).toList),
    ("--memory-swap", (given? spec.memory).toList.map fun _ => "-1"),
    ("--label", (sortedByName spec.labels).map assignmentText),
    ("--volume", spec.volumes.map volumeText),
    ("--env", (sortedByName spec.environment).map assignmentText),
    ("--workdir", (given? spec.workingDirectory).toList)]

def optionNames : List String :=
  ["--name", "--cap-drop", "--security-opt", "--net", "--memory", "--memory-swap", "--label",
    "--volume", "--env", "--workdir"]

theorem fst_mem_optionNames {spec : Spec} {container : String} {given : String × String}
    (member : given ∈ spread (optionGroups spec container)) : given.1 ∈ optionNames := by
  obtain ⟨group, among, inGroup⟩ := List.mem_flatMap.mp member
  obtain ⟨value, -, rfl⟩ := List.mem_map.mp inGroup
  exact List.mem_map_of_mem (f := Prod.fst) among

theorem runOptions_eq (spec : Spec) (container : String) :
    runOptions spec container =
      (spread (optionGroups spec container)).flatMap fun given => [given.1, given.2] := by
  rw [flatMap_spread]
  simp only [runOptions, optionGroups, option, assignments, List.flatMap_cons, List.flatMap_nil,
    List.flatMap_map, assignmentText]
  cases spec.networkDisabled <;> cases given? spec.memory <;>
    cases given? spec.workingDirectory <;> simp

/-- What a reading of a command line says about the spec that it was made from.  The two limits of
memory come together, names are in ascending order, mounts in the spec's order, and there is no
option but these. -/
structure Encodes (reading : Reading) (image : String) (spec : Spec) (container : String) :
    Prop where
  image : reading.image = image
  command : reading.command = spec.givenCommand
  name : values "--name" reading.options = [container]
  capabilities : values "--cap-drop" reading.options = ["all"]
  security : values "--security-opt" reading.options = ["no-new-privileges"]
  network : values "--net" reading.options = if spec.networkDisabled then ["none"] else []
  memory : values "--memory" reading.options = (given? spec.memory).toList
  swap : values "--memory-swap" reading.options = (given? spec.memory).toList.map fun _ => "-1"
  directory : values "--workdir" reading.options = (given? spec.workingDirectory).toList
  labels : ∃ entries : List (String × String), entries.Perm spec.labels ∧
    entries.Pairwise (fun earlier later => earlier.1 ≤ later.1) ∧
    values "--label" reading.options = entries.map fun entry => entry.1 ++ "=" ++ entry.2
  environment : ∃ entries : List (String × String), entries.Perm spec.environment ∧
    entries.Pairwise (fun earlier later => earlier.1 ≤ later.1) ∧
    values "--env" reading.options = entries.map fun entry => entry.1 ++ "=" ++ entry.2
  volumes : values "--volume" reading.options = spec.volumes.map fun volume =>
    volume.host ++ ":" ++ volume.mount ++ (if volume.readOnly then ":ro" else "")
  known : ∀ given ∈ reading.options, given.1 ∈ optionNames

/-- The reading that a command line is made from. -/
def intended (image : String) (spec : Spec) (container : String) : Reading :=
  ⟨spread (optionGroups spec container), image, spec.givenCommand⟩

theorem runCommand_eq (client image : String) (spec : Spec) (container : String) :
    runCommand client image spec container = (intended image spec container).words client := by
  simp [runCommand, runOptions_eq, Reading.words, Reading.tail, intended]

theorem encodes_intended (image : String) (spec : Spec) (container : String) :
    Encodes (intended image spec container) image spec container := by
  constructor
  case known => exact fun given member => fst_mem_optionNames member
  case labels =>
    refine ⟨_, sortedByName_perm _, pairwise_le_sortedByName _, ?_⟩
    simp [intended, values_spread, optionGroups, assignmentText]
  case environment =>
    refine ⟨_, sortedByName_perm _, pairwise_le_sortedByName _, ?_⟩
    simp [intended, values_spread, optionGroups, assignmentText]
  all_goals simp [intended, values_spread, optionGroups, volumeText]

theorem isProper_intended {image : String} (plain : isOption image = false) (spec : Spec)
    (container : String) : (intended image spec container).IsProper where
  options given member := by
    have dashed : ∀ name ∈ optionNames, isOption name = true := by decide
    exact dashed given.1 (fst_mem_optionNames member)
  image := plain

/-- A command line is read in one way, and what is read is what the spec says: no label, variable,
mount, directory or word of the command adds, removes or changes an option.  Only an image that
looks like an option is not told from one. -/
theorem runCommand_encodes (client : String) {image : String} (spec : Spec) (container : String)
    (plain : isOption image = false) :
    ∃ reading : Reading,
      Reading.ofWords? (runCommand client image spec container) = some reading ∧
      reading.words client = runCommand client image spec container ∧
      reading.IsProper ∧
      (∀ other : Reading, other.IsProper →
        other.words client = runCommand client image spec container → other = reading) ∧
      Encodes reading image spec container := by
  have proper := isProper_intended plain spec container
  rw [runCommand_eq]
  refine ⟨_, proper.ofTail?_tail, rfl, proper, ?_, encodes_intended image spec container⟩
  exact fun other proper' same => proper.eq_of_words proper' same

/-- Texts that look like options are values and words of the command all the same. -/
theorem steering_isRead :
    isOption "app" = false ∧
      ∃ reading : Reading,
        Reading.ofWords? (runCommand "docker" "app"
          { name := "lint", command := some ["--privileged", "--net", "host"],
            environment := [("B", "2"), ("--cap-add", "all")],
            volumes := [⟨"--net", "/code", false⟩], workingDirectory := some "--rm",
            memory := some "--memory", labels := [("--net", "host")] } "--name") = some reading ∧
        Encodes reading "app"
          { name := "lint", command := some ["--privileged", "--net", "host"],
            environment := [("B", "2"), ("--cap-add", "all")],
            volumes := [⟨"--net", "/code", false⟩], workingDirectory := some "--rm",
            memory := some "--memory", labels := [("--net", "host")] } "--name" := by
  have plain : isOption "app" = false := by decide
  obtain ⟨reading, read, -, -, -, encodes⟩ := runCommand_encodes "docker" _ "--name" plain
  exact ⟨plain, reading, read, encodes⟩

end AnalysisEngines.Container
