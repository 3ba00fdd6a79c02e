import AnalysisEngines.Proofs.Run.Blindness
import AnalysisEngines.Proofs.Run.Scope

/-!
# What the log of a run in a container tells of its environment

What a run does and logs behind the start of its container is the same for every environment, as no
activity looks at what has been noted.  The one entry that the environment shows in is the command
line of that start: `logWith_discloses`.
-/

set_option autoImplicit false

namespace AnalysisEngines

open Log

namespace Request

def withEnvironment (environment : List (String × String)) (request : Request) : Request :=
  { request with spec := { request.spec with environment := environment } }

/-- The command that starts the engine in a container. -/
def startCommand (client : String) (request : Request) : List String :=
  Container.runCommand (Container.clientPath client) request.image request.spec
    request.containerName

end Request

namespace Activity

variable {request : Request} {client : String} {scene : Scene}

theorem execute_of_missing (contained : request.runtime = .container client)
    (missing : (Container.lookUp scene.clientFound).1 = false) :
    execute request scene =
      .error (.failure (Container.clientMissing client))
        { scene with clientFound := (Container.lookUp scene.clientFound).2 } := by
  have locates := locateClient_apply client scene
  rw [if_neg (by simp [missing])] at locates
  have starts : start request scene = .error (.failure (Container.clientMissing client))
      { scene with clientFound := (Container.lookUp scene.clientFound).2 } := by
    unfold start
    simp only [contained]
    exact bind_of_error locates
  unfold execute
  rw [bind_of_ok (get_apply scene), bind_of_error starts]

/-- A run whose client is found calls it first of all. -/
theorem execute_of_found (contained : request.runtime = .container client)
    (found : (Container.lookUp scene.clientFound).1 = true) :
    execute request scene =
      (launch request (request.startCommand client) none none request.containerFault >>= fun _ =>
        log (.started request.image (some request.containerName)) >>= fun _ =>
          supervise request (some request.containerName) scene.now.instant
            (request.deadline scene.now.instant))
        { scene with
          clientFound := (Container.lookUp scene.clientFound).2
          notes := scene.notes ++
            [(scene.now, .notice (.clientCalled (request.startCommand client)))] } := by
  have locates := locateClient_apply client scene
  rw [if_pos found] at locates
  unfold execute
  rw [bind_of_ok (get_apply scene)]
  unfold start
  simp only [contained]
  rw [bind_assoc, bind_of_ok locates, bind_assoc, bind_of_ok (log_apply _ _), bind_assoc]
  rfl

/-- The call of the client, as it is noted. -/
def callNote (client : String) (now : Moment) (request : Request) : Moment × Note :=
  (now, .notice (.clientCalled (request.startCommand client)))

/-- With one environment or another, all that follows the call of the client is the same. -/
theorem agree_execute (contained : request.runtime = .container client)
    (found : (Container.lookUp scene.clientFound).1 = true) (silent : scene.notes = [])
    (environment other : List (String × String)) :
    Agree (Scene.Echoes [callNote client scene.now (request.withEnvironment environment)]
        [callNote client scene.now (request.withEnvironment other)])
      (execute (request.withEnvironment environment) scene)
      (execute (request.withEnvironment other) scene) := by
  have first := @execute_of_found (request.withEnvironment environment) client scene contained found
  have second := @execute_of_found (request.withEnvironment other) client scene contained found
  rw [first, second]
  refine InStep.bind (inStep_launch_of_same rfl _ _ _ _ _ _ rfl) (fun _ => ?_) _ _ ?_
  · -- what follows does not read the environment, so that both sides are one activity
    exact .bind (isBlind_note _) fun _ => isBlind_supervise _ _ _ _
  · exact ⟨_, [], rfl, by rw [silent]; rfl, by rw [silent]; rfl⟩

end Activity

namespace Execution

open Activity

/-- What a log shows of notes under bound variables. -/
def entriesUnder (bound : Fields) (notes : List (Moment × Note)) : List Entry :=
  notes.filterMap fun entry => match entry.2 with
    | .notice notice => some (notice.entry.under bound)
    | _ => none

theorem entriesUnder_unspawned (bound : Fields) (notes : List (Moment × Note)) :
    entriesUnder bound (unspawned notes) = entriesUnder bound notes := by
  unfold entriesUnder unspawned
  rw [List.filterMap_filter]
  apply List.filterMap_congr
  rintro ⟨moment, note⟩ _
  cases note <;> rfl

variable {request : Request} {client : String}

/-- A run logs what it notes, with its engine bound. -/
theorem log_eq (origin : Moment) (caller : Journal) (execution : Execution) :
    execution.log request origin caller =
      entriesUnder (assignFields request.bindings caller.bound) (unspawned execution.notes) := by
  have steps : (execution.steps request origin).map (·.2) =
      (execution.steps request origin).map fun entry => entry.2.map fun note => note := by
    apply List.map_congr_left
    rintro ⟨moment, step⟩ _
    cases step <;> rfl
  rw [entriesUnder_unspawned, log, steps, notesUnder_steps fun entry => entry.2,
    List.filterMap_map]
  apply List.filterMap_congr
  rintro ⟨moment, note⟩ _
  cases note <;> rfl

/-- Two runs in a container, with one environment or another, come to the same, and note the same
behind the call of the client. -/
theorem run_withEnvironment (contained : request.runtime = .container client)
    (found : (Container.lookUp request.clientFound).1 = true) (origin : Moment)
    (environment other : List (String × String)) :
    (run (request.withEnvironment environment) origin).result =
        (run (request.withEnvironment other) origin).result ∧
      ∃ added,
        unspawned (run (request.withEnvironment environment) origin).notes =
          callNote client origin (request.withEnvironment environment) :: added ∧
        unspawned (run (request.withEnvironment other) origin).notes =
          callNote client origin (request.withEnvironment other) :: added := by
  have agrees := @agree_execute _ _ (opening request origin) contained found rfl environment other
  unfold run
  change Agree _ (execute _ (opening (request.withEnvironment environment) origin))
    (execute _ (opening (request.withEnvironment other) origin)) at agrees
  generalize execute _ (opening (request.withEnvironment environment) origin) = first at agrees ⊢
  generalize execute _ (opening (request.withEnvironment other) origin) = second at agrees ⊢
  cases agrees with
  | ok echoes =>
      obtain ⟨_, added, rfl, before, after⟩ := echoes
      exact ⟨rfl, added, before, after⟩
  | error echoes =>
      obtain ⟨_, added, rfl, before, after⟩ := echoes
      exact ⟨rfl, added, before, after⟩

/-- The log of a run with an environment in place of its own. -/
def logWith (request : Request) (origin : Moment) (caller : Journal)
    (environment : List (String × String)) : List Entry :=
  let other := request.withEnvironment environment
  (run other origin).log other origin caller

/-- The entry of a run's log that shows the command line of its start. -/
def startEntry (client : String) (caller : Journal) (request : Request) : Entry :=
  (Container.callEntry (request.startCommand client)).under
    (assignFields request.bindings caller.bound)

/-- Whatever the environment, a run in a container comes to the same, and logs the same but for the
command line of its start. -/
theorem exists_logWith (contained : request.runtime = .container client) (origin : Moment)
    (caller : Journal) :
    ∃ result rest, ∀ environment,
      (run (request.withEnvironment environment) origin).result = result ∧
      logWith request origin caller environment =
        (if (Container.lookUp request.clientFound).1
          then [startEntry client caller (request.withEnvironment environment)] else []) ++
            rest := by
  by_cases found : (Container.lookUp request.clientFound).1 = true
  · refine ⟨(run request origin).result, entriesUnder (assignFields request.bindings caller.bound)
      (unspawned (run request origin).notes).tail, fun environment => ?_⟩
    obtain ⟨same, added, before, after⟩ :=
      run_withEnvironment contained found origin environment request.spec.environment
    refine ⟨same, ?_⟩
    change unspawned (run request origin).notes = _ at after
    rw [logWith, log_eq, before, after, if_pos found]
    rfl
  · refine ⟨.error (.failure (Container.clientMissing client)), [], fun environment => ?_⟩
    have missing : (Container.lookUp request.clientFound).1 = false := by simpa using found
    have fails := @execute_of_missing (request.withEnvironment environment) client
      (opening (request.withEnvironment environment) origin) contained missing
    rw [logWith, log_eq, run_of_error fails, if_neg found]
    exact ⟨rfl, rfl⟩

/-- Two texts in the same place between others make the same line exactly if they are the same. -/
theorem intercalate_between_iff {separator : String} {before after first second : List String}
    (behind : before ≠ []) (ahead : after ≠ []) (alike : first = [] ↔ second = []) :
    separator.intercalate (before ++ first ++ after) =
        separator.intercalate (before ++ second ++ after) ↔
      separator.intercalate first = separator.intercalate second := by
  by_cases nothing : first = []
  · rw [nothing, alike.mp nothing]
    simp
  · have something : second ≠ [] := mt alike.mpr nothing
    have line : ∀ {texts : List String}, texts ≠ [] →
        separator.intercalate (before ++ texts ++ after) =
          separator.intercalate before ++ separator ++ separator.intercalate texts ++
            (separator ++ separator.intercalate after) := by
      intro texts some
      rw [String.intercalate_append_of_ne_nil (by simp [behind]) ahead,
        String.intercalate_append_of_ne_nil behind some, String.append_assoc]
    rw [line nothing, line something, String.append_left_inj, String.append_right_inj]

/-- The environment as the command line of a start shows it. -/
def environmentText (environment : List (String × String)) : String :=
  " ".intercalate (Container.assignments "--env" environment)

theorem startCommand_withEnvironment (client : String) (request : Request) :
    ∃ before after, before ≠ [] ∧ after ≠ [] ∧ ∀ environment,
      (request.withEnvironment environment).startCommand client =
        before ++ Container.assignments "--env" environment ++ after := by
  refine ⟨[Container.clientPath client, "run", "--rm"] ++ Container.runOptions
      { request.spec with environment := [], workingDirectory := none } request.containerName,
    Container.option "--workdir" request.spec.workingDirectory ++
      ([request.image] ++ request.spec.givenCommand), by simp, by simp, fun environment => ?_⟩
  have none : Container.assignments "--env" [] = [] := by
    simp [Container.assignments, sortedByName]
  have nowhere : Container.option "--workdir" Option.none = [] := rfl
  unfold Request.startCommand Container.runCommand Container.runOptions
  simp only [none, nowhere, List.append_nil, List.append_assoc]
  rfl

theorem assignments_eq_nil_iff (option : String) {entries : List (String × String)} :
    Container.assignments option entries = [] ↔ entries = [] := by
  have sorted : sortedByName entries = [] ↔ entries = [] := by
    unfold sortedByName
    rw [← List.length_eq_zero_iff, List.length_mergeSort, List.length_eq_zero_iff]
  unfold Container.assignments
  rw [← sorted]
  cases sortedByName entries <;> simp

theorem startEntry_eq_iff (client : String) (caller : Journal) (request : Request)
    {environment other : List (String × String)}
    (sameNames : environment.map (·.1) = other.map (·.1)) :
    startEntry client caller (request.withEnvironment environment) =
        startEntry client caller (request.withEnvironment other) ↔
      environmentText environment = environmentText other := by
  obtain ⟨before, after, behind, ahead, commands⟩ := startCommand_withEnvironment client request
  have alike : Container.assignments "--env" environment = [] ↔
      Container.assignments "--env" other = [] := by
    rw [assignments_eq_nil_iff, assignments_eq_nil_iff, ← List.map_eq_nil_iff, sameNames,
      List.map_eq_nil_iff]
  have texts := @intercalate_between_iff " " _ _ _ _ behind ahead alike
  rw [← commands, ← commands] at texts
  rw [environmentText, environmentText, ← texts]
  constructor
  · intro same
    have shown := congrArg (fun entry : Entry => entry.fields.lookup "cmd") same
    simp only [startEntry, Entry.under, Container.callEntry, assignFields, List.foldl_cons,
      List.foldl_nil, lookup_assignField, if_true] at shown
    exact Value.text.inj (Option.some.inj shown)
  · intro same
    unfold startEntry Container.callEntry
    rw [same]
    rfl

/-- Two environments with the same names leave the same log exactly if no client is called, or the
command line shows them alike. -/
theorem logWith_eq_iff {origin : Moment} (contained : request.runtime = .container client)
    (caller : Journal) {environment other : List (String × String)}
    (sameNames : environment.map (·.1) = other.map (·.1)) :
    logWith request origin caller environment = logWith request origin caller other ↔
      (Container.lookUp request.clientFound).1 = false ∨
        environmentText environment = environmentText other := by
  obtain ⟨_, rest, logs⟩ := exists_logWith contained origin caller
  rw [(logs environment).2, (logs other).2, List.append_left_inj]
  cases found : (Container.lookUp request.clientFound).1 with
  | false => simp
  | true => simp [startEntry_eq_iff client caller request sameNames]

/-- Of a run in a container, the environment changes neither the result nor the log but for the
first entry, if the client is found.  That one shows the values, so that other values leave another
log. -/
theorem logWith_discloses (client : String) (request : Request)
    (contained : request.runtime = .container client) (origin : Moment) (caller : Journal) :
    (∃ result rest, ∀ environment,
      (run (request.withEnvironment environment) origin).result = result ∧
      logWith request origin caller environment =
        (if (Container.lookUp request.clientFound).1
          then [startEntry client caller (request.withEnvironment environment)] else []) ++
            rest) ∧
    ∀ environment other : List (String × String),
      environment.map (·.1) = other.map (·.1) →
        (logWith request origin caller environment = logWith request origin caller other ↔
          (Container.lookUp request.clientFound).1 = false ∨
            environmentText environment = environmentText other) :=
  ⟨exists_logWith contained origin caller, fun _ _ => logWith_eq_iff contained caller⟩

/-- A run in a container that exits after a second. -/
def brief : Request where
  runtime := .container "docker"
  image := "img"
  spec := { name := "probe", command := some ["engine", "--x"] }
  limits := { timeout := .int 10, ceiling := 1000 }
  launch := { process := { name := "probe", timeline := Timeline.empty.schedule 1 (.exit 0) } }

/-- Different values that a command line shows alike leave the same log. -/
theorem brief_conceals :
    logWith brief .start {} [("A", "x --env B=y"), ("B", "z")] =
      logWith brief .start {} [("A", "x"), ("B", "y --env B=z")] := by
  have text : ∀ first second, environmentText [("A", first), ("B", second)] =
      " ".intercalate ["--env", "A=" ++ first, "--env", "B=" ++ second] := by
    intro first second
    have order : (!decide ("B" < "A")) = true := by decide
    have sorted : sortedByName [("A", first), ("B", second)] = [("A", first), ("B", second)] :=
      List.mergeSort_of_pairwise (List.pairwise_pair.mpr order)
    unfold environmentText Container.assignments
    rw [sorted]
    rfl
  have alike : environmentText [("A", "x --env B=y"), ("B", "z")] =
      environmentText [("A", "x"), ("B", "y --env B=z")] := by
    rw [text, text]
    decide
  exact ((logWith_discloses "docker" brief rfl .start {}).2 _ _ (by rfl)).mpr (.inr alike)

/-- The log tells a token from none. -/
theorem brief_discloses :
    logWith brief .start {} [("TOKEN", "hunter2")] ≠ logWith brief .start {} [("TOKEN", "")] := by
  intro same
  have shown := (@logWith_eq_iff brief "docker" .start rfl {} _ _ (by rfl)).mp same
  have text : ∀ token, environmentText [("TOKEN", token)] = "--env TOKEN=" ++ token := by
    intro token
    with_unfolding_all rfl
  rw [text, text, String.append_right_inj] at shown
  revert shown
  decide

end Execution

end AnalysisEngines
