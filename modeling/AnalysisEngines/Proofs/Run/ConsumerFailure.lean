import AnalysisEngines.Proofs.Run.Cancellation
import AnalysisEngines.Proofs.Run.Reaching
import AnalysisEngines.Proofs.Run.Signals

/-!
# What becomes of the failure of a consumer

A run looks at its reader only while its race is on.  A consumer that fails by the end of the race
ends it, and the run raises what the consumer raised once the process has been stopped.  A consumer
that fails later fails unheard: `raises_iff_isWatched`.
-/

set_option autoImplicit false

namespace AnalysisEngines

namespace Pipe

variable {now : Rat} {pieces others : List (Rat × Bytes)}

theorem piecesBy_append (now : Rat) (first second : List (Rat × Bytes)) :
    piecesBy now (first ++ second) = piecesBy now first ++ piecesBy now second :=
  List.filter_append ..

/-! ## Reads of what has been written -/

/-- Joining pieces of one instant does not mix what comes by an instant with what comes later. -/
theorem piecesBy_joinPieces
    (ordered : pieces.Pairwise fun earlier later => earlier.1 ≤ later.1) :
    piecesBy now (joinPieces pieces) = joinPieces (piecesBy now pieces) := by
  induction pieces with
  | nil => rfl
  | cons piece rest ih =>
      obtain ⟨instant, bytes⟩ := piece
      have tail := (List.pairwise_cons.mp ordered).2
      by_cases reached : instant ≤ now
      · have kept : piecesBy now ((instant, bytes) :: rest) = (instant, bytes) :: piecesBy now rest := by
          rw [piecesBy_cons, if_pos reached]
          rfl
        have joinedOrdered := pairwise_joinPieces tail
        rw [kept, joinPieces, joinPieces, ← ih tail]
        cases joined : joinPieces rest with
        | nil => simp [piecesBy, reached]
        | cons next others =>
            obtain ⟨time, more⟩ := next
            by_cases same : time = instant
            · subst same
              simp [piecesBy_cons, reached]
            · by_cases early : time ≤ now
              · simp [piecesBy_cons, reached, early, same]
              · -- whatever is joined later is later than `now`, too
                rw [joined] at joinedOrdered
                simp only [same, if_false]
                rw [piecesBy_cons, if_pos reached,
                  piecesBy_eq_nil (late_of_pairwise joinedOrdered early)]
                rfl
      · have late := late_of_pairwise ordered reached
        have lateJoined : ∀ other ∈ joinPieces ((instant, bytes) :: rest), now < other.1 := by
          intro other member
          obtain ⟨known, inPieces, same⟩ := exists_of_mem_joinPieces member
          exact same ▸ late known inPieces
        rw [piecesBy_eq_nil late, piecesBy_eq_nil lateJoined]
        rfl

theorem piecesBy_parts (now instant : Rat) (parts : List Bytes) :
    piecesBy now (parts.map fun part => (instant, part)) =
      if instant ≤ now then parts.map fun part => (instant, part) else [] := by
  by_cases reached : instant ≤ now
  · rw [if_pos reached]
    exact List.filter_eq_self.mpr (by simp [reached])
  · rw [if_neg reached]
    exact List.filter_eq_nil_iff.mpr (by simpa using fun _ _ => not_le.mp reached)

/-- What is read by an instant depends on what has been written by then. -/
theorem piecesBy_reads {pipe : Pipe}
    (ordered : pipe.pieces.Pairwise fun earlier later => earlier.1 ≤ later.1) :
    piecesBy now pipe.reads = Pipe.reads ⟨piecesBy now pipe.pieces, none⟩ := by
  unfold reads
  rw [← piecesBy_joinPieces ordered]
  induction joinPieces pipe.pieces with
  | nil => rfl
  | cons piece rest ih =>
      rw [List.flatMap_cons, piecesBy_append, piecesBy_parts, ih, piecesBy_cons]
      by_cases reached : piece.1 ≤ now <;> simp [reached]

theorem piecesBy_reads_eq {left right : Pipe}
    (orderedLeft : left.pieces.Pairwise fun earlier later => earlier.1 ≤ later.1)
    (orderedRight : right.pieces.Pairwise fun earlier later => earlier.1 ≤ later.1)
    (agree : piecesBy now left.pieces = piecesBy now right.pieces) :
    piecesBy now left.reads = piecesBy now right.reads := by
  rw [piecesBy_reads orderedLeft, piecesBy_reads orderedRight, agree]

/-- Of two ordered lists that agree by an instant, a first piece that comes by then is the first of
both. -/
theorem eq_cons_of_piecesBy {piece : Rat × Bytes}
    (ordered : others.Pairwise fun earlier later => earlier.1 ≤ later.1) (early : piece.1 ≤ now)
    (agree : piecesBy now (piece :: pieces) = piecesBy now others) :
    ∃ rest, others = piece :: rest ∧ piecesBy now pieces = piecesBy now rest := by
  rw [piecesBy_cons, if_pos early] at agree
  cases others with
  | nil => cases agree
  | cons first rest =>
      by_cases reached : first.1 ≤ now
      · rw [piecesBy_cons, if_pos reached] at agree
        obtain ⟨rfl, same⟩ := List.cons_eq_cons.mp agree
        exact ⟨rest, rfl, same⟩
      · rw [piecesBy_eq_nil (late_of_pairwise ordered reached)] at agree
        cases agree

end Pipe

namespace Capture

variable {ceiling : Nat} {consumer : Consumer} {horizon horizon' closedAt closedAt' : Option Rat}
  {reads others : List (Rat × Bytes)} {now instant : Rat}

/-- A consumer fails at a read, and by the horizon. -/
theorem mem_of_consumerFailed {total count : Nat}
    (failed : (ofReads ceiling consumer horizon closedAt total count reads).finish =
      some (instant, .consumerFailed)) :
    isWithin horizon instant = true ∧ ∃ bytes, (instant, bytes) ∈ reads := by
  induction reads generalizing total count with
  | nil =>
      cases closedAt with
      | none => simp [ofReads] at failed
      | some last => cases within : isWithin horizon last <;> simp [ofReads, within] at failed
  | cons read rest ih =>
      have later : ∀ {total count}, (ofReads ceiling consumer horizon closedAt total count
          rest).finish = some (instant, .consumerFailed) →
            isWithin horizon instant = true ∧ ∃ bytes, (instant, bytes) ∈ read :: rest := by
        intro total count fails
        obtain ⟨within, bytes, member⟩ := ih fails
        exact ⟨within, bytes, List.mem_cons_of_mem _ member⟩
      rw [ofReads] at failed
      dsimp only at failed
      split_ifs at failed with late empty past fails past
      · cases failed
      · exact later failed
      · cases failed
        exact ⟨by simpa using late, read.2, List.mem_cons_self⟩
      · cases failed
      · exact later failed

/-- Consumers of reads that agree by an instant fail alike by then. -/
theorem consumerFailed_of_agree {total count : Nat}
    (ordered : reads.Pairwise fun earlier later => earlier.1 ≤ later.1)
    (ordered' : others.Pairwise fun earlier later => earlier.1 ≤ later.1)
    (agree : Pipe.piecesBy now reads = Pipe.piecesBy now others) (early : instant ≤ now)
    (within : isWithin horizon' instant = true)
    (failed : (ofReads ceiling consumer horizon closedAt total count reads).finish =
      some (instant, .consumerFailed)) :
    (ofReads ceiling consumer horizon' closedAt' total count others).finish =
      some (instant, .consumerFailed) := by
  induction reads generalizing total count others with
  | nil =>
      obtain ⟨-, bytes, member⟩ := mem_of_consumerFailed failed
      cases member
  | cons read rest ih =>
      obtain ⟨bounds, tail⟩ := List.pairwise_cons.mp ordered
      obtain ⟨-, bytes, member⟩ := mem_of_consumerFailed failed
      have first : read.1 ≤ instant := by
        rcases List.mem_cons.mp member with rfl | inRest
        · exact le_refl _
        · exact bounds _ inRest
      obtain ⟨rest', rfl, same⟩ := Pipe.eq_cons_of_piecesBy ordered' (first.trans early) agree
      have inTime : isWithin horizon' read.1 = true := by
        cases horizon' with
        | none => rfl
        | some last => exact decide_eq_true (first.trans (of_decide_eq_true within))
      have later := fun {total count} => @ih rest' total count tail
        (List.pairwise_cons.mp ordered').2 same
      rw [ofReads] at failed ⊢
      simp only [inTime, Bool.not_true, Bool.false_eq_true, if_false]
      dsimp only at failed
      split_ifs at failed ⊢
      · cases failed
      · exact later failed
      · cases failed
        rfl
      · cases failed
      · exact later failed

end Capture

/-- Consumers of processes that have written the same by an instant fail alike by then. -/
theorem Process.consumerFailed_of_agree {left right : Process} {ceiling : Nat}
    {consumer : Consumer} {horizon horizon' : Option Rat} {now instant : Rat}
    (agree : Pipe.piecesBy now (left.pipe .stdout).pieces =
      Pipe.piecesBy now (right.pipe .stdout).pieces) (early : instant ≤ now)
    (within : Capture.isWithin horizon' instant = true)
    (failed : (left.capture ceiling consumer horizon).finish = some (instant, .consumerFailed)) :
    (right.capture ceiling consumer horizon').finish = some (instant, .consumerFailed) := by
  have orderedLeft := left.pairwise_pieces .stdout
  have orderedRight := right.pairwise_pieces .stdout
  exact Capture.consumerFailed_of_agree (Pipe.isCut_reads orderedLeft).ordered
    (Pipe.isCut_reads orderedRight).ordered (Pipe.piecesBy_reads_eq orderedLeft orderedRight agree)
    early within failed

/-! ## The race -/

namespace Field

variable {field : Field} {deadline : Option Rat} {now instant failure : Rat} {ending : RaceEnd}

theorem output_of_consumerFailed (failed : field.endingBy now = some .consumerFailed) :
    ∃ instant, field.output = some (instant, .consumerFailed) ∧ instant ≤ now := by
  rw [endingBy_eq] at failed
  split_ifs at failed with both <;> cases failed
  obtain ⟨instant, completes, early⟩ := isDone_iff.mp both.1
  obtain ⟨⟨_, ending⟩, output, rfl⟩ := Option.map_eq_some_iff.mp completes
  have isFailed := both.2
  rw [output, Option.map_some, Option.some.injEq] at isFailed
  exact ⟨_, isFailed ▸ output, early⟩

/-- A consumer that has failed when a race ends has ended it, whatever else came at that instant,
unless the time limit had passed before the race. -/
theorem Ends.consumerFailed (ends : field.Ends deadline now (some (instant, ending)))
    (inTime : ¬ IsOver deadline now) (output : field.output = some (failure, .consumerFailed))
    (early : failure ≤ instant) : ending = .consumerFailed := by
  have failed : field.endingBy instant = some .consumerFailed := by
    have done : field.isDone instant .output = true :=
      isDone_iff.mpr ⟨failure, by rw [completion?, output]; rfl, early⟩
    have isFailed : field.output.map (·.2) = some .consumerFailed := by rw [output]; rfl
    rw [Field.endingBy_eq, if_pos ⟨done, isFailed⟩]
  cases ends with
  | late limited passed => exact absurd ⟨_, limited, passed⟩ inTime
  | timeout _ before quiet =>
      rw [quiet _ before.le (le_refl _)] at failed
      cases failed
  | event _ _ _ found => exact Option.some.inj (found.symm.trans failed)

end Field

namespace Activity

variable {α : Type} {request : Request} {scene last : Scene} {deadline : Option Rat}
  {container : Option String} {began instant : Rat} {ending : RaceEnd}

/-! ## What a run raises -/

theorem isPatient_settle (request : Request) (container : Option String) (began : Rat)
    (verdict : Verdict) : Follows IsPatient (settle request container began verdict) := by
  refine .bind (isPatient_awaitExit .engine 2) fun exitStatus => .bind ?_ fun _ => ?_
  · exact (isUnfailing_drain request).imp fun unfailing raised raises => .inl (unfailing raised raises)
  · exact isPatient_of_returns fun scene => ⟨_, _, finish_apply request container began verdict
      exitStatus scene⟩

/-- A run that nobody cancels and that has a verdict raises nothing, though it may never end.  Where
the consumer ends the race, the run raises what the consumer raised. -/
theorem supervise_raises {problem : RunProblem} (hosted : request.runtime.isHost = true)
    (uncancelled : scene.cancelAt = none)
    (finishes : (raceOf request deadline scene).finish = some (instant, ending))
    (raises : supervise request container began deadline scene = .error problem last) :
    problem = .unending ∨ problem = .consumerFailed ∧ ending = .consumerFailed := by
  have patient : ∀ {activity : Activity RunResult} {begun : Scene}, begun.cancelAt = none →
      activity.Follows IsPatient → activity.Follows Scene.Leads →
        activity begun = .error problem last → problem = .unending := by
    intro activity begun unset patient leads fails
    have calm := ((leads.error fails).calm.uncancelled unset).2
    exact (patient.error fails problem rfl).resolve_left fun same => calm (congrArg some same)
  have decided := isDecided_of_uncancelled uncancelled finishes
  by_cases exited : ending = .verdict .exited
  · subst exited
    obtain ⟨middle, leads, -, settles⟩ := supervise_of_exited decided container began
    exact .inl (patient (leads.cancelAt.trans uncancelled) (isPatient_settle _ _ _ _)
      (isStepwise_leads.settle _ _ _ _) (settles.symm.trans raises))
  · obtain ⟨halted, halts, unfolded⟩ := supervise_of_decided decided exited container began
    have unset : halted.cancelAt = none := by
      rw [halts.same]
      exact uncancelled
    have stops : Follows IsPatient (stop request.runtime container request.grace) := by
      rw [stop_of_host hosted]
      exact isPatient_terminate .engine request.grace
    have fails := unfolded.symm.trans raises
    cases ending with
    | verdict verdict =>
        exact .inl (patient unset (.bind stops fun _ => isPatient_settle _ _ _ _)
          (.bind (isStepwise_leads.stop _ _ _) fun _ => isStepwise_leads.settle _ _ _ _) fails)
    | consumerFailed =>
        rcases bind_eq_error.mp fails with stopFails | ⟨_, _, -, throws⟩
        · have calm := (((isStepwise_leads.stop _ _ _).error stopFails).calm.uncancelled unset).2
          exact .inl ((stops.error stopFails problem rfl).resolve_left
            fun same => calm (congrArg some same))
        · cases throws
          exact .inr ⟨rfl, rfl⟩

/-! ## What was written when the race ended -/

/-- What had been written by an instant still is, and that instant has been reached. -/
def RemainsWritten (instant : Rat) (before after : Scene) : Prop :=
  instant ≤ after.now.instant ∧
    Pipe.piecesBy instant (after.engine.pipe .stdout).pieces =
      Pipe.piecesBy instant (before.engine.pipe .stdout).pieces

theorem leaves_remainsWritten {activity : Activity α} {middle : Scene}
    (keeps : activity.Follows Scene.KeepsPieces) (causal : scene.IsCausal)
    (engine : middle.engine = scene.engine) (helper : middle.helper = scene.helper)
    (reached : middle.now.instant = instant) :
    activity.Leaves middle (RemainsWritten instant scene) := by
  have kept : activity.Leaves middle (middle.KeepsPieces none) := keeps middle
  refine kept.imp fun last keeps => ?_
  obtain ⟨-, order, pieces⟩ := keeps ⟨engine ▸ causal.engine, helper ▸ causal.helper⟩
  refine ⟨reached ▸ order, ?_⟩
  rw [pieces .stdout instant reached.ge, engine]

/-- What had been written when the race ended is not lost by the stop. -/
theorem supervise_remainsWritten (causal : scene.IsCausal) (uncancelled : scene.cancelAt = none)
    (container : Option String) (began : Rat)
    (finishes : (raceOf request deadline scene).finish = some (instant, ending)) :
    (supervise request container began deadline).Leaves scene (RemainsWritten instant scene) := by
  have decided := isDecided_of_uncancelled uncancelled finishes
  by_cases exited : ending = .verdict .exited
  · subst exited
    obtain ⟨middle, leads, -, settles⟩ := supervise_of_exited decided container began
    refine Leaves.of_eq settles (leaves_remainsWritten (isStepwise_keepsPieces.settle _ _ _ _) causal
      leads.engine_eq ?_ leads.reached)
    rw [leads.waits.same]
  · obtain ⟨halted, halts, unfolded⟩ := supervise_of_decided decided exited container began
    refine Leaves.of_eq unfolded (leaves_remainsWritten ?_ causal ?_ ?_ halts.reached)
    · apply Follows.bind (isStepwise_keepsPieces.stop _ _ _)
      intro _
      cases ending with
      | verdict verdict => exact isStepwise_keepsPieces.settle _ _ _ _
      | consumerFailed => exact isStepwise_keepsPieces.throws (by simp) (by simp)
    · rw [halts.same]
    · rw [halts.same]

end Activity

/-- The run of a request looks at its reader at an instant: its process has started in time, and its
race is not over before. -/
structure Request.IsWatched (request : Request) (origin instant : Rat) : Prop where
  starts : request.Starts
  inTime : ¬ Field.IsOver (request.deadline origin) (request.launch.startInstant origin)
  racing : ∃ decision ending, (request.raceFrom origin).finish = some (decision, ending) ∧
    instant ≤ decision

namespace Execution

open Activity

variable {request : Request} {origin : Moment} {instant : Rat}

/-- The consumer of a run has failed at an instant, on a chunk that it got by the end of the run. -/
def FailsAt (request : Request) (instant : Rat) (execution : Execution) : Prop :=
  (execution.engine.capture (ceiling request) request.consumer
    (some execution.finish.instant)).finish = some (instant, .consumerFailed)

/-- What a run that nobody cancels leaves, if its race ends. -/
structure IsSettled (request : Request) (origin : Moment) (decision : Rat) (ending : RaceEnd) :
    Prop where
  reached : decision ≤ (run request origin).finish.instant
  written : Pipe.piecesBy decision ((run request origin).engine.pipe .stdout).pieces =
    Pipe.piecesBy decision ((request.processAt
      (request.launch.startInstant origin.instant)).pipe .stdout).pieces
  result : (run request origin).result ≠ .error .unending →
    ((run request origin).result = .error .consumerFailed ↔ ending = .consumerFailed)

theorem isSettled_of_finish (hosted : request.runtime.isHost = true)
    (uncancelled : request.cancelAt = none) (causal : request.IsCausal) (starts : request.Starts)
    {decision : Rat} {ending : RaceEnd}
    (finishes : (request.raceFrom origin.instant).finish = some (decision, ending)) :
    IsSettled request origin decision ending := by
  obtain ⟨scene, underWay, unset, executes⟩ :=
    @execute_of_uncancelled request origin starts uncancelled
  rw [← underWay.races] at finishes
  have begun : scene.IsCausal := by
    refine ⟨?_, underWay.helper ▸ causal.helper⟩
    rw [underWay.engine]
    exact ⟨causal.process.onTerminate, causal.process.onKill⟩
  have remains := supervise_remainsWritten begun unset request.container origin.instant finishes
  rw [Leaves, ← executes] at remains
  cases outcome : execute request (opening request origin) with
  | ok result last =>
      rw [outcome] at remains
      obtain ⟨reached, written⟩ := remains
      obtain ⟨_, verdict, concluded⟩ := supervise_ok (executes.symm.trans outcome)
      cases finishes.symm.trans concluded.finishes
      rw [underWay.engine] at written
      refine ⟨?_, ?_, ?_⟩ <;> rw [run_of_ok outcome]
      · exact reached
      · exact written
      · simp
  | error problem last =>
      rw [outcome] at remains
      obtain ⟨reached, written⟩ := remains
      rw [underWay.engine] at written
      refine ⟨?_, ?_, ?_⟩ <;> rw [run_of_error outcome]
      · exact reached
      · exact written
      · intro settles
        rcases supervise_raises hosted unset finishes (executes.symm.trans outcome) with
          rfl | ⟨rfl, rfl⟩
        · exact absurd rfl settles
        · simp

theorem unending_of_endless (uncancelled : request.cancelAt = none) (starts : request.Starts)
    (endless : (request.raceFrom origin.instant).finish = none) :
    (run request origin).result = .error .unending := by
  obtain ⟨scene, underWay, unset, executes⟩ :=
    @execute_of_uncancelled request origin starts uncancelled
  rw [← underWay.races] at endless
  rw [run_of_error (executes.trans (supervise_of_endless _ _ unset endless))]

/-- A consumer that has failed by the end of a run has ended its race, exactly if the run looked at
its reader when it failed. -/
theorem IsSettled.ending_eq_iff {decision : Rat} {ending : RaceEnd}
    (settled : IsSettled request origin decision ending) (starts : request.Starts)
    (finishes : (request.raceFrom origin.instant).finish = some (decision, ending))
    (fails : (run request origin).FailsAt request instant) :
    ending = .consumerFailed ↔ request.IsWatched origin.instant instant := by
  let start := request.launch.startInstant origin.instant
  have ends : (field request (request.processAt start)).Ends (request.deadline origin.instant) start
      (some (decision, ending)) := by
    rw [← finishes]
    exact Field.run_ends _ _ _
  constructor
  · rintro rfl
    have inTime : ¬ Field.IsOver (request.deadline origin.instant) start := by
      intro spent
      simpa using ends.eq_of_isOver spent
    obtain ⟨failure, output, early⟩ :=
      Field.output_of_consumerFailed (ends.endingBy_eq (by simp))
    have within : Capture.isWithin (some (run request origin).finish.instant) failure = true :=
      decide_eq_true (early.trans settled.reached)
    -- the failure that ended the race is the one that the run has seen by its end
    have same := Process.consumerFailed_of_agree settled.written.symm early within output
    cases same.symm.trans fails
    exact ⟨starts, inTime, decision, _, finishes, early⟩
  · rintro ⟨-, inTime, _, _, finishes', early⟩
    cases finishes.symm.trans finishes'
    exact ends.consumerFailed inTime
      (Process.consumerFailed_of_agree settled.written early rfl fails) early

/-- A run on the host whose consumer fails raises what the consumer raised, exactly if it still looks
at its reader then.  If its processes come to an end the run does, too, and a process that obeys has
exited before what the consumer raised leaves the run. -/
theorem raises_iff_isWatched (request : Request) (origin : Moment)
    (hosted : request.runtime.isHost = true) (uncancelled : request.cancelAt = none)
    (causal : request.IsCausal) (fails : (run request origin).FailsAt request instant) :
    let execution := run request origin
    (execution.result ≠ .error .unending →
      (execution.result = .error .consumerFailed ↔ request.IsWatched origin.instant instant)) ∧
    (request.IsWatched origin.instant instant → request.IsStoppable →
      execution.result ≠ .error .unending) ∧
    (execution.result = .error .consumerFailed → request.launch.process.Obeys →
      execution.engine.hasExited execution.finish.instant = true) := by
  intro execution
  refine ⟨?_, ?_, ?_⟩
  · intro settles
    by_cases starts : request.Starts
    · cases finishes : (request.raceFrom origin.instant).finish with
      | none => exact absurd (unending_of_endless uncancelled starts finishes) settles
      | some finish =>
          have settled := isSettled_of_finish hosted uncancelled causal starts finishes
          rw [settled.result settles]
          exact settled.ending_eq_iff starts finishes fails
    · constructor
      · intro raised
        rcases result_of_not_starts starts with ended | ⟨failure, ended⟩ <;>
          cases raised.symm.trans ended
      · intro watched
        exact absurd watched.starts starts
  · intro watched stoppable
    obtain ⟨scene, underWay, unset, executes⟩ :=
      @execute_of_uncancelled request origin watched.starts uncancelled
    obtain ⟨decision, ending, finishes, -⟩ := watched.racing
    rw [← underWay.races] at finishes
    rcases supervise_returns request.container origin.instant unset finishes
        (fun _ => underWay.isStoppable stoppable uncancelled) (fun _ => stoppable.grace)
      with ⟨-, last, raises⟩ | ⟨_, -, result, last, returns⟩
    · simp only [execution]
      rw [run_of_error (executes.trans raises)]
      simp
    · simp only [execution]
      rw [run_of_ok (executes.trans returns)]
      simp
  · intro raised obeys
    have starts : request.Starts := by
      by_contra fails
      rcases result_of_not_starts fails with ended | ⟨failure, ended⟩ <;>
        cases raised.symm.trans ended
    have undisturbed : request.launch.IsUndisturbed origin.instant request.cancelAt := by
      simp [uncancelled, Launch.IsUndisturbed]
    apply hasExited_of_settled ⟨hosted, starts, obeys, undisturbed⟩
    · rw [raised]
      simp
    · simp [uncancelled]

/-- A process that writes once and ignores the request to terminate, in a run that has a second and a
grace period of two, for a consumer that fails at its first chunk. -/
def jarring (instant : Rat) : Request where
  runtime := .host false []
  image := "image"
  spec := { name := "tool", command := some ["tool"] }
  limits := { timeout := .int 1 }
  grace := .int 2
  consumer := .chunks (some 1)
  launch :=
    { process :=
        { name := "tool"
          onTerminate := .ignores
          timeline :=
            { events := [(instant, .write .stdout [120])]
              ordered := List.pairwise_singleton _ _ } } }

/-- In the race, what the consumer raises is heard. -/
theorem jarring_raises :
    (run (jarring (1 / 2))).FailsAt (jarring (1 / 2)) (1 / 2) ∧
      (run (jarring (1 / 2))).result = .error .consumerFailed ∧
        (run (jarring (1 / 2))).engine.hasExited (run (jarring (1 / 2))).finish.instant = true := by
  have obeys : (jarring (1 / 2)).launch.process.Obeys := ⟨by simp [jarring], 0, -9, rfl⟩
  have causal : (jarring (1 / 2)).IsCausal :=
    ⟨⟨trivial, le_refl (0 : Rat)⟩, fun _ _ stops => by cases stops⟩
  have stoppable : (jarring (1 / 2)).IsStoppable :=
    ⟨.inr obeys, ⟨2, rfl⟩, by simp [jarring, Runtime.isHost]⟩
  have fails : (run (jarring (1 / 2))).FailsAt (jarring (1 / 2)) (1 / 2) := by
    unfold FailsAt
    decide +kernel
  have watched : (jarring (1 / 2)).IsWatched 0 (1 / 2) := by
    refine ⟨⟨rfl, List.cons_ne_nil _ _⟩, ?_, 1 / 2, .consumerFailed, by decide +kernel, le_refl _⟩
    rintro ⟨last, limited, passed⟩
    have limit : (jarring (1 / 2)).deadline 0 = some 1 := by decide +kernel
    cases limit.symm.trans limited
    exact absurd passed (by decide +kernel)
  obtain ⟨raises, settles, exits⟩ :=
    raises_iff_isWatched (jarring (1 / 2)) .start rfl rfl causal fails
  have raised := (raises (settles watched stoppable)).mpr watched
  exact ⟨fails, raised, exits raised obeys⟩

/-- In the grace period it is not: the run returns a result. -/
theorem jarring_unheard :
    (run (jarring 2)).FailsAt (jarring 2) 2 ∧ ∃ result, (run (jarring 2)).result = .ok result := by
  have returns : (run (jarring 2)).result.toOption.isSome = true := by decide +kernel
  refine ⟨by unfold FailsAt; decide +kernel, ?_⟩
  cases outcome : (run (jarring 2)).result with
  | error problem => simp [outcome, Except.toOption] at returns
  | ok result => exact ⟨result, rfl⟩

end Execution

end AnalysisEngines
