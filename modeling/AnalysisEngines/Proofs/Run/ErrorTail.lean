import AnalysisEngines.Proofs.Run.Classification
import AnalysisEngines.Proofs.Run.Execution

/-!
# What is kept of standard error

Of what a process writes to standard error its reader keeps the last bytes, however they are cut
into reads.  A run that returns has read them all if the pipe was closed before the readers' last
moment was over, whatever ended the run.
-/

set_option autoImplicit false

namespace AnalysisEngines

namespace Tail

/-- The last bytes of all, as many as are kept. -/
structure IsOf (all tail : Bytes) : Prop where
  suffix : tail <:+ all
  length : tail.length = min all.length size

variable {all tail other : Bytes}

theorem IsOf.length_le (isOf : IsOf all tail) : tail.length ≤ size := by
  rw [isOf.length]
  exact Nat.min_le_right _ _

theorem IsOf.eq (isOf : IsOf all tail) (isOf' : IsOf all other) : tail = other := by
  have lengths : tail.length = other.length := isOf.length.trans isOf'.length.symm
  rw [List.suffix_iff_eq_drop.mp isOf.suffix, List.suffix_iff_eq_drop.mp isOf'.suffix, lengths]

/-- One more read leaves the last bytes of what has been read, be it larger than the tail. -/
theorem IsOf.push (isOf : IsOf all tail) (read : Bytes) :
    IsOf (all ++ read) (push tail read) where
  suffix := by
    have whole : tail ++ read <:+ all ++ read := by
      obtain ⟨front, rfl⟩ := isOf.suffix
      exact ⟨front, by rw [List.append_assoc]⟩
    exact (List.drop_suffix _ _).trans whole
  length := by
    have kept := isOf.length
    simp only [Tail.push, List.length_drop, List.length_append]
    generalize size = bound at kept ⊢
    omega

theorem isOf_foldl_push (reads : List Bytes) (isOf : IsOf all tail) :
    IsOf (all ++ reads.flatten) (reads.foldl Tail.push tail) := by
  induction reads generalizing all tail with
  | nil => simpa using isOf
  | cons read rest ih =>
      rw [List.flatten_cons, ← List.append_assoc, List.foldl_cons]
      exact ih (isOf.push read)

/-- Whatever the reads are, the last bytes of them are kept. -/
theorem isOf_ofReads (reads : List Bytes) : IsOf reads.flatten (ofReads reads) := by
  have nothing : IsOf [] [] := ⟨List.suffix_rfl, by simp⟩
  exact isOf_foldl_push reads nothing

end Tail

namespace Pipe

variable {reads : List (Rat × Bytes)} {pipe : Pipe}

/-- What has been read in order of time is what has been written by then. -/
theorem flatten_takeWhile (ordered : reads.Pairwise fun earlier later => earlier.1 ≤ later.1)
    (now : Rat) :
    ((reads.takeWhile fun read => read.1 ≤ now).map (·.2)).flatten = bytesBy now reads := by
  induction reads with
  | nil => rfl
  | cons read rest ih =>
      by_cases reached : read.1 ≤ now
      · rw [List.takeWhile_cons_of_pos (by simpa using reached), List.map_cons, List.flatten_cons,
          ih (List.pairwise_cons.mp ordered).2, bytesBy_cons, if_pos reached]
      · rw [List.takeWhile_cons_of_neg (by simpa using reached),
          bytesBy_eq_nil (late_of_pairwise ordered reached)]
        rfl

/-- The tail that is kept at an instant, if the bytes come in given reads. -/
def tailBy (now : Rat) (reads : List (Rat × Bytes)) : Bytes :=
  Tail.ofReads ((reads.takeWhile fun read => read.1 ≤ now).map (·.2))

theorem IsCut.tailBy (isCut : pipe.IsCut reads) (now : Rat) :
    Tail.IsOf (bytesBy now pipe.pieces) (tailBy now reads) := by
  rw [← isCut.same now, ← flatten_takeWhile isCut.ordered now]
  exact Tail.isOf_ofReads _

end Pipe

namespace Process

theorem stderrTail_isOf (process : Process) (now : Rat) :
    Tail.IsOf (Pipe.bytesBy now (process.pipe .stderr).pieces) (process.stderrTail now) :=
  (Pipe.isCut_reads (process.pairwise_pieces .stderr)).tailBy now

end Process

namespace Activity

variable {request : Request} {scene last : Scene}

/-! ## The last moment of the readers -/

theorem le_lastOf {now latest : Rat} {instants : List (Option Rat)}
    (found : lastOf now instants = some latest) :
    now ≤ latest ∧ ∀ instant, some instant ∈ instants → instant ≤ latest := by
  induction instants generalizing now with
  | nil =>
      cases found
      exact ⟨le_refl _, fun _ absent => nomatch absent⟩
  | cons first rest ih =>
      cases first with
      | none =>
          have never : lastOf now (none :: rest) = none := List.foldl_fixed' (fun _ => rfl) rest
          cases never.symm.trans found
      | some instant =>
          have later : Instant.later now instant = max now instant := rfl
          obtain ⟨bound, each⟩ := @ih (Instant.later now instant) found
          rw [later, max_le_iff] at bound
          refine ⟨bound.1, fun other member => ?_⟩
          rcases List.mem_cons.mp member with same | inRest
          · cases same
            exact bound.2
          · exact each other inRest

/-- The readers have come to the end of standard error if it is closed before their time is over. -/
theorem drain_closes {closing : Rat} {value : Unit}
    (closed : (scene.engine.pipe .stderr).closedAt = some closing)
    (inTime : closing < scene.now.instant + drainSpan)
    (drains : drain request scene = .ok value last) : closing ≤ last.now.instant := by
  have reached : scene.now.instant ≤ last.now.instant :=
    Moment.instant_le ((waits_drain request).ok drains).now
  by_cases pending : scene.now.instant < closing
  · have member : some closing ∈ (readers request scene.engine).filter
        (isPending scene.now.instant) := by
      apply List.mem_filter.mpr
      exact ⟨by simp [readers, closed], by simpa [isPending] using pending⟩
    have paused : ∀ {target turns}, closing ≤ target →
        pause target turns scene = .ok value last → closing ≤ last.now.instant := by
      intro target turns late pauses
      obtain ⟨-, rfl⟩ := pause_eq_ok.mp pauses
      rw [Scene.waitFor_instant]
      exact late.trans (le_max_right _ _)
    unfold drain at drains
    rw [bind_of_ok (get_apply scene)] at drains
    split at drains
    · rename_i none
      simp [List.isEmpty_iff.mp none] at member
    · cases found : lastOf scene.now.instant
          ((readers request scene.engine).filter (isPending scene.now.instant)) with
      | none =>
          rw [found] at drains
          exact paused inTime.le drains
      | some instant =>
          rw [found] at drains
          simp only at drains
          split at drains
          · exact paused ((le_lastOf found).2 closing member) drains
          · exact paused inTime.le drains
  · exact (not_lt.mp pending).trans reached

/-- A run that began at an instant, up to the moment at which its process has exited and the readers
get their last moment: the name of the container, the verdict and the exit status. -/
def untilDrain (request : Request) (began : Rat) : Activity (Option String × Verdict × Int) := do
  let container ← start request
  log (.started request.image container)
  let verdict ← guardedRace request container (request.deadline began)
  if verdict ≠ .exited then
    log (.terminated verdict request.limits)
    stop request.runtime container request.grace
  let exitStatus ← awaitExit .engine 2
  return (container, verdict, exitStatus)

theorem execute_eq (request : Request) :
    execute request = (do
      let began := (← get).now.instant
      let (container, verdict, exitStatus) ← untilDrain request began
      drain request
      finish request container began verdict exitStatus) := by
  simp only [execute, supervise, settle, untilDrain, bind_assoc]
  refine bind_congr fun scene => bind_congr fun container => bind_congr fun _ => ?_
  refine bind_congr fun verdict => ?_
  split <;> simp only [bind_assoc, pure_bind]

end Activity

namespace Execution

variable {request : Request} {origin : Moment} {result : RunResult}

/-- When the readers of a run get their last moment, if it comes to that. -/
def drainStart? (request : Request) (origin : Moment) : Option Rat :=
  match Activity.untilDrain request origin.instant (opening request origin) with
  | .ok _ scene => some scene.now.instant
  | .error _ _ => none

/-- All that the process of a run writes to standard error before it is closed. -/
def writtenToStderr (execution : Execution) : Bytes :=
  (execution.engine.pipe .stderr).pieces.flatMap (·.2)

/-- A run that returns has the tail of what is written in its result, if the pipe is closed before
the time of the readers is over. -/
theorem stderr_of_result (returned : (run request origin).result = .ok result) :
    result.stderr = Utf8.decodeLossy
        ((run request origin).engine.stderrTail (run request origin).finish.instant) ∧
      ∃ start, drainStart? request origin = some start ∧
        ∀ closing, ((run request origin).engine.pipe .stderr).closedAt = some closing →
          closing < start + Activity.drainSpan →
            closing ≤ (run request origin).finish.instant := by
  obtain ⟨last, executes⟩ := execute_of_result returned
  rw [run_of_ok executes]
  rw [Activity.execute_eq, bind_of_ok (get_apply _)] at executes
  obtain ⟨⟨container, verdict, status⟩, middle, reaches, rest⟩ := bind_eq_ok.mp executes
  obtain ⟨_, drained, drains, finishes⟩ := bind_eq_ok.mp rest
  rw [Activity.finish_apply] at finishes
  cases finishes
  have start : drainStart? request origin = some middle.now.instant := by
    have sameOpening : (opening request origin).now.instant = origin.instant := rfl
    rw [sameOpening] at reaches
    rw [drainStart?, reaches]
  refine ⟨rfl, _, start, fun closing closed inTime => ?_⟩
  have engine : drained.engine = middle.engine :=
    ((Activity.waits_drain request).ok drains).process_eq .engine
  exact Activity.drain_closes (engine ▸ closed) inTime drains

/-- The result of a run has the last bytes of what its process has written to standard error,
whatever ended the run, if the pipe is closed before the readers' last second is over.  What is kept
does not depend on how the bytes are cut into reads, and after any reads it is no longer than `size`
and the end of what has been read. -/
theorem stderr_isBounded (request : Request) (origin : Moment) :
    let execution := run request origin
    (∀ result, execution.result = .ok result →
      ∃ start, drainStart? request origin = some start ∧
        ∀ closing, (execution.engine.pipe .stderr).closedAt = some closing → closing < start + 1 →
          ∃ tail, Tail.IsOf execution.writtenToStderr tail ∧
            result.stderr = Utf8.decodeLossy tail) ∧
    (∀ reads, (execution.engine.pipe .stderr).IsCut reads → ∀ now,
      Pipe.tailBy now reads = execution.engine.stderrTail now) ∧
    ∀ reads : List Bytes,
      (Tail.ofReads reads).length ≤ Tail.size ∧ Tail.ofReads reads <:+ reads.flatten := by
  intro execution
  refine ⟨fun result returned => ?_, fun reads isCut now => ?_, fun reads => ?_⟩
  · obtain ⟨stderr, start, starts, closes⟩ := stderr_of_result returned
    refine ⟨start, starts, fun closing closed inTime => ⟨_, ?_, stderr⟩⟩
    have early : ∀ piece ∈ (execution.engine.pipe .stderr).pieces,
        piece.1 ≤ execution.finish.instant := fun piece member =>
      (Pipe.le_closedAt execution.engine.timeline.ordered closed member).trans
        (closes closing closed inTime)
    have tail := execution.engine.stderrTail_isOf execution.finish.instant
    rwa [Pipe.bytesBy_of_le early] at tail
  · exact (isCut.tailBy now).eq (execution.engine.stderrTail_isOf now)
  · exact ⟨(Tail.isOf_ofReads reads).length_le, (Tail.isOf_ofReads reads).suffix⟩

/-- A process that is ended by the time limit and whose standard error stays open for half a second
after that. -/
def lateClosing : Request where
  runtime := .host false []
  image := "image"
  spec := { name := "tool", command := some ["tool"] }
  limits := { timeout := .int 3, ceiling := 4 }
  launch :=
    { process :=
        { name := "tool"
          holdsPipes := true
          timeline :=
            { events := [(1, .write .stderr [65, 66]), (7 / 2, .close .stderr)]
              ordered := by decide +kernel } } }

theorem lateClosing_keepsTail :
    ∃ result, (run lateClosing).result = .ok result ∧ result.timedOut = true ∧
      drainStart? lateClosing .start = some 3 ∧
      ((run lateClosing).engine.pipe .stderr).closedAt = some (7 / 2) ∧
      ∃ tail, Tail.IsOf (run lateClosing).writtenToStderr tail ∧
        result.stderr = Utf8.decodeLossy tail := by
  have ended : (run lateClosing).result.toOption.map (·.timedOut) = some true := by decide +kernel
  cases returned : (run lateClosing).result with
  | error problem => simp [returned, Except.toOption] at ended
  | ok result =>
      have starts : drainStart? lateClosing .start = some 3 := by decide +kernel
      have closed : ((run lateClosing).engine.pipe .stderr).closedAt = some (7 / 2) := by
        decide +kernel
      have inTime : (7 / 2 : Rat) < 3 + 1 := by decide +kernel
      obtain ⟨start, found, keeps⟩ := (stderr_isBounded lateClosing .start).1 result returned
      cases starts.symm.trans found
      refine ⟨result, rfl, ?_, starts, closed, keeps _ closed inTime⟩
      simpa [returned, Except.toOption] using ended

end Execution

end AnalysisEngines
