import AnalysisEngines.Proofs.Run.Classification
import AnalysisEngines.Proofs.Run.Reading
import AnalysisEngines.Proofs.Run.Streaming
import AnalysisEngines.Proofs.Run.Writing

/-!
# What is delivered of the output of a run

What a run delivers of the output of its process is a prefix of it: the whole output if nothing cut
the run short, and as much as the ceiling allows if the run was ended for that.  It does not matter
how the output is cut into reads, nor whether it goes to the result or to a consumer.
-/

set_option autoImplicit false

namespace AnalysisEngines

/-- Limits that have been checked allow for some output. -/
theorem Limits.toNat_ceiling {limits : Limits} (valid : limits.check = .ok limits) :
    (limits.ceiling.toNat : Int) = limits.ceiling := by
  apply Int.toNat_of_nonneg
  by_contra negative
  unfold check at valid
  split at valid
  · cases valid
  · rw [if_pos (by omega)] at valid
    cases valid

namespace Activity

variable {request : Request} {scene last : Scene} {container : Option String} {began : Rat}
  {deadline : Option Rat} {result : RunResult}

/-- When a run ends because of too much output, more than the ceiling allows has been written. -/
theorem supervise_exceeded (causal : scene.IsCausal) (uncancelled : scene.cancelAt = none)
    (returns : supervise request container began deadline scene = .ok result last)
    (exceeded : result.outputExceeded = true) :
    ceiling request <
      (Pipe.bytesBy last.now.instant (last.engine.pipe .stdout).pieces).length := by
  obtain ⟨instant, verdict, concluded⟩ := supervise_ok returns
  have isExceeded : verdict = .outputExceeded := by
    rw [concluded.reported] at exceeded
    exact beq_iff_eq.mp exceeded
  subst isExceeded
  have ends := raceOf_ends request deadline scene
  rw [concluded.finishes] at ends
  obtain ⟨passing, output, early⟩ := Field.output_of_exceeded (ends.endingBy_eq (by simp))
  have written := (Process.passesAt?_eq_some_iff.mp (Process.passesAt?_of_exceeded output)).1
  -- what had been written when the race ended is still written when the run is over
  obtain ⟨halted, halts, unfolded⟩ := supervise_of_decided
    (isDecided_of_uncancelled uncancelled concluded.finishes) (by simp) container began
  have engine : halted.engine = scene.engine := by rw [halts.same]
  have helper : halted.helper = scene.helper := by rw [halts.same]
  have keeps : Follows Scene.KeepsWritten
      (stop request.runtime container request.grace >>= fun _ =>
        settle request container began .outputExceeded) :=
    .bind (isStepwise_keepsWritten.stop _ _ _) fun _ => isStepwise_keepsWritten.settle _ _ _ _
  obtain ⟨-, -, kept⟩ := keeps.ok (unfolded.symm.trans returns)
    ⟨engine ▸ causal.engine, helper ▸ causal.helper⟩
  have later := Pipe.bytesBy_prefix_bytesBy (last.engine.pairwise_pieces .stdout)
    (early.trans concluded.reached)
  calc
    ceiling request < (Pipe.bytesBy passing (scene.engine.pipe .stdout).pieces).length := written
    _ = (Pipe.bytesBy passing (last.engine.pipe .stdout).pieces).length := by
        rw [kept .stdout passing (halts.reached ▸ early), engine]
    _ ≤ (Pipe.bytesBy last.now.instant (last.engine.pipe .stdout).pieces).length := later.length_le

/-- When nothing cut a run short, all has been written, and no more than the ceiling allows. -/
theorem supervise_whole
    (returns : supervise request container began deadline scene = .ok result last)
    (untimed : result.timedOut = false) (unexceeded : result.outputExceeded = false) :
    Pipe.bytesBy last.now.instant (last.engine.pipe .stdout).pieces =
        (last.engine.pipe .stdout).pieces.flatMap (·.2) ∧
      ((last.engine.pipe .stdout).pieces.flatMap (·.2)).length ≤ ceiling request := by
  obtain ⟨instant, verdict, concluded⟩ := supervise_ok returns
  have isExited : verdict = .exited := by
    rw [concluded.reported] at untimed unexceeded
    cases verdict with
    | exited => rfl
    | timeout => cases untimed
    | aborted => cases untimed
    | outputExceeded => cases unexceeded
  rw [concluded.kept isExited]
  subst isExited
  have ends := raceOf_ends request deadline scene
  rw [concluded.finishes] at ends
  obtain ⟨closing, output, early⟩ := Field.output_of_exited (ends.endingBy_eq (by simp))
  obtain ⟨within, closed⟩ := Process.closedAt_of_closed output
  constructor
  · apply Pipe.bytesBy_of_le
    intro piece member
    calc
      piece.1 ≤ closing := Pipe.le_closedAt scene.engine.timeline.ordered closed member
      _ ≤ instant := early
      _ ≤ last.now.instant := concluded.reached
  · simpa using (Pipe.passes?_eq_none_iff (Nat.zero_le _) _).mp within

end Activity

namespace Execution

variable {request : Request} {origin : Moment} {result : RunResult}

/-- All that the process of a run writes to standard output before it is closed. -/
def written (execution : Execution) : Bytes :=
  (execution.engine.pipe .stdout).pieces.flatMap (·.2)

/-- What a run delivers: the output in its result, or the chunks that its consumer gets. -/
def delivered (request : Request) (execution : Execution) : Bytes :=
  match request.consumer with
  | .chunks _ => (execution.chunks request).flatten
  | .result =>
      match execution.result with
      | .ok result => result.output
      | .error _ => []

/-- The consumer of a run has not failed by the end of the run. -/
def IsUnfailing (request : Request) (execution : Execution) : Prop :=
  (execution.engine.capture (Activity.ceiling request) request.consumer
    (some execution.finish.instant)).IsUnfailing

theorem isUnfailing_of_isSteady (steady : request.consumer.IsSteady) (execution : Execution) :
    execution.IsUnfailing request := Capture.isUnfailing_of_isSteady steady 0 0

theorem flatten_chunks {execution : Execution} (unfailing : execution.IsUnfailing request) :
    (execution.chunks request).flatten =
      (Pipe.bytesBy execution.finish.instant (execution.engine.pipe .stdout).pieces).take
        (Activity.ceiling request) :=
  Process.flatten_capture unfailing

/-- The output of a result is what a consumer would have got. -/
theorem delivered_of_result (uncancelled : request.cancelAt = none)
    (returned : (run request origin).result = .ok result) :
    (run request origin).delivered request = ((run request origin).chunks request).flatten := by
  unfold delivered
  cases kind : request.consumer with
  | chunks failsAt => rfl
  | result =>
      obtain ⟨scene, last, -, -, returns, runs⟩ := supervise_of_result uncancelled returned
      obtain ⟨_, _, concluded⟩ := Activity.supervise_ok returns
      simp only [runs]
      rw [concluded.reported]
      simp only [Activity.resultOf, Activity.capturedOutput, kind]
      rw [chunks, chunksBy, kind]

/-- What is delivered is a prefix of what is written, and no longer than the ceiling. -/
theorem delivered_prefix (uncancelled : request.cancelAt = none)
    (unfailing : (run request origin).IsUnfailing request) :
    (run request origin).delivered request <+: (run request origin).written ∧
      ((run request origin).delivered request).length ≤ Activity.ceiling request := by
  have chunks : ((run request origin).chunks request).flatten <+: (run request origin).written ∧
      ((run request origin).chunks request).flatten.length ≤ Activity.ceiling request := by
    rw [flatten_chunks unfailing]
    refine ⟨(List.take_prefix _ _).trans ?_, List.length_take_le _ _⟩
    exact Pipe.bytesBy_prefix (Process.pairwise_pieces _ _) _
  cases returned : (run request origin).result with
  | ok result =>
      rw [delivered_of_result uncancelled returned]
      exact chunks
  | error problem =>
      unfold delivered
      cases request.consumer with
      | chunks failsAt => exact chunks
      | result =>
          simp only [returned]
          exact ⟨List.nil_prefix, Nat.zero_le _⟩

/-- A run that is ended because of too much output has delivered as much as the ceiling allows. -/
theorem delivered_of_exceeded (uncancelled : request.cancelAt = none)
    (unfailing : (run request origin).IsUnfailing request) (causal : request.IsCausal)
    (returned : (run request origin).result = .ok result)
    (exceeded : result.outputExceeded = true) :
    Activity.ceiling request < (run request origin).written.length ∧
      ((run request origin).delivered request).length = Activity.ceiling request := by
  obtain ⟨scene, last, underWay, unset, returns, runs⟩ := supervise_of_result uncancelled returned
  have begun : scene.IsCausal := by
    refine ⟨?_, underWay.helper ▸ causal.helper⟩
    rw [underWay.engine]
    exact ⟨causal.process.onTerminate, causal.process.onKill⟩
  have passed := Activity.supervise_exceeded begun unset returns exceeded
  rw [delivered_of_result uncancelled returned, flatten_chunks unfailing, runs]
  have all := Pipe.bytesBy_prefix (last.engine.pairwise_pieces .stdout) last.now.instant
  exact ⟨passed.trans_le all.length_le, List.length_take_of_le passed.le⟩

/-- A run that nothing cut short has delivered all that is written. -/
theorem delivered_of_exited (uncancelled : request.cancelAt = none)
    (unfailing : (run request origin).IsUnfailing request)
    (returned : (run request origin).result = .ok result)
    (untimed : result.timedOut = false) (unexceeded : result.outputExceeded = false) :
    (run request origin).delivered request = (run request origin).written := by
  obtain ⟨scene, last, -, -, returns, runs⟩ := supervise_of_result uncancelled returned
  obtain ⟨whole, within⟩ := Activity.supervise_whole returns untimed unexceeded
  rw [delivered_of_result uncancelled returned, flatten_chunks unfailing, runs]
  show (Pipe.bytesBy last.now.instant _).take _ = _
  rw [whole]
  exact List.take_of_length_le within

/-- A run delivers to a consumer what it otherwise puts into its result. -/
theorem delivered_streamed (uncancelled : request.cancelAt = none)
    (returned : (run request.captured origin).result = .ok result) :
    (run request.streamed origin).delivered request.streamed = result.output := by
  obtain ⟨engine, finish, -⟩ := run_streamed request origin
  have ceiling : Activity.ceiling request.streamed = Activity.ceiling request.captured := rfl
  have unset : request.captured.cancelAt = none := uncancelled
  have output : (run request.captured origin).delivered request.captured = result.output := by
    have kind : request.captured.consumer = .result := rfl
    simp only [delivered, kind, returned]
  have streams : (run request.streamed origin).delivered request.streamed =
      ((run request.streamed origin).chunks request.streamed).flatten := rfl
  rw [← output, delivered_of_result unset returned, streams,
    flatten_chunks (isUnfailing_of_isSteady request.captured_isSteady _),
    flatten_chunks (isUnfailing_of_isSteady request.streamed_isSteady _), engine, finish, ceiling]

/-- What is delivered is a prefix of what is written, in chunks that are not empty: exactly as much
as the ceiling allows if the run was ended for that, and everything if nothing cut it short.  It
does not depend on how the bytes are cut into reads, nor does a run on who gets them. -/
theorem output_isFaithful (request : Request) (origin : Moment)
    (uncancelled : request.cancelAt = none) (unfailing : (run request origin).IsUnfailing request)
    (valid : request.limits.check = .ok request.limits) (causal : request.IsCausal) :
    let execution := run request origin
    let delivered := execution.delivered request
    (delivered <+: execution.written ∧ (delivered.length : Int) ≤ request.limits.ceiling ∧
      [] ∉ execution.chunks request) ∧
    (∀ result, execution.result = .ok result →
      (result.outputExceeded = true →
        request.limits.ceiling < execution.written.length ∧
          (delivered.length : Int) = request.limits.ceiling) ∧
      (result.timedOut = false → result.outputExceeded = false → result.aborted = false →
        delivered = execution.written)) ∧
    (∀ (process : Process) (reads : List (Rat × Bytes)), (process.pipe .stdout).IsCut reads →
      process.IsReadAlike (Activity.ceiling request) request.consumer reads) ∧
    (run request.streamed origin).result =
      (run request.captured origin).result.map (fun result => { result with output := [] }) ∧
    ∀ result, (run request.captured origin).result = .ok result →
      (run request.streamed origin).delivered request.streamed = result.output := by
  intro execution delivered
  have ceiling : (Activity.ceiling request : Int) = request.limits.ceiling :=
    Limits.toNat_ceiling valid
  rw [← ceiling]
  refine ⟨?_, fun result returned => ⟨fun exceeded => ?_, fun untimed unexceeded _ => ?_⟩,
    fun process reads isCut => Process.isReadAlike_of_isCut isCut _ _,
    (run_streamed request origin).2.2, fun result returned => ?_⟩
  · obtain ⟨isPrefix, within⟩ := delivered_prefix uncancelled unfailing
    exact ⟨isPrefix, Int.ofNat_le.mpr within, Capture.nil_notMem_chunks _ 0 0⟩
  · obtain ⟨more, exactly⟩ := delivered_of_exceeded uncancelled unfailing causal returned exceeded
    exact ⟨Int.ofNat_lt.mpr more, congrArg Nat.cast exactly⟩
  · exact delivered_of_exited uncancelled unfailing returned untimed unexceeded
  · exact delivered_streamed uncancelled returned

/-- A process that goes on writing, for a consumer that is to get four bytes at most. -/
def talkative : Request where
  runtime := .host false []
  image := "image"
  spec := { name := "tool", command := some ["tool"] }
  limits := { timeout := .int 5, ceiling := 4 }
  consumer := .chunks none
  launch :=
    { process :=
        { name := "tool"
          timeline :=
            { events := [(1, .write .stdout [1, 2]), (2, .write .stdout [3, 4, 5])]
              ordered := by simp } } }

theorem talkative_isFaithful :
    ∃ result, (run talkative).result = .ok result ∧ result.outputExceeded = true ∧
      (4 : Int) < (run talkative).written.length ∧
        (((run talkative).delivered talkative).length : Int) = 4 := by
  have steady : talkative.consumer.IsSteady := fun _ => rfl
  have starts : talkative.Starts := ⟨rfl, List.cons_ne_nil _ _⟩
  have stoppable : talkative.IsStoppable :=
    ⟨.inr ⟨by simp [talkative], 0, -9, rfl⟩, ⟨10, rfl⟩, by simp [talkative, Runtime.isHost]⟩
  have causal : talkative.IsCausal :=
    ⟨⟨le_refl (0 : Rat), le_refl (0 : Rat)⟩, fun _ _ stops => by cases stops⟩
  obtain ⟨result, returned⟩ :=
    @run_returns talkative .start rfl starts steady (fun _ => stoppable) (.inl (by decide +kernel))
  obtain ⟨final, reported, -⟩ := result_of_run rfl steady returned
  have verdict : (talkative.milestones 0).verdict = .outputExceeded := by decide +kernel
  have exceeded : result.outputExceeded = true := by
    rw [reported]
    exact beq_iff_eq.mpr verdict
  obtain ⟨-, classified, -⟩ := output_isFaithful talkative .start rfl
    (isUnfailing_of_isSteady steady _) rfl causal
  exact ⟨result, returned, exceeded, (classified result returned).1 exceeded⟩

end Execution

end AnalysisEngines
