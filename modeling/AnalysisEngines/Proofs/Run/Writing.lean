import AnalysisEngines.Proofs.Run.Nature
import AnalysisEngines.Proofs.Run.Output

/-!
# What has been written stays written

Signals and the request to stop a container change what a process does from then on.  What it has
written until then they do not change, as nothing reacts before it is asked to.
-/

set_option autoImplicit false

namespace AnalysisEngines

/-- A reaction that does not come before its signal. -/
def Reaction.IsCausal : Reaction → Prop
  | .exits delay _ => 0 ≤ delay
  | .ignores => True
  | .vanished => True

structure Process.IsCausal (process : Process) : Prop where
  onTerminate : process.onTerminate.IsCausal
  onKill : process.onKill.IsCausal

/-- A helper that does not stop the container before it has been started. -/
def Helper.IsCausal (helper : Helper) : Prop :=
  ∀ span status, helper.containerExit = some (span, status) → 0 ≤ span

/-- A request in which nothing happens before its cause. -/
structure Request.IsCausal (request : Request) : Prop where
  process : request.launch.process.IsCausal
  helper : request.helper.IsCausal

/-- A scene in which nothing happens before its cause. -/
structure Scene.IsCausal (scene : Scene) : Prop where
  engine : scene.engine.IsCausal
  helper : scene.helper.IsCausal

/-! ## Exits that are added to a timeline -/

namespace Pipe

/-- The pieces that have been written by an instant. -/
def piecesBy (now : Rat) (pieces : List (Rat × Bytes)) : List (Rat × Bytes) :=
  pieces.filter fun piece => piece.1 ≤ now

theorem bytesBy_eq (now : Rat) (pieces : List (Rat × Bytes)) :
    bytesBy now pieces = (piecesBy now pieces).flatMap (·.2) := rfl

theorem piecesBy_cons (now : Rat) (piece : Rat × Bytes) (rest : List (Rat × Bytes)) :
    piecesBy now (piece :: rest) =
      (if piece.1 ≤ now then [piece] else []) ++ piecesBy now rest := by
  by_cases reached : piece.1 ≤ now <;> simp [piecesBy, reached]

theorem piecesBy_eq_nil {pieces : List (Rat × Bytes)} {now : Rat}
    (late : ∀ piece ∈ pieces, now < piece.1) : piecesBy now pieces = [] :=
  List.filter_eq_nil_iff.mpr fun piece member => by simpa using late piece member

/-- An exit does not change what has been written before. -/
theorem piecesBy_insertEvent (stream : Stream) (holdsPipes : Bool)
    {events : List (Rat × Effect)}
    (ordered : events.Pairwise fun earlier later => earlier.1 ≤ later.1) {now instant : Rat}
    (order : now ≤ instant) (status : Int) :
    piecesBy now
        (ofEvents stream holdsPipes (Timeline.insertEvent instant (.exit status) events)).pieces =
      piecesBy now (ofEvents stream holdsPipes events).pieces := by
  induction events with
  | nil => cases holdsPipes <;> rfl
  | cons event rest ih =>
      obtain ⟨bounds, tail⟩ := List.pairwise_cons.mp ordered
      by_cases before : event.1 ≤ instant
      · rw [Timeline.insertEvent, if_pos before]
        rcases event with ⟨time, ⟨target, bytes⟩ | target | code⟩
        · by_cases same : target = stream
          · simp only [ofEvents, same, if_true, piecesBy_cons, ih tail]
          · simpa only [ofEvents, same, if_false] using ih tail
        · by_cases same : target = stream
          · simp only [ofEvents, same, if_true]
          · simpa only [ofEvents, same, if_false] using ih tail
        · cases holdsPipes with
          | true => simpa only [ofEvents, if_true] using ih tail
          | false => rfl
      · rw [Timeline.insertEvent, if_neg before]
        cases holdsPipes with
        | true => rfl
        | false =>
            -- the new exit closes the pipe, and all that it cuts off would have come later
            symm
            apply piecesBy_eq_nil
            intro piece member
            apply order.trans_lt
            rcases List.mem_cons.mp (mem_pieces member) with first | inRest
            · rw [← first] at before
              exact not_le.mp before
            · exact (not_le.mp before).trans_le (bounds _ inRest)

end Pipe

namespace Process

theorem IsCausal.reaction {process : Process} (causal : process.IsCausal) (signal : Signal) :
    (process.reaction signal).IsCausal := by
  cases signal with
  | terminate => exact causal.onTerminate
  | kill => exact causal.onKill

variable {now : Rat} (process : Process) (stream : Stream)

theorem piecesBy_schedule {instant : Rat} (order : now ≤ instant) (status : Int) :
    Pipe.piecesBy now ((process.schedule instant (.exit status)).pipe stream).pieces =
      Pipe.piecesBy now (process.pipe stream).pieces :=
  Pipe.piecesBy_insertEvent stream process.holdsPipes process.timeline.ordered order status

theorem piecesBy_react {instant : Rat} (order : now ≤ instant) (causal : process.IsCausal)
    (signal : Signal) :
    Pipe.piecesBy now ((process.react signal instant).pipe stream).pieces =
      Pipe.piecesBy now (process.pipe stream).pieces := by
  have prompt := causal.reaction signal
  unfold react
  cases reaction : process.reaction signal with
  | ignores => rfl
  | vanished => rfl
  | exits delay status =>
      rw [reaction] at prompt
      exact process.piecesBy_schedule stream (order.trans (le_add_of_nonneg_right prompt)) status

theorem piecesBy_actOn {helper : Helper} {instant : Rat} (order : now ≤ instant)
    (causal : helper.IsCausal) :
    Pipe.piecesBy now ((helper.actOn instant process).pipe stream).pieces =
      Pipe.piecesBy now (process.pipe stream).pieces := by
  unfold Helper.actOn
  cases exits : helper.containerExit with
  | none => rfl
  | some exit =>
      have later : instant ≤ instant + exit.1 :=
        le_add_of_nonneg_right (causal exit.1 exit.2 exits)
      exact process.piecesBy_schedule stream (order.trans later) exit.2

theorem IsCausal.react {process : Process} (causal : process.IsCausal) (signal : Signal)
    (instant : Rat) : (process.react signal instant).IsCausal := by
  unfold Process.react
  split
  · exact ⟨causal.onTerminate, causal.onKill⟩
  · exact causal
  · exact causal

theorem IsCausal.actOn {process : Process} (causal : process.IsCausal) (helper : Helper)
    (instant : Rat) : (helper.actOn instant process).IsCausal := by
  unfold Helper.actOn
  split
  · exact ⟨causal.onTerminate, causal.onKill⟩
  · exact causal

end Process

/-! ## Activities -/

/-- What the engine has written by an instant stays written, piece by piece, if nothing happens
before its cause. -/
def Scene.KeepsPieces (before : Scene) (_ : Option RunProblem) (after : Scene) : Prop :=
  before.IsCausal → after.IsCausal ∧ before.now.instant ≤ after.now.instant ∧
    ∀ stream now, now ≤ before.now.instant →
      Pipe.piecesBy now (after.engine.pipe stream).pieces =
        Pipe.piecesBy now (before.engine.pipe stream).pieces

instance : IsPassage Scene.KeepsPieces where
  refl _ causal := ⟨causal, le_refl _, fun _ _ _ => rfl⟩
  trans first second causal := by
    obtain ⟨causal', order, written⟩ := first causal
    obtain ⟨causal'', order', written'⟩ := second causal'
    exact ⟨causal'', order.trans order', fun stream now early =>
      (written' stream now (early.trans order)).trans (written stream now early)⟩

theorem Scene.KeepsPieces.of_same {before after : Scene} {problem : Option RunProblem}
    (engine : after.engine = before.engine) (helper : after.helper = before.helper)
    (order : before.now.instant ≤ after.now.instant) : before.KeepsPieces problem after := by
  intro causal
  refine ⟨⟨engine ▸ causal.engine, helper ▸ causal.helper⟩, order, fun stream now _ => ?_⟩
  rw [engine]

/-- What the engine has written by an instant stays written, if nothing happens before its cause. -/
def Scene.KeepsWritten (before : Scene) (_ : Option RunProblem) (after : Scene) : Prop :=
  before.IsCausal → after.IsCausal ∧ before.now.instant ≤ after.now.instant ∧
    ∀ stream now, now ≤ before.now.instant →
      Pipe.bytesBy now (after.engine.pipe stream).pieces =
        Pipe.bytesBy now (before.engine.pipe stream).pieces

instance : IsPassage Scene.KeepsWritten where
  refl _ causal := ⟨causal, le_refl _, fun _ _ _ => rfl⟩
  trans first second causal := by
    obtain ⟨causal', order, written⟩ := first causal
    obtain ⟨causal'', order', written'⟩ := second causal'
    exact ⟨causal'', order.trans order', fun stream now early =>
      (written' stream now (early.trans order)).trans (written stream now early)⟩

theorem Scene.KeepsPieces.keepsWritten {before after : Scene} {problem : Option RunProblem}
    (keeps : before.KeepsPieces problem after) : before.KeepsWritten problem after := by
  intro causal
  obtain ⟨causal', order, pieces⟩ := keeps causal
  refine ⟨causal', order, fun stream now early => ?_⟩
  rw [Pipe.bytesBy_eq, Pipe.bytesBy_eq, pieces stream now early]

namespace Activity

theorem keepsPieces_of_waits {scene last : Scene} {problem : Option RunProblem}
    (waited : scene.Waits problem last) : scene.KeepsPieces problem last :=
  .of_same (waited.process_eq .engine) (by rw [waited.same]) (Moment.instant_le waited.now)

theorem keepsPieces_send (role : Role) (signal : Signal) :
    Follows Scene.KeepsPieces (send role signal) := by
  intro scene
  obtain ⟨answer, last, sent, now, -, helper, reacts⟩ := send_apply role signal scene
  rw [sent]
  have order : scene.now.instant ≤ last.now.instant := by rw [now]
  rcases reacts .engine with same | reacted
  · exact .of_same same helper order
  · intro causal
    change last.engine = scene.engine.react signal scene.now.instant at reacted
    refine ⟨⟨?_, helper ▸ causal.helper⟩, order, fun stream now early => ?_⟩
    · rw [reacted]
      exact causal.engine.react signal _
    · rw [reacted]
      exact scene.engine.piecesBy_react stream early causal.engine signal

theorem keepsPieces_startHelper (command : List String) :
    Follows Scene.KeepsPieces (startHelper command) := by
  intro scene
  unfold startHelper
  rw [bind_of_ok (get_apply scene)]
  cases delays : delay scene.helper.startDelay scene with
  | error problem last =>
      rw [bind_of_error delays]
      exact keepsPieces_of_waits ((waits_delay _).error delays)
  | ok value delayed =>
      have waited := (waits_delay _).ok delays
      have helper : delayed.helper = scene.helper := by rw [waited.same]
      have kept := keepsPieces_of_waits waited
      rw [bind_of_ok delays, bind_of_ok (note_apply _ delayed)]
      cases scene.helper.fault with
      | some fault => exact IsPassage.trans kept (.of_same rfl rfl (le_refl _))
      | none =>
          refine IsPassage.trans kept fun causal => ?_
          refine ⟨⟨causal.engine.actOn _ _, causal.helper⟩, le_refl _, fun stream now early => ?_⟩
          exact delayed.engine.piecesBy_actOn stream early (helper ▸ causal.helper)

theorem isStepwise_keepsPieces : IsStepwise Scene.KeepsPieces where
  waits := keepsPieces_of_waits
  notes _ := fun _ => .of_same rfl rfl (le_refl _)
  throws _ _ := fun _ => .of_same rfl rfl (le_refl _)
  sends := keepsPieces_send
  looksUp _ _ := .of_same rfl rfl (le_refl _)
  helps := keepsPieces_startHelper

theorem isStepwise_keepsWritten : IsStepwise Scene.KeepsWritten :=
  isStepwise_keepsPieces.imp Scene.KeepsPieces.keepsWritten

end Activity

end AnalysisEngines
