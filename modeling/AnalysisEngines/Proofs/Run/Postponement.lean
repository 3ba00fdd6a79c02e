import AnalysisEngines.Proofs.Run.Output
import AnalysisEngines.Proofs.Run.Race
import AnalysisEngines.Run.Scene

/-!
# Processes and races that are postponed

A process whose script begins later does the same, by as much later: it exits with the same status,
its pipes carry the same pieces, and a race that waits for it has the same waits and the same end.
-/

set_option autoImplicit false

namespace AnalysisEngines

/-- What happens later by a span. -/
def postpone {α : Type} (span : Rat) (entry : Rat × α) : Rat × α := (span + entry.1, entry.2)

namespace Timeline

theorem startedAt_startedAt (first second : Rat) (timeline : Timeline) :
    (timeline.startedAt first).startedAt second = timeline.startedAt (second + first) := by
  simp only [startedAt, List.map_map, Function.comp_def, add_assoc]

theorem insertEvent_postpone (span instant : Rat) (effect : Effect) (events : List (Rat × Effect)) :
    insertEvent (span + instant) effect (events.map (postpone span)) =
      (insertEvent instant effect events).map (postpone span) := by
  induction events with
  | nil => rfl
  | cons event rest ih =>
      by_cases before : event.1 ≤ instant
      · simp [insertEvent, postpone, before, ih]
      · simp [insertEvent, postpone, before]

theorem schedule_startedAt (span instant : Rat) (effect : Effect) (timeline : Timeline) :
    (timeline.startedAt span).schedule (span + instant) effect =
      (timeline.schedule instant effect).startedAt span := by
  have events := insertEvent_postpone span instant effect timeline.events
  simp only [schedule, startedAt, mk.injEq]
  exact events

end Timeline

namespace Process

variable (span : Rat) (process : Process)

theorem startedAt_startedAt (first second : Rat) :
    (process.startedAt first).startedAt second = process.startedAt (second + first) := by
  simp only [startedAt, Timeline.startedAt_startedAt]

theorem hasExited_startedAt (now : Rat) :
    (process.startedAt span).hasExited (span + now) = process.hasExited now := by
  unfold hasExited status?
  rw [exit?_startedAt]
  cases process.exit? <;> simp

theorem react_startedAt (signal : Signal) (now : Rat) :
    (process.startedAt span).react signal (span + now) =
      (process.react signal now).startedAt span := by
  have reaction : (process.startedAt span).reaction signal = process.reaction signal := by
    cases signal <;> rfl
  unfold react
  rw [reaction]
  cases process.reaction signal with
  | ignores => rfl
  | vanished => rfl
  | exits delay status =>
      simp only [schedule, startedAt, add_assoc, Timeline.schedule_startedAt]

end Process

namespace Helper

theorem actOn_startedAt (helper : Helper) (span now : Rat) (engine : Process) :
    helper.actOn (span + now) (engine.startedAt span) =
      (helper.actOn now engine).startedAt span := by
  unfold actOn
  cases helper.containerExit with
  | none => rfl
  | some exit => simp only [Process.schedule, Process.startedAt, add_assoc,
      Timeline.schedule_startedAt]

theorem processAt_startedAt (helper : Helper) (span now : Rat) (name : String) :
    helper.processAt (span + now) name = (helper.processAt now name).startedAt span := by
  unfold processAt
  cases helper.exitAfter with
  | none => rfl
  | some length =>
      simp only [Process.startedAt, add_assoc, ← Timeline.schedule_startedAt]
      rfl

end Helper

/-! ## Pipes -/

namespace Pipe

/-- A pipe with all that it carries later by a span. -/
def startedAt (span : Rat) (pipe : Pipe) : Pipe where
  pieces := pipe.pieces.map (postpone span)
  closedAt := pipe.closedAt.map (span + ·)

theorem ofEvents_postpone (span : Rat) (stream : Stream) (holdsPipes : Bool)
    (events : List (Rat × Effect)) :
    ofEvents stream holdsPipes (events.map (postpone span)) =
      (ofEvents stream holdsPipes events).startedAt span := by
  induction events with
  | nil => rfl
  | cons event rest ih =>
      rcases event with ⟨instant, ⟨target, bytes⟩ | target | status⟩
      · by_cases same : target = stream <;> simp [ofEvents, postpone, same, ih, startedAt]
      · by_cases same : target = stream <;> simp [ofEvents, postpone, same, ih, startedAt]
      · cases holdsPipes <;> simp [ofEvents, postpone, ih, startedAt]

theorem joinPieces_postpone (span : Rat) (pieces : List (Rat × Bytes)) :
    joinPieces (pieces.map (postpone span)) = (joinPieces pieces).map (postpone span) := by
  induction pieces with
  | nil => rfl
  | cons piece rest ih =>
      obtain ⟨instant, bytes⟩ := piece
      simp only [List.map_cons, joinPieces, ih, postpone]
      cases joinPieces rest with
      | nil => rfl
      | cons next others =>
          obtain ⟨time, more⟩ := next
          by_cases same : time = instant <;> simp [postpone, same]

theorem reads_startedAt (span : Rat) (pipe : Pipe) :
    (pipe.startedAt span).reads = pipe.reads.map (postpone span) := by
  simp only [reads, startedAt, joinPieces_postpone, List.flatMap_map, List.map_flatMap,
    List.map_map, Function.comp_def, postpone]

end Pipe

theorem Process.pipe_startedAt (span : Rat) (stream : Stream) (process : Process) :
    (process.startedAt span).pipe stream = (process.pipe stream).startedAt span :=
  Pipe.ofEvents_postpone ..

/-! ## Readers -/

namespace Capture

/-- What has been read, with its end later by a span. -/
def postponed (span : Rat) (capture : Capture) : Capture :=
  { capture with finish := capture.finish.map (postpone span) }

theorem isWithin_postpone (span : Rat) (horizon : Option Rat) (instant : Rat) :
    isWithin (horizon.map (span + ·)) (span + instant) = isWithin horizon instant := by
  cases horizon <;> simp [isWithin]

theorem ofReads_postpone (ceiling : Nat) (consumer : Consumer) (span : Rat)
    (horizon closedAt : Option Rat) (total count : Nat) (reads : List (Rat × Bytes)) :
    ofReads ceiling consumer (horizon.map (span + ·)) (closedAt.map (span + ·)) total count
        (reads.map (postpone span)) =
      (ofReads ceiling consumer horizon closedAt total count reads).postponed span := by
  induction reads generalizing total count with
  | nil =>
      cases closedAt with
      | none => rfl
      | some instant =>
          simp only [List.map_nil, ofReads, Option.map_some, isWithin_postpone]
          cases isWithin horizon instant <;> rfl
  | cons read rest ih =>
      obtain ⟨instant, bytes⟩ := read
      simp only [List.map_cons, ofReads, postpone, isWithin_postpone, ih]
      split_ifs <;> rfl

end Capture

namespace Process

variable (span : Rat) (process : Process)

theorem capture_startedAt (ceiling : Nat) (consumer : Consumer) (horizon : Option Rat) :
    (process.startedAt span).capture ceiling consumer (horizon.map (span + ·)) =
      (process.capture ceiling consumer horizon).postponed span := by
  simp only [capture, pipe_startedAt, Pipe.reads_startedAt]
  exact Capture.ofReads_postpone ..

theorem stderrTail_startedAt (now : Rat) :
    (process.startedAt span).stderrTail (span + now) = process.stderrTail now := by
  simp only [stderrTail, pipe_startedAt, Pipe.reads_startedAt, List.takeWhile_map, List.map_map,
    Function.comp_def, postpone, add_le_add_iff_left]

end Process

/-! ## Races -/

/-- A race that waits as long, and ends later by a span. -/
def Race.postponed (span : Rat) (race : Race) : Race :=
  { race with finish := race.finish.map (postpone span) }

namespace Field

/-- Tasks that complete later by a span. -/
def postponed (span : Rat) (field : Field) : Field where
  output := field.output.map (postpone span)
  exit := field.exit.map (span + ·)
  canAbort := field.canAbort
  abort := field.abort.map (span + ·)

variable (span : Rat) (field : Field)

theorem completion?_postponed (racer : Racer) :
    (field.postponed span).completion? racer = (field.completion? racer).map (span + ·) := by
  cases racer with
  | output =>
      simp only [completion?, postponed, Option.map_map]
      rfl
  | exit => rfl
  | abort => rfl

theorem isDone_postponed (now : Rat) (racer : Racer) :
    (field.postponed span).isDone (span + now) racer = field.isDone now racer := by
  unfold isDone
  rw [completion?_postponed]
  cases field.completion? racer <;> simp

theorem nextCompletion?_postponed (now : Rat) (pending : List Racer) :
    (field.postponed span).nextCompletion? (span + now) pending =
      (field.nextCompletion? now pending).map (span + ·) := by
  induction pending with
  | nil => rfl
  | cons racer rest ih =>
      simp only [nextCompletion?, completion?_postponed, ih, Instant.later_eq_max,
        Instant.earlier_eq_min]
      cases field.completion? racer <;> cases field.nextCompletion? now rest <;>
        simp [max_add_add_left, min_add_add_left]

theorem judge?_postponed (now : Rat) (done : List Racer) :
    (field.postponed span).judge? (span + now) done = field.judge? now done := by
  have ending : (field.postponed span).output.map (·.2) = field.output.map (·.2) := by
    simp only [postponed, Option.map_map]
    rfl
  unfold judge?
  simp only [ending, isDone_postponed]

/-- Later tasks against a later deadline: the same waits, and a later end. -/
theorem race_postponed (deadline : Option Rat) (rounds : Nat) (pending : List Racer) (now : Rat) :
    (field.postponed span).race (deadline.map (span + ·)) rounds pending (span + now) =
      (field.race deadline rounds pending now).postponed span := by
  induction rounds generalizing pending now with
  | zero => rfl
  | succ rounds ih =>
      have allowance : (deadline.map (span + ·)).map (· - (span + now)) = deadline.map (· - now) := by
        cases deadline <;> simp
      have inTime : ∀ instant, (deadline.map (span + ·)).all (span + instant ≤ ·) =
          deadline.all (instant ≤ ·) := by
        cases deadline <;> simp
      have next : ((field.postponed span).nextCompletion? (span + now) pending).filter
            (fun instant => (deadline.map (span + ·)).all (instant ≤ ·)) =
          ((field.nextCompletion? now pending).filter
            fun instant => deadline.all (instant ≤ ·)).map (span + ·) := by
        rw [nextCompletion?_postponed]
        cases field.nextCompletion? now pending with
        | none => rfl
        | some instant =>
            simp only [Option.map_some, Option.filter_some, inTime]
            split <;> rfl
      unfold race
      simp only [allowance, next]
      split
      · rfl
      · cases (field.nextCompletion? now pending).filter
            (fun instant => deadline.all (instant ≤ ·)) with
        | none => cases deadline <;> rfl
        | some instant =>
            simp only [Option.map_some, isDone_postponed, judge?_postponed, ih]
            split <;> rfl

theorem run_postponed (deadline : Option Rat) (now : Rat) :
    (field.postponed span).run (deadline.map (span + ·)) (span + now) =
      (field.run deadline now).postponed span := field.race_postponed span ..

end Field

end AnalysisEngines
