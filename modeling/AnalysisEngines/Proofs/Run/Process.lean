import AnalysisEngines.Run.Process
import AnalysisEngines.Proofs.Run.Clock

/-!
# Exits, signals and pipes

A signal that makes a process exit sets the exit unless an earlier one stands in the timeline.  What
a pipe carries was written before it is closed.
-/

set_option autoImplicit false

namespace AnalysisEngines

namespace Timeline

theorem exit?_mem {timeline : Timeline} {instant : Rat} {status : Int}
    (found : timeline.exit? = some (instant, status)) :
    (instant, Effect.exit status) ∈ timeline.events := by
  obtain ⟨⟨time, effect⟩, member, isExit⟩ := List.exists_of_findSome?_eq_some found
  cases effect with
  | exit code =>
      simp only [Effect.status?, Option.map_some, Option.some.injEq, Prod.mk.injEq] at isExit
      obtain ⟨rfl, rfl⟩ := isExit
      exact member
  | write stream bytes => simp [Effect.status?] at isExit
  | close stream => simp [Effect.status?] at isExit

theorem exit?_startedAt (timeline : Timeline) (origin : Rat) :
    (timeline.startedAt origin).exit? =
      timeline.exit?.map fun exit => (origin + exit.1, exit.2) := by
  simp only [exit?, startedAt, List.findSome?_map]
  induction timeline.events with
  | nil => rfl
  | cons first rest ih =>
      cases isExit : first.2.status? with
      | some code => simp [isExit]
      | none => simpa [isExit] using ih

/-- The earlier of the exit that a timeline has and one that is put into it. -/
theorem exit?_schedule_exit (timeline : Timeline) (instant : Rat) (status : Int) :
    (timeline.schedule instant (.exit status)).exit? =
      match timeline.exit? with
      | some (earlier, code) =>
          if earlier ≤ instant then some (earlier, code) else some (instant, status)
      | none => some (instant, status) := by
  rcases timeline with ⟨events, ordered⟩
  simp only [exit?, schedule]
  induction events with
  | nil => simp [insertEvent, Effect.status?]
  | cons first rest ih =>
      obtain ⟨bounds, tail⟩ := List.pairwise_cons.mp ordered
      by_cases before : first.1 ≤ instant
      · simp only [insertEvent, before, if_true, List.findSome?_cons]
        cases isExit : first.2.status? with
        | some code => simp [before]
        | none => simpa [isExit] using ih tail
      · simp only [insertEvent, before, if_false, List.findSome?_cons, Effect.status?,
          Option.map_some]
        split
        · rename_i earlier code found
          have exits := @exit?_mem ⟨first :: rest, ordered⟩ earlier code (by
            simpa only [exit?, List.findSome?_cons, Effect.status?] using found)
          have after : first.1 ≤ earlier := by
            rcases List.mem_cons.mp exits with rfl | inRest
            · exact le_refl _
            · exact bounds _ inRest
          simp [show ¬ earlier ≤ instant from fun low => before (after.trans low)]
        · rfl

end Timeline

namespace Process

theorem exit?_startedAt (process : Process) (origin : Rat) :
    (process.startedAt origin).exit? =
      process.exit?.map fun exit => (origin + exit.1, exit.2) :=
  Timeline.exit?_startedAt ..

theorem hasExited_iff {process : Process} {now : Rat} :
    process.hasExited now = true ↔
      ∃ instant status, process.exit? = some (instant, status) ∧ instant ≤ now := by
  unfold hasExited status?
  split
  · rename_i instant status found
    split <;> simp_all
  · simp_all

theorem hasExited_mono {process : Process} {now later : Rat} (order : now ≤ later)
    (exited : process.hasExited now = true) : process.hasExited later = true := by
  obtain ⟨instant, status, found, early⟩ := hasExited_iff.mp exited
  exact hasExited_iff.mpr ⟨instant, status, found, early.trans order⟩

theorem not_hasExited_iff {process : Process} {now : Rat} :
    process.hasExited now = false ↔
      ∀ instant status, process.exit? = some (instant, status) → now < instant := by
  rw [← Bool.not_eq_true, hasExited_iff]
  simp

/-- A process that the kill signal ends. -/
def IsKillable (process : Process) : Prop := ∃ delay status, process.onKill = .exits delay status

/-- A process that obeys the kill signal and can be reached while it is alive. -/
structure Obeys (process : Process) : Prop where
  reachable : process.onTerminate ≠ .vanished
  killable : process.IsKillable

@[simp]
theorem react_onKill (signal : Signal) (now : Rat) (process : Process) :
    (process.react signal now).onKill = process.onKill := by
  unfold react
  split <;> rfl

theorem isKillable_react {process : Process} (killable : process.IsKillable) (signal : Signal)
    (now : Rat) : (process.react signal now).IsKillable := by
  simpa only [IsKillable, react_onKill] using killable

end Process

end AnalysisEngines
