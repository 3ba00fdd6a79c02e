import AnalysisEngines.Log.Scope
import Mathlib.Data.List.Basic

/-!
# Tasks with journals of their own

What a task notes, and with which variables bound, depends on its own steps only: the steps of other
tasks in between change nothing, in whatever order they come (`mem_notesUnder_iff`).
-/

set_option autoImplicit false

namespace AnalysisEngines.Log

namespace Journal

variable {α : Type}

theorem notesUnder_append (earlier later : List (Step α)) (journal : Journal) :
    journal.notesUnder (earlier ++ later) =
      journal.notesUnder earlier ++ (journal.follow earlier).notesUnder later := by
  induction earlier generalizing journal with
  | nil => rfl
  | cons step rest ih =>
      rw [List.cons_append, notesUnder, notesUnder, ih, List.append_assoc]
      rfl

/-- Without scopes, everything is noted under the variables of the beginning. -/
theorem notesUnder_map_note (notes : List α) (journal : Journal) :
    journal.notesUnder (notes.map Step.note) = notes.map fun what => (what, journal.bound) := by
  induction notes with
  | nil => rfl
  | cons what rest ih =>
      rw [List.map_cons, List.map_cons, notesUnder, ← ih]
      rfl

theorem follow_map_note (notes : List α) (journal : Journal) :
    journal.follow (notes.map Step.note) = journal := by
  induction notes with
  | nil => rfl
  | cons what rest ih => exact ih

/-- What is noted early is noted the same if more follows. -/
theorem mem_notesUnder_of_prefix {early steps : List (Step α)} {journal : Journal}
    {noted : α × Fields} (initial : early <+: steps) (member : noted ∈ journal.notesUnder early) :
    noted ∈ journal.notesUnder steps := by
  obtain ⟨rest, rfl⟩ := initial
  rw [notesUnder_append]
  exact List.mem_append_left _ member

end Journal

namespace Journals

variable {ι α : Type} [DecidableEq ι]

/-- The steps of one task among those of all, in their order. -/
def stepsOf (task : ι) (trace : List (ι × Step α)) : List (Step α) :=
  trace.filterMap fun step => if step.1 = task then some step.2 else none

theorem stepsOf_cons_self (task : ι) (step : Step α) (trace : List (ι × Step α)) :
    stepsOf task ((task, step) :: trace) = step :: stepsOf task trace := by
  simp [stepsOf]

theorem stepsOf_cons_of_ne {task other : ι} (differs : other ≠ task) (step : Step α)
    (trace : List (ι × Step α)) :
    stepsOf task ((other, step) :: trace) = stepsOf task trace := by
  simp [stepsOf, differs]

theorem stepsOf_append (task : ι) (earlier later : List (ι × Step α)) :
    stepsOf task (earlier ++ later) = stepsOf task earlier ++ stepsOf task later :=
  List.filterMap_append

theorem take_self (task : ι) (step : Step α) (journals : Journals ι) :
    take (task, step) journals task = (journals task).take step := if_pos rfl

theorem take_of_ne {task other : ι} (differs : other ≠ task) (step : Step α)
    (journals : Journals ι) : take (other, step) journals task = journals task :=
  if_neg differs.symm

/-- A task has the journal that its own steps lead to. -/
theorem follow_apply (task : ι) (trace : List (ι × Step α)) (journals : Journals ι) :
    follow trace journals task = (journals task).follow (stepsOf task trace) := by
  induction trace generalizing journals with
  | nil => rfl
  | cons first rest ih =>
      obtain ⟨other, step⟩ := first
      have rests := ih (take (other, step) journals)
      by_cases same : other = task
      · subst same
        rw [stepsOf_cons_self]
        rw [take_self] at rests
        exact rests
      · rw [stepsOf_cons_of_ne same]
        rw [take_of_ne same] at rests
        exact rests

/-- A task notes what it would note alone, with the same variables bound. -/
theorem mem_notesUnder_iff (task : ι) (what : α) (bound : Fields) (trace : List (ι × Step α))
    (journals : Journals ι) :
    (task, what, bound) ∈ notesUnder trace journals ↔
      (what, bound) ∈ (journals task).notesUnder (stepsOf task trace) := by
  induction trace generalizing journals with
  | nil => simp [notesUnder, stepsOf, Journal.notesUnder]
  | cons first rest ih =>
      obtain ⟨other, step⟩ := first
      have rests := ih (take (other, step) journals)
      rw [notesUnder, List.mem_append, rests]
      by_cases same : other = task
      · subst same
        rw [stepsOf_cons_self, take_self, Journal.notesUnder, List.mem_append]
        cases step <;> simp [Step.noted?]
      · rw [stepsOf_cons_of_ne same, take_of_ne same, or_iff_right]
        cases step <;> simp [Step.noted?, Ne.symm same]

/-- All that is noted is in the trace, in the same order. -/
theorem map_notesUnder (trace : List (ι × Step α)) (journals : Journals ι) :
    (notesUnder trace journals).map (·.2.1) = trace.filterMap (·.2.noted?) := by
  induction trace generalizing journals with
  | nil => rfl
  | cons first rest ih =>
      obtain ⟨task, step⟩ := first
      rw [notesUnder, List.map_append, ih]
      cases step <;> rfl

end Journals

end AnalysisEngines.Log
