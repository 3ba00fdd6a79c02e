import AnalysisEngines.Proofs.Log.Isolation
import AnalysisEngines.Proofs.Log.Scope
import AnalysisEngines.Run.Scope

/-!
# The scope of a run

A run that returns or raises leaves the scope that it entered, and all that its caller has bound but
`engine`, which it takes away.  Scopes restore what was bound before them exactly where they bind
nothing that was bound: `scopes_restore_iff`.
-/

set_option autoImplicit false

namespace AnalysisEngines

open Log Log.Step

namespace Execution

variable {request : Request} {origin : Moment} {execution : Execution}

/-- A run enters its scope, notes what it notes, and leaves its scope if it ends. -/
theorem steps_cases (request : Request) (origin : Moment) (execution : Execution) :
    (execution.result = .error .unending ∧ execution.steps request origin =
      (origin, .enter request.bindings) :: ofNotes execution.notes) ∨
    (execution.result ≠ .error .unending ∧ execution.steps request origin =
      (origin, .enter request.bindings) :: (ofNotes execution.notes ++
        [(execution.finish, .leave)])) := by
  unfold steps
  dsimp only
  split
  · exact .inl ⟨‹_›, List.append_nil _⟩
  · exact .inr ⟨‹_›, rfl⟩

/-- A run that ends is one scope with its notes inside. -/
theorem steps_of_ended (ended : execution.result ≠ .error .unending) :
    (execution.steps request origin).map (·.2) =
      .enter request.bindings ::
        ((execution.notes.map (·.2)).map Step.note ++ Step.leave :: []) := by
  rcases steps_cases request origin execution with ⟨unending, -⟩ | ⟨-, steps⟩
  · exact absurd unending ended
  · rw [steps, List.map_cons, List.map_append, map_ofNotes]
    rfl

theorem isNested_steps (ended : execution.result ≠ .error .unending) :
    IsNested ((execution.steps request origin).map (·.2)) := by
  rw [steps_of_ended ended]
  exact .scope _ (isNested_map_note _) .nil

/-- A run notes everything with its engine bound over the variables of its caller. -/
theorem notesUnder_steps {α : Type} (change : Moment × Note → α) (request : Request)
    (origin : Moment) (execution : Execution) (caller : Journal) :
    caller.notesUnder ((execution.steps request origin).map fun entry =>
        entry.2.map fun note => change (entry.1, note)) =
      execution.notes.map fun entry =>
        (change entry, assignFields request.bindings caller.bound) := by
  have notes : (ofNotes execution.notes).map (fun entry => entry.2.map fun note =>
      change (entry.1, note)) = (execution.notes.map change).map Step.note := by
    simp only [ofNotes, List.map_map, Function.comp_def, Step.map]
  have inside : (caller.enter request.bindings).notesUnder
      ((execution.notes.map change).map Step.note) =
        execution.notes.map fun entry =>
          (change entry, assignFields request.bindings caller.bound) := by
    rw [Journal.notesUnder_map_note, List.map_map]
    rfl
  rcases steps_cases request origin execution with ⟨-, steps⟩ | ⟨-, steps⟩
  · rw [steps, List.map_cons, notes]
    exact inside
  · rw [steps, List.map_cons, List.map_append, notes]
    change (caller.enter request.bindings).notesUnder _ = _
    rw [Journal.notesUnder_append, inside]
    exact List.append_nil _

/-- A run that ends leaves its caller without `engine`, and otherwise as it was. -/
theorem follow_steps (ended : execution.result ≠ .error .unending) (caller : Journal) :
    caller.follow ((execution.steps request origin).map (·.2)) = caller.unbind ["engine"] := by
  rw [Journal.follow_of_isNested (isNested_steps ended), steps_of_ended ended]
  apply Journal.unbind_congr
  intro name
  simp [entered, names, Request.bindings]

end Execution

/-- After each exit of a well-nested sequence of scopes, the variables are those from before its
entry less the names entered since; so they are the same exactly if none of these names was bound.
A run, whether it returns or raises, does so with `engine`. -/
theorem scopes_restore_iff {α : Type} {steps : List (Step α)} (nested : IsNested steps)
    (caller : Journal) :
    (∀ before after, steps = before ++ .leave :: after →
      ∃ earlier fields inner, before = earlier ++ .enter fields :: inner ∧ IsNested inner ∧
        (caller.follow earlier).Sheds (entered (.enter fields :: inner))
          (caller.follow (before ++ [.leave])) ∧
        ((caller.follow earlier).SameVariables (caller.follow (before ++ [.leave])) ↔
          ∀ name ∈ entered (.enter fields :: inner),
            (caller.follow earlier).bound.lookup name = none)) ∧
    ∀ request origin, (Execution.run request origin).result ≠ .error .unending →
      caller.Sheds ["engine"]
        (caller.follow (((Execution.run request origin).steps request origin).map (·.2))) ∧
      (caller.SameVariables
          (caller.follow (((Execution.run request origin).steps request origin).map (·.2))) ↔
        caller.bound.lookup "engine" = none) := by
  constructor
  · intro before after exits
    obtain ⟨earlier, fields, inner, rfl, balanced⟩ := nested.exists_entry exits
    have reached : caller.follow (earlier ++ .enter fields :: inner ++ [.leave]) =
        (caller.follow earlier).follow (.enter fields :: (inner ++ [.leave])) := by
      rw [List.append_assoc, Journal.follow_append]
      rfl
    have sheds := Journal.sheds_scope fields balanced (caller.follow earlier)
    rw [← reached] at sheds
    exact ⟨earlier, fields, inner, rfl, balanced, sheds, sheds.sameVariables_iff⟩
  · intro request origin ended
    have sheds := Journal.sheds_unbind ["engine"] caller
    rw [← Execution.follow_steps ended caller] at sheds
    exact ⟨sheds, by simpa using sheds.sameVariables_iff⟩

/-- Two scopes, the inner one over a name of the outer one. -/
def shadowing : List (Step Note) :=
  [.enter [("engine", .text "outer")], .enter [("engine", .text "inner")], .leave, .leave]

theorem shadowing_isNested : IsNested shadowing :=
  .scope _ (.scope _ .nil .nil) .nil

theorem shadowing_sheds :
    IsNested shadowing ∧
    ∃ earlier fields inner, shadowing.take 3 = earlier ++ .enter fields :: inner ∧
      IsNested inner ∧
      (Journal.follow earlier {}).Sheds (entered (.enter fields :: inner))
        (Journal.follow shadowing {}) ∧
      ((Journal.follow earlier {}).SameVariables (Journal.follow shadowing {}) ↔
        ∀ name ∈ entered (.enter fields :: inner),
          (Journal.follow earlier {}).bound.lookup name = none) :=
  ⟨shadowing_isNested, (scopes_restore_iff shadowing_isNested {}).1 (shadowing.take 3) [] rfl⟩

/-- The exit of the inner scope takes away what the outer one has bound. -/
theorem shadowing_not_restored :
    IsNested shadowing ∧
    ¬ (Journal.follow (shadowing.take 1) {}).SameVariables
      (Journal.follow (shadowing.take 3) {}) := by
  refine ⟨shadowing_isNested, fun same => ?_⟩
  have outer := same "engine"
  simp [shadowing, Journal.follow, Journal.take, Journal.enter, Journal.bind, Journal.leave,
    Journal.unbind, assignFields, assignField, dropFields] at outer

end AnalysisEngines
