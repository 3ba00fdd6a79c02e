import Mathlib.Tactic.Common

/-!
# How stateful computations compose

A computation with a state either returns or raises, and leaves a state in both cases.  The lemmas
take a composed computation apart into its steps.
-/

set_option autoImplicit false

namespace AnalysisEngines

variable {ε σ α β : Type}

@[simp]
theorem pure_apply (value : α) (state : σ) :
    (pure value : EStateM ε σ α) state = .ok value state := rfl

@[simp]
theorem get_apply (state : σ) : (get : EStateM ε σ σ) state = .ok state state := rfl

@[simp]
theorem modify_apply (change : σ → σ) (state : σ) :
    (modify change : EStateM ε σ PUnit) state = .ok ⟨⟩ (change state) := rfl

@[simp]
theorem throw_apply (problem : ε) (state : σ) :
    (throw problem : EStateM ε σ α) state = .error problem state := rfl

theorem bind_of_ok {first : EStateM ε σ α} {next : α → EStateM ε σ β} {state middle : σ} {value : α}
    (returns : first state = .ok value middle) : (first >>= next) state = next value middle := by
  show EStateM.bind first next state = _
  simp only [EStateM.bind, returns]

theorem bind_of_error {first : EStateM ε σ α} {next : α → EStateM ε σ β} {state last : σ}
    {problem : ε} (raises : first state = .error problem last) :
    (first >>= next) state = .error problem last := by
  show EStateM.bind first next state = _
  simp only [EStateM.bind, raises]

theorem bind_eq_ok {first : EStateM ε σ α} {next : α → EStateM ε σ β} {state last : σ}
    {result : β} :
    (first >>= next) state = .ok result last ↔
      ∃ value middle, first state = .ok value middle ∧ next value middle = .ok result last := by
  cases outcome : first state with
  | ok value middle => simp [bind_of_ok outcome]
  | error problem middle => simp [bind_of_error outcome]

theorem bind_eq_error {first : EStateM ε σ α} {next : α → EStateM ε σ β} {state last : σ}
    {problem : ε} :
    (first >>= next) state = .error problem last ↔
      first state = .error problem last ∨
        ∃ value middle, first state = .ok value middle ∧ next value middle = .error problem last := by
  cases outcome : first state with
  | ok value middle => simp [bind_of_ok outcome]
  | error other middle => simp [bind_of_error outcome]

theorem tryCatch_apply (body : EStateM ε σ α) (handler : ε → EStateM ε σ α) (state : σ) :
    (tryCatch body handler) state = match body state with
      | .ok value last => .ok value last
      | .error problem last => handler problem last := by
  show EStateM.tryCatch body handler state = _
  simp only [EStateM.tryCatch]
  cases body state <;> rfl

end AnalysisEngines
