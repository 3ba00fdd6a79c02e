/-!
Time of a simulated run.

An instant is an exact number of seconds.  Code that becomes runnable at one instant takes turns;
a moment is an instant and a turn within it.
-/

set_option autoImplicit false

namespace AnalysisEngines

namespace Instant

def later (left right : Rat) : Rat := if left ≤ right then right else left

def earlier (left right : Rat) : Rat := if left ≤ right then left else right

end Instant

structure Moment where
  instant : Rat
  turn : Nat := 0
  deriving DecidableEq, Inhabited

namespace Moment

def start : Moment := ⟨0, 0⟩

def le (left right : Moment) : Bool :=
  left.instant < right.instant || (left.instant == right.instant && left.turn ≤ right.turn)

/-- Hands over to other code at the same instant. -/
def pass (turns : Nat) (now : Moment) : Moment := { now with turn := now.turn + turns }

/-- The moment at which code that waits from `now` for an instant goes on, `turns` turns after
what it waits for. -/
def waitFor (instant : Rat) (turns : Nat) (now : Moment) : Moment :=
  if now.instant < instant then ⟨instant, turns⟩ else now.pass turns

/-- The first of several moments. -/
def earliest? : List Moment → Option Moment
  | [] => none
  | moment :: rest =>
      match earliest? rest with
      | none => some moment
      | some other => some (if moment.le other then moment else other)

def later (left right : Moment) : Moment := if left.le right then right else left

end Moment

end AnalysisEngines
