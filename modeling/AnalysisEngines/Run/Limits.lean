import AnalysisEngines.Number.Basic

/-!
The limits of one run: a time limit in seconds and a ceiling on the bytes of standard output.
-/

set_option autoImplicit false

namespace AnalysisEngines

structure Limits where
  timeout : Number := .int 900
  ceiling : Int := 500000000

inductive LimitFault where
  | timeoutNotPositive (timeout : Number)
  | ceilingNotPositive (ceiling : Int)

def LimitFault.message : LimitFault → String
  | .timeoutNotPositive timeout => "timeout_seconds must be positive, got " ++ timeout.text
  | .ceilingNotPositive ceiling => "max_output_bytes must be positive, got " ++ toString ceiling

/-- Limits that are not zero or less. -/
def Limits.check (limits : Limits) : Except LimitFault Limits :=
  if limits.timeout ≤ Number.int 0 then .error (.timeoutNotPositive limits.timeout)
  else if limits.ceiling ≤ 0 then .error (.ceilingNotPositive limits.ceiling)
  else .ok limits

/-- A span of seconds; `none` is a span without an end.  No span is negative without end: it is
over at once. -/
def Number.span : Number → Option Rat
  | .int seconds => some seconds
  | .float (.infinite true) => some 0
  | .float seconds => seconds.toRat?

end AnalysisEngines
