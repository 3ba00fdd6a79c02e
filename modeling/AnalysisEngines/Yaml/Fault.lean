import AnalysisEngines.Text.Quoted

/-!
Why a document cannot be read.

Everything that the grammar of documents rules out is `malformed`.  The other faults are scalars
that are well formed and tagged, but mean nothing under their tag.
-/

set_option autoImplicit false

namespace AnalysisEngines.Yaml

inductive DateFault where
  | year (year : Nat)
  | month
  | day
  | hour
  | minute
  | second
  /-- An offset from universal time of a day or more, in seconds. -/
  | offset (seconds : Int)
  deriving DecidableEq

inductive Fault where
  | malformed
  | codePoint (code : Nat)
  | integer (base : Nat) (text : String)
  | emptyNumber
  | decimal (text : String)
  | boolean (text : String)
  | notATimestamp
  | date (fault : DateFault)
  deriving DecidableEq

/-- A span of time, as whole days and the seconds behind them. -/
def spanText (seconds : Int) : String :=
  let days := seconds.fdiv 86400
  let rest := seconds.fmod 86400
  let parts := (if days = 0 then [] else ["days=" ++ toString days]) ++
    (if rest = 0 then [] else ["seconds=" ++ toString rest])
  "datetime.timedelta(" ++ (if parts.isEmpty then "0" else ", ".intercalate parts) ++ ")"

def DateFault.message : DateFault → String
  | .year given => "year " ++ toString given ++ " is out of range"
  | .month => "month must be in 1..12"
  | .day => "day is out of range for month"
  | .hour => "hour must be in 0..23"
  | .minute => "minute must be in 0..59"
  | .second => "second must be in 0..59"
  | .offset seconds =>
      "offset must be a timedelta strictly between -timedelta(hours=24) and " ++
        "timedelta(hours=24), not " ++ spanText seconds ++ "."

namespace Fault

/-- The largest code point that is counted at all. -/
def largestCode : Nat := 0x7fffffff

def message : Fault → String
  | .malformed => "malformed document"
  | .codePoint code =>
      if largestCode < code then "Python int too large to convert to C int"
      else "chr() arg not in range(0x110000)"
  | .integer base text =>
      "invalid literal for int() with base " ++ toString base ++ ": " ++ Text.quoted text
  | .emptyNumber => "string index out of range"
  | .decimal text => "could not convert string to float: " ++ Text.quoted text
  | .boolean text => Text.quoted text
  | .notATimestamp => "'NoneType' object has no attribute 'groupdict'"
  | .date fault => fault.message

end Fault

end AnalysisEngines.Yaml
