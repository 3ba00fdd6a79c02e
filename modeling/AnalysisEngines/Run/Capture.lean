import AnalysisEngines.Run.Process

/-!
Reading the output of a run.

Standard output is delivered read by read until the pipe is closed, until more than the ceiling
has been read, or until the consumer fails.  Of standard error a bounded tail is kept.
-/

set_option autoImplicit false

namespace AnalysisEngines

/-- Who gets standard output: the result, or a consumer that may fail at its n-th chunk. -/
inductive Consumer where
  | result
  | chunks (failsAt : Option Nat)

def Consumer.failsOn (consumer : Consumer) (index : Nat) : Bool :=
  match consumer with
  | .result => false
  | .chunks failsAt => failsAt == some (index + 1)

inductive CaptureEnd where
  | closed
  | exceeded
  | consumerFailed
  deriving DecidableEq

structure Capture where
  chunks : List Bytes
  finish : Option (Rat × CaptureEnd)

namespace Capture

def isWithin (horizon : Option Rat) (instant : Rat) : Bool :=
  match horizon with
  | some last => instant ≤ last
  | none => true

/-- Reads up to a horizon; `total` bytes and `count` chunks came before. -/
def ofReads (ceiling : Nat) (consumer : Consumer) (horizon : Option Rat) (closedAt : Option Rat)
    (total count : Nat) : List (Rat × Bytes) → Capture
  | [] =>
      match closedAt with
      | some instant =>
          if isWithin horizon instant then ⟨[], some (instant, .closed)⟩ else ⟨[], none⟩
      | none => ⟨[], none⟩
  | (instant, bytes) :: rest =>
      if !isWithin horizon instant then ⟨[], none⟩
      else
        let chunk := bytes.take (ceiling - total)
        let exceeded := ceiling < total + bytes.length
        if chunk.isEmpty then
          if exceeded then ⟨[], some (instant, .exceeded)⟩
          else ofReads ceiling consumer horizon closedAt (total + bytes.length) count rest
        else if consumer.failsOn count then ⟨[], some (instant, .consumerFailed)⟩
        else if exceeded then ⟨[chunk], some (instant, .exceeded)⟩
        else
          let later :=
            ofReads ceiling consumer horizon closedAt (total + bytes.length) (count + 1) rest
          { later with chunks := chunk :: later.chunks }

end Capture

/-- What has been read of a process's standard output by a horizon, or ever. -/
def Process.capture (ceiling : Nat) (consumer : Consumer) (horizon : Option Rat)
    (process : Process) : Capture :=
  let pipe := process.pipe .stdout
  Capture.ofReads ceiling consumer horizon pipe.closedAt 0 0 pipe.reads

namespace Tail

def size : Nat := 65536

/-- The last `size` bytes after one more read. -/
def push (kept read : Bytes) : Bytes :=
  let all := kept ++ read
  all.drop (all.length - size)

def ofReads (reads : List Bytes) : Bytes := reads.foldl push []

end Tail

/-- The kept tail of standard error at a horizon. -/
def Process.stderrTail (horizon : Rat) (process : Process) : Bytes :=
  Tail.ofReads
    (((process.pipe .stderr).reads.takeWhile fun read => read.1 ≤ horizon).map (·.2))

end AnalysisEngines
