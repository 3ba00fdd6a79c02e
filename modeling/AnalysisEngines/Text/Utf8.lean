/-!
UTF-8 as byte lists: encoding, strict decoding that says where and why it fails, and decoding
that puts a replacement character in place of each ill-formed part.
-/

set_option autoImplicit false

namespace AnalysisEngines

abbrev Bytes := List UInt8

namespace Utf8

def replacement : Char := Char.ofNat 0xfffd

def encode (text : String) : Bytes := text.toUTF8.toList

/-- Why a byte sequence is no character: its first byte can start none, a later byte is not a
continuation, or the input ends inside it. -/
inductive Fault where
  | badStart
  | badContinuation
  | truncated
  deriving DecidableEq

/-- One decoded character with its length, or the fault and the length of the ill-formed part. -/
inductive Step where
  | char (c : Char) (length : Nat)
  | fault (why : Fault) (length : Nat)

/-- The second byte of a sequence is further limited, so that no character has two encodings and
no surrogate or too large code point is encoded. -/
def secondByteRange (lead : Nat) : Nat × Nat :=
  if lead = 0xe0 then (0xa0, 0xbf)
  else if lead = 0xed then (0x80, 0x9f)
  else if lead = 0xf0 then (0x90, 0xbf)
  else if lead = 0xf4 then (0x80, 0x8f)
  else (0x80, 0xbf)

def isContinuation (byte : UInt8) : Bool := 0x80 ≤ byte.toNat && byte.toNat ≤ 0xbf

/-- Reads `needed` more continuation bytes; `taken` counts the bytes used so far. -/
def continuation (needed : Nat) (code taken : Nat) (bytes : Bytes) : Step :=
  match needed, bytes with
  | 0, _ => .char (Char.ofNat code) taken
  | _ + 1, [] => .fault .truncated taken
  | more + 1, byte :: rest =>
      if isContinuation byte then continuation more (code * 64 + byte.toNat % 64) (taken + 1) rest
      else .fault .badContinuation taken

def multiByte (lead : Nat) (needed start : Nat) (rest : Bytes) : Step :=
  match rest with
  | [] => .fault .truncated 1
  | second :: tail =>
      let range := secondByteRange lead
      if range.1 ≤ second.toNat ∧ second.toNat ≤ range.2 then
        continuation (needed - 1) (start * 64 + second.toNat % 64) 2 tail
      else .fault .badContinuation 1

def step (first : UInt8) (rest : Bytes) : Step :=
  let lead := first.toNat
  if lead < 0x80 then .char (Char.ofNat lead) 1
  else if lead < 0xc2 then .fault .badStart 1
  else if lead < 0xe0 then multiByte lead 1 (lead - 0xc0) rest
  else if lead < 0xf0 then multiByte lead 2 (lead - 0xe0) rest
  else if lead < 0xf5 then multiByte lead 3 (lead - 0xf0) rest
  else .fault .badStart 1

/-- The characters of a byte list, each ill-formed part replaced.  `skip` bytes of the front
belong to the character before. -/
def decodeReplacing (skip : Nat) : Bytes → List Char
  | [] => []
  | first :: rest =>
      match skip with
      | more + 1 => decodeReplacing more rest
      | 0 =>
          match step first rest with
          | .char c length => c :: decodeReplacing (length - 1) rest
          | .fault _ length => replacement :: decodeReplacing (length - 1) rest

def decodeLossy (bytes : Bytes) : String := String.ofList (decodeReplacing 0 bytes)

/-- Where strict decoding stops: the offending byte, its position, the length of the ill-formed
part and the fault. -/
structure DecodeError where
  byte : UInt8
  position : Nat
  length : Nat
  fault : Fault

def decodeFrom (position skip : Nat) (seen : List Char) : Bytes → Except DecodeError (List Char)
  | [] => .ok seen.reverse
  | first :: rest =>
      match skip with
      | more + 1 => decodeFrom (position + 1) more seen rest
      | 0 =>
          match step first rest with
          | .char c length => decodeFrom (position + 1) (length - 1) (c :: seen) rest
          | .fault why length => .error ⟨first, position, length, why⟩

def decode (bytes : Bytes) : Except DecodeError String :=
  (decodeFrom 0 0 [] bytes).map String.ofList

end Utf8

end AnalysisEngines
