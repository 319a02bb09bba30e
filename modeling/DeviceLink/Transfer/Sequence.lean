-- The order of the operations on one transfer: it is opened once, may be resumed while chunks go
-- over, and ends by a finish or, for a backup, by a cancel.
import DeviceLink.Error

namespace DeviceLink.Transfer

/-- What becomes of a sum that does not fit into 64 bits. A build that checks its sums panics, and
one that does not drops the carry. -/
inductive Overflow
  | panics
  | wraps
deriving Repr, DecidableEq

/-- Where a transfer stands. -/
structure Sequence where
  direction : Direction
  phase : Phase := .idle
  /-- The name that the server gave the transfer. -/
  id : Option String := none
  /-- The number of bytes that are safely over. -/
  offset : Nat := 0
deriving Repr, DecidableEq

namespace Sequence

/-- A transfer that has not been opened. -/
def start (direction : Direction) : Sequence := { direction }

/-- The phase that an operation leads to from another, if it is allowed there. -/
def next? : Operation → Phase → Option Phase
  | .backupInit, .idle | .restoreInit, .idle => some .streaming
  | .backupResume, .idle | .backupResume, .streaming => some .streaming
  | .restoreResume, .idle | .restoreResume, .streaming => some .streaming
  | .backupChunk, .streaming | .restoreChunk, .streaming => some .streaming
  | .backupFinish, .streaming | .restoreFinish, .streaming => some .finished
  | .backupCancel, .idle | .backupCancel, .streaming => some .cancelled
  | _, _ => none

/-- The phase that an operation would lead to. One of the other direction is never allowed. -/
def check (s : Sequence) (op : Operation) : Except LinkError Phase :=
  match if op.direction? = some s.direction then next? op s.phase else none with
  | some phase => .ok phase
  | none => .error (.outOfOrder op s.phase)

/-- Goes on to the phase that an operation leads to. -/
def advance (s : Sequence) (op : Operation) : Except LinkError Sequence := do
  return { s with phase := ← s.check op }

/-- Notes the name and the offset that the server gave. -/
def attach (s : Sequence) (id : String) (offset : Nat) : Sequence :=
  { s with id := some id, offset }

/-- Notes that a chunk is over. A transfer counts its own chunks from an offset that a server can
give, which has 63 bits; it would have to move as many bytes again for the sum not to fit. -/
def record (s : Sequence) (length : Nat) : Sequence :=
  { s with offset := s.offset + length }

/-- Notes that a chunk of any length is over, unless the sum does not fit and the call panics. -/
def record? (s : Sequence) (overflow : Overflow) (length : UInt64) : Option Sequence :=
  if s.offset + length.toNat < UInt64.size then some (s.record length.toNat)
  else match overflow with
    | .panics => none
    | .wraps => some { s with offset := (s.offset + length.toNat) % UInt64.size }

end Sequence

end DeviceLink.Transfer
