-- Byte streams as an endpoint meets them: bytes arrive in pieces until the stream ends in some
-- way, and are written to a place that may run out of room.
import DeviceLink.Error

namespace DeviceLink

/-! ## Arriving bytes -/

/-- What sort of failure ended a stream. -/
inductive FailureKind
  | unexpectedEnd
  | reset
  | other
deriving Repr, DecidableEq

/-- How a stream ends. -/
inductive Ending
  | closed
  | failed (kind : FailureKind) (reason : String)
deriving Repr, DecidableEq

/-- The bytes still to arrive, piece by piece, and what comes after them. -/
structure Source where
  chunks : List Bytes
  ending : Ending := .closed
deriving Repr, DecidableEq

/-- What a reader learns that asks for bytes after the last one. -/
def Ending.error : Ending → LinkError
  | .closed => .closed
  | .failed _ reason => .broken reason

/-- What a reader learns that is left with a part of what it has to have. A failure that only
says that the stream ended early counts as its end. -/
def Ending.cutOff : Ending → LinkError
  | .closed | .failed .unexpectedEnd _ => .closed
  | .failed _ reason => .broken reason

/-- Takes the first `n` bytes, or as many as there are. -/
def takeChunks (n : Nat) : List Bytes → Bytes × List Bytes
  | [] => ([], [])
  | c :: cs =>
    if n < c.length then (c.take n, c.drop n :: cs)
    else
      let (bs, rest) := takeChunks (n - c.length) cs
      (c ++ bs, rest)

/-- Takes a piece of at most `n` bytes, which is empty only at the end (or for `n = 0`). -/
def takePiece (n : Nat) : List Bytes → Bytes × List Bytes
  | [] => ([], [])
  | [] :: cs => takePiece n cs
  | c :: cs => if c.length ≤ n then (c, cs) else (c.take n, c.drop n :: cs)

namespace Source

/-- The bytes still to arrive. -/
def toList (s : Source) : Bytes := s.chunks.flatten

/-- The number of bytes still to arrive. -/
def size (s : Source) : Nat := s.toList.length

/-- The stream that brings some bytes at once and is then closed. -/
def ofBytes (bs : Bytes) : Source := ⟨[bs], .closed⟩

end Source

/-- Reading from a stream. What a failed step has taken is gone. -/
abbrev Receive (α : Type) := ExceptT LinkError (StateM Source) α

namespace Receive

/-- Takes up to `n` bytes: fewer only if the stream ends before. -/
def upTo (n : Nat) : StateM Source Bytes := fun s =>
  let (bs, rest) := takeChunks n s.chunks
  (bs, { s with chunks := rest })

/-- Takes exactly `n` bytes. -/
def exactly (n : Nat) : Receive Bytes := do
  let bs ← upTo n
  if bs.length = n then return bs else throw (← get).ending.cutOff

/-- Takes a number of `n` bytes, highest byte first. -/
def number (n : Nat) : Receive Nat := Bytes.number <$> exactly n

/-- Takes one byte. -/
def byte : Receive UInt8 := UInt8.ofNat <$> number 1

end Receive

/-! ## Written bytes -/

/-- A place to write to. It takes `room` bytes, or any number, and then refuses. -/
structure Sink where
  room : Option Nat := none
  failure : Option String := none
  written : Bytes := []
  flushes : Nat := 0
deriving Repr, DecidableEq

namespace Sink

/-- Writes all bytes, or as many as there is room for. -/
def writeAll (s : Sink) (bs : Bytes) : Except LinkError Unit × Sink :=
  match s.room with
  | none => (.ok (), { s with written := s.written ++ bs })
  | some room =>
    if bs.length ≤ room then
      (.ok (), { s with room := some (room - bs.length), written := s.written ++ bs })
    else
      (.error (.broken (s.failure.getD "write zero")),
        { s with room := some 0, written := s.written ++ bs.take room })

/-- Pushes out what is written. -/
def flush (s : Sink) : Sink := { s with flushes := s.flushes + 1 }

/-- Writes an encoded message and pushes it out. One that cannot be encoded writes nothing. -/
def writeMessage (s : Sink) (encoded : Except LinkError Bytes) : Except LinkError Unit × Sink :=
  match encoded with
  | .error e => (.error e, s)
  | .ok bs =>
    match s.writeAll bs with
    | (.ok (), s) => (.ok (), s.flush)
    | (.error e, s) => (.error e, s)

end Sink

end DeviceLink
