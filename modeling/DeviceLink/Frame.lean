-- Frames of the notification channel: a type, a length of two bytes, and the payload. A receiver
-- keeps no more of a payload than its cap, but takes all of it from the stream.
import DeviceLink.Stream

namespace DeviceLink

/-- A frame as it was received, or as it is to be sent. -/
structure Frame where
  typ : UInt8
  payload : Bytes
  /-- The length that the sender gave. -/
  declared : Nat
deriving Repr, DecidableEq

namespace Frame

/-- The number of bytes in front of a payload. -/
def headerSize : Nat := 3

/-- The longest payload that a frame can have. -/
def maxPayload : Nat := 65535

/-- What a receiver keeps of a payload unless it is told otherwise. -/
def defaultCap : Nat := 1024

/-- A frame with a whole payload. -/
def ofPayload (typ : UInt8) (payload : Bytes) : Frame := ⟨typ, payload, payload.length⟩

/-- An ordinary frame. -/
def socket (payload : Bytes) : Frame := ofPayload MessageType.socket.code payload

/-- A part of the payload was dropped. -/
def isTruncated (f : Frame) : Bool := f.payload.length < f.declared

/-- The payload as text. -/
def text (f : Frame) : String := Text.lossy f.payload

/-! ## Encoding -/

/-- The bytes of a frame. -/
def encode (typ : UInt8) (payload : Bytes) : Except LinkError Bytes :=
  if payload.length ≤ maxPayload then .ok (typ :: Bytes.be16 payload.length ++ payload)
  else .error (.oversize payload.length)

/-! ## Decoding -/

/-- How much a receiver keeps that is told to keep `limit` bytes. -/
def cap (limit : Nat) : Nat := min limit maxPayload

/-- The frame at the front of the bytes and what follows it, once all of it is there. -/
def decode? (limit : Nat) : Bytes → Option (Frame × Bytes)
  | typ :: high :: low :: rest => do
    let declared := Bytes.number [high, low]
    let (payload, after) ← Bytes.cut? declared rest
    return (⟨typ, payload.take (cap limit), declared⟩, after)
  | _ => none

theorem length_lt_of_decode? {limit : Nat} {bs rest : Bytes} {f : Frame}
    (h : decode? limit bs = some (f, rest)) : rest.length < bs.length := by
  unfold decode? at h
  split at h
  · rename_i typ high low tail
    rw [Option.bind_eq_bind, Option.bind_eq_some_iff] at h
    obtain ⟨⟨payload, after⟩, hcut, h⟩ := h
    simp only [Option.pure_def, Option.some.injEq, Prod.mk.injEq] at h
    obtain ⟨-, rfl⟩ := h
    obtain ⟨rfl, -⟩ := Bytes.cut?_eq_some_iff.1 hcut
    simp
    omega
  · simp at h

/-- All frames at the front of the bytes and what is left. -/
def decodeAll (limit : Nat) (bs : Bytes) : List Frame × Bytes :=
  match _h : decode? limit bs with
  | none => ([], bs)
  | some (f, rest) =>
    let (fs, left) := decodeAll limit rest
    (f :: fs, left)
termination_by bs.length
decreasing_by exact length_lt_of_decode? _h

/-- Takes pieces into a buffer one by one: the frames that come with each, and the buffer after
each. -/
def decodePieces (limit : Nat) (buffer : Bytes) : List Bytes → List (List Frame × Bytes)
  | [] => []
  | c :: cs =>
    let step := decodeAll limit (buffer ++ c)
    step :: decodePieces limit step.2 cs

/-! ## Reading from a stream -/

/-- Takes pieces into a buffer until it holds a frame: the frame, the buffer and the pieces
after it. -/
def takeNext (limit : Nat) (buffer : Bytes) : List Bytes → Option Frame × Bytes × List Bytes
  | [] =>
    match decode? limit buffer with
    | some (f, rest) => (some f, rest, [])
    | none => (none, buffer, [])
  | c :: cs =>
    match decode? limit buffer with
    | some (f, rest) => (some f, rest, c :: cs)
    | none => takeNext limit (buffer ++ c) cs

theorem length_lt_of_takeNext {limit : Nat} {buffer buffer' : Bytes} {cs cs' : List Bytes}
    {f : Frame} (h : takeNext limit buffer cs = (some f, buffer', cs')) :
    buffer'.length + cs'.flatten.length < buffer.length + cs.flatten.length := by
  induction cs generalizing buffer with
  | nil =>
    simp only [takeNext] at h
    split at h
    · rename_i hd
      simp only [Prod.mk.injEq] at h
      obtain ⟨-, rfl, rfl⟩ := h
      simpa using length_lt_of_decode? hd
    · simp at h
  | cons c cs ih =>
    simp only [takeNext] at h
    split at h
    · rename_i hd
      simp only [Prod.mk.injEq] at h
      obtain ⟨-, rfl, rfl⟩ := h
      have := length_lt_of_decode? hd
      omega
    · have := ih h
      simp only [List.length_append, List.flatten_cons] at this ⊢
      omega

/-- Reads a frame from a stream, of which `buffer` holds what was taken too much before. -/
def next (limit : Nat) (buffer : Bytes) (source : Source) :
    Except LinkError Frame × Bytes × Source :=
  match takeNext limit buffer source.chunks with
  | (some f, buffer, chunks) => (.ok f, buffer, { source with chunks })
  | (none, buffer, chunks) => (.error source.ending.error, buffer, { source with chunks })

/-- Reads frames until the stream ends: the frames, why there are no more, and the bytes of a
frame that never came whole. -/
def readAll (limit : Nat) (buffer : Bytes) (source : Source) :
    List Frame × LinkError × Bytes :=
  match _h : takeNext limit buffer source.chunks with
  | (none, left, _) => ([], source.ending.error, left)
  | (some f, rest, chunks) =>
    let (fs, e, left) := readAll limit rest { source with chunks }
    (f :: fs, e, left)
termination_by buffer.length + source.size
decreasing_by exact length_lt_of_takeNext _h

end Frame

end DeviceLink
