-- Requests and responses: one of each goes over a connection of the exchange channel.
import DeviceLink.Exchange.Header
import DeviceLink.Json.Printer
import DeviceLink.Json.Reader

namespace DeviceLink

/-- A request. -/
structure Request where
  typ : UInt8
  payload : Bytes
deriving Repr, DecidableEq

/-- A response. Its type is zero where no handler was found for the request. -/
structure Response where
  typ : UInt8
  status : UInt16
  body : Bytes
deriving Repr, DecidableEq

namespace Exchange

/-! ## Statuses -/

def statusOk : UInt16 := 200

/-- The request cannot be read, or has no handler. -/
def statusBadRequest : UInt16 := 400

/-- The credentials are refused. -/
def statusUnauthorized : UInt16 := 401

/-- A handler failed. -/
def statusInternalError : UInt16 := 500

/-! ## Bodies -/

/-- The longest payload that is accepted unless another limit is set. -/
def defaultLimit : Nat := 64 * 1024 * 1024

/-- The size of the pieces in which an unwanted body is taken. -/
def drainPiece : Nat := 1024

/-- Takes `n` bytes onto `into`. If they do not all come, zeros stand for the rest. -/
def readBody (n : Nat) (into : Bytes) (source : Source) :
    Except LinkError Unit × Bytes × Source :=
  let (bs, chunks) := takeChunks n source.chunks
  let rest := { source with chunks }
  if bs.length = n then (.ok (), into ++ bs, rest)
  else (.error source.ending.cutOff, into ++ bs ++ List.replicate (n - bs.length) 0, rest)

/-- Takes `n` bytes, piece by piece, and drops them. -/
def drain (n : Nat) : Receive Unit := fun source =>
  if n = 0 then (.ok (), source)
  else
    let (bs, chunks) := takePiece (min n drainPiece) source.chunks
    let rest := { source with chunks }
    if _h : bs.length = 0 then (.error source.ending.error, rest)
    else drain (n - bs.length) rest
termination_by n

end Exchange

namespace Request

/-- A request with a JSON payload. -/
def ofJson (typ : UInt8) (value : Json) : Request := ⟨typ, value.print⟩

/-- The payload as text. -/
def text (r : Request) : String := Text.lossy r.payload

/-- The bytes of a request. -/
def encode (r : Request) : Except LinkError Bytes := do
  return Exchange.RequestHeader.encode ⟨r.typ, ← Exchange.lengthField r.payload.length⟩ ++ r.payload

/-- Reads a request with a payload of at most `limit` bytes. A longer one is left unread. -/
def read (limit : Nat) : Receive Request := do
  let h ← Exchange.RequestHeader.read
  if limit < h.length.toNat then throw (.oversize h.length.toNat)
  return ⟨h.typ, ← Receive.exactly h.length.toNat⟩

end Request

namespace Response

/-- A response with a JSON body. -/
def ofJson (typ : UInt8) (status : UInt16) (value : Json) : Response := ⟨typ, status, value.print⟩

def isSuccess (r : Response) : Bool := r.status == Exchange.statusOk

/-- The body as text. -/
def text (r : Response) : String := Text.lossy r.body

/-- The bytes of a response. -/
def encode (r : Response) : Except LinkError Bytes := do
  let length ← Exchange.lengthField r.body.length
  return Exchange.ResponseHeader.encode ⟨r.typ, length, r.status⟩ ++ r.body

/-- Reads a response with a body of at most `limit` bytes. A longer one is left unread. -/
def read (limit : Nat) : Receive Response := do
  let h ← Exchange.ResponseHeader.read
  if limit < h.length.toNat then throw (.oversize h.length.toNat)
  return ⟨h.typ, h.status, ← Receive.exactly h.length.toNat⟩

/-- How many bytes a response takes in all, once its header is there. One that is too long takes
no more than that. -/
def size? (limit : Nat) (bs : Bytes) : Option Nat :=
  match Exchange.ResponseHeader.read (.ofBytes bs) with
  | (.ok h, rest) =>
    let n := h.length.toNat
    some (bs.length - rest.size + (if limit < n then 0 else n))
  | (.error _, _) => none

end Response

end DeviceLink
