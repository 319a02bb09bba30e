-- Headers of the exchange channel. A standard header has a length of two bytes; an extended one
-- begins with a magic byte and has a length of four. A response adds its status.
import DeviceLink.Stream

namespace DeviceLink.Exchange

/-- The first byte of an extended header. -/
def magic : UInt8 := 0xFE

/-- The longest payload that a standard header can announce. -/
def standardLimit : Nat := 65535

/-- The two layouts of a header. -/
inductive Shape
  | standard
  | extended
deriving Repr, DecidableEq

def Shape.label : Shape → String
  | .standard => "Standard"
  | .extended => "Extended"

/-- The layout for a payload of `n` bytes: the short one where it will do. -/
def Shape.ofLength (n : Nat) : Shape := if n ≤ standardLimit then .standard else .extended

/-- What comes before the payload of a request. -/
structure RequestHeader where
  typ : UInt8
  length : UInt32
deriving Repr, DecidableEq

/-- What comes before the body of a response. -/
structure ResponseHeader where
  typ : UInt8
  length : UInt32
  status : UInt16
deriving Repr, DecidableEq

/-- The four-byte length of a payload of `n` bytes. -/
def lengthField (n : Nat) : Except LinkError UInt32 :=
  if n < UInt32.size then .ok (UInt32.ofNat n) else .error (.oversize n)

namespace RequestHeader

def shape (h : RequestHeader) : Shape := .ofLength h.length.toNat

/-- The bytes of a header. -/
def encode (h : RequestHeader) : Bytes :=
  match h.shape with
  | .standard => h.typ :: Bytes.be16 h.length.toNat
  | .extended => magic :: h.typ :: Bytes.be32 h.length.toNat

/-- Reads a header. The first byte decides the layout. -/
def read : Receive RequestHeader := do
  let first ← Receive.byte
  if first = magic then
    let typ ← Receive.byte
    return ⟨typ, UInt32.ofNat (← Receive.number 4)⟩
  else return ⟨first, UInt32.ofNat (← Receive.number 2)⟩

end RequestHeader

namespace ResponseHeader

def shape (h : ResponseHeader) : Shape := .ofLength h.length.toNat

/-- The bytes of a header. -/
def encode (h : ResponseHeader) : Bytes :=
  RequestHeader.encode ⟨h.typ, h.length⟩ ++ Bytes.be16 h.status.toNat

/-- Reads a header. -/
def read : Receive ResponseHeader := do
  let h ← RequestHeader.read
  return ⟨h.typ, h.length, UInt16.ofNat (← Receive.number 2)⟩

end ResponseHeader

end DeviceLink.Exchange
