-- What a server does with the one request that a connection brings. A request that is broken off
-- or too long is never answered; a type that is no request is refused once its payload is taken;
-- anything else goes to the handler.
import DeviceLink.Exchange.Handler

namespace DeviceLink.Exchange

/-- The type may open an exchange. Unknown types may: the handler decides. -/
def opensExchange (typ : UInt8) : Bool :=
  match MessageType.ofCode? typ with
  | some t => t.kind == .request
  | none => true

/-- What was read from a connection. -/
inductive Inbound
  | request (r : Request)
  /-- A known type that is no request. Its payload was taken. -/
  | rejected (typ : UInt8)
deriving Repr, DecidableEq

/-- Reads a request with a payload of at most `limit` bytes. -/
def Inbound.read (limit : Nat) : Receive Inbound := do
  let h ← RequestHeader.read
  let n := h.length.toNat
  if limit < n then throw (.oversize n)
  if opensExchange h.typ then return .request ⟨h.typ, ← Receive.exactly n⟩
  else
    drain n
    return .rejected h.typ

/-- How many bytes a request takes in all, once its header is there. One that is too long takes no
more than that. -/
def Inbound.size? (limit : Nat) (bs : Bytes) : Option Nat :=
  match RequestHeader.read (.ofBytes bs) with
  | (.ok h, rest) =>
    let n := h.length.toNat
    some (bs.length - rest.size + (if limit < n then 0 else n))
  | (.error _, _) => none

/-- The answer to what a connection brings, if there is one, and the registry after it. A peer
that falls silent is cut off in the end, which reads like a stream that ends. -/
def serve (limit : Nat) (handler : Handler) (source : Source) (registry : Registry) :
    Option Response × Registry :=
  match (Inbound.read limit source).1 with
  | .ok (.request request) => handler request registry
  | .ok (.rejected _) => (some unknownRequest, registry)
  | .error _ => (none, registry)

/-- The bytes that a connection is sent in all. -/
def sentBytes (answer : Option Response) : Bytes :=
  match answer.map Response.encode with
  | some (.ok bs) => bs
  | _ => []

end DeviceLink.Exchange
