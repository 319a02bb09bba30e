-- Sockets of the system: dialling, writing, and waiting for bytes, but only so long.
import DeviceLink.Bytes
import DeviceLink.Network.Address
import DeviceLink.Network.Dial
import Std.Async.DNS
import Std.Async.TCP
import Std.Async.Timer

namespace DeviceLink.Live

open Std.Async (Async Selectable Selector)

abbrev Socket := Std.Async.TCP.Socket.Client

/-! ## Addresses -/

/-- An endpoint as the system knows it; the system takes no scope. -/
def systemAddress (e : Network.Endpoint) : Std.Net.SocketAddress :=
  match e.address with
  | .v4 a b c d => .v4 ⟨.ofParts a b c d, e.port⟩
  | .v6 groups =>
    let g := fun i => groups.getD i 0
    .v6 ⟨.ofParts (g 0) (g 1) (g 2) (g 3) (g 4) (g 5) (g 6) (g 7), e.port⟩

/-- An endpoint that the system gave. -/
def endpointOf : Std.Net.SocketAddress → Network.Endpoint
  | .v4 a =>
    let byte := fun i => a.addr.octets.toList.getD i 0
    { address := .v4 (byte 0) (byte 1) (byte 2) (byte 3), port := a.port }
  | .v6 a => { address := .v6 a.addr.segments.toList, port := a.port }

/-- The endpoint of a host, which is an address or a name that the system knows. -/
def resolve (host : String) (port : UInt16) : Async Network.Endpoint := do
  match Network.Address.ofText? host with
  | some address => return { address, port }
  | none =>
    let found ← Std.Async.DNS.getAddrInfo host (toString port.toNat) none
    match found.toList with
    | .v4 a :: _ => return endpointOf (.v4 ⟨a, port⟩)
    | .v6 a :: _ => return endpointOf (.v6 ⟨a, port⟩)
    | [] => throw (IO.userError "failed to lookup address information")

/-! ## Connections -/

/-- A span of time as the timers know it. -/
def timerSpan (d : Duration) : Std.Time.Millisecond.Offset :=
  Std.Time.Millisecond.Offset.ofNat d.milliseconds

/-- What is said of a failure of the system. -/
def dialFailure (e : IO.Error) : Network.DialFailure :=
  let reason := toString e
  if reason.contains "refused" then .connectionRefused
  else if reason.contains "unreachable" then .networkUnreachable
  else .other reason

/-- Dials a host, but only for so long. -/
def dial (host : String) (port : UInt16) (limit : Duration) :
    Async (Except Network.DialFailure Socket) := do
  let attempt : Async (Option (Except Network.DialFailure Socket)) := do
    try
      let endpoint ← resolve host port
      let socket ← Std.Async.TCP.Socket.Client.mk
      socket.connect (systemAddress endpoint)
      socket.noDelay
      return some (.ok socket)
    catch e => return some (.error (dialFailure e))
  let alarm : Async (Option (Except Network.DialFailure Socket)) := do
    Std.Async.sleep (timerSpan limit)
    return none
  return (← Async.race attempt alarm).getD (.error (.timedOut limit))

/-- Writes bytes. -/
def write (socket : Socket) (bs : Bytes) : Async Unit := socket.send ⟨bs.toArray⟩

/-- What a wait for bytes ended with. -/
inductive Arrival
  | bytes (bs : Bytes)
  /-- The peer sends no more. -/
  | ended
  /-- The connection broke. -/
  | broken (reason : String)
  /-- Nothing came in time. -/
  | late
  /-- Something else came first. -/
  | interrupted

/-- How many bytes are taken at a time. -/
def pieceSize : UInt64 := 65536

/-- Waits for bytes on a socket, for so long if there is a limit, and until something else happens
if there is such a thing. -/
def receive (socket : Option Socket) (limit : Option Duration) (other : Option (Selector Unit)) :
    Async Arrival := do
  let mut ways : Array (Selectable Arrival) := #[]
  if let some socket := socket then
    ways := ways.push (.case (socket.recvSelector pieceSize) fun
      | some bs => return .bytes bs.toList
      | none => return .ended)
  if let some limit := limit then
    ways := ways.push (.case (← Selector.sleep (timerSpan limit)) fun _ => return .late)
  if let some other := other then
    ways := ways.push (.case other fun _ => return .interrupted)
  try
    Selectable.one ways
  catch e => return .broken (toString e)

end DeviceLink.Live
