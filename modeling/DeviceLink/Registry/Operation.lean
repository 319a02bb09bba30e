-- Operations on the registry as values. Connections, hooks and handlers all share one registry;
-- whatever they do to it is a sequence of these, each of them one step.
import DeviceLink.Registry

namespace DeviceLink.Registry

/-- One operation on the registry. -/
inductive Operation
  | takeNumber
  | connect (device : DeviceId) (peer : Option Network.Endpoint)
  | register (h : Handle)
  | unregister (id : String)
  | unregisterConnection (conn : ConnId)
  | sendFrame (conn : ConnId) (typ : UInt8) (payload : Bytes)
  | sendToDevice (id : String) (typ : UInt8) (payload : Bytes)
  | broadcast (sender : String) (payload : Bytes)
  | closeAll
  | close (conn : ConnId)
  | noticeClose (conn : ConnId)
  | drain (conn : ConnId)
  | dropWriter (conn : ConnId)
deriving Repr, DecidableEq

/-- What an operation gives back. -/
inductive Answer
  | done
  | flag (b : Bool)
  | number (n : Nat)
  | handle (h : Handle)
  | handles (hs : List Handle)
  | frames (fs : List Bytes)
deriving Repr, DecidableEq

namespace Operation

/-- Queues an ordinary frame on the line of a connection. -/
def send (conn : ConnId) (payload : Bytes) : Operation :=
  .sendFrame conn MessageType.socket.code payload

/-- Queues an ordinary frame for a device. -/
def unicast (id : String) (payload : Bytes) : Operation :=
  .sendToDevice id MessageType.socket.code payload

end Operation

/-- What an operation gives back, and the registry after it. -/
def perform (r : Registry) : Operation → Answer × Registry
  | .takeNumber => r.takeNumber.map .number id
  | .connect device peer => (r.connect device peer).map .handle id
  | .register h => (r.register h).map .handles id
  | .unregister device => (r.unregister device).map .flag id
  | .unregisterConnection conn => (r.unregisterConnection conn).map .flag id
  | .sendFrame conn typ payload => (r.sendFrame conn typ payload).map .flag id
  | .sendToDevice device typ payload => (r.sendToDevice device typ payload).map .flag id
  | .broadcast sender payload => (r.broadcast sender payload).map .number id
  | .closeAll => r.closeAll.map .number id
  | .close conn => (.done, r.close conn)
  | .noticeClose conn => (r.noticeClose conn).map .flag id
  | .drain conn => (r.drain conn).map .frames id
  | .dropWriter conn => (.done, r.dropWriter conn)

/-- Performs operations in order: what each gives back, and the registry after them. -/
def performAll (r : Registry) : List Operation → List Answer × Registry
  | [] => ([], r)
  | op :: ops =>
    let (answer, r) := r.perform op
    let (answers, r) := r.performAll ops
    (answer :: answers, r)

end DeviceLink.Registry
