-- What can go wrong on a link: with the connection, with a length or a code, or with a payload.
import DeviceLink.Json.Error
import DeviceLink.Text.Hex
import DeviceLink.Transfer.Operation

namespace DeviceLink

/-- Why an operation on a link failed. -/
inductive LinkError
  /-- The peer closed the connection before a whole unit was read. -/
  | closed
  /-- The connection broke. -/
  | broken (reason : String)
  /-- A length does not fit its field, or is above a limit. -/
  | oversize (length : Nat)
  | unknownType (code : UInt8)
  | invalidDeviceId (id : String)
  | json (cause : Json.Error)
  | chunkData (cause : Text.Hex.Error)
  /-- A transfer operation came out of order. -/
  | outOfOrder (op : Transfer.Operation) (phase : Transfer.Phase)
deriving Repr, DecidableEq

namespace LinkError

/-- The peer went away. -/
def isDisconnect : LinkError → Bool
  | .closed | .broken _ => true
  | _ => false

/-- What is said of unreadable JSON. -/
def jsonMessage : Json.Error → String
  | .malformed => "malformed text"
  | .unfinished => "unfinished text"
  | .refused cause => cause.message

/-- The wording of an error. -/
def message : LinkError → String
  | .closed => "connection closed"
  | .broken reason => s!"io error: {reason}"
  | .oversize length => s!"size limit exceeded: {length}"
  | .unknownType code => s!"unknown type 0x{codeDigits code}"
  | .invalidDeviceId id => s!"invalid device id: {id}"
  | .json cause => s!"json payload: {jsonMessage cause}"
  | .chunkData cause => s!"chunk data: {cause.message}"
  | .outOfOrder op phase => s!"{op.name} not allowed while transfer is {phase.name}"

end LinkError

/-- The message type of a code, which may be unknown. -/
def MessageType.ofCode (code : UInt8) : Except LinkError MessageType :=
  match ofCode? code with
  | some t => .ok t
  | none => .error (.unknownType code)

end DeviceLink
