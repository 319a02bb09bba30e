-- What can go wrong for a client: on the way to the server, on the link, while it waits, or in
-- what the server answers.
import DeviceLink.Exchange.Message
import DeviceLink.Json.Record
import DeviceLink.Network.Dial

namespace DeviceLink

/-- Why a client did not get what it asked for. -/
inductive ClientError
  | unreachable (address : String) (failure : Network.DialFailure)
  /-- Nothing came within the time that a client waits. -/
  | timeout (limit : Duration)
  | link (cause : LinkError)
  /-- There is no connection for notifications. -/
  | notConnected
  /-- The connection for notifications was lost before a reply came. -/
  | lost
  /-- The server refused, with a status and a text. -/
  | refused (status : UInt16) (body : String)
  /-- The transfer was never opened. -/
  | noTransfer
deriving Repr, DecidableEq

/-- The wording of an error. -/
def ClientError.message : ClientError → String
  | .unreachable address failure => s!"connect to {address} failed: {failure.message}"
  | .timeout limit => s!"no response within {limit.text}"
  | .link cause => cause.message
  | .notConnected => "notification channel not connected"
  | .lost => "notification channel closed while waiting for a reply"
  | .refused status body => s!"server returned status {status.toNat}: {body}"
  | .noTransfer => "no transfer attached"

/-- A result on a link as a result for a client. -/
def ofLink {α : Type} : Except LinkError α → Except ClientError α
  | .ok x => .ok x
  | .error cause => .error (.link cause)

/-- A response that says that all went well; any other is an error. -/
def Response.ensureSuccess (r : Response) : Except ClientError Response :=
  if r.isSuccess then .ok r else .error (.refused r.status r.text)

/-- The record in the body of a response. -/
def Response.parse {α : Type} [Json.Payload α] (r : Response) : Except ClientError α :=
  match Json.Payload.parse r.body with
  | .ok x => .ok x
  | .error cause => .error (.link (.json cause))

end DeviceLink
