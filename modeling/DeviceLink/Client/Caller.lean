-- Calls: a client dials the server, sends one request and reads one response. What the server
-- does is a reply, given to the call as a value.
import DeviceLink.Client.Error
import DeviceLink.DeviceId
import DeviceLink.Transfer.Payload

namespace DeviceLink

/-- What a client meets when it calls. -/
inductive Reply
  /-- The server cannot be dialled. -/
  | refused (failure : Network.DialFailure)
  /-- The connection breaks before the request is sent. -/
  | unsent (reason : String)
  /-- The request is taken, and then these bytes arrive. -/
  | stream (source : Source)
  /-- The request is taken, these bytes arrive, and then nothing more. -/
  | silence (begun : Bytes)
deriving Repr, DecidableEq

/-- The settings of a client for its calls. -/
structure Caller where
  /-- The host and port that it dials. -/
  address : String
  timeout : Duration := .ofSeconds 10
  limit : Nat := Exchange.defaultLimit
deriving Repr, DecidableEq

namespace Caller

/-- What a client reads once its request is sent. -/
def read (c : Caller) : Reply → Except ClientError (Except LinkError Response)
  | .refused failure => .error (.unreachable c.address failure)
  | .unsent reason => .error (.link (.broken reason))
  | .stream source => .ok (Response.read c.limit source).1
  | .silence begun =>
    match (Response.read c.limit (.ofBytes begun)).1 with
    | .error .closed => .error (.timeout c.timeout)
    | result => .ok result

/-- Dials, sends a request and reads what comes back. A server that cannot be dialled is noticed
before a request that cannot be encoded. -/
def exchange (c : Caller) (request : Request) (reply : Reply) :
    Except ClientError (Except LinkError Response) :=
  match reply, request.encode with
  | .refused failure, _ => .error (.unreachable c.address failure)
  | _, .error cause => .error (.link cause)
  | reply, .ok _ => c.read reply

/-- One call. -/
def call (c : Caller) (request : Request) (reply : Reply) : Except ClientError Response := do
  ofLink (← c.exchange request reply)

/-- A call that the server may acknowledge by closing the connection. -/
def callOneWay (c : Caller) (request : Request) (reply : Reply) :
    Except ClientError (Option Response) := do
  match ← c.exchange request reply with
  | .ok response => return some response
  | .error cause => if cause.isDisconnect then return none else throw (.link cause)

/-- A call whose answer is a record. -/
def ask {α : Type} [Json.Payload α] (c : Caller) (request : Request) (reply : Reply) :
    Except ClientError α := do
  (← (← c.call request reply).ensureSuccess).parse

end Caller

/-! ## Requests -/

/-- The answer to a request for the list of who is online. -/
structure UserList where
  users : List String
deriving Repr, DecidableEq

instance : Json.Payload UserList where
  title := "UserList"
  fields := [Json.required "users" Json.texts]
  toRecord x := (x.users, ())
  ofRecord := fun (users, ()) => ⟨users⟩

namespace Request

/-- A request of a message type with an object as its payload. -/
def ofMembers (t : MessageType) (members : List (String × Json)) : Request :=
  .ofJson t.code (Json.ofMembers members)

/-- The payload of a login, with the identifier of the device if it has one. -/
def loginPayload (username password : String) (device : Option DeviceId) : Bytes :=
  let named := match device with
    | some d => [("device_id", Json.string d.text)]
    | none => []
  Json.printObject ([("username", .string username), ("password", .string password)] ++ named)

/-- A device or a user logs in. -/
def login (username password : String) (device : Option DeviceId) : Request :=
  ⟨MessageType.loginReq.code, loginPayload username password device⟩

/-- An admin logs in. -/
def adminLogin (username password : String) : Request :=
  ⟨MessageType.adminLoginReq.code, loginPayload username password none⟩

/-- A device says what it is. -/
def registerDevice (info : Json) : Request := .ofJson MessageType.deviceReq.code info

/-- Asks who is online. -/
def onlineUsers : Request := ⟨MessageType.listReq.code, []⟩

/-- Asks that a device send its last log lines. -/
def recentLogs (target : String) (lineCount : Nat) : Request :=
  ofMembers .adminGetLogsReq
    [("target_device_id", .string target), ("line_count", .whole lineCount)]

/-- Asks for the logs of a device that the server has. -/
def storedLogs (target : String) : Request :=
  ofMembers .adminGetStoredLogsReq [("target_device_id", .string target)]

/-- Asks for a page of the commands that a device was sent. -/
def commandHistory (target : String) (page size : Nat) : Request :=
  ofMembers .adminGetCommandHistoryReq
    [("target_device_id", .string target), ("page", .whole page), ("size", .whole size)]

/-- Sends logs as they are. -/
def uploadLogs (logs : Bytes) : Request := ⟨MessageType.clientGetLogReq.code, logs⟩

/-- Asks for the firewall policy of a device. -/
def firewallConfig (query : Json) : Request :=
  .ofJson MessageType.clientGetFirewallConfigReq.code query

/-- Changes the firewall policy of a device. -/
def firewallControl (target : String) (enable : Bool) (categories : List String) : Request :=
  ofMembers .adminFirewallControlReq [("target_device_id", .string target),
    ("enable", .bool enable), ("categories", .array (categories.map .string))]

/-- Reports changes of files. -/
def fileSync (changes : Json) : Request := .ofJson MessageType.clientFileSyncReq.code changes

/-- Asks for the files of a device. -/
def fileTree (query : Json) : Request := .ofJson MessageType.adminGetFileTreeReq.code query

/-- The request that asks for a transfer operation. -/
def ofOperation {α : Type} [Json.Payload α] (op : Transfer.Operation) (x : α) : Request :=
  .ofPayload op.request.code x

end Request

end DeviceLink
