-- What a command comes to under the settings in effect, and what is reported once it is done.
import DeviceLink.Client.Caller
import DeviceLink.Client.Session
import DeviceLink.Command.Arguments
import DeviceLink.Exchange.Router
import DeviceLink.LogFilter
import DeviceLink.Server.Settle
import DeviceLink.Settings

namespace DeviceLink

/-- A server as the settings want it. -/
def ServerSettings.server (s : ServerSettings) : Server :=
  { cap := s.frameBufferSize
    limit := s.maxApiPayload
    handler := (Router.standard ⟨s.adminUsername, s.adminPassword⟩).handle
    registry := { policy := s.duplicatePolicy } }

/-- The calls of a client. -/
def ClientSettings.caller (s : ClientSettings) : Caller :=
  { address := s!"{s.host}:{s.apiPort.toNat}", timeout := .ofSeconds s.requestSeconds }

/-- A client that is not connected yet. -/
def ClientSettings.session (s : ClientSettings) : Session :=
  { timeout := .ofSeconds s.requestSeconds }

namespace Command

/-! ## Reports -/

/-- What a command leaves behind: what it printed, and what went wrong, each cause after what it
caused. -/
structure Report where
  output : String := ""
  errors : List String := []
deriving Repr, DecidableEq

namespace Report

/-- The code that the program exits with. -/
def exitCode (r : Report) : Nat := if r.errors.isEmpty then 0 else 1

/-- The causes of an error, numbered if there are several. -/
def causesText (causes : List String) : String :=
  let line := fun (n : Nat × String) =>
    if causes.length = 1 then s!"    {n.2}\n" else s!"    {n.1}: {n.2}\n"
  if causes.isEmpty then ""
  else "\nCaused by:\n" ++ String.join (((List.range causes.length).zip causes).map line)

/-- What is said of an error. -/
def errorText (r : Report) : String :=
  match r.errors with
  | [] => ""
  | error :: causes => s!"Error: {error}\n" ++ causesText causes

end Report

/-- What is reported of a client's error. -/
def Report.ofError (e : ClientError) (output : String := "") : Report :=
  let causes := match e with
    | .unreachable _ failure => [failure.message]
    | _ => []
  { output, errors := e.message :: causes }

/-- What is reported of a login. -/
def loginReport : Except ClientError Response → Report
  | .error e => .ofError e
  | .ok response =>
    { output := s!"{response.status.toNat} {response.text}\n"
      errors := if response.isSuccess then [] else ["login rejected"] }

/-- What is reported of the list of who is online. -/
def usersReport : Except ClientError UserList → Report
  | .error e => .ofError e
  | .ok list => { output := String.join (list.users.map fun user => user ++ "\n") }

/-- The line for a frame that came. -/
def frameLine (f : Frame) : String := s!"[{describeCode f.typ}] {Text.trimEnd f.text}\n"

/-- What is reported of a message and its reply. -/
def replyReport : Except ClientError Frame → Report
  | .error e => .ofError e
  | .ok reply => { output := frameLine reply }

/-- What is reported when there was no connection within the time that a message could wait. -/
def notAcceptedReport : Report :=
  { errors := ["server did not accept the connection in time", "deadline has elapsed"] }

/-! ## Plans -/

/-- What is to be done for a command. -/
inductive Plan
  | fail (report : Report)
  /-- Serve at two endpoints, until the program is interrupted. -/
  | serve (settings : ServerSettings) (notify exchange : Network.Endpoint) (handshake : Duration)
  /-- Stay connected and print what comes, until the program is interrupted. -/
  | listen (client : ClientSettings) (device : DeviceId)
  | login (client : ClientSettings) (who : Credentials)
  | users (client : ClientSettings)
  | send (client : ClientSettings) (device : DeviceId) (message : String) (wait : Duration)
deriving Repr, DecidableEq

/-- The plan for a device, if its identifier will do. -/
def withDevice (id : String) (plan : DeviceId → Plan) : Plan :=
  match DeviceId.ofText id with
  | .ok device => plan device
  | .error e => .fail { errors := [e.message] }

/-- The plan for a command. What the arguments say goes over the settings. -/
def Task.plan (settings : Settings) : Task → Plan
  | .serve port apiPort handshake replace =>
    let s := settings.server
    let s := { s with
      port := port.getD s.port
      apiPort := apiPort.getD s.apiPort
      duplicatePolicy := if replace then .replace else s.duplicatePolicy }
    match s.endpoints with
    | .ok (notify, exchange) =>
      .serve s notify exchange (handshake.getD (.ofSeconds s.handshakeSeconds))
    | .error e => .fail { errors := [e.message.1, e.message.2] }
  | .listen device => withDevice device (.listen settings.client)
  | .login who => .login settings.client who
  | .users => .users settings.client
  | .send device message wait =>
    withDevice device fun device => .send settings.client device message wait

/-- The plan for arguments: the filter for messages is looked at before anything else. -/
def Arguments.plan (args : Arguments) (settings : Settings) : Plan :=
  match LogFilter.ofText args.logLevel with
  | .error e => .fail { errors := [e.message] }
  | .ok _ => args.task.plan settings

end Command

end DeviceLink
