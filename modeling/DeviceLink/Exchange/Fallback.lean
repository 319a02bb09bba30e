-- The answers of a server without a handler of its own: it lets one user log in and lists who is
-- online.
import DeviceLink.Exchange.Handler
import DeviceLink.Transfer.Payload

namespace DeviceLink

/-- What a login presents. A part that is left out is empty. -/
structure Credentials where
  username : String
  password : String
deriving Repr, DecidableEq

instance : Json.Payload Credentials where
  title := "Credentials"
  fields := [Json.optional "username" Json.text "", Json.optional "password" Json.text ""]
  toRecord x := (x.username, x.password, ())
  ofRecord := fun (username, password, ()) => ⟨username, password⟩

namespace Exchange

/-- The body of a list of identifiers. -/
def listBody (ids : List DeviceId) : Json :=
  Json.ofMembers [("users", .array (ids.map fun id => .string id.text))]

/-- A login presents the credentials that are accepted. -/
def accepts (accepted : Credentials) (payload : Bytes) : Bool :=
  match Json.Payload.parse payload with
  | .ok given => given = accepted
  | .error _ => false

/-- The answer to a login or to a request for the list; anything else is refused. -/
def fallback (accepted : Credentials) (online : List DeviceId) (request : Request) : Response :=
  match MessageType.ofCode? request.typ with
  | some .loginReq =>
    if accepts accepted request.payload then
      ⟨MessageType.loginResp.code, statusOk, noteBody "message" "Login Successful"⟩
    else ⟨MessageType.loginResp.code, statusUnauthorized, noteBody "error" "Invalid Credentials"⟩
  | some .listReq => .ofJson MessageType.listResp.code statusOk (listBody online)
  | _ => unknownRequest

end Exchange

/-- The handler of a server that has no other. -/
def Handler.fallback (accepted : Credentials) : Handler := fun request registry =>
  (some (Exchange.fallback accepted registry.list request), registry)

end DeviceLink
