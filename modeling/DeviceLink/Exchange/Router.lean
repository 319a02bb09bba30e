-- Routing by message type: each type has at most one handler, the one that was given last.
import DeviceLink.Exchange.Fallback

namespace DeviceLink

/-- Handlers for request types, the last one given in front. -/
structure Router where
  routes : List (UInt8 × Handler) := []

namespace Router

/-- Gives a type a handler; an earlier one gives way. -/
def route (r : Router) (typ : UInt8) (handler : Handler) : Router :=
  ⟨(typ, handler) :: r.routes⟩

/-- The handler of a type. -/
def handler? (r : Router) (typ : UInt8) : Option Handler := r.routes.lookup typ

def hasRoute (r : Router) (typ : UInt8) : Bool := (r.handler? typ).isSome

/-- Hands each request to the handler of its type, and refuses it where there is none. -/
def handle (r : Router) : Handler := fun request registry =>
  match r.handler? request.typ with
  | some handler => handler request registry
  | none => (some (Exchange.refusal "Route Not Found"), registry)

end Router

namespace Handler

/-- The response to a request for a restore. -/
def restoreResponse (status : UInt16) (word note : String) : Response :=
  .ofPayload (Exchange.answerType MessageType.adminRestoreReq.code) status
    (⟨word, note⟩ : Transfer.AdminRestoreResponse)

/-- Tells a device to restore a file, on the request of an admin. -/
def adminRestore : Handler := fun request registry =>
  match Json.Payload.parse request.payload with
  | .error _ =>
    (some (restoreResponse Exchange.statusBadRequest "error" "Invalid Payload"), registry)
  | .ok (restore : Transfer.AdminRestoreRequest) =>
    let command := Transfer.RestoreCommand.ofFile restore.fileUuid restore.version
    let (delivered, registry) := registry.sendToDevice restore.deviceId
      MessageType.serverRestoreCmd.code (Json.Payload.print command)
    let (word, note) :=
      if delivered then ("ok", "Restore command sent to device") else ("error", "Device Offline")
    (some (restoreResponse Exchange.statusOk word note), registry)

end Handler

/-- The routes of a server that is run as a program. -/
def Router.standard (accepted : Credentials) : Router :=
  let known := Handler.fallback accepted
  ((({} : Router).route MessageType.loginReq.code known).route
    MessageType.listReq.code known).route MessageType.adminRestoreReq.code Handler.adminRestore

end DeviceLink
