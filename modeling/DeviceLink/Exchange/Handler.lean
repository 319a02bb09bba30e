-- Handlers of requests. A handler gives the response, or none when it closes the connection
-- without one, and may use the registry on the way.
import DeviceLink.Exchange.Message
import DeviceLink.Registry

namespace DeviceLink

/-- What answers requests. -/
abbrev Handler := Request → Registry → Option Response × Registry

namespace Exchange

/-- The type of the answer to a request: the paired type, or zero where there is none. -/
def answerType (typ : UInt8) : UInt8 :=
  match MessageType.ofCode? typ >>= MessageType.response? with
  | some t => t.code
  | none => 0

/-- A JSON object with one text, and a blank after the colon. -/
def noteBody (name note : String) : Bytes :=
  Json.ascii (String.join ["\x7b\"", name, "\": \"", note, "\"\x7d"])

/-- The refusal of a request, with type zero. -/
def refusal (note : String) : Response := ⟨0, statusBadRequest, noteBody "error" note⟩

/-- The refusal of a request that nobody knows how to answer. -/
def unknownRequest : Response := refusal "Unknown Request Type"

end Exchange

namespace Handler

/-- A handler that always answers and leaves the registry alone. -/
def ofResponse (respond : Request → Response) : Handler :=
  fun request registry => (some (respond request), registry)

/-- A handler that may fail, and then answers with the reason. -/
def ofResult (respond : Request → Except String Response) : Handler :=
  ofResponse fun request =>
    match respond request with
    | .ok response => response
    | .error reason =>
      .ofJson (Exchange.answerType request.typ) Exchange.statusInternalError
        (Json.ofMembers [("error", .string reason)])

end Handler

end DeviceLink
