-- A restore: the download of one file, as the client that wants it sees it. The offset counts the
-- bytes that have come; the server only says how many there are in all.
import DeviceLink.Transfer.Step

namespace DeviceLink.Transfer

/-- A restore, and the calls made for it. -/
structure Restore where
  sequence : Sequence := .start .restore
  /-- The size that the server gave. -/
  totalSize : Nat := 0
  /-- The requests, last first. -/
  calls : List Request := []
deriving Repr, DecidableEq

namespace Restore

/-- All bytes of a known transfer have come. -/
def isComplete (r : Restore) : Bool :=
  r.sequence.id.isSome && r.totalSize ≤ r.sequence.offset

/-- Fails unless the operation is allowed now. -/
def check (op : Operation) : Step Restore Unit := do
  match (← get).sequence.check op with
  | .ok _ => return
  | .error cause => throw (.link cause)

/-- Goes on to the phase after an operation. -/
def advance (op : Operation) : Step Restore Unit := do
  match (← get).sequence.advance op with
  | .ok sequence => modify fun r => { r with sequence }
  | .error cause => throw (.link cause)

/-- The name of the transfer. -/
def transferId : Step Restore String := do
  match (← get).sequence.id with
  | some id => return id
  | none => throw .noTransfer

/-- Calls the server. -/
def call (caller : Caller) (remote : Remote) (request : Request) : Step Restore Response := do
  modify fun r => { r with calls := request :: r.calls }
  Step.ofExcept (caller.call request (remote request))

/-- Takes the answer to an operation that opens the transfer. The offset stays where it was. -/
def opened (op : Operation) (response : Response) : Step Restore RestoreInitResponse := do
  let response ← Step.ofExcept response.ensureSuccess
  let session : RestoreInitResponse ← Step.ofExcept response.parse
  if ¬ session.isOk then throw (.refused Exchange.statusOk s!"restore status {session.status}")
  advance op
  modify fun r =>
    { r with
      sequence := r.sequence.attach session.transferId r.sequence.offset
      totalSize := session.totalSize.toInt.toNat }
  return session

/-- Opens the transfer. -/
def init (caller : Caller) (remote : Remote) (request : RestoreInitRequest) :
    Step Restore RestoreInitResponse := do
  check .restoreInit
  opened .restoreInit (← call caller remote (.ofOperation .restoreInit request))

/-- Goes on with an earlier transfer. -/
def resume (caller : Caller) (remote : Remote) (transferId : String) :
    Step Restore RestoreInitResponse := do
  check .restoreResume
  let request : TransferIdRequest := ⟨transferId⟩
  opened .restoreResume (← call caller remote (.ofOperation .restoreResume request))

/-- Fetches the next bytes of the file and counts those that came. -/
def nextChunk (caller : Caller) (remote : Remote) (size : Int32) : Step Restore Bytes := do
  check .restoreChunk
  let request : RestoreChunkRequest :=
    ⟨← transferId, Int64.ofNat (← get).sequence.offset, size⟩
  let response ← call caller remote (.ofOperation .restoreChunk request)
  let response ← Step.ofExcept response.ensureSuccess
  let chunk : RestoreChunkResponse ← Step.ofExcept response.parse
  let data ← Step.ofExcept (ofLink chunk.bytes)
  advance .restoreChunk
  modify fun r => { r with sequence := r.sequence.record data.length }
  return data

/-- Says that all of the file has come. -/
def finish (caller : Caller) (remote : Remote) : Step Restore Response := do
  check .restoreFinish
  let request : TransferIdRequest := ⟨← transferId⟩
  let response ← call caller remote (.ofOperation .restoreFinish request)
  let response ← Step.ofExcept response.ensureSuccess
  advance .restoreFinish
  return response

end Restore

end DeviceLink.Transfer
