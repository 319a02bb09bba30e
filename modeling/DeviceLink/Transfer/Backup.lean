-- A backup: the upload of one file, as the client that sends it sees it. An operation is checked
-- first, then the server is called, and only its consent moves the transfer on.
import DeviceLink.Transfer.Step

namespace DeviceLink.Transfer

/-- A backup, and the calls made for it. -/
structure Backup where
  sequence : Sequence := .start .backup
  /-- The requests, last first. -/
  calls : List Request := []
deriving Repr, DecidableEq

namespace Backup

/-- Fails unless the operation is allowed now. -/
def check (op : Operation) : Step Backup Unit := do
  match (← get).sequence.check op with
  | .ok _ => return
  | .error cause => throw (.link cause)

/-- Goes on to the phase after an operation. -/
def advance (op : Operation) : Step Backup Unit := do
  match (← get).sequence.advance op with
  | .ok sequence => modify fun b => { b with sequence }
  | .error cause => throw (.link cause)

/-- The name of the transfer. -/
def transferId : Step Backup String := do
  match (← get).sequence.id with
  | some id => return id
  | none => throw .noTransfer

/-- Notes the name and the offset that the server gave; an offset below zero counts as zero. -/
def attach (id : String) (offset : Int64) : Step Backup Unit :=
  modify fun b => { b with sequence := b.sequence.attach id offset.toInt.toNat }

/-- Calls the server, which has to consent. -/
def call (caller : Caller) (remote : Remote) (request : Request) : Step Backup Response := do
  modify fun b => { b with calls := request :: b.calls }
  let response ← Step.ofExcept (caller.call request (remote request))
  Step.ofExcept response.ensureSuccess

/-- Opens the transfer. -/
def init (caller : Caller) (remote : Remote) (request : BackupInitRequest) :
    Step Backup BackupInitResponse := do
  check .backupInit
  let response ← call caller remote (.ofOperation .backupInit request)
  let opened : BackupInitResponse ← Step.ofExcept response.parse
  advance .backupInit
  attach opened.transferId opened.currentOffset
  return opened

/-- Asks for an earlier transfer of the file. If there is one, this one goes on from it. -/
def resume (caller : Caller) (remote : Remote) (request : BackupResumeRequest) :
    Step Backup BackupResumeResponse := do
  check .backupResume
  let response ← call caller remote (.ofOperation .backupResume request)
  let found : BackupResumeResponse ← Step.ofExcept response.parse
  if found.status = .found then
    advance .backupResume
    attach found.transferId found.offset
  return found

/-- Sends the next bytes of the file. -/
def sendChunk (caller : Caller) (remote : Remote) (data : Bytes) : Step Backup Unit := do
  check .backupChunk
  let id ← transferId
  let offset := (← get).sequence.offset
  let request := BackupChunkRequest.ofBytes id (Int64.ofNat offset) data
  let _ ← call caller remote (.ofOperation .backupChunk request)
  advance .backupChunk
  modify fun b => { b with sequence := b.sequence.record data.length }

/-- Says that all of the file has been sent. -/
def finish (caller : Caller) (remote : Remote) (serverPath fileHash : String) :
    Step Backup Response := do
  check .backupFinish
  let request : BackupFinishRequest := ⟨← transferId, serverPath, fileHash⟩
  let response ← call caller remote (.ofOperation .backupFinish request)
  advance .backupFinish
  return response

/-- Gives the transfer up. The server is told if it knows of the transfer, and need not
answer. -/
def cancel (caller : Caller) (remote : Remote) : Step Backup Unit := do
  check .backupCancel
  match (← get).sequence.id with
  | none => pure ()
  | some id =>
    let request := Request.ofOperation .backupCancel (⟨id⟩ : TransferIdRequest)
    modify fun b => { b with calls := request :: b.calls }
    match ← Step.ofExcept (caller.callOneWay request (remote request)) with
    | none => pure ()
    | some response =>
      let _ ← Step.ofExcept response.ensureSuccess
  advance .backupCancel

end Backup

end DeviceLink.Transfer
