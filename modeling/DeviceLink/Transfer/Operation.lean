-- The operations on file transfers, and the phases through which a transfer goes.
import DeviceLink.MessageType

namespace DeviceLink.Transfer

/-- Which way file data flows: to the server for a backup, from it for a restore. -/
inductive Direction
  | backup
  | restore
deriving Repr, DecidableEq

def Direction.label : Direction → String
  | .backup => "Backup"
  | .restore => "Restore"

/-- The operations. All but the first belong to a direction. -/
inductive Operation
  | adminRestore
  | backupInit
  | backupChunk
  | backupFinish
  | backupCancel
  | backupResume
  | restoreInit
  | restoreChunk
  | restoreFinish
  | restoreResume
deriving Repr, DecidableEq

namespace Operation

def all : List Operation := [
  .adminRestore, .backupInit, .backupChunk, .backupFinish, .backupCancel, .backupResume,
  .restoreInit, .restoreChunk, .restoreFinish, .restoreResume]

/-- The name of an operation in messages. -/
def name : Operation → String
  | .adminRestore => "admin restore"
  | .backupInit => "backup init"
  | .backupChunk => "backup chunk"
  | .backupFinish => "backup finish"
  | .backupCancel => "backup cancel"
  | .backupResume => "backup resume"
  | .restoreInit => "restore init"
  | .restoreChunk => "restore chunk"
  | .restoreFinish => "restore finish"
  | .restoreResume => "restore resume"

/-- The one-word label of an operation. -/
def label : Operation → String
  | .adminRestore => "AdminRestore"
  | .backupInit => "BackupInit"
  | .backupChunk => "BackupChunk"
  | .backupFinish => "BackupFinish"
  | .backupCancel => "BackupCancel"
  | .backupResume => "BackupResume"
  | .restoreInit => "RestoreInit"
  | .restoreChunk => "RestoreChunk"
  | .restoreFinish => "RestoreFinish"
  | .restoreResume => "RestoreResume"

/-- The request that asks for an operation. -/
def request : Operation → MessageType
  | .adminRestore => .adminRestoreReq
  | .backupInit => .backupInitReq
  | .backupChunk => .backupChunkReq
  | .backupFinish => .backupFinishReq
  | .backupCancel => .backupCancelReq
  | .backupResume => .backupResumeReq
  | .restoreInit => .restoreInitReq
  | .restoreChunk => .restoreChunkReq
  | .restoreFinish => .restoreFinishReq
  | .restoreResume => .restoreResumeReq

/-- The answer to an operation. A cancelled backup is never answered. -/
def response? (op : Operation) : Option MessageType := op.request.response?

/-- The direction of an operation. -/
def direction? : Operation → Option Direction
  | .adminRestore => none
  | .backupInit | .backupChunk | .backupFinish | .backupCancel | .backupResume => some .backup
  | .restoreInit | .restoreChunk | .restoreFinish | .restoreResume => some .restore

/-- The operation that a request asks for. -/
def ofRequest? (t : MessageType) : Option Operation := all.find? (·.request == t)

end Operation

/-- How far a transfer has come. -/
inductive Phase
  | idle
  | streaming
  | finished
  | cancelled
deriving Repr, DecidableEq

/-- The name of a phase in messages. -/
def Phase.name : Phase → String
  | .idle => "idle"
  | .streaming => "streaming"
  | .finished => "finished"
  | .cancelled => "cancelled"

/-- The one-word label of a phase. -/
def Phase.label : Phase → String
  | .idle => "Idle"
  | .streaming => "Streaming"
  | .finished => "Finished"
  | .cancelled => "Cancelled"

end DeviceLink.Transfer
