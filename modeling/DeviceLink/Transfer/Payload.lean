-- The payloads of file transfers, as JSON records. A field of an answer that is left out counts
-- as empty or zero.
import DeviceLink.Exchange.Message
import DeviceLink.Json.Record

namespace DeviceLink.Transfer

open Json (Payload required optional text int32 int64)

/-! ## Chunk data -/

/-- The bytes that hexadecimal chunk data spells. -/
def decodeChunkData (data : String) : Except LinkError Bytes :=
  match Text.Hex.decode data with
  | .ok bs => .ok bs
  | .error cause => .error (.chunkData cause)

/-! ## Statuses -/

/-- Whether there is an earlier backup to go on with. -/
inductive ResumeStatus
  | found
  | notFound
  /-- There is one, but of a file with another size or another beginning. -/
  | mismatch
deriving Repr, DecidableEq

def ResumeStatus.name : ResumeStatus → String
  | .found => "found"
  | .notFound => "not_found"
  | .mismatch => "mismatch"

def ResumeStatus.codec : Json.Codec ResumeStatus :=
  Json.variants [.found, .notFound, .mismatch] ResumeStatus.name

/-! ## Records -/

/-- Asks to start a backup of one file. -/
structure BackupInitRequest where
  deviceId : String
  fileUuid : String
  fileName : String
  totalSize : Int64
  headHash : String
deriving Repr, DecidableEq

instance : Payload BackupInitRequest where
  title := "BackupInitRequest"
  fields := [
    required "device_id" text,
    required "file_uuid" text,
    required "file_name" text,
    required "total_size" int64,
    required "head_hash" text]
  toRecord x := (x.deviceId, x.fileUuid, x.fileName, x.totalSize, x.headHash, ())
  ofRecord := fun (deviceId, fileUuid, fileName, totalSize, headHash, ()) =>
    ⟨deviceId, fileUuid, fileName, totalSize, headHash⟩

/-- The backup that was started. -/
structure BackupInitResponse where
  transferId : String
  deviceId : String
  fileUuid : String
  fileName : String
  version : Int32
  currentOffset : Int64
  totalSize : Int64
  status : String
deriving Repr, DecidableEq

instance : Payload BackupInitResponse where
  title := "BackupInitResponse"
  fields := [
    optional "transfer_id" text "",
    optional "device_id" text "",
    optional "file_uuid" text "",
    optional "file_name" text "",
    optional "version" int32 0,
    optional "current_offset" int64 0,
    optional "total_size" int64 0,
    optional "status" text ""]
  toRecord x :=
    (x.transferId, x.deviceId, x.fileUuid, x.fileName,
      x.version, x.currentOffset, x.totalSize, x.status, ())
  ofRecord := fun
    | (transferId, deviceId, fileUuid, fileName,
        version, currentOffset, totalSize, status, ()) =>
      ⟨transferId, deviceId, fileUuid, fileName,
        version, currentOffset, totalSize, status⟩

/-- Brings a part of the file, its bytes as hexadecimal text. -/
structure BackupChunkRequest where
  transferId : String
  offset : Int64
  dataLen : Int64
  data : String
deriving Repr, DecidableEq

instance : Payload BackupChunkRequest where
  title := "BackupChunkRequest"
  fields := [
    required "transfer_id" text,
    required "offset" int64,
    required "data_len" int64,
    required "data" text]
  toRecord x := (x.transferId, x.offset, x.dataLen, x.data, ())
  ofRecord := fun (transferId, offset, dataLen, data, ()) => ⟨transferId, offset, dataLen, data⟩

/-- Says that all parts have been sent. -/
structure BackupFinishRequest where
  transferId : String
  serverPath : String
  fileHash : String
deriving Repr, DecidableEq

instance : Payload BackupFinishRequest where
  title := "BackupFinishRequest"
  fields := [
    required "transfer_id" text,
    required "server_path" text,
    required "file_hash" text]
  toRecord x := (x.transferId, x.serverPath, x.fileHash, ())
  ofRecord := fun (transferId, serverPath, fileHash, ()) => ⟨transferId, serverPath, fileHash⟩

/-- Asks to go on with an earlier backup of the file. -/
structure BackupResumeRequest where
  deviceId : String
  fileUuid : String
  headHash : String
  totalSize : Int64
deriving Repr, DecidableEq

instance : Payload BackupResumeRequest where
  title := "BackupResumeRequest"
  fields := [
    required "device_id" text,
    required "file_uuid" text,
    required "head_hash" text,
    required "total_size" int64]
  toRecord x := (x.deviceId, x.fileUuid, x.headHash, x.totalSize, ())
  ofRecord := fun (deviceId, fileUuid, headHash, totalSize, ()) =>
    ⟨deviceId, fileUuid, headHash, totalSize⟩

/-- Whether an earlier backup goes on, and from where. -/
structure BackupResumeResponse where
  transferId : String
  offset : Int64
  status : ResumeStatus
deriving Repr, DecidableEq

instance : Payload BackupResumeResponse where
  title := "BackupResumeResponse"
  fields := [
    optional "transfer_id" text "",
    optional "offset" int64 0,
    required "status" ResumeStatus.codec]
  toRecord x := (x.transferId, x.offset, x.status, ())
  ofRecord := fun (transferId, offset, status, ()) => ⟨transferId, offset, status⟩

/-- Names a transfer, to cancel, finish or resume it. -/
structure TransferIdRequest where
  transferId : String
deriving Repr, DecidableEq

instance : Payload TransferIdRequest where
  title := "TransferIdRequest"
  fields := [
    required "transfer_id" text]
  toRecord x := (x.transferId, ())
  ofRecord := fun (transferId, ()) => ⟨transferId⟩

/-- Asks that a device be told to restore a file. -/
structure AdminRestoreRequest where
  deviceId : String
  fileUuid : String
  version : Int32
deriving Repr, DecidableEq

instance : Payload AdminRestoreRequest where
  title := "AdminRestoreRequest"
  fields := [
    required "device_id" text,
    required "file_uuid" text,
    required "version" int32]
  toRecord x := (x.deviceId, x.fileUuid, x.version, ())
  ofRecord := fun (deviceId, fileUuid, version, ()) => ⟨deviceId, fileUuid, version⟩

/-- Whether the device was told. -/
structure AdminRestoreResponse where
  status : String
  message : String
deriving Repr, DecidableEq

instance : Payload AdminRestoreResponse where
  title := "AdminRestoreResponse"
  fields := [
    required "status" text,
    required "message" text]
  toRecord x := (x.status, x.message, ())
  ofRecord := fun (status, message, ()) => ⟨status, message⟩

/-- Tells a device to restore a file. -/
structure RestoreCommand where
  op : String
  fileUuid : String
  version : Int32
deriving Repr, DecidableEq

instance : Payload RestoreCommand where
  title := "RestoreCommand"
  fields := [
    required "op" text,
    required "file_uuid" text,
    required "version" int32]
  toRecord x := (x.op, x.fileUuid, x.version, ())
  ofRecord := fun (op, fileUuid, version, ()) => ⟨op, fileUuid, version⟩

/-- Asks to start restoring a file. -/
structure RestoreInitRequest where
  deviceId : String
  fileUuid : String
  version : Int32
deriving Repr, DecidableEq

instance : Payload RestoreInitRequest where
  title := "RestoreInitRequest"
  fields := [
    required "device_id" text,
    required "file_uuid" text,
    required "version" int32]
  toRecord x := (x.deviceId, x.fileUuid, x.version, ())
  ofRecord := fun (deviceId, fileUuid, version, ()) => ⟨deviceId, fileUuid, version⟩

/-- The restore that was started or resumed. -/
structure RestoreInitResponse where
  transferId : String
  fileName : String
  totalSize : Int64
  fileHash : String
  status : String
deriving Repr, DecidableEq

instance : Payload RestoreInitResponse where
  title := "RestoreInitResponse"
  fields := [
    optional "transfer_id" text "",
    optional "file_name" text "",
    optional "total_size" int64 0,
    optional "file_hash" text "",
    optional "status" text ""]
  toRecord x := (x.transferId, x.fileName, x.totalSize, x.fileHash, x.status, ())
  ofRecord := fun (transferId, fileName, totalSize, fileHash, status, ()) =>
    ⟨transferId, fileName, totalSize, fileHash, status⟩

/-- Asks for a part of the file. -/
structure RestoreChunkRequest where
  transferId : String
  offset : Int64
  size : Int32
deriving Repr, DecidableEq

instance : Payload RestoreChunkRequest where
  title := "RestoreChunkRequest"
  fields := [
    required "transfer_id" text,
    required "offset" int64,
    required "size" int32]
  toRecord x := (x.transferId, x.offset, x.size, ())
  ofRecord := fun (transferId, offset, size, ()) => ⟨transferId, offset, size⟩

/-- A part of the file, its bytes as hexadecimal text. -/
structure RestoreChunkResponse where
  data : String
  dataLen : Int32
  status : String
deriving Repr, DecidableEq

instance : Payload RestoreChunkResponse where
  title := "RestoreChunkResponse"
  fields := [
    optional "data" text "",
    optional "data_len" int32 0,
    optional "status" text ""]
  toRecord x := (x.data, x.dataLen, x.status, ())
  ofRecord := fun (data, dataLen, status, ()) => ⟨data, dataLen, status⟩

/-! ## Building and reading payloads -/

/-- The request that brings `data` to the place `offset` of a transfer. -/
def BackupChunkRequest.ofBytes (transferId : String) (offset : Int64) (data : Bytes) :
    BackupChunkRequest :=
  ⟨transferId, offset, Int64.ofNat data.length, Text.Hex.encode data⟩

/-- The command for one version of a file. -/
def RestoreCommand.ofFile (fileUuid : String) (version : Int32) : RestoreCommand :=
  ⟨"RESTORE_CMD", fileUuid, version⟩

/-- The restore was started. -/
def RestoreInitResponse.isOk (r : RestoreInitResponse) : Bool := r.status == "ok"

/-- The bytes of a part. -/
def RestoreChunkResponse.bytes (r : RestoreChunkResponse) : Except LinkError Bytes :=
  decodeChunkData r.data

end DeviceLink.Transfer

namespace DeviceLink

/-- A message type as a JSON string. -/
def MessageType.codec : Json.Codec MessageType := Json.variants all label

/-- A request with a record as its payload. -/
def Request.ofPayload {α : Type} [Json.Payload α] (typ : UInt8) (x : α) : Request :=
  ⟨typ, Json.Payload.print x⟩

/-- A response with a record as its body. -/
def Response.ofPayload {α : Type} [Json.Payload α] (typ : UInt8) (status : UInt16) (x : α) :
    Response :=
  ⟨typ, status, Json.Payload.print x⟩

/-- What was wanted of a JSON text, or why it is not that. -/
def ofJsonResult {α : Type} : Except Json.Error α → Except LinkError α
  | .ok x => .ok x
  | .error cause => .error (.json cause)

end DeviceLink
