-- The payloads of file transfers on the wire: they are read as they were written, and the bytes
-- of a chunk come through as hexadecimal text.
import DeviceLink.Proofs.Identifier.Decoding
import DeviceLink.Proofs.Json.Record
import DeviceLink.Transfer.Payload

namespace DeviceLink

theorem DeviceId.lawful_codec : DeviceId.codec.Lawful := by
  intro d rest ends
  have read : Json.readString (Json.printString d.text ++ rest) = .ok (d.text, rest) :=
    Json.lawful_text d.text rest ends
  have taken : ofText? d.text = some d := ofText?_eq_some_iff.2 rfl
  unfold codec
  dsimp only
  rw [read, ok_bind]
  dsimp only
  rw [taken]
  rfl

namespace Transfer

open Json

theorem ResumeStatus.lawful_codec : ResumeStatus.codec.Lawful := by
  apply lawful_variants
  intro status
  cases status <;> decide

/-! ## Records -/

theorem lawful_backupInitRequest : LawfulPayload BackupInitRequest where
  fields := .cons lawful_text (by decide) <| .cons lawful_text (by decide) <|
    .cons lawful_text (by decide) <| .cons lawful_int64 (by decide) <|
    .cons lawful_text (by decide) .nil
  ofRecord_toRecord _ := rfl

theorem lawful_backupInitResponse : LawfulPayload BackupInitResponse where
  fields := .cons lawful_text (by decide) <| .cons lawful_text (by decide) <|
    .cons lawful_text (by decide) <| .cons lawful_text (by decide) <|
    .cons lawful_int32 (by decide) <| .cons lawful_int64 (by decide) <|
    .cons lawful_int64 (by decide) <| .cons lawful_text (by decide) .nil
  ofRecord_toRecord _ := rfl

theorem lawful_backupChunkRequest : LawfulPayload BackupChunkRequest where
  fields := .cons lawful_text (by decide) <| .cons lawful_int64 (by decide) <|
    .cons lawful_int64 (by decide) <| .cons lawful_text (by decide) .nil
  ofRecord_toRecord _ := rfl

theorem lawful_backupFinishRequest : LawfulPayload BackupFinishRequest where
  fields := .cons lawful_text (by decide) <| .cons lawful_text (by decide) <|
    .cons lawful_text (by decide) .nil
  ofRecord_toRecord _ := rfl

theorem lawful_backupResumeRequest : LawfulPayload BackupResumeRequest where
  fields := .cons lawful_text (by decide) <| .cons lawful_text (by decide) <|
    .cons lawful_text (by decide) <| .cons lawful_int64 (by decide) .nil
  ofRecord_toRecord _ := rfl

theorem lawful_backupResumeResponse : LawfulPayload BackupResumeResponse where
  fields := .cons lawful_text (by decide) <| .cons lawful_int64 (by decide) <|
    .cons ResumeStatus.lawful_codec (by decide) .nil
  ofRecord_toRecord _ := rfl

theorem lawful_transferIdRequest : LawfulPayload TransferIdRequest where
  fields := .cons lawful_text (by decide) .nil
  ofRecord_toRecord _ := rfl

theorem lawful_adminRestoreRequest : LawfulPayload AdminRestoreRequest where
  fields := .cons lawful_text (by decide) <| .cons lawful_text (by decide) <|
    .cons lawful_int32 (by decide) .nil
  ofRecord_toRecord _ := rfl

theorem lawful_adminRestoreResponse : LawfulPayload AdminRestoreResponse where
  fields := .cons lawful_text (by decide) <| .cons lawful_text (by decide) .nil
  ofRecord_toRecord _ := rfl

theorem lawful_restoreCommand : LawfulPayload RestoreCommand where
  fields := .cons lawful_text (by decide) <| .cons lawful_text (by decide) <|
    .cons lawful_int32 (by decide) .nil
  ofRecord_toRecord _ := rfl

theorem lawful_restoreInitRequest : LawfulPayload RestoreInitRequest where
  fields := .cons lawful_text (by decide) <| .cons lawful_text (by decide) <|
    .cons lawful_int32 (by decide) .nil
  ofRecord_toRecord _ := rfl

theorem lawful_restoreInitResponse : LawfulPayload RestoreInitResponse where
  fields := .cons lawful_text (by decide) <| .cons lawful_text (by decide) <|
    .cons lawful_int64 (by decide) <| .cons lawful_text (by decide) <|
    .cons lawful_text (by decide) .nil
  ofRecord_toRecord _ := rfl

theorem lawful_restoreChunkRequest : LawfulPayload RestoreChunkRequest where
  fields := .cons lawful_text (by decide) <| .cons lawful_int64 (by decide) <|
    .cons lawful_int32 (by decide) .nil
  ofRecord_toRecord _ := rfl

theorem lawful_restoreChunkResponse : LawfulPayload RestoreChunkResponse where
  fields := .cons lawful_text (by decide) <| .cons lawful_int32 (by decide) <|
    .cons lawful_text (by decide) .nil
  ofRecord_toRecord _ := rfl

/-! ## Chunk data -/

theorem decodeChunkData_eq_ok_iff {s : String} {data : Bytes} :
    decodeChunkData s = .ok data ↔ Text.Hex.decode s = .ok data := by
  unfold decodeChunkData
  cases Text.Hex.decode s with
  | ok bs => simp
  | error cause => simp

/-- The data of a chunk is spelled by its text. -/
theorem decodeChunkData_encode (data : Bytes) :
    decodeChunkData (Text.Hex.encode data) = .ok data := by
  rw [decodeChunkData_eq_ok_iff]
  exact Text.Hex.decode_encode data

/-- Chunk data is hexadecimal text, and nothing else is. -/
theorem exists_decodeChunkData_iff {s : String} :
    (∃ data, decodeChunkData s = .ok data) ↔ Text.Hex.Spells s := by
  simp only [decodeChunkData_eq_ok_iff]
  exact Text.Hex.exists_decode_iff

/-! ## What comes through -/

/-- Every value is read as it was written. -/
def ReadsBack (α : Type) [Payload α] : Prop := ∀ x : α, Payload.parse (Payload.print x) = .ok x

/-- Each of the records is read as it was written. -/
structure RecordsReadBack : Prop where
  backupInitRequest : ReadsBack BackupInitRequest
  backupInitResponse : ReadsBack BackupInitResponse
  backupChunkRequest : ReadsBack BackupChunkRequest
  backupFinishRequest : ReadsBack BackupFinishRequest
  backupResumeRequest : ReadsBack BackupResumeRequest
  backupResumeResponse : ReadsBack BackupResumeResponse
  transferIdRequest : ReadsBack TransferIdRequest
  adminRestoreRequest : ReadsBack AdminRestoreRequest
  adminRestoreResponse : ReadsBack AdminRestoreResponse
  restoreCommand : ReadsBack RestoreCommand
  restoreInitRequest : ReadsBack RestoreInitRequest
  restoreInitResponse : ReadsBack RestoreInitResponse
  restoreChunkRequest : ReadsBack RestoreChunkRequest
  restoreChunkResponse : ReadsBack RestoreChunkResponse

theorem recordsReadBack : RecordsReadBack where
  backupInitRequest := lawful_backupInitRequest.parse_print
  backupInitResponse := lawful_backupInitResponse.parse_print
  backupChunkRequest := lawful_backupChunkRequest.parse_print
  backupFinishRequest := lawful_backupFinishRequest.parse_print
  backupResumeRequest := lawful_backupResumeRequest.parse_print
  backupResumeResponse := lawful_backupResumeResponse.parse_print
  transferIdRequest := lawful_transferIdRequest.parse_print
  adminRestoreRequest := lawful_adminRestoreRequest.parse_print
  adminRestoreResponse := lawful_adminRestoreResponse.parse_print
  restoreCommand := lawful_restoreCommand.parse_print
  restoreInitRequest := lawful_restoreInitRequest.parse_print
  restoreInitResponse := lawful_restoreInitResponse.parse_print
  restoreChunkRequest := lawful_restoreChunkRequest.parse_print
  restoreChunkResponse := lawful_restoreChunkResponse.parse_print

/-- A request for a chunk brings these data to this place of the transfer, and says how many they are
if there is a number of this width for that. -/
def Brings (chunk : BackupChunkRequest) (transferId : String) (offset : Int64) (data : Bytes) :
    Prop :=
  chunk.transferId = transferId ∧ chunk.offset = offset ∧ decodeChunkData chunk.data = .ok data ∧
    chunk.dataLen = Int64.ofNat data.length ∧
    (data.length < 0x8000000000000000 → chunk.dataLen.toInt = data.length)

theorem brings_ofBytes (transferId : String) (offset : Int64) (data : Bytes) :
    Brings (.ofBytes transferId offset data) transferId offset data := by
  refine ⟨rfl, rfl, decodeChunkData_encode data, rfl, ?_⟩
  intro small
  exact Int64.toInt_ofNat_of_lt small

/-- Payloads survive the wire: every record, every status of a backup and every identifier is read
as it was written; chunks bring the bytes that were put into them, in both directions; and chunk
data is hexadecimal text, which is the text of its bytes up to case. -/
theorem payloads_survive_the_wire :
    RecordsReadBack ∧
    (∀ status, readAll ResumeStatus.codec.read (ResumeStatus.codec.write status) = .ok status) ∧
    (∀ d, readAll DeviceId.codec.read (DeviceId.codec.write d) = .ok d) ∧
    (∀ transferId offset data, ∃ chunk,
      Payload.parse (Payload.print (BackupChunkRequest.ofBytes transferId offset data)) =
        .ok chunk ∧ Brings chunk transferId offset data) ∧
    (∀ data dataLen status, ∃ chunk : RestoreChunkResponse,
      Payload.parse
        (Payload.print (⟨Text.Hex.encode data, dataLen, status⟩ : RestoreChunkResponse)) =
          .ok chunk ∧ chunk.bytes = .ok data) ∧
    (∀ s, (∃ data, decodeChunkData s = .ok data) ↔ Text.Hex.Spells s) ∧
    ∀ s data, decodeChunkData s = .ok data → Text.Hex.encode data = s.toLower := by
  refine ⟨recordsReadBack, ResumeStatus.lawful_codec.readAll_write,
    DeviceId.lawful_codec.readAll_write, ?_, ?_, ?_, ?_⟩
  · intro transferId offset data
    exact ⟨_, recordsReadBack.backupChunkRequest _, brings_ofBytes transferId offset data⟩
  · intro data dataLen status
    exact ⟨_, recordsReadBack.restoreChunkResponse _, decodeChunkData_encode data⟩
  · intro s
    exact exists_decodeChunkData_iff
  · intro s data decoded
    apply Text.Hex.encode_of_decode
    rwa [decodeChunkData_eq_ok_iff] at decoded

/-- Two bytes in mixed case. -/
theorem mixed_case_survives :
    (∃ chunk, Payload.parse (Payload.print (BackupChunkRequest.ofBytes "t" 7 [0xDE, 0xAD])) =
      .ok chunk ∧ Brings chunk "t" 7 [0xDE, 0xAD] ∧ chunk.dataLen.toInt = 2) ∧
    decodeChunkData "DEad" = .ok [0xDE, 0xAD] ∧ Text.Hex.encode [0xDE, 0xAD] = "DEad".toLower := by
  obtain ⟨-, -, -, brings, -, -, lower⟩ := payloads_survive_the_wire
  have decoded : decodeChunkData "DEad" = .ok [0xDE, 0xAD] := by decide +kernel
  obtain ⟨chunk, parsed, brought⟩ := brings "t" 7 [0xDE, 0xAD]
  have counted : chunk.dataLen.toInt = 2 := brought.2.2.2.2 (by decide)
  exact ⟨⟨chunk, parsed, brought, counted⟩, decoded, lower "DEad" [0xDE, 0xAD] decoded⟩

end Transfer

end DeviceLink
