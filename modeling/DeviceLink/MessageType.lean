-- The message types that both channels share: one byte code each, fixed for good, a name on
-- the wire and a label in payloads. A request code and its answer's code are paired.
namespace DeviceLink

/-- What a message is about and which way it goes. -/
inductive MessageType
  | socket
  | adminRestoreReq
  | adminRestoreResp
  | serverRestoreCmd
  | restoreInitReq
  | restoreInitResp
  | restoreChunkReq
  | restoreChunkResp
  | restoreFinishReq
  | restoreFinishResp
  | restoreResumeReq
  | restoreResumeResp
  | loginReq
  | loginResp
  | listReq
  | listResp
  | deviceReq
  | deviceResp
  | adminGetLogsReq
  | adminGetLogsResp
  | serverGetLogCmd
  | clientGetLogReq
  | clientGetLogResp
  | adminLoginReq
  | adminLoginResp
  | adminGetStoredLogsReq
  | adminGetStoredLogsResp
  | adminGetCommandHistoryReq
  | adminGetCommandHistoryResp
  | adminFirewallControlReq
  | adminFirewallControlResp
  | serverFirewallUpdateCmd
  | clientGetFirewallConfigReq
  | clientGetFirewallConfigResp
  | clientFileSyncReq
  | clientFileSyncResp
  | adminGetFileTreeReq
  | adminGetFileTreeResp
  | backupInitReq
  | backupInitResp
  | backupChunkReq
  | backupChunkResp
  | backupFinishReq
  | backupFinishResp
  | backupCancelReq
  | backupResumeReq
  | backupResumeResp
deriving Repr, DecidableEq, Inhabited

/-- Where a message type belongs. -/
inductive MessageKind
  /-- An ordinary frame of the notification channel. -/
  | notification
  /-- An order that the server pushes to a device. -/
  | command
  /-- A question on the API channel. -/
  | request
  /-- An answer on the API channel. -/
  | response
deriving Repr, DecidableEq

/-- The name of a kind. -/
def MessageKind.label : MessageKind → String
  | .notification => "Notification"
  | .command => "ServerCommand"
  | .request => "Request"
  | .response => "Response"

namespace MessageType

/-! ## The tables -/

/-- Every message type, by rising code. -/
def all : List MessageType := [
  .socket, .adminRestoreReq, .adminRestoreResp, .serverRestoreCmd, .restoreInitReq,
  .restoreInitResp, .restoreChunkReq, .restoreChunkResp, .restoreFinishReq, .restoreFinishResp,
  .restoreResumeReq, .restoreResumeResp, .loginReq, .loginResp, .listReq, .listResp, .deviceReq,
  .deviceResp, .adminGetLogsReq, .adminGetLogsResp, .serverGetLogCmd, .clientGetLogReq,
  .clientGetLogResp, .adminLoginReq, .adminLoginResp, .adminGetStoredLogsReq,
  .adminGetStoredLogsResp, .adminGetCommandHistoryReq, .adminGetCommandHistoryResp,
  .adminFirewallControlReq, .adminFirewallControlResp, .serverFirewallUpdateCmd,
  .clientGetFirewallConfigReq, .clientGetFirewallConfigResp, .clientFileSyncReq,
  .clientFileSyncResp, .adminGetFileTreeReq, .adminGetFileTreeResp, .backupInitReq,
  .backupInitResp, .backupChunkReq, .backupChunkResp, .backupFinishReq, .backupFinishResp,
  .backupCancelReq, .backupResumeReq, .backupResumeResp]

/-- The byte that stands for a message type. -/
def code : MessageType → UInt8
  | .socket => 0x01
  | .adminRestoreReq => 0x70
  | .adminRestoreResp => 0x71
  | .serverRestoreCmd => 0x72
  | .restoreInitReq => 0x73
  | .restoreInitResp => 0x74
  | .restoreChunkReq => 0x75
  | .restoreChunkResp => 0x76
  | .restoreFinishReq => 0x77
  | .restoreFinishResp => 0x78
  | .restoreResumeReq => 0x79
  | .restoreResumeResp => 0x7A
  | .loginReq => 0xA1
  | .loginResp => 0xA2
  | .listReq => 0xB1
  | .listResp => 0xB2
  | .deviceReq => 0xC1
  | .deviceResp => 0xC2
  | .adminGetLogsReq => 0xD1
  | .adminGetLogsResp => 0xD2
  | .serverGetLogCmd => 0xD3
  | .clientGetLogReq => 0xD4
  | .clientGetLogResp => 0xD5
  | .adminLoginReq => 0xD6
  | .adminLoginResp => 0xD7
  | .adminGetStoredLogsReq => 0xD8
  | .adminGetStoredLogsResp => 0xD9
  | .adminGetCommandHistoryReq => 0xDA
  | .adminGetCommandHistoryResp => 0xDB
  | .adminFirewallControlReq => 0xE1
  | .adminFirewallControlResp => 0xE2
  | .serverFirewallUpdateCmd => 0xE3
  | .clientGetFirewallConfigReq => 0xE4
  | .clientGetFirewallConfigResp => 0xE5
  | .clientFileSyncReq => 0xE6
  | .clientFileSyncResp => 0xE7
  | .adminGetFileTreeReq => 0xE8
  | .adminGetFileTreeResp => 0xE9
  | .backupInitReq => 0xF1
  | .backupInitResp => 0xF2
  | .backupChunkReq => 0xF3
  | .backupChunkResp => 0xF4
  | .backupFinishReq => 0xF5
  | .backupFinishResp => 0xF6
  | .backupCancelReq => 0xF7
  | .backupResumeReq => 0xF8
  | .backupResumeResp => 0xF9

/-- The name of a message type on the wire. -/
def name : MessageType → String
  | .socket => "MSG_SOCKET"
  | .adminRestoreReq => "MSG_ADMIN_RESTORE_REQ"
  | .adminRestoreResp => "MSG_ADMIN_RESTORE_RESP"
  | .serverRestoreCmd => "MSG_SERVER_RESTORE_CMD"
  | .restoreInitReq => "MSG_RESTORE_INIT_REQ"
  | .restoreInitResp => "MSG_RESTORE_INIT_RESP"
  | .restoreChunkReq => "MSG_RESTORE_CHUNK_REQ"
  | .restoreChunkResp => "MSG_RESTORE_CHUNK_RESP"
  | .restoreFinishReq => "MSG_RESTORE_FINISH_REQ"
  | .restoreFinishResp => "MSG_RESTORE_FINISH_RESP"
  | .restoreResumeReq => "MSG_RESTORE_RESUME_REQ"
  | .restoreResumeResp => "MSG_RESTORE_RESUME_RESP"
  | .loginReq => "MSG_LOGIN_REQ"
  | .loginResp => "MSG_LOGIN_RESP"
  | .listReq => "MSG_LIST_REQ"
  | .listResp => "MSG_LIST_RESP"
  | .deviceReq => "MSG_DEVICE_REQ"
  | .deviceResp => "MSG_DEVICE_RESP"
  | .adminGetLogsReq => "MSG_ADMIN_COMMAND_GETLOGS_REQ"
  | .adminGetLogsResp => "MSG_ADMIN_COMMAND_GETLOGS_RESP"
  | .serverGetLogCmd => "MSG_SERVER_COMMAND_GETLOG"
  | .clientGetLogReq => "MSG_CLIENT_COMMAND_GETLOG_REQ"
  | .clientGetLogResp => "MSG_CLIENT_COMMAND_GETLOG_RESP"
  | .adminLoginReq => "MSG_ADMIN_LOGIN_REQ"
  | .adminLoginResp => "MSG_ADMIN_LOGIN_RESP"
  | .adminGetStoredLogsReq => "MSG_ADMIN_GET_STORED_LOGS_REQ"
  | .adminGetStoredLogsResp => "MSG_ADMIN_GET_STORED_LOGS_RESP"
  | .adminGetCommandHistoryReq => "MSG_ADMIN_GET_COMMAND_HISTORY_REQ"
  | .adminGetCommandHistoryResp => "MSG_ADMIN_GET_COMMAND_HISTORY_RESP"
  | .adminFirewallControlReq => "MSG_ADMIN_FIREWALL_CONTROL_REQ"
  | .adminFirewallControlResp => "MSG_ADMIN_FIREWALL_CONTROL_RESP"
  | .serverFirewallUpdateCmd => "MSG_SERVER_FIREWALL_UPDATE_CMD"
  | .clientGetFirewallConfigReq => "MSG_CLIENT_GET_FIREWALL_CONFIG_REQ"
  | .clientGetFirewallConfigResp => "MSG_CLIENT_GET_FIREWALL_CONFIG_RESP"
  | .clientFileSyncReq => "MSG_CLIENT_FILE_SYNC_REQ"
  | .clientFileSyncResp => "MSG_CLIENT_FILE_SYNC_RESP"
  | .adminGetFileTreeReq => "MSG_ADMIN_GET_FILE_TREE_REQ"
  | .adminGetFileTreeResp => "MSG_ADMIN_GET_FILE_TREE_RESP"
  | .backupInitReq => "MSG_BACKUP_INIT_REQ"
  | .backupInitResp => "MSG_BACKUP_INIT_RESP"
  | .backupChunkReq => "MSG_BACKUP_CHUNK_REQ"
  | .backupChunkResp => "MSG_BACKUP_CHUNK_RESP"
  | .backupFinishReq => "MSG_BACKUP_FINISH_REQ"
  | .backupFinishResp => "MSG_BACKUP_FINISH_RESP"
  | .backupCancelReq => "MSG_BACKUP_CANCEL_REQ"
  | .backupResumeReq => "MSG_BACKUP_RESUME_REQ"
  | .backupResumeResp => "MSG_BACKUP_RESUME_RESP"

/-- The name of a message type inside a payload. -/
def label : MessageType → String
  | .socket => "Socket"
  | .adminRestoreReq => "AdminRestoreReq"
  | .adminRestoreResp => "AdminRestoreResp"
  | .serverRestoreCmd => "ServerRestoreCmd"
  | .restoreInitReq => "RestoreInitReq"
  | .restoreInitResp => "RestoreInitResp"
  | .restoreChunkReq => "RestoreChunkReq"
  | .restoreChunkResp => "RestoreChunkResp"
  | .restoreFinishReq => "RestoreFinishReq"
  | .restoreFinishResp => "RestoreFinishResp"
  | .restoreResumeReq => "RestoreResumeReq"
  | .restoreResumeResp => "RestoreResumeResp"
  | .loginReq => "LoginReq"
  | .loginResp => "LoginResp"
  | .listReq => "ListReq"
  | .listResp => "ListResp"
  | .deviceReq => "DeviceReq"
  | .deviceResp => "DeviceResp"
  | .adminGetLogsReq => "AdminGetLogsReq"
  | .adminGetLogsResp => "AdminGetLogsResp"
  | .serverGetLogCmd => "ServerGetLogCmd"
  | .clientGetLogReq => "ClientGetLogReq"
  | .clientGetLogResp => "ClientGetLogResp"
  | .adminLoginReq => "AdminLoginReq"
  | .adminLoginResp => "AdminLoginResp"
  | .adminGetStoredLogsReq => "AdminGetStoredLogsReq"
  | .adminGetStoredLogsResp => "AdminGetStoredLogsResp"
  | .adminGetCommandHistoryReq => "AdminGetCommandHistoryReq"
  | .adminGetCommandHistoryResp => "AdminGetCommandHistoryResp"
  | .adminFirewallControlReq => "AdminFirewallControlReq"
  | .adminFirewallControlResp => "AdminFirewallControlResp"
  | .serverFirewallUpdateCmd => "ServerFirewallUpdateCmd"
  | .clientGetFirewallConfigReq => "ClientGetFirewallConfigReq"
  | .clientGetFirewallConfigResp => "ClientGetFirewallConfigResp"
  | .clientFileSyncReq => "ClientFileSyncReq"
  | .clientFileSyncResp => "ClientFileSyncResp"
  | .adminGetFileTreeReq => "AdminGetFileTreeReq"
  | .adminGetFileTreeResp => "AdminGetFileTreeResp"
  | .backupInitReq => "BackupInitReq"
  | .backupInitResp => "BackupInitResp"
  | .backupChunkReq => "BackupChunkReq"
  | .backupChunkResp => "BackupChunkResp"
  | .backupFinishReq => "BackupFinishReq"
  | .backupFinishResp => "BackupFinishResp"
  | .backupCancelReq => "BackupCancelReq"
  | .backupResumeReq => "BackupResumeReq"
  | .backupResumeResp => "BackupResumeResp"

/-- The message type of a code. -/
def ofCode? (code : UInt8) : Option MessageType := all.find? (·.code == code)

/-- The answer that a request is paired with. A cancelled backup has none. -/
def response? : MessageType → Option MessageType
  | .adminRestoreReq => some .adminRestoreResp
  | .restoreInitReq => some .restoreInitResp
  | .restoreChunkReq => some .restoreChunkResp
  | .restoreFinishReq => some .restoreFinishResp
  | .restoreResumeReq => some .restoreResumeResp
  | .loginReq => some .loginResp
  | .listReq => some .listResp
  | .deviceReq => some .deviceResp
  | .adminGetLogsReq => some .adminGetLogsResp
  | .clientGetLogReq => some .clientGetLogResp
  | .adminLoginReq => some .adminLoginResp
  | .adminGetStoredLogsReq => some .adminGetStoredLogsResp
  | .adminGetCommandHistoryReq => some .adminGetCommandHistoryResp
  | .adminFirewallControlReq => some .adminFirewallControlResp
  | .clientGetFirewallConfigReq => some .clientGetFirewallConfigResp
  | .clientFileSyncReq => some .clientFileSyncResp
  | .adminGetFileTreeReq => some .adminGetFileTreeResp
  | .backupInitReq => some .backupInitResp
  | .backupChunkReq => some .backupChunkResp
  | .backupFinishReq => some .backupFinishResp
  | .backupResumeReq => some .backupResumeResp
  | _ => none

/-- The kind of a message type: whatever has a paired answer is a request. -/
def kind : MessageType → MessageKind
  | .socket => .notification
  | .serverRestoreCmd | .serverGetLogCmd | .serverFirewallUpdateCmd => .command
  | .backupCancelReq => .request
  | t => if t.response?.isSome then .request else .response

end MessageType

/-! ## Codes that may be unknown -/

/-- A byte as two upper-case hexadecimal digits. -/
def codeDigits (code : UInt8) : String :=
  String.ofList ([code.toNat / 16, code.toNat % 16].map fun n => (Nat.digitChar n).toUpper)

/-- A code in words: the wire name, or the code itself when no message type has it. -/
def describeCode (code : UInt8) : String :=
  match MessageType.ofCode? code with
  | some t => t.name
  | none => s!"UNKNOWN(0x{codeDigits code})"

end DeviceLink
