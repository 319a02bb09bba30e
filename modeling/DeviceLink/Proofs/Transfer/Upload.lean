-- The operations on a backup as attempts: which request each of them makes, what the server has to
-- consent to, and what its consent changes.
import DeviceLink.Proofs.Transfer.Attempt
import DeviceLink.Proofs.Transfer.Turns
import DeviceLink.Transfer.Backup

namespace DeviceLink.Transfer.Backup

open Step

/-! ## Actions -/

/-- An operation with what it is given. -/
inductive Action
  | init (request : BackupInitRequest)
  | resume (request : BackupResumeRequest)
  | sendChunk (data : Bytes)
  | finish (serverPath fileHash : String)
  | cancel
deriving Repr, DecidableEq

/-- What came of an operation that did not fail. -/
inductive Outcome
  | opened (r : BackupInitResponse)
  | looked (r : BackupResumeResponse)
  | sent (data : Bytes)
  | finished (r : Response)
  | cancelled
deriving Repr, DecidableEq

def Action.operation : Action → Operation
  | .init _ => .backupInit
  | .resume _ => .backupResume
  | .sendChunk _ => .backupChunk
  | .finish _ _ => .backupFinish
  | .cancel => .backupCancel

/-- Does what an action says. -/
def perform (caller : Caller) (remote : Remote) : Action → Step Backup Outcome
  | .init request => .opened <$> init caller remote request
  | .resume request => .looked <$> resume caller remote request
  | .sendChunk data => (fun _ => .sent data) <$> sendChunk caller remote data
  | .finish serverPath fileHash => .finished <$> finish caller remote serverPath fileHash
  | .cancel => (fun _ => .cancelled) <$> cancel caller remote

/-! ## What an action asks, and what comes of it -/

/-- The request that an action makes, if it knows of which transfer to speak. -/
def Action.request? (s : Sequence) : Action → Option Request
  | .init request => some (.ofOperation .backupInit request)
  | .resume request => some (.ofOperation .backupResume request)
  | .sendChunk data => s.id.map fun id =>
    .ofOperation .backupChunk (BackupChunkRequest.ofBytes id (Int64.ofNat s.offset) data)
  | .finish serverPath fileHash => s.id.map fun id =>
    .ofOperation .backupFinish (⟨id, serverPath, fileHash⟩ : BackupFinishRequest)
  | .cancel => s.id.map fun id => .ofOperation .backupCancel (⟨id⟩ : TransferIdRequest)

/-- What the reply to the request of an action comes to. -/
def Action.judge (caller : Caller) (q : Request) (reply : Reply) :
    Action → Except ClientError Outcome
  | .init _ => .opened <$> caller.ask q reply
  | .resume _ => .looked <$> caller.ask q reply
  | .sendChunk data => (fun _ => .sent data) <$> caller.consent q reply
  | .finish _ _ => .finished <$> caller.consent q reply
  | .cancel => (fun _ => .cancelled) <$> caller.notify q reply

/-- What an action comes to that has no transfer to speak of. Only a cancel needs none. -/
def Action.unnamed : Action → Except ClientError Outcome
  | .cancel => .ok .cancelled
  | _ => .error .noTransfer

def Action.verdict (caller : Caller) (remote : Remote) (s : Sequence) (a : Action) :
    Except ClientError Outcome :=
  match a.request? s with
  | some q => a.judge caller q (remote q)
  | none => a.unnamed

/-- What may come of which action. -/
inductive Yields : Action → Outcome → Prop
  | init (request : BackupInitRequest) (r : BackupInitResponse) :
    Yields (.init request) (.opened r)
  | resume (request : BackupResumeRequest) (r : BackupResumeResponse) :
    Yields (.resume request) (.looked r)
  | sendChunk (data : Bytes) : Yields (.sendChunk data) (.sent data)
  | finish (serverPath fileHash : String) (r : Response) :
    Yields (.finish serverPath fileHash) (.finished r)
  | cancel : Yields .cancel .cancelled

theorem yields_of_judge {caller : Caller} {q : Request} {reply : Reply} {a : Action} {x : Outcome}
    (granted : a.judge caller q reply = .ok x) : Yields a x := by
  cases a with
  | init request =>
    obtain ⟨r, _, rfl⟩ := map_eq_ok_iff.1 granted
    exact .init request r
  | resume request =>
    obtain ⟨r, _, rfl⟩ := map_eq_ok_iff.1 granted
    exact .resume request r
  | sendChunk data =>
    obtain ⟨_, _, rfl⟩ := map_eq_ok_iff.1 granted
    exact .sendChunk data
  | finish serverPath fileHash =>
    obtain ⟨r, _, rfl⟩ := map_eq_ok_iff.1 granted
    exact .finish serverPath fileHash r
  | cancel =>
    obtain ⟨_, _, rfl⟩ := map_eq_ok_iff.1 granted
    exact .cancel

theorem yields_of_verdict {caller : Caller} {remote : Remote} {s : Sequence} {a : Action}
    {x : Outcome} (granted : a.verdict caller remote s = .ok x) : Yields a x := by
  unfold Action.verdict at granted
  split at granted
  · exact yields_of_judge granted
  · cases a with
    | cancel =>
      cases granted
      exact .cancel
    | _ => cases granted

/-- What consent changes, `phase` being the one that the operation leads to. -/
def Outcome.effect (phase : Phase) : Outcome → Sequence → Sequence
  | .opened r, s => { s with phase }.attach r.transferId r.currentOffset.toInt.toNat
  | .looked r, s =>
    if r.status = .found then { s with phase }.attach r.transferId r.offset.toInt.toNat else s
  | .sent data, s => { s with phase }.record data.length
  | .finished _, s | .cancelled, s => { s with phase }

def Outcome.take (phase : Phase) (x : Outcome) (b : Backup) : Backup :=
  { b with sequence := x.effect phase b.sequence }

/-! ## The parts of an operation -/

/-- The backup with a call noted, if one was made. -/
def noting (q? : Option Request) (b : Backup) : Backup :=
  { b with calls := q?.toList ++ b.calls }

variable {caller : Caller} {remote : Remote} {b : Backup} {op : Operation}

theorem check_error {cause : LinkError} (checked : b.sequence.check op = .error cause) :
    check op b = (.error (.link cause), b) := by
  unfold check
  rw [run_bind, run_get]
  simp only [checked, run_throw]

theorem check_ok {phase : Phase} (checked : b.sequence.check op = .ok phase) :
    check op b = (.ok (), b) := by
  unfold check
  rw [run_bind, run_get]
  simp only [checked, run_pure]

theorem advance_ok {phase : Phase} (checked : b.sequence.check op = .ok phase) :
    advance op b = (.ok (), { b with sequence := { b.sequence with phase } }) := by
  unfold advance Sequence.advance
  rw [run_bind, run_get]
  simp only [checked, ok_bind]
  rfl

theorem transferId_ok {id : String} (named : b.sequence.id = some id) :
    transferId b = (.ok id, b) := by
  unfold transferId
  rw [run_bind, run_get]
  simp only [named, run_pure]

theorem transferId_error (unnamed : b.sequence.id = none) :
    transferId b = (.error .noTransfer, b) := by
  unfold transferId
  rw [run_bind, run_get]
  simp only [unnamed, run_throw]

theorem call_eq (q : Request) : call caller remote q b =
    (caller.consent q (remote q), noting (some q) b) := by
  unfold call Caller.consent
  rw [run_bind, run_modify]
  simp only [run_bind, run_ofExcept]
  cases caller.call q (remote q) with
  | ok response => rfl
  | error e => rfl

/-! ## The operations -/

theorem init_eq (request : BackupInitRequest) {q : Request}
    (hq : q = .ofOperation .backupInit request) :
    init caller remote request b =
      attempt (b.sequence.check .backupInit) (caller.ask q (remote q)) (noting (some q))
        (fun phase r => Outcome.take phase (.opened r)) b := by
  unfold init
  rw [← hq]
  cases checked : b.sequence.check .backupInit with
  | error cause => exact run_bind_error (check_error checked) _
  | ok phase =>
    rw [run_bind_ok (check_ok checked), run_bind, call_eq, Caller.ask_eq]
    cases caller.consent q (remote q) with
    | error e => rfl
    | ok response =>
      simp only [ok_bind]
      rw [run_bind, run_ofExcept]
      cases (response.parse : Except ClientError BackupInitResponse) with
      | error e => rfl
      | ok r => exact run_bind_ok (advance_ok (b := noting (some q) b) checked) _

theorem resume_eq (request : BackupResumeRequest) {q : Request}
    (hq : q = .ofOperation .backupResume request) :
    resume caller remote request b =
      attempt (b.sequence.check .backupResume) (caller.ask q (remote q)) (noting (some q))
        (fun phase r => Outcome.take phase (.looked r)) b := by
  unfold resume
  rw [← hq]
  cases checked : b.sequence.check .backupResume with
  | error cause => exact run_bind_error (check_error checked) _
  | ok phase =>
    rw [run_bind_ok (check_ok checked), run_bind, call_eq, Caller.ask_eq]
    cases caller.consent q (remote q) with
    | error e => rfl
    | ok response =>
      simp only [ok_bind]
      rw [run_bind, run_ofExcept]
      cases (response.parse : Except ClientError BackupResumeResponse) with
      | error e => rfl
      | ok r =>
        simp only [attempt, Outcome.take, Outcome.effect]
        split
        · rw [run_bind_ok (advance_ok (b := noting (some q) b) checked)]
          rfl
        · rfl

theorem sendChunk_eq (data : Bytes) {id : String} (named : b.sequence.id = some id) {q : Request}
    (hq : q = .ofOperation .backupChunk
      (BackupChunkRequest.ofBytes id (Int64.ofNat b.sequence.offset) data)) :
    sendChunk caller remote data b =
      attempt (b.sequence.check .backupChunk) ((fun _ => ()) <$> caller.consent q (remote q))
        (noting (some q))
        (fun phase _ => Outcome.take phase (.sent data)) b := by
  unfold sendChunk
  cases checked : b.sequence.check .backupChunk with
  | error cause => exact run_bind_error (check_error checked) _
  | ok phase =>
    rw [run_bind_ok (check_ok checked), run_bind_ok (transferId_ok named),
      run_bind_ok (run_get b), run_bind, ← hq, call_eq]
    cases caller.consent q (remote q) with
    | error e => rfl
    | ok response => exact run_bind_ok (advance_ok (b := noting (some q) b) checked) _

theorem finish_eq (serverPath fileHash : String) {id : String} (named : b.sequence.id = some id)
    {q : Request}
    (hq : q = .ofOperation .backupFinish (⟨id, serverPath, fileHash⟩ : BackupFinishRequest)) :
    finish caller remote serverPath fileHash b =
      attempt (b.sequence.check .backupFinish) (caller.consent q (remote q)) (noting (some q))
        (fun phase r => Outcome.take phase (.finished r)) b := by
  unfold finish
  cases checked : b.sequence.check .backupFinish with
  | error cause => exact run_bind_error (check_error checked) _
  | ok phase =>
    rw [run_bind_ok (check_ok checked), run_bind_ok (transferId_ok named), run_bind, ← hq, call_eq]
    cases caller.consent q (remote q) with
    | error e => rfl
    | ok response => exact run_bind_ok (advance_ok (b := noting (some q) b) checked) _

theorem cancel_eq {id : String} (named : b.sequence.id = some id) {q : Request}
    (hq : q = .ofOperation .backupCancel (⟨id⟩ : TransferIdRequest)) :
    cancel caller remote b =
      attempt (b.sequence.check .backupCancel) (caller.notify q (remote q)) (noting (some q))
        (fun phase _ => Outcome.take phase .cancelled) b := by
  unfold cancel
  cases checked : b.sequence.check .backupCancel with
  | error cause => exact run_bind_error (check_error checked) _
  | ok phase =>
    have onward := advance_ok (b := noting (some q) b) checked
    rw [run_bind_ok (check_ok checked), run_bind_ok (run_get b)]
    simp only [named]
    rw [← hq, Caller.notify]
    simp only [run_bind, run_modify, run_ofExcept]
    rcases caller.callOneWay q (remote q) with e | _ | response
    · rfl
    · exact onward
    · simp only [ok_bind, run_bind, run_ofExcept]
      cases response.ensureSuccess with
      | error e => rfl
      | ok response => exact onward

/-! ## Without a transfer to speak of -/

variable (unnamed : b.sequence.id = none)
include unnamed

theorem sendChunk_unnamed (data : Bytes) : sendChunk caller remote data b =
    attempt (b.sequence.check .backupChunk) (.error .noTransfer) (noting none)
      (fun phase (_ : Unit) => Outcome.take phase (.sent data)) b := by
  unfold sendChunk
  cases checked : b.sequence.check .backupChunk with
  | error cause => exact run_bind_error (check_error checked) _
  | ok phase =>
    rw [run_bind_ok (check_ok checked)]
    exact run_bind_error (transferId_error unnamed) _

theorem finish_unnamed (serverPath fileHash : String) :
    finish caller remote serverPath fileHash b =
      attempt (b.sequence.check .backupFinish) (.error .noTransfer) (noting none)
        (fun phase r => Outcome.take phase (.finished r)) b := by
  unfold finish
  cases checked : b.sequence.check .backupFinish with
  | error cause => exact run_bind_error (check_error checked) _
  | ok phase =>
    rw [run_bind_ok (check_ok checked)]
    exact run_bind_error (transferId_error unnamed) _

theorem cancel_unnamed : cancel caller remote b =
    attempt (b.sequence.check .backupCancel) (.ok ()) (noting none)
      (fun phase _ => Outcome.take phase .cancelled) b := by
  unfold cancel
  cases checked : b.sequence.check .backupCancel with
  | error cause => exact run_bind_error (check_error checked) _
  | ok phase =>
    rw [run_bind_ok (check_ok checked), run_bind_ok (run_get b)]
    simp only [unnamed]
    exact advance_ok checked

omit unnamed

/-! ## Every action is an attempt -/

theorem perform_eq (a : Action) : perform caller remote a b =
    attempt (b.sequence.check a.operation) (a.verdict caller remote b.sequence)
      (noting (a.request? b.sequence)) Outcome.take b := by
  cases a with
  | init request =>
    rw [perform, run_map, init_eq request rfl]
    exact attempt_map Outcome.opened _ _ _ Outcome.take b
  | resume request =>
    rw [perform, run_map, resume_eq request rfl]
    exact attempt_map Outcome.looked _ _ _ Outcome.take b
  | sendChunk data =>
    rw [perform, run_map]
    cases named : b.sequence.id with
    | none =>
      simp only [sendChunk_unnamed named, Action.verdict, Action.request?, named, Option.map_none]
      exact attempt_map (fun _ => Outcome.sent data) _ _ _ Outcome.take b
    | some id =>
      simp only [Action.verdict, Action.request?, named, Option.map_some]
      rw [sendChunk_eq data named rfl]
      refine (attempt_map (fun _ => Outcome.sent data) _ _ _ Outcome.take b).trans ?_
      rw [Functor.map_map]
      rfl
  | finish serverPath fileHash =>
    rw [perform, run_map]
    cases named : b.sequence.id with
    | none =>
      simp only [finish_unnamed named, Action.verdict, Action.request?, named, Option.map_none]
      exact attempt_map Outcome.finished _ _ _ Outcome.take b
    | some id =>
      simp only [Action.verdict, Action.request?, named, Option.map_some]
      rw [finish_eq serverPath fileHash named rfl]
      exact attempt_map Outcome.finished _ _ _ Outcome.take b
  | cancel =>
    rw [perform, run_map]
    cases named : b.sequence.id with
    | none =>
      simp only [cancel_unnamed named, Action.verdict, Action.request?, named, Option.map_none]
      exact attempt_map (fun _ => Outcome.cancelled) _ _ _ Outcome.take b
    | some id =>
      simp only [Action.verdict, Action.request?, named, Option.map_some]
      rw [cancel_eq named rfl]
      exact attempt_map (fun _ => Outcome.cancelled) _ _ _ Outcome.take b

end DeviceLink.Transfer.Backup
