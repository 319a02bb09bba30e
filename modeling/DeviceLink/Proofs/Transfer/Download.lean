-- The operations on a restore as attempts: which request each of them makes, what the server has to
-- consent to, and what its consent changes.
import DeviceLink.Proofs.Transfer.Attempt
import DeviceLink.Proofs.Transfer.Turns
import DeviceLink.Transfer.Restore

namespace DeviceLink.Transfer.Restore

open Step

/-! ## Actions -/

/-- An operation with what it is given. -/
inductive Action
  | init (request : RestoreInitRequest)
  | resume (transferId : String)
  | nextChunk (size : Int32)
  | finish
deriving Repr, DecidableEq

/-- What came of an operation that did not fail. -/
inductive Outcome
  | opened (r : RestoreInitResponse)
  | fetched (data : Bytes)
  | finished (r : Response)
deriving Repr, DecidableEq

def Action.operation : Action → Operation
  | .init _ => .restoreInit
  | .resume _ => .restoreResume
  | .nextChunk _ => .restoreChunk
  | .finish => .restoreFinish

/-- Does what an action says. -/
def perform (caller : Caller) (remote : Remote) : Action → Step Restore Outcome
  | .init request => .opened <$> init caller remote request
  | .resume id => .opened <$> resume caller remote id
  | .nextChunk size => .fetched <$> nextChunk caller remote size
  | .finish => .finished <$> finish caller remote

/-! ## What an action asks, and what comes of it -/

/-- The request that an action makes, if it knows of which transfer to speak. -/
def Action.request? (s : Sequence) : Action → Option Request
  | .init request => some (.ofOperation .restoreInit request)
  | .resume id => some (.ofOperation .restoreResume (⟨id⟩ : TransferIdRequest))
  | .nextChunk size => s.id.map fun id =>
    .ofOperation .restoreChunk (⟨id, Int64.ofNat s.offset, size⟩ : RestoreChunkRequest)
  | .finish => s.id.map fun id => .ofOperation .restoreFinish (⟨id⟩ : TransferIdRequest)

/-- The restore that a server opens; it has to say in the answer, too, that all is well. -/
def welcome (caller : Caller) (q : Request) (reply : Reply) :
    Except ClientError RestoreInitResponse := do
  let session : RestoreInitResponse ← caller.ask q reply
  if session.isOk then .ok session
  else .error (.refused Exchange.statusOk s!"restore status {session.status}")

/-- The bytes that a server gives. -/
def fetch (caller : Caller) (q : Request) (reply : Reply) : Except ClientError Bytes := do
  let chunk : RestoreChunkResponse ← caller.ask q reply
  ofLink chunk.bytes

theorem welcome_eq_ok_iff {caller : Caller} {q : Request} {reply : Reply}
    {session : RestoreInitResponse} : welcome caller q reply = .ok session ↔
    caller.Answers q reply session ∧ session.status = "ok" := by
  unfold welcome
  rw [bind_eq_ok_iff]
  simp only [Caller.ask_eq_ok_iff, RestoreInitResponse.isOk]
  constructor
  · rintro ⟨x, answers, welcomed⟩
    by_cases good : x.status = "ok"
    · simp only [good, beq_self_eq_true, if_true, Except.ok.injEq] at welcomed
      cases welcomed
      exact ⟨answers, good⟩
    · simp [good] at welcomed
  · rintro ⟨answers, good⟩
    exact ⟨session, answers, by simp [good]⟩

theorem fetch_eq_ok_iff {caller : Caller} {q : Request} {reply : Reply} {data : Bytes} :
    fetch caller q reply = .ok data ↔
    ∃ x : RestoreChunkResponse, caller.Answers q reply x ∧ decodeChunkData x.data = .ok data := by
  unfold fetch
  rw [bind_eq_ok_iff]
  simp only [Caller.ask_eq_ok_iff, ofLink_eq_ok_iff, RestoreChunkResponse.bytes]

/-- What the reply to the request of an action comes to. -/
def Action.judge (caller : Caller) (q : Request) (reply : Reply) :
    Action → Except ClientError Outcome
  | .init _ | .resume _ => .opened <$> welcome caller q reply
  | .nextChunk _ => .fetched <$> fetch caller q reply
  | .finish => .finished <$> caller.consent q reply

def Action.verdict (caller : Caller) (remote : Remote) (s : Sequence) (a : Action) :
    Except ClientError Outcome :=
  match a.request? s with
  | some q => a.judge caller q (remote q)
  | none => .error .noTransfer

/-- What may come of which action. -/
inductive Yields : Action → Outcome → Prop
  | init (request : RestoreInitRequest) (r : RestoreInitResponse) :
    Yields (.init request) (.opened r)
  | resume (id : String) (r : RestoreInitResponse) : Yields (.resume id) (.opened r)
  | nextChunk (size : Int32) (data : Bytes) : Yields (.nextChunk size) (.fetched data)
  | finish (r : Response) : Yields .finish (.finished r)

theorem yields_of_judge {caller : Caller} {q : Request} {reply : Reply} {a : Action} {x : Outcome}
    (granted : a.judge caller q reply = .ok x) : Yields a x := by
  cases a with
  | init request =>
    obtain ⟨r, _, rfl⟩ := map_eq_ok_iff.1 granted
    exact .init request r
  | resume id =>
    obtain ⟨r, _, rfl⟩ := map_eq_ok_iff.1 granted
    exact .resume id r
  | nextChunk size =>
    obtain ⟨data, _, rfl⟩ := map_eq_ok_iff.1 granted
    exact .nextChunk size data
  | finish =>
    obtain ⟨r, _, rfl⟩ := map_eq_ok_iff.1 granted
    exact .finish r

theorem yields_of_verdict {caller : Caller} {remote : Remote} {s : Sequence} {a : Action}
    {x : Outcome} (granted : a.verdict caller remote s = .ok x) : Yields a x := by
  unfold Action.verdict at granted
  split at granted
  · exact yields_of_judge granted
  · cases granted

/-- What consent changes, `phase` being the one that the operation leads to. -/
def Outcome.take (phase : Phase) (x : Outcome) (r : Restore) : Restore :=
  let s := { r.sequence with phase }
  match x with
  | .opened session =>
    { r with
      sequence := s.attach session.transferId s.offset
      totalSize := session.totalSize.toInt.toNat }
  | .fetched data => { r with sequence := s.record data.length }
  | .finished _ => { r with sequence := s }

/-! ## The parts of an operation -/

/-- The restore with a call noted, if one was made. -/
def noting (q? : Option Request) (r : Restore) : Restore :=
  { r with calls := q?.toList ++ r.calls }

variable {caller : Caller} {remote : Remote} {r : Restore} {op : Operation}

theorem check_error {cause : LinkError} (checked : r.sequence.check op = .error cause) :
    check op r = (.error (.link cause), r) := by
  unfold check
  rw [run_bind, run_get]
  simp only [checked, run_throw]

theorem check_ok {phase : Phase} (checked : r.sequence.check op = .ok phase) :
    check op r = (.ok (), r) := by
  unfold check
  rw [run_bind, run_get]
  simp only [checked, run_pure]

theorem advance_ok {phase : Phase} (checked : r.sequence.check op = .ok phase) :
    advance op r = (.ok (), { r with sequence := { r.sequence with phase } }) := by
  unfold advance Sequence.advance
  rw [run_bind, run_get]
  simp only [checked, ok_bind]
  rfl

theorem transferId_ok {id : String} (named : r.sequence.id = some id) :
    transferId r = (.ok id, r) := by
  unfold transferId
  rw [run_bind, run_get]
  simp only [named, run_pure]

theorem transferId_error (unnamed : r.sequence.id = none) :
    transferId r = (.error .noTransfer, r) := by
  unfold transferId
  rw [run_bind, run_get]
  simp only [unnamed, run_throw]

theorem call_eq (q : Request) : call caller remote q r =
    (caller.call q (remote q), noting (some q) r) := by
  unfold call
  rw [run_bind, run_modify]
  rfl

/-- Taking the answer to an operation that opens the transfer, once the phase was checked. -/
theorem opened_eq {phase : Phase} (checked : r.sequence.check op = .ok phase) (q : Request) :
    (call caller remote q >>= opened op) r =
      attempt (.ok phase) (welcome caller q (remote q)) (noting (some q))
        (fun phase session => Outcome.take phase (.opened session)) r := by
  rw [run_bind, call_eq, welcome, Caller.ask]
  cases caller.call q (remote q) with
  | error e => rfl
  | ok response =>
    unfold opened
    simp only [ok_bind, run_bind, run_ofExcept]
    cases response.ensureSuccess with
    | error e => rfl
    | ok response =>
      simp only [ok_bind]
      cases (response.parse : Except ClientError RestoreInitResponse) with
      | error e => rfl
      | ok session =>
        simp only [ok_bind]
        cases session.isOk with
        | false => rfl
        | true => exact run_bind_ok (advance_ok (r := noting (some q) r) checked) _

/-! ## The operations -/

theorem init_eq (request : RestoreInitRequest) {q : Request}
    (hq : q = .ofOperation .restoreInit request) :
    init caller remote request r =
      attempt (r.sequence.check .restoreInit) (welcome caller q (remote q)) (noting (some q))
        (fun phase session => Outcome.take phase (.opened session)) r := by
  unfold init
  rw [← hq]
  cases checked : r.sequence.check .restoreInit with
  | error cause => exact run_bind_error (check_error checked) _
  | ok phase =>
    rw [run_bind_ok (check_ok checked)]
    exact opened_eq checked q

theorem resume_eq (id : String) {q : Request}
    (hq : q = .ofOperation .restoreResume (⟨id⟩ : TransferIdRequest)) :
    resume caller remote id r =
      attempt (r.sequence.check .restoreResume) (welcome caller q (remote q)) (noting (some q))
        (fun phase session => Outcome.take phase (.opened session)) r := by
  subst hq
  unfold resume
  cases checked : r.sequence.check .restoreResume with
  | error cause => exact run_bind_error (check_error checked) _
  | ok phase =>
    rw [run_bind_ok (check_ok checked)]
    exact opened_eq checked _

theorem nextChunk_eq (size : Int32) {id : String} (named : r.sequence.id = some id) {q : Request}
    (hq : q = .ofOperation .restoreChunk
      (⟨id, Int64.ofNat r.sequence.offset, size⟩ : RestoreChunkRequest)) :
    nextChunk caller remote size r =
      attempt (r.sequence.check .restoreChunk) (fetch caller q (remote q)) (noting (some q))
        (fun phase data => Outcome.take phase (.fetched data)) r := by
  unfold nextChunk
  cases checked : r.sequence.check .restoreChunk with
  | error cause => exact run_bind_error (check_error checked) _
  | ok phase =>
    rw [run_bind_ok (check_ok checked), run_bind_ok (transferId_ok named),
      run_bind_ok (run_get r), run_bind, ← hq, call_eq, fetch, Caller.ask]
    cases caller.call q (remote q) with
    | error e => rfl
    | ok response =>
      simp only [ok_bind, run_bind, run_ofExcept]
      cases response.ensureSuccess with
      | error e => rfl
      | ok response =>
        simp only [ok_bind]
        cases (response.parse : Except ClientError RestoreChunkResponse) with
        | error e => rfl
        | ok chunk =>
          simp only [ok_bind]
          cases chunk.bytes with
          | error cause => rfl
          | ok data =>
            simp only [ofLink, advance_ok (r := noting (some q) r) checked]
            rfl

theorem finish_eq {id : String} (named : r.sequence.id = some id) {q : Request}
    (hq : q = .ofOperation .restoreFinish (⟨id⟩ : TransferIdRequest)) :
    finish caller remote r =
      attempt (r.sequence.check .restoreFinish) (caller.consent q (remote q)) (noting (some q))
        (fun phase response => Outcome.take phase (.finished response)) r := by
  unfold finish
  cases checked : r.sequence.check .restoreFinish with
  | error cause => exact run_bind_error (check_error checked) _
  | ok phase =>
    rw [run_bind_ok (check_ok checked), run_bind_ok (transferId_ok named), run_bind, ← hq, call_eq,
      Caller.consent]
    cases caller.call q (remote q) with
    | error e => rfl
    | ok response =>
      simp only [ok_bind, run_bind, run_ofExcept]
      cases response.ensureSuccess with
      | error e => rfl
      | ok response =>
        simp only [advance_ok (r := noting (some q) r) checked]
        rfl

/-! ## Without a transfer to speak of -/

variable (unnamed : r.sequence.id = none)
include unnamed

theorem nextChunk_unnamed (size : Int32) : nextChunk caller remote size r =
    attempt (r.sequence.check .restoreChunk) (.error .noTransfer) (noting none)
      (fun phase data => Outcome.take phase (.fetched data)) r := by
  unfold nextChunk
  cases checked : r.sequence.check .restoreChunk with
  | error cause => exact run_bind_error (check_error checked) _
  | ok phase =>
    rw [run_bind_ok (check_ok checked)]
    exact run_bind_error (transferId_error unnamed) _

theorem finish_unnamed : finish caller remote r =
    attempt (r.sequence.check .restoreFinish) (.error .noTransfer) (noting none)
      (fun phase response => Outcome.take phase (.finished response)) r := by
  unfold finish
  cases checked : r.sequence.check .restoreFinish with
  | error cause => exact run_bind_error (check_error checked) _
  | ok phase =>
    rw [run_bind_ok (check_ok checked)]
    exact run_bind_error (transferId_error unnamed) _

omit unnamed

/-! ## Every action is an attempt -/

theorem perform_eq (a : Action) : perform caller remote a r =
    attempt (r.sequence.check a.operation) (a.verdict caller remote r.sequence)
      (noting (a.request? r.sequence)) Outcome.take r := by
  cases a with
  | init request =>
    rw [perform, run_map, init_eq request rfl]
    exact attempt_map Outcome.opened _ _ _ Outcome.take r
  | resume id =>
    rw [perform, run_map, resume_eq id rfl]
    exact attempt_map Outcome.opened _ _ _ Outcome.take r
  | nextChunk size =>
    rw [perform, run_map]
    cases named : r.sequence.id with
    | none =>
      simp only [nextChunk_unnamed named, Action.verdict, Action.request?, named, Option.map_none]
      exact attempt_map Outcome.fetched _ _ _ Outcome.take r
    | some id =>
      simp only [Action.verdict, Action.request?, named, Option.map_some]
      rw [nextChunk_eq size named rfl]
      exact attempt_map Outcome.fetched _ _ _ Outcome.take r
  | finish =>
    rw [perform, run_map]
    cases named : r.sequence.id with
    | none =>
      simp only [finish_unnamed named, Action.verdict, Action.request?, named, Option.map_none]
      exact attempt_map Outcome.finished _ _ _ Outcome.take r
    | some id =>
      simp only [Action.verdict, Action.request?, named, Option.map_some]
      rw [finish_eq named rfl]
      exact attempt_map Outcome.finished _ _ _ Outcome.take r

end DeviceLink.Transfer.Restore
