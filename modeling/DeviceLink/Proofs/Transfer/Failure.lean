-- Operations that fail. What is known of a transfer then stays as it was, an operation out of order
-- does not get as far as the server, and nothing fails any more once the server has accepted it.
import DeviceLink.Proofs.Transfer.Order

namespace DeviceLink.Transfer

/-! ## Turns that end well, one way or the other -/

section

variable {σ A R K : Type} {op : Operation} {s : Sequence} {request? : Option Request}

/-- How a turn may end at which an operation was tried on a transfer in the given phase. `known` is
what is known of a transfer, `calls` are the requests made for it, and `Accepted` says that the
server accepts the operation if it is asked at all. -/
structure Turn.Steady (t : Turn σ A R) (known : σ → K) (calls : σ → List Request) (op : Operation)
    (phase : Phase) (request? : Option Request) (Accepted : Prop) : Prop where
  /-- An error changes nothing that is known. -/
  failed : ∀ e, t.result = .error e → known t.after = known t.before
  /-- Out of order, the operation and the phase are named, and no call is made. -/
  refused : Sequence.next? op phase = none →
    t.result = .error (.link (.outOfOrder op phase)) ∧ t.after = t.before
  /-- In order, the server is called once, or not at all where there is nothing to say to it. -/
  asked : Sequence.next? op phase ≠ none → calls t.after = request?.toList ++ calls t.before
  /-- In order, the operation succeeds just when the server accepts it. -/
  accepted : Sequence.next? op phase ≠ none → (Accepted ↔ ∃ x, t.result = .ok x)

theorem Turn.steady_of_attempt {t : Turn σ A R} {known : σ → K} {calls : σ → List Request}
    {Accepted : Prop} (verdict : Except ClientError R) (note : σ → σ) (effect : Phase → R → σ → σ)
    (own : op.direction? = some s.direction)
    (ran : (t.result, t.after) = attempt (s.check op) verdict note effect t.before)
    (kept : known (note t.before) = known t.before)
    (noted : calls (note t.before) = request?.toList ++ calls t.before)
    (uncalled : ∀ phase x b, calls (effect phase x b) = calls b)
    (judged : Sequence.next? op s.phase ≠ none → (Accepted ↔ ∃ x, verdict = .ok x)) :
    t.Steady known calls op s.phase request? Accepted := by
  rw [Sequence.check_eq own] at ran
  cases next : Sequence.next? op s.phase with
  | none =>
    simp only [next, attempt, Prod.mk.injEq] at ran
    obtain ⟨result, unchanged⟩ := ran
    exact
      { failed _ _ := by rw [unchanged]
        refused _ := ⟨result, unchanged⟩
        asked allowed := absurd next allowed
        accepted allowed := absurd next allowed }
  | some phase =>
    have allowed : Sequence.next? op s.phase ≠ none := by simp [next]
    have judged := judged allowed
    cases verdict with
    | error e =>
      simp only [next, attempt, Prod.mk.injEq] at ran
      obtain ⟨result, noticed⟩ := ran
      exact
        { failed _ _ := by rw [noticed, kept]
          refused forbidden := absurd forbidden allowed
          asked _ := by rw [noticed, noted]
          accepted _ := by rw [judged, result] }
    | ok x =>
      simp only [next, attempt, Prod.mk.injEq] at ran
      obtain ⟨result, moved⟩ := ran
      exact
        { failed e failure := by rw [result] at failure; cases failure
          refused forbidden := absurd forbidden allowed
          asked _ := by rw [moved, uncalled, noted]
          accepted _ := by rw [judged, result] }

end

/-! ## Backups -/

namespace Backup

variable {caller : Caller} {remote : Remote} {b : Backup} {q : Request} {reply : Reply} {a : Action}

/-- The server accepts what an action asks of it. A cancel may also be acknowledged by closing the
connection. -/
def Action.Accepted (caller : Caller) (q : Request) (reply : Reply) : Action → Prop
  | .init _ => ∃ x : BackupInitResponse, caller.Answers q reply x
  | .resume _ => ∃ x : BackupResumeResponse, caller.Answers q reply x
  | .sendChunk _ | .finish _ _ => ∃ r, caller.call q reply = .ok r ∧ r.status = Exchange.statusOk
  | .cancel => caller.callOneWay q reply = .ok none ∨
    ∃ r, caller.callOneWay q reply = .ok (some r) ∧ r.status = Exchange.statusOk

theorem Action.accepted_iff (a : Action) :
    a.Accepted caller q reply ↔ ∃ x, a.judge caller q reply = .ok x := by
  cases a with
  | init request =>
    simp only [Accepted, judge, exists_map_eq_ok_iff, Caller.ask_eq_ok_iff]
  | resume request =>
    simp only [Accepted, judge, exists_map_eq_ok_iff, Caller.ask_eq_ok_iff]
  | sendChunk data => simp only [Accepted, judge, exists_map_eq_ok_iff, Caller.consent_eq_ok_iff]
  | finish serverPath fileHash =>
    simp only [Accepted, judge, exists_map_eq_ok_iff, Caller.consent_eq_ok_iff]
  | cancel =>
    simp only [judge, exists_map_eq_ok_iff]
    refine Caller.notify_eq_ok_iff.symm.trans ⟨fun ok => ⟨(), ok⟩, ?_⟩
    rintro ⟨⟨⟩, ok⟩
    exact ok

/-- A transfer in order is spoken of by its name; only a cancel may come before it has one. -/
theorem named_of_next? (sound : b.sequence.Sound .backup)
    (allowed : Sequence.next? a.operation b.sequence.phase ≠ none)
    (silent : a.request? b.sequence = none) : a = .cancel := by
  cases a with
  | init request => cases silent
  | resume request => cases silent
  | cancel => rfl
  | _ =>
    simp only [Action.request?, Option.map_eq_none_iff] at silent
    cases phase : b.sequence.phase with
    | streaming =>
      obtain ⟨id, named⟩ := sound.named phase
      simp [named] at silent
    | _ => simp [Action.operation, phase, Sequence.next?] at allowed

theorem accepted_iff_verdict (sound : b.sequence.Sound .backup)
    (allowed : Sequence.next? a.operation b.sequence.phase ≠ none) :
    (∀ q, a.request? b.sequence = some q → a.Accepted caller q (remote q)) ↔
      ∃ x, a.verdict caller remote b.sequence = .ok x := by
  unfold Action.verdict
  cases asked : a.request? b.sequence with
  | some q => simp [a.accepted_iff]
  | none =>
    cases named_of_next? sound allowed asked
    simp [Action.unnamed]

theorem steady_turn (sound : b.sequence.Sound .backup) :
    (turn (perform caller) remote a b).Steady sequence calls a.operation b.sequence.phase
      (a.request? b.sequence)
      (∀ q, a.request? b.sequence = some q → a.Accepted caller q (remote q)) := by
  apply Turn.steady_of_attempt (a.verdict caller remote b.sequence)
    (noting (a.request? b.sequence)) Outcome.take
  · rw [direction_operation, sound.direction]
  · exact perform_eq a
  · rfl
  · rfl
  · intro phase x b
    rfl
  · exact accepted_iff_verdict sound

/-- A server that knows of no earlier backup to go on with leaves this one as it was. -/
theorem resume_without_finding {request : BackupResumeRequest} {answer : BackupResumeResponse}
    (sound : b.sequence.Sound .backup)
    (allowed : Sequence.next? .backupResume b.sequence.phase ≠ none)
    (hq : q = .ofOperation .backupResume request) (answers : caller.Answers q (remote q) answer)
    (elsewhere : answer.status ≠ .found) :
    perform caller remote (.resume request) b = (.ok (.looked answer), noting (some q) b) := by
  have own : Operation.backupResume.direction? = some b.sequence.direction := by
    rw [sound.direction]
    rfl
  rw [perform, Step.run_map, resume_eq request hq, Sequence.check_eq own,
    Caller.ask_eq_ok_iff.2 answers]
  cases next : Sequence.next? .backupResume b.sequence.phase with
  | none => exact absurd next allowed
  | some phase =>
    simp only [attempt, Outcome.take, Outcome.effect, if_neg elsewhere]
    rfl

end Backup

/-! ## Restores -/

namespace Restore

variable {caller : Caller} {remote : Remote} {r : Restore} {q : Request} {reply : Reply}
  {a : Action}

/-- What is known of a restore: its phase, name and offset, and the size of the file. -/
def known (r : Restore) : Sequence × Nat := (r.sequence, r.totalSize)

/-- The server accepts what an action asks of it. -/
def Action.Accepted (caller : Caller) (q : Request) (reply : Reply) : Action → Prop
  | .init _ | .resume _ => ∃ x : RestoreInitResponse, caller.Answers q reply x ∧ x.status = "ok"
  | .nextChunk _ => ∃ x : RestoreChunkResponse, caller.Answers q reply x ∧
    ∃ data, decodeChunkData x.data = .ok data
  | .finish => ∃ r, caller.call q reply = .ok r ∧ r.status = Exchange.statusOk

theorem Action.accepted_iff (a : Action) :
    a.Accepted caller q reply ↔ ∃ x, a.judge caller q reply = .ok x := by
  cases a with
  | init request => simp only [Accepted, judge, exists_map_eq_ok_iff, welcome_eq_ok_iff]
  | resume id => simp only [Accepted, judge, exists_map_eq_ok_iff, welcome_eq_ok_iff]
  | nextChunk size =>
    simp only [Accepted, judge, exists_map_eq_ok_iff, fetch_eq_ok_iff]
    constructor
    · rintro ⟨x, answers, data, decoded⟩
      exact ⟨data, x, answers, decoded⟩
    · rintro ⟨data, x, answers, decoded⟩
      exact ⟨x, answers, data, decoded⟩
  | finish => simp only [Accepted, judge, exists_map_eq_ok_iff, Caller.consent_eq_ok_iff]

/-- A transfer in order is spoken of by its name. -/
theorem named_of_next? (sound : r.sequence.Sound .restore)
    (allowed : Sequence.next? a.operation r.sequence.phase ≠ none) :
    ∃ q, a.request? r.sequence = some q := by
  cases a with
  | init request => exact ⟨_, rfl⟩
  | resume id => exact ⟨_, rfl⟩
  | _ =>
    cases phase : r.sequence.phase with
    | streaming =>
      obtain ⟨id, named⟩ := sound.named phase
      simp [Action.request?, named]
    | _ => simp [Action.operation, phase, Sequence.next?] at allowed

theorem accepted_iff_verdict (sound : r.sequence.Sound .restore)
    (allowed : Sequence.next? a.operation r.sequence.phase ≠ none) :
    (∀ q, a.request? r.sequence = some q → a.Accepted caller q (remote q)) ↔
      ∃ x, a.verdict caller remote r.sequence = .ok x := by
  obtain ⟨q, asked⟩ := named_of_next? sound allowed
  unfold Action.verdict
  simp [asked, a.accepted_iff]

theorem steady_turn (sound : r.sequence.Sound .restore) :
    (turn (perform caller) remote a r).Steady known calls a.operation r.sequence.phase
      (a.request? r.sequence)
      (∀ q, a.request? r.sequence = some q → a.Accepted caller q (remote q)) := by
  apply Turn.steady_of_attempt (a.verdict caller remote r.sequence)
    (noting (a.request? r.sequence)) Outcome.take
  · rw [direction_operation, sound.direction]
  · exact perform_eq a
  · rfl
  · rfl
  · intro phase x r
    cases x with
    | _ => rfl
  · exact accepted_iff_verdict sound

end Restore

/-! ## The law -/

/-- After any run of operations on a backup or a restore, against any server, one more operation that
fails changes nothing of what is known of the transfer. Out of order it makes no call, and in order
it fails only if the server does not accept it. A resumed backup that the server did not find stays
as it was, too, though that is no failure. -/
theorem a_failed_operation_changes_nothing (caller : Caller) :
    (∀ steps a remote, let b := after (Backup.perform caller) {} steps
      (turn (Backup.perform caller) remote a b).Steady Backup.sequence Backup.calls a.operation
          b.sequence.phase (a.request? b.sequence)
          (∀ q, a.request? b.sequence = some q → a.Accepted caller q (remote q)) ∧
        ∀ request answer, a = .resume request →
          Sequence.next? .backupResume b.sequence.phase ≠ none →
          caller.Answers (.ofOperation .backupResume request)
            (remote (.ofOperation .backupResume request)) answer →
          answer.status ≠ .found →
          (turn (Backup.perform caller) remote a b).result = .ok (.looked answer) ∧
            (turn (Backup.perform caller) remote a b).after.sequence = b.sequence) ∧
    (∀ steps a remote, let r := after (Restore.perform caller) {} steps
      (turn (Restore.perform caller) remote a r).Steady Restore.known Restore.calls a.operation
        r.sequence.phase (a.request? r.sequence)
        (∀ q, a.request? r.sequence = some q → a.Accepted caller q (remote q))) := by
  refine ⟨?_, ?_⟩
  · intro steps a remote b
    have sound : b.sequence.Sound .backup := Backup.sound_after steps
    refine ⟨Backup.steady_turn sound, ?_⟩
    rintro request answer rfl allowed answers elsewhere
    have ran := Backup.resume_without_finding sound allowed rfl answers elsewhere
    exact ⟨congrArg Prod.fst ran, congrArg (fun left => left.2.sequence) ran⟩
  · intro steps a remote r
    exact Restore.steady_turn (Restore.sound_after steps)

end DeviceLink.Transfer
