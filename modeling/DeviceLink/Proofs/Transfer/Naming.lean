-- The name of a transfer in use. The server gives it when the transfer is opened, in the same step
-- that leads to the stream, so that no operation that is allowed ever lacks it.
import DeviceLink.Proofs.Transfer.Calls
import DeviceLink.Proofs.Transfer.Failure

namespace DeviceLink

/-! ## Calls do not miss a name -/

section

variable {ε α β : Type} {m : Except ε α} {e : ε}

theorem bind_ne_error {f : α → Except ε β} (apart : m ≠ .error e) (later : ∀ x, f x ≠ .error e) :
    m >>= f ≠ .error e := by
  cases m with
  | ok x => exact later x
  | error e' =>
    rintro ⟨⟩
    exact apart rfl

theorem map_ne_error (f : α → β) (apart : m ≠ .error e) : f <$> m ≠ .error e := by
  cases m with
  | ok x => rintro ⟨⟩
  | error e' =>
    rintro ⟨⟩
    exact apart rfl

end

theorem ofLink_ne_noTransfer {α : Type} (result : Except LinkError α) :
    ofLink result ≠ .error .noTransfer := by
  cases result with
  | ok x => rintro ⟨⟩
  | error cause => rintro ⟨⟩

namespace Response

theorem ensureSuccess_ne_noTransfer (r : Response) : r.ensureSuccess ≠ .error .noTransfer := by
  unfold ensureSuccess
  split
  · rintro ⟨⟩
  · rintro ⟨⟩

theorem parse_ne_noTransfer {α : Type} [Json.Payload α] (r : Response) :
    (r.parse : Except ClientError α) ≠ .error .noTransfer := by
  unfold parse
  cases (Json.Payload.parse r.body : Except Json.Error α) with
  | ok x => rintro ⟨⟩
  | error cause => rintro ⟨⟩

end Response

namespace Caller

variable (c : Caller) (q : Request) (reply : Reply)

theorem read_ne_noTransfer : c.read reply ≠ .error .noTransfer := by
  unfold read
  cases reply with
  | silence begun =>
    simp only
    split
    · rintro ⟨⟩
    · rintro ⟨⟩
  | _ => rintro ⟨⟩

theorem exchange_ne_noTransfer : c.exchange q reply ≠ .error .noTransfer := by
  unfold exchange
  split
  · rintro ⟨⟩
  · rintro ⟨⟩
  · exact c.read_ne_noTransfer _

theorem call_ne_noTransfer : c.call q reply ≠ .error .noTransfer :=
  bind_ne_error (c.exchange_ne_noTransfer q reply) fun result => ofLink_ne_noTransfer result

theorem consent_ne_noTransfer : c.consent q reply ≠ .error .noTransfer :=
  bind_ne_error (c.call_ne_noTransfer q reply) fun r => r.ensureSuccess_ne_noTransfer

theorem ask_ne_noTransfer {α : Type} [Json.Payload α] :
    (c.ask q reply : Except ClientError α) ≠ .error .noTransfer := by
  rw [ask_eq]
  exact bind_ne_error (c.consent_ne_noTransfer q reply) fun r => r.parse_ne_noTransfer

theorem callOneWay_ne_noTransfer : c.callOneWay q reply ≠ .error .noTransfer := by
  unfold callOneWay
  apply bind_ne_error (c.exchange_ne_noTransfer q reply)
  rintro (cause | response)
  · simp only
    split
    · rintro ⟨⟩
    · rintro ⟨⟩
  · rintro ⟨⟩

theorem notify_ne_noTransfer : c.notify q reply ≠ .error .noTransfer := by
  unfold notify
  apply bind_ne_error (c.callOneWay_ne_noTransfer q reply)
  rintro (_ | response)
  · rintro ⟨⟩
  · exact bind_ne_error response.ensureSuccess_ne_noTransfer fun _ => by rintro ⟨⟩

end Caller

namespace Transfer

/-- An attempt does not miss a name if the server's verdict, once it is asked, does not. -/
theorem attempt_ne_noTransfer {σ α : Type} {checked : Except LinkError Phase}
    {verdict : Except ClientError α} (note : σ → σ) (effect : Phase → α → σ → σ) (s : σ)
    (asked : ∀ phase, checked = .ok phase → verdict ≠ .error .noTransfer) :
    (attempt checked verdict note effect s).1 ≠ .error .noTransfer := by
  rcases attempt_cases checked verdict note effect s with
    ⟨cause, _, ran⟩ | ⟨phase, e, passed, failed, ran⟩ | ⟨phase, x, _, _, ran⟩
  · rw [ran]
    rintro ⟨⟩
  · rw [ran, ← failed]
    exact asked phase passed
  · rw [ran]
    rintro ⟨⟩

namespace Sequence

variable {s : Sequence} {op : Operation} {phase : Phase}

/-! ## What the phase says of the name -/

/-- A transfer that is not open has nothing yet, and one that is or was completed has a name. -/
structure Placed (s : Sequence) : Prop where
  fresh : s.phase = .idle → s.id = none ∧ s.offset = 0
  named : s.phase = .streaming ∨ s.phase = .finished → ∃ id, s.id = some id

theorem placed_start (d : Direction) : (start d).Placed where
  fresh _ := ⟨rfl, rfl⟩
  named opened := by simp [start] at opened

/-- No operation leads back to the beginning. -/
theorem ne_idle_of_next? {phase' : Phase} (next : next? op phase' = some phase) :
    phase ≠ .idle := by
  rintro rfl
  cases op <;> cases phase' <;> simp [next?] at next

theorem placed_attach (next : next? op s.phase = some phase) (id : String) (offset : Nat) :
    (({ s with phase } : Sequence).attach id offset).Placed where
  fresh idle := absurd idle (ne_idle_of_next? next)
  named _ := ⟨id, rfl⟩

theorem Placed.onward (placed : s.Placed) (next : next? op s.phase = some phase)
    (streaming : s.phase = .streaming) : ({ s with phase } : Sequence).Placed where
  fresh idle := absurd idle (ne_idle_of_next? next)
  named _ := placed.named (.inl streaming)

theorem placed_cancelled (cancelled : s.phase = .cancelled) : s.Placed where
  fresh idle := by
    rw [cancelled] at idle
    cases idle
  named opened := by simp [cancelled] at opened

theorem Placed.record (placed : s.Placed) (length : Nat) (opened : s.phase ≠ .idle) :
    (s.record length).Placed where
  fresh idle := absurd idle opened
  named := placed.named

end Sequence

/-! ## Backups -/

namespace Backup

open Sequence

variable {caller : Caller} {remote : Remote} {b : Backup} {a : Action}

theorem Outcome.placed_effect {x : Outcome} {phase : Phase} {s : Sequence} (yields : Yields a x)
    (next : next? a.operation s.phase = some phase) (placed : s.Placed) :
    (x.effect phase s).Placed := by
  cases yields with
  | init request r => exact placed_attach next r.transferId _
  | resume request r =>
    rw [effect]
    split
    · exact placed_attach next r.transferId _
    · exact placed
  | sendChunk data =>
    have onward : ({ s with phase } : Sequence).Placed :=
      placed.onward next (streaming_of_next? next (.inl rfl))
    exact onward.record data.length (ne_idle_of_next? next)
  | finish serverPath fileHash r =>
    exact placed.onward next (streaming_of_next? next (.inr (.inl rfl)))
  | cancel =>
    apply placed_cancelled
    cases was : s.phase <;> simp_all [Action.operation, next?, effect]

theorem placed_perform (placed : b.sequence.Placed) :
    (perform caller remote a b).2.sequence.Placed := by
  rcases perform_cases caller remote a b with
    ⟨e, _, same⟩ | ⟨phase, x, _, checked, granted, moved⟩
  · rw [same]
    exact placed
  · rw [moved]
    exact Outcome.placed_effect (yields_of_verdict granted) (next?_of_check checked) placed

theorem placed_after (steps : List (Action × Remote)) :
    (after (perform caller) {} steps).sequence.Placed := by
  apply after_induct (fun _ (b : Backup) => b.sequence.Placed)
  · exact placed_start .backup
  · intro _ _ _ _ placed
    exact placed_perform placed

theorem Action.judge_ne_noTransfer (q : Request) (reply : Reply) (a : Action) :
    a.judge caller q reply ≠ .error .noTransfer := by
  cases a with
  | init request => exact map_ne_error _ (caller.ask_ne_noTransfer q reply)
  | resume request => exact map_ne_error _ (caller.ask_ne_noTransfer q reply)
  | sendChunk data => exact map_ne_error _ (caller.consent_ne_noTransfer q reply)
  | finish serverPath fileHash => exact map_ne_error _ (caller.consent_ne_noTransfer q reply)
  | cancel => exact map_ne_error _ (caller.notify_ne_noTransfer q reply)

/-- An operation that is allowed has a name to speak of, or needs none. -/
theorem Action.verdict_ne_noTransfer (sound : b.sequence.Sound .backup)
    (allowed : next? a.operation b.sequence.phase ≠ none) :
    a.verdict caller remote b.sequence ≠ .error .noTransfer := by
  unfold verdict
  split
  · exact judge_ne_noTransfer _ _ a
  · rename_i unnamed
    cases named_of_next? sound allowed unnamed
    rintro ⟨⟩

theorem perform_ne_noTransfer (sound : b.sequence.Sound .backup) :
    (perform caller remote a b).1 ≠ .error .noTransfer := by
  rw [perform_eq]
  apply attempt_ne_noTransfer
  intro phase checked
  apply Action.verdict_ne_noTransfer sound
  rw [next?_of_check checked]
  rintro ⟨⟩

theorem sent_cancel (b : Backup) :
    (turn (perform caller) remote .cancel b).sent Backup.calls =
      Action.requests b.sequence .cancel :=
  Turn.sent_eq (calls_perform caller remote .cancel b)

/-- What holds of a backup at any time, and of the next operation on it. -/
structure Reliable (caller : Caller) (b : Backup) : Prop where
  /-- As long as it is not open, it has no name and nothing of it is over. -/
  fresh : b.sequence.phase = .idle → b.sequence.id = none ∧ b.sequence.offset = 0
  /-- While it is open and once it is complete, it has a name. -/
  named : b.sequence.phase = .streaming ∨ b.sequence.phase = .finished →
    ∃ id, b.sequence.id = some id
  /-- No operation fails for want of a name. -/
  known : ∀ remote a, (perform caller remote a b).1 ≠ .error .noTransfer
  /-- Giving it up tells the server if it is open, under its name. -/
  told : b.sequence.phase = .streaming → ∀ remote, ∃ id, b.sequence.id = some id ∧
    (turn (perform caller) remote .cancel b).sent Backup.calls =
      [.ofOperation .backupCancel (⟨id⟩ : TransferIdRequest)]
  /-- Otherwise the server hears nothing. -/
  untold : b.sequence.phase ≠ .streaming → ∀ remote,
    (turn (perform caller) remote .cancel b).sent Backup.calls = []

theorem reliable_of_placed (placed : b.sequence.Placed) (sound : b.sequence.Sound .backup) :
    Reliable caller b where
  fresh := placed.fresh
  named := placed.named
  known _ _ := perform_ne_noTransfer sound
  told streaming remote := by
    obtain ⟨id, named⟩ := placed.named (.inl streaming)
    have own : Operation.backupCancel.direction? = some b.sequence.direction := by
      rw [sound.direction]
      rfl
    refine ⟨id, named, ?_⟩
    rw [sent_cancel, Action.requests, Action.operation, check_eq own, streaming]
    simp [next?, Action.request?, named]
  untold other remote := by
    rw [sent_cancel, Action.requests]
    cases checked : b.sequence.check Action.cancel.operation with
    | error cause => rfl
    | ok phase =>
      have next : next? .backupCancel b.sequence.phase = some phase := next?_of_check checked
      cases was : b.sequence.phase with
      | idle => simp [Action.request?, (placed.fresh was).1]
      | streaming => exact absurd was other
      | finished => simp [was, next?] at next
      | cancelled => simp [was, next?] at next

end Backup

/-! ## Restores -/

namespace Restore

open Sequence

variable {caller : Caller} {remote : Remote} {r : Restore} {a : Action}

/-- A restore that is not open does not know how much there is to fetch either. -/
structure Placed (r : Restore) : Prop where
  sequence : r.sequence.Placed
  size : r.sequence.phase = .idle → r.totalSize = 0

theorem Outcome.phase_take (phase : Phase) (x : Outcome) (r : Restore) :
    (x.take phase r).sequence.phase = phase := by
  cases x with
  | _ => rfl

theorem Outcome.placed_take {x : Outcome} {phase : Phase} (yields : Yields a x)
    (next : next? a.operation r.sequence.phase = some phase) (placed : r.sequence.Placed) :
    (x.take phase r).sequence.Placed := by
  cases yields with
  | init request session => exact placed_attach next session.transferId _
  | resume id session => exact placed_attach next session.transferId _
  | nextChunk size data =>
    have onward : ({ r.sequence with phase } : Sequence).Placed :=
      placed.onward next (streaming_of_next? next (.inr (.inr (.inl rfl))))
    exact onward.record data.length (ne_idle_of_next? next)
  | finish response =>
    exact placed.onward next (streaming_of_next? next (.inr (.inr (.inr rfl))))

theorem placed_perform (placed : r.Placed) : (perform caller remote a r).2.Placed := by
  rcases perform_cases caller remote a r with
    ⟨e, _, same, size⟩ | ⟨phase, x, _, checked, granted, moved, _⟩
  · constructor
    · rw [same]
      exact placed.sequence
    · rw [same, size]
      exact placed.size
  · have next : next? a.operation r.sequence.phase = some phase := next?_of_check checked
    constructor
    · rw [moved]
      exact Outcome.placed_take (yields_of_verdict granted) next placed.sequence
    · rw [moved, Outcome.phase_take]
      intro idle
      exact absurd idle (ne_idle_of_next? next)

theorem placed_after (steps : List (Action × Remote)) :
    (after (perform caller) {} steps).Placed := by
  apply after_induct (fun _ (r : Restore) => r.Placed)
  · exact ⟨placed_start .restore, fun _ => rfl⟩
  · intro _ _ _ _ placed
    exact placed_perform placed

theorem welcome_ne_noTransfer (q : Request) (reply : Reply) :
    welcome caller q reply ≠ .error .noTransfer := by
  unfold welcome
  apply bind_ne_error (caller.ask_ne_noTransfer q reply)
  intro session
  split
  · rintro ⟨⟩
  · rintro ⟨⟩

theorem fetch_ne_noTransfer (q : Request) (reply : Reply) :
    fetch caller q reply ≠ .error .noTransfer :=
  bind_ne_error (caller.ask_ne_noTransfer q reply) fun _ => ofLink_ne_noTransfer _

theorem Action.judge_ne_noTransfer (q : Request) (reply : Reply) (a : Action) :
    a.judge caller q reply ≠ .error .noTransfer := by
  cases a with
  | init request => exact map_ne_error _ (welcome_ne_noTransfer q reply)
  | resume id => exact map_ne_error _ (welcome_ne_noTransfer q reply)
  | nextChunk size => exact map_ne_error _ (fetch_ne_noTransfer q reply)
  | finish => exact map_ne_error _ (caller.consent_ne_noTransfer q reply)

/-- An operation that is allowed has a name to speak of. -/
theorem Action.verdict_ne_noTransfer (sound : r.sequence.Sound .restore)
    (allowed : next? a.operation r.sequence.phase ≠ none) :
    a.verdict caller remote r.sequence ≠ .error .noTransfer := by
  obtain ⟨q, named⟩ := named_of_next? sound allowed
  unfold verdict
  rw [named]
  exact judge_ne_noTransfer _ _ a

theorem perform_ne_noTransfer (sound : r.sequence.Sound .restore) :
    (perform caller remote a r).1 ≠ .error .noTransfer := by
  rw [perform_eq]
  apply attempt_ne_noTransfer
  intro phase checked
  apply Action.verdict_ne_noTransfer sound
  rw [next?_of_check checked]
  rintro ⟨⟩

/-- What holds of a restore at any time, and of the next operation on it. -/
structure Reliable (caller : Caller) (r : Restore) : Prop where
  /-- As long as it is not open, it has no name, nothing has come, and it is not complete. -/
  fresh : r.sequence.phase = .idle → r.sequence.id = none ∧ r.sequence.offset = 0 ∧
    r.totalSize = 0 ∧ r.isComplete = false
  /-- While it is open and once it is finished, it has a name. -/
  named : r.sequence.phase = .streaming ∨ r.sequence.phase = .finished →
    ∃ id, r.sequence.id = some id
  /-- No operation fails for want of a name. -/
  known : ∀ remote a, (perform caller remote a r).1 ≠ .error .noTransfer

theorem reliable_of_placed (placed : r.Placed) (sound : r.sequence.Sound .restore) :
    Reliable caller r where
  fresh idle := by
    obtain ⟨unnamed, start⟩ := placed.sequence.fresh idle
    refine ⟨unnamed, start, placed.size idle, ?_⟩
    simp [isComplete, unnamed]
  named := placed.sequence.named
  known _ _ := perform_ne_noTransfer sound

end Restore

/-- A transfer in progress has its name, whatever was done with it and however the server answered.
So no operation ever fails for want of one. -/
theorem a_transfer_in_progress_has_its_name (caller : Caller) :
    (∀ steps, Backup.Reliable caller (after (Backup.perform caller) {} steps)) ∧
      ∀ steps, Restore.Reliable caller (after (Restore.perform caller) {} steps) := by
  constructor
  · intro steps
    exact Backup.reliable_of_placed (Backup.placed_after steps) (Backup.sound_after steps)
  · intro steps
    exact Restore.reliable_of_placed (Restore.placed_after steps) (Restore.sound_after steps)

end Transfer

end DeviceLink
