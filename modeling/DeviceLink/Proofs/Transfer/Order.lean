-- The order of the operations on a transfer in use: what its phase says of its name, after any run
-- of actions and whatever the server does.
import DeviceLink.Proofs.Transfer.Download
import DeviceLink.Proofs.Transfer.Upload

namespace DeviceLink.Transfer

namespace Sequence

variable {s : Sequence} {d : Direction} {op : Operation} {phase : Phase}

/-! ## What is allowed -/

theorem check_eq (own : op.direction? = some s.direction) :
    s.check op = match next? op s.phase with
      | some phase => .ok phase
      | none => .error (.outOfOrder op s.phase) := by
  unfold check
  cases next : next? op s.phase with
  | some phase => simp [own]
  | none => simp [own]

theorem check_eq_ok_iff : s.check op = .ok phase ↔
    op.direction? = some s.direction ∧ next? op s.phase = some phase := by
  unfold check
  by_cases own : op.direction? = some s.direction
  · rw [if_pos own]
    cases next? op s.phase with
    | some phase' => simp [own]
    | none => simp
  · rw [if_neg own]
    simp [own]

theorem next?_of_check (checked : s.check op = .ok phase) : next? op s.phase = some phase :=
  (check_eq_ok_iff.1 checked).2

/-- Chunks and finishes are allowed in the stream alone. -/
theorem streaming_of_next? (next : next? op s.phase = some phase)
    (inner : op = .backupChunk ∨ op = .backupFinish ∨ op = .restoreChunk ∨ op = .restoreFinish) :
    s.phase = .streaming := by
  cases was : s.phase with
  | streaming => rfl
  | _ => rcases inner with rfl | rfl | rfl | rfl <;> simp [was, next?] at next

/-! ## What is always so -/

/-- A transfer keeps its direction, and one that streams has a name. -/
structure Sound (d : Direction) (s : Sequence) : Prop where
  direction : s.direction = d
  named : s.phase = .streaming → ∃ id, s.id = some id

theorem sound_start : (start d).Sound d where
  direction := rfl
  named streaming := by cases streaming

theorem Sound.attach (sound : s.Sound d) (phase : Phase) (id : String) (offset : Nat) :
    (({ s with phase } : Sequence).attach id offset).Sound d where
  direction := sound.direction
  named _ := ⟨id, rfl⟩

theorem Sound.onward (sound : s.Sound d) (stays : phase = .streaming → s.phase = .streaming) :
    ({ s with phase } : Sequence).Sound d where
  direction := sound.direction
  named streaming := sound.named (stays streaming)

end Sequence

/-! ## Backups -/

namespace Backup

variable {caller : Caller} {remote : Remote} {b : Backup} {a : Action}

theorem direction_operation (a : Action) : a.operation.direction? = some .backup := by
  cases a <;> rfl

theorem Outcome.sound_effect {x : Outcome} {phase : Phase} {s : Sequence}
    (yields : Yields a x) (next : Sequence.next? a.operation s.phase = some phase)
    (sound : s.Sound .backup) : (x.effect phase s).Sound .backup := by
  cases yields with
  | init request r => exact sound.attach phase r.transferId _
  | resume request r =>
    rw [effect]
    split
    · exact sound.attach phase r.transferId _
    · exact sound
  | sendChunk data =>
    have onward : ({ s with phase } : Sequence).Sound .backup := by
      apply sound.onward
      rintro rfl
      exact Sequence.streaming_of_next? next (.inl rfl)
    exact ⟨onward.direction, onward.named⟩
  | finish serverPath fileHash r =>
    apply sound.onward
    rintro rfl
    cases phase : s.phase <;> simp [phase, Action.operation, Sequence.next?] at next
  | cancel =>
    apply sound.onward
    rintro rfl
    cases phase : s.phase <;> simp [phase, Action.operation, Sequence.next?] at next

theorem sound_perform (sound : b.sequence.Sound .backup) :
    (perform caller remote a b).2.sequence.Sound .backup := by
  rw [perform_eq]
  rcases attempt_cases (b.sequence.check a.operation) (a.verdict caller remote b.sequence)
      (noting (a.request? b.sequence)) Outcome.take b with
    ⟨cause, _, ran⟩ | ⟨phase, e, _, _, ran⟩ | ⟨phase, x, checked, granted, ran⟩
  · rw [ran]
    exact sound
  · rw [ran]
    exact sound
  · rw [ran]
    exact Outcome.sound_effect (yields_of_verdict granted) (Sequence.next?_of_check checked) sound

theorem sound_after (steps : List (Action × Remote)) :
    (after (perform caller) {} steps).sequence.Sound .backup := by
  apply after_induct (fun _ (b : Backup) => b.sequence.Sound .backup)
  · exact Sequence.sound_start
  · intro _ _ _ _ sound
    exact sound_perform sound

end Backup

/-! ## Restores -/

namespace Restore

variable {caller : Caller} {remote : Remote} {r : Restore} {a : Action}

theorem direction_operation (a : Action) : a.operation.direction? = some .restore := by
  cases a <;> rfl

theorem Outcome.sound_take {x : Outcome} {phase : Phase}
    (yields : Yields a x) (next : Sequence.next? a.operation r.sequence.phase = some phase)
    (sound : r.sequence.Sound .restore) : (x.take phase r).sequence.Sound .restore := by
  cases yields with
  | init request session => exact sound.attach phase session.transferId _
  | resume id session => exact sound.attach phase session.transferId _
  | nextChunk size data =>
    have onward : ({ r.sequence with phase } : Sequence).Sound .restore := by
      apply sound.onward
      rintro rfl
      exact Sequence.streaming_of_next? next (.inr (.inr (.inl rfl)))
    exact ⟨onward.direction, onward.named⟩
  | finish response =>
    apply sound.onward
    rintro rfl
    cases phase : r.sequence.phase <;> simp [phase, Action.operation, Sequence.next?] at next

theorem sound_perform (sound : r.sequence.Sound .restore) :
    (perform caller remote a r).2.sequence.Sound .restore := by
  rw [perform_eq]
  rcases attempt_cases (r.sequence.check a.operation) (a.verdict caller remote r.sequence)
      (noting (a.request? r.sequence)) Outcome.take r with
    ⟨cause, _, ran⟩ | ⟨phase, e, _, _, ran⟩ | ⟨phase, x, checked, granted, ran⟩
  · rw [ran]
    exact sound
  · rw [ran]
    exact sound
  · rw [ran]
    exact Outcome.sound_take (yields_of_verdict granted) (Sequence.next?_of_check checked) sound

theorem sound_after (steps : List (Action × Remote)) :
    (after (perform caller) {} steps).sequence.Sound .restore := by
  apply after_induct (fun _ (r : Restore) => r.sequence.Sound .restore)
  · exact Sequence.sound_start
  · intro _ _ _ _ sound
    exact sound_perform sound

end Restore

end DeviceLink.Transfer
