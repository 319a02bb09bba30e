-- The requests of a transfer, turn by turn. What a turn sends is settled before the server is asked,
-- by the action and by what is known of the transfer.
import DeviceLink.Proofs.Transfer.Order

namespace DeviceLink.Transfer

/-! ## What a turn sends -/

section

variable {σ A R : Type} {calls : σ → List Request} {t : Turn σ A R} {new : List Request}

/-- The requests that a turn added to those made before, last first. -/
def Turn.sent (calls : σ → List Request) (t : Turn σ A R) : List Request :=
  (calls t.after).take ((calls t.after).length - (calls t.before).length)

theorem Turn.sent_eq (grown : calls t.after = new ++ calls t.before) : t.sent calls = new := by
  unfold sent
  rw [grown, List.length_append, Nat.add_sub_cancel, List.take_left]

/-- The requests of a run are those of its turns. -/
theorem calls_after {perform : Remote → A → Step σ R} {requests : σ → A → List Request}
    (grows : ∀ remote a s, calls (perform remote a s).2 = requests s a ++ calls s) (s : σ)
    (steps : List (A × Remote)) : calls (after perform s steps) =
      (turns perform s steps).reverse.flatMap (Turn.sent calls) ++ calls s := by
  induction steps generalizing s with
  | nil => rfl
  | cons step steps ih =>
    have first : (turn perform step.2 step.1 s).sent calls = requests s step.1 :=
      Turn.sent_eq (grows step.2 step.1 s)
    rw [after, ih, grows, turns, List.reverse_cons, List.flatMap_append]
    simp [first]

end

/-! ## Backups -/

namespace Backup

/-- The requests that an action sends: one at most, and none out of order. -/
def Action.requests (s : Sequence) (a : Action) : List Request :=
  match s.check a.operation with
  | .ok _ => (a.request? s).toList
  | .error _ => []

theorem calls_perform (caller : Caller) (remote : Remote) (a : Action) (b : Backup) :
    (perform caller remote a b).2.calls = a.requests b.sequence ++ b.calls := by
  rw [perform_eq]
  unfold Action.requests attempt
  cases b.sequence.check a.operation with
  | error cause => rfl
  | ok phase =>
    cases a.verdict caller remote b.sequence with
    | error e => rfl
    | ok x => rfl

/-- An action fails and leaves the sequence as it was, or it is granted and the sequence follows. -/
theorem perform_cases (caller : Caller) (remote : Remote) (a : Action) (b : Backup) :
    (∃ e, (perform caller remote a b).1 = .error e ∧
      (perform caller remote a b).2.sequence = b.sequence) ∨
    ∃ phase x, (perform caller remote a b).1 = .ok x ∧
      b.sequence.check a.operation = .ok phase ∧ a.verdict caller remote b.sequence = .ok x ∧
      (perform caller remote a b).2.sequence = x.effect phase b.sequence := by
  rw [perform_eq]
  rcases attempt_cases (b.sequence.check a.operation) (a.verdict caller remote b.sequence)
      (noting (a.request? b.sequence)) Outcome.take b with
    ⟨cause, _, ran⟩ | ⟨phase, e, _, _, ran⟩ | ⟨phase, x, checked, granted, ran⟩
  · exact .inl ⟨.link cause, by rw [ran], by rw [ran]⟩
  · exact .inl ⟨e, by rw [ran], by rw [ran]; rfl⟩
  · exact .inr ⟨phase, x, by rw [ran], checked, granted, by rw [ran]; rfl⟩

end Backup

/-! ## Restores -/

namespace Restore

/-- The requests that an action sends: one at most, and none out of order. -/
def Action.requests (s : Sequence) (a : Action) : List Request :=
  match s.check a.operation with
  | .ok _ => (a.request? s).toList
  | .error _ => []

theorem Outcome.calls_take (phase : Phase) (x : Outcome) (r : Restore) :
    (x.take phase r).calls = r.calls := by
  cases x with
  | _ => rfl

theorem calls_perform (caller : Caller) (remote : Remote) (a : Action) (r : Restore) :
    (perform caller remote a r).2.calls = a.requests r.sequence ++ r.calls := by
  rw [perform_eq]
  unfold Action.requests attempt
  cases r.sequence.check a.operation with
  | error cause => rfl
  | ok phase =>
    cases a.verdict caller remote r.sequence with
    | error e => rfl
    | ok x => exact Outcome.calls_take phase x _

/-- An action fails and leaves what is known as it was, or it is granted and that follows. -/
theorem perform_cases (caller : Caller) (remote : Remote) (a : Action) (r : Restore) :
    (∃ e, (perform caller remote a r).1 = .error e ∧
      (perform caller remote a r).2.sequence = r.sequence ∧
      (perform caller remote a r).2.totalSize = r.totalSize) ∨
    ∃ phase x, (perform caller remote a r).1 = .ok x ∧
      r.sequence.check a.operation = .ok phase ∧ a.verdict caller remote r.sequence = .ok x ∧
      (perform caller remote a r).2.sequence = (x.take phase r).sequence ∧
      (perform caller remote a r).2.totalSize = (x.take phase r).totalSize := by
  rw [perform_eq]
  rcases attempt_cases (r.sequence.check a.operation) (a.verdict caller remote r.sequence)
      (noting (a.request? r.sequence)) Outcome.take r with
    ⟨cause, _, ran⟩ | ⟨phase, e, _, _, ran⟩ | ⟨phase, x, checked, granted, ran⟩
  · exact .inl ⟨.link cause, by rw [ran], by rw [ran], by rw [ran]⟩
  · exact .inl ⟨e, by rw [ran], by rw [ran]; rfl, by rw [ran]; rfl⟩
  · refine .inr ⟨phase, x, by rw [ran], checked, granted, ?_, ?_⟩
    · rw [ran]
      cases x with
      | _ => rfl
    · rw [ran]
      cases x with
      | _ => rfl

end Restore

end DeviceLink.Transfer
