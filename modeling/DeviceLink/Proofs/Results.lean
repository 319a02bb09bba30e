-- Results one after the other, each of which may be an error.
import DeviceLink.Bytes

namespace DeviceLink

variable {ε α β : Type}

theorem ok_bind (x : α) (f : α → Except ε β) : Except.ok x >>= f = f x := rfl

theorem error_bind (e : ε) (f : α → Except ε β) : Except.error e >>= f = .error e := rfl

theorem bind_eq_ok_iff {m : Except ε α} {f : α → Except ε β} {y : β} :
    m >>= f = .ok y ↔ ∃ x, m = .ok x ∧ f x = .ok y := by
  cases m with
  | ok x => simp [ok_bind]
  | error e => simp [error_bind]

theorem map_eq_ok_iff {m : Except ε α} {f : α → β} {y : β} :
    f <$> m = .ok y ↔ ∃ x, m = .ok x ∧ f x = y := by
  cases m with
  | ok x =>
    show Except.ok (f x) = .ok y ↔ _
    simp
  | error e =>
    show Except.error e = .ok y ↔ _
    simp

theorem exists_map_eq_ok_iff {m : Except ε α} {f : α → β} :
    (∃ y, f <$> m = .ok y) ↔ ∃ x, m = .ok x := by
  simp only [map_eq_ok_iff]
  constructor
  · rintro ⟨_, x, hx, _⟩
    exact ⟨x, hx⟩
  · rintro ⟨x, hx⟩
    exact ⟨f x, x, hx, rfl⟩

end DeviceLink
