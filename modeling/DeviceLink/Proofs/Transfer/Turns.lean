-- Runs of actions on a transfer, each tried against a server that replies in its own way, and what
-- holds after any run because every single action preserves it.
import DeviceLink.Transfer.Step

namespace DeviceLink.Transfer

variable {σ A R : Type}

/-- An action that was tried: the transfer that it found, how it ended, and the transfer that it
left. -/
structure Turn (σ A R : Type) where
  action : A
  before : σ
  result : Except ClientError R
  after : σ

section

variable (perform : Remote → A → Step σ R)

/-- Trying an action. -/
def turn (remote : Remote) (a : A) (s : σ) : Turn σ A R :=
  ⟨a, s, (perform remote a s).1, (perform remote a s).2⟩

/-- The transfer after a run of actions. -/
def after (s : σ) : List (A × Remote) → σ
  | [] => s
  | (a, remote) :: steps => after (perform remote a s).2 steps

/-- The turns of a run, first one first. -/
def turns (s : σ) : List (A × Remote) → List (Turn σ A R)
  | [] => []
  | (a, remote) :: steps => turn perform remote a s :: turns (perform remote a s).2 steps

end

variable {perform : Remote → A → Step σ R} {s : σ} {steps : List (A × Remote)}

/-- A turn of a run comes from an action of the run, and the turns around it from those before and
after it. -/
theorem turns_eq_append {past later : List (Turn σ A R)} {t : Turn σ A R}
    (split : turns perform s steps = past ++ t :: later) :
    ∃ before a remote rest, steps = before ++ (a, remote) :: rest ∧
      past = turns perform s before ∧ t = turn perform remote a (after perform s before) ∧
      later = turns perform t.after rest := by
  induction past generalizing s steps with
  | nil =>
    cases steps with
    | nil => cases split
    | cons step steps =>
      cases split
      exact ⟨[], step.1, step.2, steps, rfl, rfl, rfl, rfl⟩
  | cons first past ih =>
    cases steps with
    | nil => cases split
    | cons step steps =>
      rw [turns, List.cons_append] at split
      obtain ⟨rfl, onward⟩ := List.cons.inj split
      obtain ⟨before, a, remote, rest, rfl, rfl, found, gone⟩ := ih onward
      exact ⟨step :: before, a, remote, rest, rfl, rfl, found, gone⟩

/-- What holds at the start and is preserved by every turn of a run holds after the run. -/
theorem after_induct_of (Holds : List (Turn σ A R) → σ → Prop) (start : Holds [] s)
    (steps : List (A × Remote))
    (preserved : ∀ past t, ∀ step ∈ steps, Holds past t →
      Holds (past ++ [turn perform step.2 step.1 t]) (perform step.2 step.1 t).2) :
    Holds (turns perform s steps) (after perform s steps) := by
  suffices onward : ∀ later, (∀ step ∈ later, step ∈ steps) → ∀ past s, Holds past s →
      Holds (past ++ turns perform s later) (after perform s later) from
    onward steps (fun _ member => member) [] s start
  intro later
  induction later with
  | nil =>
    intro _ past s holds
    rw [turns, List.append_nil]
    exact holds
  | cons step later ih =>
    intro members past s holds
    have next := ih (fun step member => members step (List.mem_cons_of_mem _ member)) _ _
      (preserved past s step (members step List.mem_cons_self) holds)
    rw [List.append_assoc] at next
    exact next

/-- What holds at the start and is preserved by every turn holds after every run. -/
theorem after_induct (Holds : List (Turn σ A R) → σ → Prop) (start : Holds [] s)
    (preserved : ∀ past t remote a, Holds past t →
      Holds (past ++ [turn perform remote a t]) (perform remote a t).2)
    (steps : List (A × Remote)) : Holds (turns perform s steps) (after perform s steps) := by
  apply after_induct_of Holds start
  intro past t step _ holds
  exact preserved past t step.2 step.1 holds

end DeviceLink.Transfer
