-- Runs of operations on a registry, and what can be gathered along the way.
import DeviceLink.Proofs.Registry.Entries

namespace DeviceLink.Registry

variable {α : Type} (r : Registry) (op : Operation) (ops ops' : List Operation)

/-- The registry after a run of operations. -/
def after : Registry := (r.performAll ops).2

@[simp] theorem after_nil : r.after [] = r := rfl

@[simp] theorem after_cons : r.after (op :: ops) = (r.perform op).2.after ops := rfl

theorem after_append : r.after (ops ++ ops') = (r.after ops).after ops' := by
  induction ops generalizing r with
  | nil => rfl
  | cons op ops ih => exact ih (r.perform op).2

theorem after_concat : r.after (ops ++ [op]) = ((r.after ops).perform op).2 :=
  after_append r ops [op]

theorem policy_after : (r.after ops).policy = r.policy := by
  induction ops generalizing r with
  | nil => rfl
  | cons op ops ih => exact (ih _).trans (performs_perform r op).policy

/-- What an operation brings about, gathered along a run: `f` says it for each operation and the
registry that it finds. -/
def gather (f : Registry → Operation → List α) (r : Registry) : List Operation → List α
  | [] => []
  | op :: ops => f r op ++ gather f (r.perform op).2 ops

theorem gather_append (f : Registry → Operation → List α) :
    gather f r (ops ++ ops') = gather f r ops ++ gather f (r.after ops) ops' := by
  induction ops generalizing r with
  | nil => rfl
  | cons op ops ih => simp [gather, ih]

theorem gather_concat (f : Registry → Operation → List α) :
    gather f r (ops ++ [op]) = gather f r ops ++ f (r.after ops) op := by
  simp [gather_append, gather]

variable {r ops}

theorem exists_of_mem_gather {f : Registry → Operation → List α} {a : α}
    (member : a ∈ gather f r ops) : ∃ r' op, a ∈ f r' op := by
  induction ops generalizing r with
  | nil => cases member
  | cons op ops ih =>
    rcases List.mem_append.1 member with now | later
    · exact ⟨r, op, now⟩
    · exact ih later

end DeviceLink.Registry
