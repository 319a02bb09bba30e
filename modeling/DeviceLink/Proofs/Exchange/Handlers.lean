-- Handlers that leave the entries of the registry alone. They may use it as much as they like, but
-- only in operations that add no entry and remove none; the standard routes are such handlers.
import DeviceLink.Exchange.Router
import DeviceLink.Proofs.Registry.Entries

namespace DeviceLink

/-- What a handler does to the registry are operations that keep its entries. -/
def Handler.KeepsEntries (handler : Handler) : Prop :=
  ∀ request registry, ∃ ops : List Registry.Operation,
    (∀ op ∈ ops, op.keepsEntries = true) ∧
      (handler request registry).2 = (registry.performAll ops).2

theorem Handler.keepsEntries_of_same {handler : Handler}
    (same : ∀ request registry, (handler request registry).2 = registry) :
    handler.KeepsEntries := fun request registry => ⟨[], nofun, same request registry⟩

theorem Handler.KeepsEntries.keeps {handler : Handler} (keeps : handler.KeepsEntries)
    (request : Request) (registry : Registry) :
    Registry.Keeps registry (handler request registry).2 := by
  obtain ⟨ops, all, same⟩ := keeps request registry
  rw [same]
  exact Registry.keeps_performAll all

/-! ## The standard routes -/

theorem Handler.keepsEntries_fallback (accepted : Credentials) :
    (fallback accepted).KeepsEntries := keepsEntries_of_same fun _ _ => rfl

theorem Handler.keepsEntries_adminRestore : adminRestore.KeepsEntries := by
  intro request registry
  unfold adminRestore
  split
  · exact ⟨[], nofun, rfl⟩
  · rename_i restore _
    refine ⟨[.sendToDevice restore.deviceId _ _], ?_, rfl⟩
    intro op member
    rw [List.mem_singleton.1 member]
    rfl

theorem Router.keepsEntries_handle {r : Router}
    (keeps : ∀ route ∈ r.routes, route.2.KeepsEntries) : r.handle.KeepsEntries := by
  intro request registry
  unfold handle handler?
  split
  · rename_i handler taken
    obtain ⟨before, after, same, _⟩ := List.lookup_eq_some_iff.1 taken
    have member : (request.typ, handler) ∈ r.routes := by
      rw [same]
      exact List.mem_append_right _ List.mem_cons_self
    exact keeps _ member request registry
  · exact ⟨[], nofun, rfl⟩

/-- The server that is run as a program leaves all entries to its connections. -/
theorem Router.keepsEntries_standard (accepted : Credentials) :
    (standard accepted).handle.KeepsEntries := by
  refine keepsEntries_handle fun route member => ?_
  simp only [standard, Router.route, List.mem_cons, List.not_mem_nil, or_false] at member
  rcases member with rfl | rfl | rfl
  · exact Handler.keepsEntries_adminRestore
  · exact Handler.keepsEntries_fallback accepted
  · exact Handler.keepsEntries_fallback accepted

end DeviceLink
