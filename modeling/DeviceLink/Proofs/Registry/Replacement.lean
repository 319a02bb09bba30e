-- A registry that replaces duplicates. A device has one entry at most, a new one pushes out the old
-- one, and the connections that were asked to close are exactly those that hear of it.
import DeviceLink.Proofs.Registry.Lines
import DeviceLink.Proofs.Registry.Run

namespace DeviceLink.Registry

/-! ## Signals to close -/

/-- The connections for which an operation takes back a signal to close: one that notices it, and
one that is new. -/
def cleared (r : Registry) : Operation → List ConnId
  | .connect _ _ => [r.nextConn]
  | .noticeClose conn => [conn]
  | _ => []

/-- Some operation of a run asked a connection to close, and since then the connection has neither
noticed nor been made anew. -/
def WasAsked (r : Registry) (ops : List Operation) (c : ConnId) : Prop :=
  ∃ before op later, ops = before ++ op :: later ∧
    c ∈ op.asks (r.after before).policy (r.after before).entries ∧
    c ∉ gather cleared (r.after (before ++ [op])) later

variable (r : Registry)

/-- A signal is there after an operation if it was there and was not taken back, or if the operation
gives it. -/
theorem closing_perform (op : Operation) (c : ConnId) :
    ((r.perform op).2.line c).closing = true ↔
      (r.line c).closing = true ∧ c ∉ cleared r op ∨ c ∈ op.asks r.policy r.entries := by
  cases op with
  | connect device peer =>
    change ((r.connect device peer).2.line c).closing = true ↔ _
    rw [line_connect]
    by_cases new : c = r.nextConn
    · simp [new, cleared, Operation.asks]
    · simp [new, cleared, Operation.asks]
  | register h =>
    change ((r.register h).2.line c).closing = true ↔ _
    simp [line_register, cleared]
  | sendFrame conn typ payload =>
    have same := (sameButQueues_sendFrame r conn typ payload).closing_eq c
    simp [perform, same, cleared, Operation.asks]
  | sendToDevice id typ payload =>
    have same := (sameButQueues_sendToDevice r id typ payload).closing_eq c
    simp [perform, same, cleared, Operation.asks]
  | broadcast sender payload =>
    have same := (sameButQueues_broadcast r sender payload).closing_eq c
    simp [perform, same, cleared, Operation.asks]
  | closeAll =>
    change (r.closeAll.2.line c).closing = true ↔ _
    simp [line_closeAll, cleared, Operation.asks]
  | close conn => simp [perform, line_close, cleared, Operation.asks]
  | noticeClose conn =>
    change ((r.noticeClose conn).2.line c).closing = true ↔ _
    simp [line_noticeClose, cleared, Operation.asks]
  | drain conn =>
    change ((r.drain conn).2.line c).closing = true ↔ _
    simp [line_drain, cleared, Operation.asks]
  | dropWriter conn => simp [perform, line_dropWriter, cleared, Operation.asks]
  | _ => simp [perform, takeNumber, unregister, unregisterConnection, line, cleared, Operation.asks]

variable {r} {c : ConnId}

theorem not_wasAsked_nil : ¬ WasAsked r [] c := by
  rintro ⟨before, op, later, split, _⟩
  simp at split

theorem wasAsked_cons (op : Operation) (ops : List Operation) :
    WasAsked r (op :: ops) c ↔
      c ∈ op.asks r.policy r.entries ∧ c ∉ gather cleared (r.perform op).2 ops ∨
        WasAsked (r.perform op).2 ops c := by
  constructor
  · rintro ⟨before, op', later, split, asks, stays⟩
    cases before with
    | nil =>
      cases split
      exact .inl ⟨asks, stays⟩
    | cons first before =>
      cases split
      exact .inr ⟨before, op', later, rfl, asks, stays⟩
  · rintro (⟨asks, stays⟩ | ⟨before, op', later, rfl, asks, stays⟩)
    · exact ⟨[], op, ops, rfl, asks, stays⟩
    · exact ⟨op :: before, op', later, rfl, asks, stays⟩

/-- A signal is there after a run if it was there and was not taken back, or if the run asked for it
since. -/
theorem closing_after (ops : List Operation) :
    ((r.after ops).line c).closing = true ↔
      (r.line c).closing = true ∧ c ∉ gather cleared r ops ∨ WasAsked r ops c := by
  induction ops generalizing r with
  | nil => simp [not_wasAsked_nil, gather]
  | cons op ops ih =>
    rw [after_cons, ih, closing_perform, wasAsked_cons, gather, List.mem_append, not_or]
    constructor
    · rintro (⟨⟨there, kept⟩ | asks, stays⟩ | later)
      · exact .inl ⟨there, kept, stays⟩
      · exact .inr (.inl ⟨asks, stays⟩)
      · exact .inr (.inr later)
    · rintro (⟨there, kept, stays⟩ | ⟨asks, stays⟩ | later)
      · exact .inl ⟨.inl ⟨there, kept⟩, stays⟩
      · exact .inl ⟨.inr asks, stays⟩
      · exact .inr later

/-! ## One entry for each device -/

/-- No operation gives a device a second entry. -/
theorem nodup_perform {r' : Registry} {op : Operation} (replace : r.policy = .replace)
    (performs : Performs r op r') (unique : r.list.Nodup) : r'.list.Nodup := by
  unfold list at *
  rw [performs.entries, replace]
  cases op with
  | register h =>
    have others : ∀ h' ∈ r.entries.filter (·.device != h.device), h'.device ≠ h.device :=
      fun h' member => bne_iff_ne.1 (List.mem_filter.1 member).2
    have kept : ((r.entries.filter (·.device != h.device)).map (·.device)).Nodup :=
      unique.sublist (List.filter_sublist.map _)
    simp only [Operation.onEntries, List.map_cons, List.nodup_cons, List.mem_map]
    refine ⟨?_, kept⟩
    rintro ⟨h', member, same⟩
    exact others h' member same
  | unregister id => exact unique.sublist (List.eraseP_sublist.map _)
  | unregisterConnection conn => exact unique.sublist (List.eraseP_sublist.map _)
  | closeAll => exact List.nodup_nil
  | _ => exact unique

theorem nodup_after (replace : r.policy = .replace) (unique : r.list.Nodup) (ops : List Operation) :
    (r.after ops).policy = .replace ∧ (r.after ops).list.Nodup := by
  induction ops generalizing r with
  | nil => exact ⟨replace, unique⟩
  | cons op ops ih =>
    have performs := performs_perform r op
    exact ih (performs.policy.trans replace) (nodup_perform replace performs unique)

/-! ## The law -/

/-- Where duplicates are replaced, after any run of operations: no two entries are for the same
device. A registration gives back exactly the entries that the device had, puts the new one first
and keeps the others in their order. And a connection finds a signal to close exactly if it was
asked and has not noticed since: because it was pushed out by a registration, because all were
asked, or because somebody asked it through a handle. -/
theorem a_device_has_one_entry_and_the_replaced_are_told (ops : List Operation) :
    let start : Registry := { policy := .replace }
    let r := start.after ops
    r.list.Nodup ∧
    (∀ h, (r.register h).1 = r.entries.filter (·.device == h.device) ∧
      (r.register h).2.entries = h :: r.entries.filter (·.device != h.device)) ∧
    ∀ c, (r.noticeClose c).1 = true ↔ WasAsked start ops c := by
  intro start r
  have unique := nodup_after (r := start) rfl List.nodup_nil ops
  refine ⟨unique.2, fun h => ⟨?_, ?_⟩, fun c => ?_⟩
  · rw [register_of_replace h unique.1]
  · have performs := performs_register r h
    rw [performs.entries, unique.1]
    rfl
  · have silent : (start.line c).closing = false := rfl
    have heard : (r.noticeClose c).1 = (r.line c).closing := rfl
    rw [heard, closing_after, silent]
    simp

/-- A copy of a handle pushes out the very connection that it puts in. -/
example :
    let h : Handle := { conn := 1, device := .adminConsole }
    let r := after { policy := .replace }
      [.connect .adminConsole none, .register h, .register h]
    r.entries = [h] ∧ (r.noticeClose 1).1 = true := by decide

end DeviceLink.Registry
