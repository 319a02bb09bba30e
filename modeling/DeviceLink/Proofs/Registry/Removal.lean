-- What becomes of an entry. A connection that was registered once has one entry, until an operation
-- takes it away; after that it has none.
import DeviceLink.Proofs.Registry.Run

namespace DeviceLink.Registry

/-! ## Coming and going of entries -/

/-- The entries of a connection. -/
def entriesOf (r : Registry) (conn : ConnId) : List Handle := r.entries.filter (·.conn == conn)

/-- The operation registers a connection. -/
def Operation.registers (conn : ConnId) : Operation → Bool
  | .register h => h.conn == conn
  | _ => false

/-- The entries that an operation takes away. -/
def removes (r : Registry) : Operation → List Handle
  | .register h =>
    match r.policy with
    | .allow => []
    | .replace => r.entries.filter (·.device == h.device)
  | .unregister id => (r.entries.find? (isFor id)).toList
  | .unregisterConnection conn => (r.entries.find? (·.conn == conn)).toList
  | .closeAll => r.entries
  | _ => []

/-- A handle is the one entry of its connection, unless it is among those that were taken away. -/
def HeldUnless (gone : List Handle) (r : Registry) (h : Handle) : Prop :=
  r.entriesOf h.conn = if h ∈ gone then [] else [h]

theorem eraseP_eq_filter {p : Handle → Bool} {hs : List Handle} (once : hs.countP p ≤ 1) :
    hs.eraseP p = hs.filter fun h => !p h := by
  induction hs with
  | nil => rfl
  | cons h hs ih =>
    by_cases here : p h = true
    · have others : ∀ h' ∈ hs, p h' = false := by
        have none_left : hs.countP p = 0 := by
          rw [List.countP_cons_of_pos here] at once
          omega
        simpa [List.countP_eq_zero] using none_left
      rw [List.eraseP_cons_of_pos here, List.filter_cons_of_neg (by simp [here])]
      exact (List.filter_eq_self.2 fun h' member => by simp [others h' member]).symm
    · rw [List.countP_cons_of_neg here] at once
      rw [List.eraseP_cons_of_neg here, List.filter_cons_of_pos (by simp [here]), ih once]

/-- An entry that is the only one of its kind stays unless it is the one that is found. -/
theorem filter_eraseP_of_single {p q : Handle → Bool} {hs : List Handle} {h : Handle}
    (single : hs.filter q = [h]) :
    (hs.eraseP p).filter q = if hs.find? p = some h then [] else [h] := by
  cases found : hs.find? p with
  | none =>
    have nobody : ∀ h' ∈ hs, ¬ p h' = true := by simpa using found
    rw [List.eraseP_of_forall_not nobody, single]
    simp
  | some e =>
    obtain ⟨erased, before, after, rfl, skipped⟩ := List.find?_eq_some_iff_append.1 found
    have others : ∀ h' ∈ before, ¬ p h' = true := by simpa using skipped
    rw [List.eraseP_append_right _ others, List.eraseP_cons_of_pos erased, List.filter_append]
    rw [List.filter_append] at single
    by_cases kind : q e = true
    · rw [List.filter_cons_of_pos kind, List.append_eq_singleton_iff] at single
      rcases single with ⟨noneBefore, same⟩ | ⟨_, impossible⟩
      · obtain ⟨rfl, noneAfter⟩ := List.cons_eq_cons.1 same
        simp [noneBefore, noneAfter]
      · cases impossible
    · rw [List.filter_cons_of_neg kind] at single
      have other : e ≠ h := by
        rintro rfl
        have member : e ∈ before.filter q ++ after.filter q := by simp [single]
        rcases List.mem_append.1 member with earlier | later
        · exact kind (List.mem_filter.1 earlier).2
        · exact kind (List.mem_filter.1 later).2
      simp [single, other]

section

variable {r : Registry} {op : Operation} {ops : List Operation} {gone : List Handle} {h : Handle}

theorem entriesOf_eq_nil_iff {conn : ConnId} :
    r.entriesOf conn = [] ↔ ∀ h ∈ r.entries, h.conn ≠ conn := by
  simp [entriesOf]

theorem removes_subset (r : Registry) (op : Operation) : removes r op ⊆ r.entries := by
  intro h member
  cases op with
  | register new =>
    cases policy : r.policy with
    | allow => simp [removes, policy] at member
    | replace =>
      simp only [removes, policy] at member
      exact (List.mem_filter.1 member).1
  | unregister id => exact List.mem_of_find?_eq_some (Option.mem_toList.1 member)
  | unregisterConnection conn => exact List.mem_of_find?_eq_some (Option.mem_toList.1 member)
  | closeAll => exact member
  | _ => cases member

/-- New entries come from registrations alone. -/
theorem mem_entries_perform (member : h ∈ (r.perform op).2.entries) :
    h ∈ r.entries ∨ op = .register h := by
  rw [(performs_perform r op).entries] at member
  cases op with
  | register new =>
    have either := Operation.onEntries_register_subset r.policy r.entries new member
    rcases List.mem_cons.1 either with rfl | older
    · exact .inr rfl
    · exact .inl older
  | unregister id => exact .inl (List.mem_of_mem_eraseP member)
  | unregisterConnection conn => exact .inl (List.mem_of_mem_eraseP member)
  | closeAll => cases member
  | _ => exact .inl member

theorem entriesOf_perform_of_nil {conn : ConnId} (nobody : r.entriesOf conn = [])
    (others : op.registers conn = false) : (r.perform op).2.entriesOf conn = [] := by
  rw [entriesOf_eq_nil_iff] at *
  intro h member here
  rcases mem_entries_perform member with older | rfl
  · exact nobody h older here
  · simp [Operation.registers, here] at others

/-- An operation that does not register a connection leaves its entry where it is, or takes it away
for good. -/
theorem HeldUnless.perform (held : HeldUnless gone r h) (others : op.registers h.conn = false) :
    HeldUnless (gone ++ removes r op) (r.perform op).2 h := by
  unfold HeldUnless at *
  by_cases lost : h ∈ gone
  · rw [if_pos lost] at held
    rw [if_pos (List.mem_append_left _ lost)]
    exact entriesOf_perform_of_nil held others
  · rw [if_neg lost] at held
    simp only [List.mem_append, lost, false_or]
    unfold entriesOf at held ⊢
    rw [(performs_perform r op).entries]
    cases op with
    | register new =>
      have other : (new.conn == h.conn) = false := others
      cases policy : r.policy with
      | allow => simp [Operation.onEntries, removes, policy, other, held]
      | replace =>
        have member : h ∈ r.entries := by
          have single : h ∈ r.entries.filter (·.conn == h.conn) := by simp [held]
          exact (List.mem_filter.1 single).1
        have kept : (r.entries.filter (·.device != new.device)).filter (·.conn == h.conn) =
            [h].filter (·.device != new.device) := by
          rw [← held, List.filter_filter, List.filter_filter]
          simp only [Bool.and_comm]
        simp only [Operation.onEntries, removes, policy, List.filter_cons, other, kept]
        by_cases same : h.device = new.device
        · simp [same, member]
        · simp [same]
    | unregister id =>
      simp only [Operation.onEntries, removes, Option.mem_toList]
      exact filter_eraseP_of_single held
    | unregisterConnection conn =>
      simp only [Operation.onEntries, removes, Option.mem_toList]
      exact filter_eraseP_of_single held
    | closeAll =>
      have member : h ∈ r.entries := by
        have single : h ∈ r.entries.filter (·.conn == h.conn) := by simp [held]
        exact (List.mem_filter.1 single).1
      simp [Operation.onEntries, removes, member]
    | _ => simpa [Operation.onEntries, removes] using held

/-- A connection that registers has its entry, if it had none before. -/
theorem heldUnless_register (nobody : r.entriesOf h.conn = []) (kept : h ∉ gone) :
    HeldUnless (gone ++ removes r (.register h)) (r.perform (.register h)).2 h := by
  have absent := entriesOf_eq_nil_iff.1 nobody
  have fresh : h ∉ gone ++ removes r (.register h) := by
    rw [List.mem_append]
    rintro (lost | replaced)
    · exact kept lost
    · exact absent h (removes_subset r _ replaced) rfl
  unfold HeldUnless entriesOf at *
  rw [if_neg fresh, (performs_perform r _).entries]
  cases r.policy with
  | allow => simp [Operation.onEntries, nobody]
  | replace =>
    have others : (r.entries.filter (·.device != h.device)).filter (·.conn == h.conn) = [] := by
      rw [List.filter_eq_nil_iff]
      intro h' member
      simpa using absent h' (List.mem_filter.1 member).1
    simp [Operation.onEntries, others]

/-- A connection that leaves takes its own entry with it, and no other. -/
theorem HeldUnless.leave (held : HeldUnless gone r h) :
    (r.perform (.unregisterConnection h.conn)).2.entries = r.entries.filter (·.conn != h.conn) := by
  have once : r.entries.countP (·.conn == h.conn) ≤ 1 := by
    rw [List.countP_eq_length_filter]
    unfold HeldUnless entriesOf at held
    rw [held]
    split
    · exact Nat.zero_le 1
    · exact Nat.le_refl 1
  rw [(performs_perform r _).entries]
  exact eraseP_eq_filter once

/-! ## Runs -/

theorem entriesOf_after_of_nil {conn : ConnId} (nobody : r.entriesOf conn = [])
    (others : ∀ op ∈ ops, op.registers conn = false) : (r.after ops).entriesOf conn = [] := by
  induction ops generalizing r with
  | nil => exact nobody
  | cons op ops ih =>
    have first := entriesOf_perform_of_nil nobody (others op List.mem_cons_self)
    exact ih first fun op' member => others op' (List.mem_cons_of_mem op member)

theorem HeldUnless.after (held : HeldUnless gone r h)
    (others : ∀ op ∈ ops, op.registers h.conn = false) :
    HeldUnless (gone ++ gather removes r ops) (r.after ops) h := by
  induction ops generalizing r gone with
  | nil => simpa [gather] using held
  | cons op ops ih =>
    have first := held.perform (others op List.mem_cons_self)
    have rest := ih first fun op' member => others op' (List.mem_cons_of_mem op member)
    rwa [List.append_assoc] at rest

theorem mem_entries_after (member : h ∈ (r.after ops).entries) :
    h ∈ r.entries ∨ .register h ∈ ops := by
  induction ops generalizing r with
  | nil => exact .inl member
  | cons op ops ih =>
    rcases ih member with earlier | later
    · rcases mem_entries_perform earlier with older | rfl
      · exact .inl older
      · exact .inr List.mem_cons_self
    · exact .inr (List.mem_cons_of_mem op later)

theorem mem_gather_removes (member : h ∈ gather removes r ops) :
    h ∈ r.entries ∨ .register h ∈ ops := by
  induction ops generalizing r with
  | nil => cases member
  | cons op ops ih =>
    rcases List.mem_append.1 member with now | later
    · exact .inl (removes_subset r op now)
    · rcases ih later with earlier | registered
      · rcases mem_entries_perform earlier with older | rfl
        · exact .inl older
        · exact .inr List.mem_cons_self
      · exact .inr (List.mem_cons_of_mem op registered)

/-- A connection has at most as many entries as it was registered times. -/
theorem countP_entries_after_le (policy : DuplicatePolicy) (ops : List Operation) (c : ConnId) :
    (after { policy } ops).entries.countP (·.conn == c) ≤ ops.countP (·.registers c) := by
  induction ops using List.reverseRecOn with
  | nil => exact Nat.le_refl 0
  | append_singleton ops op ih =>
    rw [after_concat, (performs_perform _ op).entries, List.countP_append]
    generalize (after { policy } ops).entries = entries at ih ⊢
    have kept : ∀ entries' : List Handle, entries'.Sublist entries →
        entries'.countP (·.conn == c) ≤ ops.countP (·.registers c) :=
      fun entries' less => Nat.le_trans less.countP_le ih
    cases op with
    | register h =>
      have tail : ∃ entries' : List Handle, entries'.Sublist entries ∧
          (Operation.register h).onEntries (after { policy } ops).policy entries =
            h :: entries' := by
        cases (after { policy } ops).policy with
        | allow => exact ⟨entries, .refl _, rfl⟩
        | replace => exact ⟨_, List.filter_sublist, rfl⟩
      obtain ⟨entries', less, entered⟩ := tail
      rw [entered, List.countP_cons, List.countP_singleton]
      exact Nat.add_le_add_right (kept entries' less) _
    | unregister id => exact Nat.le_add_right_of_le (kept _ List.eraseP_sublist)
    | unregisterConnection conn => exact Nat.le_add_right_of_le (kept _ List.eraseP_sublist)
    | closeAll => exact Nat.zero_le _
    | _ => exact Nat.le_add_right_of_le ih

end

end DeviceLink.Registry
