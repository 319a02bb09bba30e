-- What operations do to the entries of a registry. Only four of them touch the entries, and what
-- they make of them depends on nothing but the policy and the entries themselves.
import Mathlib
import DeviceLink.Registry.Operation

namespace DeviceLink.Registry

/-! ## Lines are apart from entries -/

variable (r : Registry)

/-- Two registries differ at most in their lines. -/
structure SameButLines (r r' : Registry) : Prop where
  policy : r'.policy = r.policy
  nextConn : r'.nextConn = r.nextConn
  entries : r'.entries = r.entries

variable {r} in
theorem SameButLines.trans {r₁ r₂ : Registry} (h₁ : SameButLines r r₁) (h₂ : SameButLines r₁ r₂) :
    SameButLines r r₂ :=
  ⟨h₂.policy.trans h₁.policy, h₂.nextConn.trans h₁.nextConn, h₂.entries.trans h₁.entries⟩

theorem sameButLines_updateLine (conn : ConnId) (change : Line → Line) :
    SameButLines r (r.updateLine conn change) := ⟨rfl, rfl, rfl⟩

theorem sameButLines_sendFrame (conn : ConnId) (typ : UInt8) (payload : Bytes) :
    SameButLines r (r.sendFrame conn typ payload).2 := by
  unfold sendFrame
  cases Frame.encode typ payload with
  | error _ => exact ⟨rfl, rfl, rfl⟩
  | ok bs =>
    by_cases h : r.isOpen conn
    · simp only [h, if_true]
      exact sameButLines_updateLine r conn _
    · simp only [h]
      exact ⟨rfl, rfl, rfl⟩

theorem sameButLines_sendEach (payload : Bytes) (hs : List Handle) :
    SameButLines r (sendEach payload hs r).2 := by
  induction hs generalizing r with
  | nil => exact ⟨rfl, rfl, rfl⟩
  | cons h hs ih => exact (sameButLines_sendFrame r h.conn _ payload).trans (ih _)

theorem sameButLines_closeEach (hs : List Handle) : SameButLines r (r.closeEach hs) := by
  unfold closeEach
  induction hs generalizing r with
  | nil => exact ⟨rfl, rfl, rfl⟩
  | cons h hs ih => exact (sameButLines_updateLine r h.conn _).trans (ih _)

theorem sameButLines_sendToDevice (id : String) (typ : UInt8) (payload : Bytes) :
    SameButLines r (r.sendToDevice id typ payload).2 := by
  unfold sendToDevice
  cases r.find? id with
  | none => exact ⟨rfl, rfl, rfl⟩
  | some h => exact sameButLines_sendFrame r h.conn typ payload

/-! ## What an operation makes of the entries -/

/-- The entries after an operation. -/
def Operation.onEntries (policy : DuplicatePolicy) (entries : List Handle) :
    Operation → List Handle
  | .register h =>
    match policy with
    | .allow => h :: entries
    | .replace => h :: entries.filter (·.device != h.device)
  | .unregister id => entries.eraseP (isFor id)
  | .unregisterConnection conn => entries.eraseP (·.conn == conn)
  | .closeAll => []
  | _ => entries

/-- An operation leaves all entries as they are. -/
def Operation.keepsEntries : Operation → Bool
  | .register _ | .unregister _ | .unregisterConnection _ | .closeAll => false
  | _ => true

theorem Operation.onEntries_of_keepsEntries {op : Operation} (h : op.keepsEntries = true)
    (policy : DuplicatePolicy) (entries : List Handle) : op.onEntries policy entries = entries := by
  cases op <;> first | rfl | cases h

theorem Operation.onEntries_register_subset (policy : DuplicatePolicy) (entries : List Handle)
    (h : Handle) : (Operation.register h).onEntries policy entries ⊆ h :: entries := by
  cases policy with
  | allow => exact List.Subset.refl _
  | replace => exact List.cons_subset_cons h List.filter_sublist.subset

/-- How many numbers for connections an operation takes. -/
def Operation.numbersTaken : Operation → Nat
  | .takeNumber | .connect _ _ => 1
  | _ => 0

/-- What an operation does to a registry, apart from its lines. -/
structure Performs (r : Registry) (op : Operation) (r' : Registry) : Prop where
  policy : r'.policy = r.policy
  nextConn : r'.nextConn = r.nextConn + op.numbersTaken
  entries : r'.entries = op.onEntries r.policy r.entries

theorem Performs.trans {r r₁ r₂ : Registry} {op : Operation} (h₁ : Performs r op r₁)
    (h₂ : SameButLines r₁ r₂) : Performs r op r₂ :=
  ⟨h₂.policy.trans h₁.policy, h₂.nextConn.trans h₁.nextConn, h₂.entries.trans h₁.entries⟩

theorem SameButLines.performs {r r' : Registry} {op : Operation} (h : SameButLines r r')
    (keeps : op.keepsEntries = true) (takes : op.numbersTaken = 0) : Performs r op r' :=
  ⟨h.policy, by rw [h.nextConn, takes, Nat.add_zero],
    by rw [h.entries, Operation.onEntries_of_keepsEntries keeps]⟩

variable {r} in
theorem register_of_allow (h : Handle) (allow : r.policy = .allow) :
    r.register h = ([], { r with entries := h :: r.entries }) := by
  unfold register
  rw [allow]

variable {r} in
theorem register_of_replace (h : Handle) (replace : r.policy = .replace) :
    r.register h = (r.entries.filter (·.device == h.device),
      { r with entries := h :: r.entries.filter (·.device != h.device) }.closeEach
        (r.entries.filter (·.device == h.device))) := by
  unfold register
  rw [replace]
  simp only [List.partition_eq_filter_filter]
  rfl

theorem performs_register (h : Handle) : Performs r (.register h) (r.register h).2 := by
  match policy_eq : r.policy with
  | .allow =>
    rw [register_of_allow h policy_eq]
    exact ⟨rfl, rfl, by rw [policy_eq]; rfl⟩
  | .replace =>
    rw [register_of_replace h policy_eq]
    have closed := sameButLines_closeEach
      { r with entries := h :: r.entries.filter (·.device != h.device) }
      (r.entries.filter (·.device == h.device))
    exact ⟨closed.policy, closed.nextConn, closed.entries.trans (by rw [policy_eq]; rfl)⟩

/-- Every operation does to the policy, the numbers and the entries what it should. -/
theorem performs_perform (op : Operation) : Performs r op (r.perform op).2 := by
  cases op with
  | register h => exact performs_register r h
  | sendFrame conn typ payload =>
    exact (sameButLines_sendFrame r conn typ payload).performs rfl rfl
  | sendToDevice id typ payload =>
    exact (sameButLines_sendToDevice r id typ payload).performs rfl rfl
  | broadcast sender payload => exact (sameButLines_sendEach r payload _).performs rfl rfl
  | closeAll =>
    have closed := sameButLines_closeEach { r with entries := [] } r.entries
    exact ⟨closed.policy, closed.nextConn, closed.entries⟩
  | _ => exact ⟨rfl, rfl, rfl⟩

/-! ## Operations that leave the entries alone -/

/-- What may have happened to a registry since the entries were last changed. -/
structure Keeps (r r' : Registry) : Prop where
  policy : r'.policy = r.policy
  nextConn : r.nextConn ≤ r'.nextConn
  entries : r'.entries = r.entries

theorem Keeps.refl : Keeps r r := ⟨rfl, Nat.le_refl _, rfl⟩

variable {r}

theorem Keeps.trans {r₁ r₂ : Registry} (h₁ : Keeps r r₁) (h₂ : Keeps r₁ r₂) : Keeps r r₂ :=
  ⟨h₂.policy.trans h₁.policy, Nat.le_trans h₁.nextConn h₂.nextConn,
    h₂.entries.trans h₁.entries⟩

theorem keeps_perform {op : Operation} (h : op.keepsEntries = true) :
    Keeps r (r.perform op).2 := by
  have performs := performs_perform r op
  refine ⟨performs.policy, ?_, ?_⟩
  · rw [performs.nextConn]
    exact Nat.le_add_right _ _
  · rw [performs.entries, Operation.onEntries_of_keepsEntries h]

theorem keeps_performAll {ops : List Operation} (h : ∀ op ∈ ops, op.keepsEntries = true) :
    Keeps r (r.performAll ops).2 := by
  induction ops generalizing r with
  | nil => exact .refl r
  | cons op ops ih =>
    have first : Keeps r (r.perform op).2 := keeps_perform (h op List.mem_cons_self)
    exact first.trans (ih fun op' member => h op' (List.mem_cons_of_mem op member))

/-! ## Devices with an entry -/

theorem isFor_text (device : DeviceId) (h : Handle) :
    isFor device.text h = true ↔ h.device = device := by
  unfold isFor
  rw [beq_iff_eq]
  constructor
  · intro same
    cases device
    cases h with
    | mk conn device peer =>
      cases device
      simp only at same
      subst same
      rfl
  · rintro rfl
    rfl

/-- A lookup finds something exactly if the device is on the list. -/
theorem isSome_find?_text (device : DeviceId) :
    (r.find? device.text).isSome = true ↔ device ∈ r.list := by
  unfold find? list
  rw [List.find?_isSome, List.mem_map]
  simp only [isFor_text]

theorem mem_list (device : DeviceId) : device ∈ r.list ↔ ∃ h ∈ r.entries, h.device = device :=
  List.mem_map

theorem Performs.list_eq {r₁ r₂ : Registry} {op : Operation} (h₁ : Performs r op r₁)
    (h₂ : Performs r op r₂) : r₁.list = r₂.list := by
  rw [list, list, h₁.entries, h₂.entries]

/-- A device that replaces its older entries is on the list; the other devices stay there. -/
theorem mem_list_of_replace {r' : Registry} {h : Handle} (performs : Performs r (.register h) r')
    (replace : r.policy = .replace) (device : DeviceId) :
    device ∈ r'.list ↔ h.device = device ∨ device ∈ r.list := by
  have entered : r'.entries = h :: r.entries.filter (·.device != h.device) := by
    rw [performs.entries, replace]
    rfl
  simp only [mem_list, entered, List.mem_cons, List.mem_filter, bne_iff_ne]
  constructor
  · rintro ⟨h', rfl | ⟨member, _⟩, rfl⟩
    · exact .inl rfl
    · exact .inr ⟨h', member, rfl⟩
  · rintro (rfl | ⟨h', member, rfl⟩)
    · exact ⟨h, .inl rfl, rfl⟩
    · by_cases same : h'.device = h.device
      · exact ⟨h, .inl rfl, same.symm⟩
      · exact ⟨h', .inr ⟨member, same⟩, rfl⟩

theorem mem_list_of_mem_unregisterConnection {r' : Registry} {conn : ConnId}
    (performs : Performs r (.unregisterConnection conn) r') {device : DeviceId}
    (member : device ∈ r'.list) : device ∈ r.list := by
  obtain ⟨h, entry, same⟩ := (mem_list device).1 member
  rw [performs.entries] at entry
  exact (mem_list device).2 ⟨h, List.mem_of_mem_eraseP entry, same⟩

/-- The end of a connection takes no other device off the list. -/
theorem mem_list_of_unregisterConnection {r' : Registry} {h : Handle}
    (performs : Performs r (.unregisterConnection h.conn) r')
    (own : ∀ h' ∈ r.entries, h'.conn = h.conn → h'.device = h.device) {device : DeviceId}
    (other : h.device ≠ device) : device ∈ r'.list ↔ device ∈ r.list := by
  have erased : r'.entries = r.entries.eraseP (·.conn == h.conn) := performs.entries
  constructor
  · exact mem_list_of_mem_unregisterConnection performs
  · rw [mem_list, mem_list, erased]
    rintro ⟨h', member, rfl⟩
    have stays : h' ∈ r.entries.eraseP (·.conn == h.conn) := by
      refine (List.mem_eraseP_of_neg fun same => ?_).2 member
      exact other (own h' member (beq_iff_eq.1 same)).symm
    exact ⟨h', stays, rfl⟩

end DeviceLink.Registry
