-- What a connection is sent is its own affair. Only a push to the connection or to its device, and
-- what its own writer does, touches what waits for a connection that is no admin console.
import DeviceLink.Proofs.Registry.Delivery
import DeviceLink.Proofs.Registry.Removal

namespace DeviceLink.Registry

/-- An operation is no push to a connection or to its device, and nothing that its writer does. -/
def Operation.spares (h : Handle) : Operation → Bool
  | .sendFrame conn _ _ | .drain conn | .dropWriter conn => conn != h.conn
  | .sendToDevice id _ _ => id != h.device.text
  | _ => true

/-- An operation takes what waits for a connection, or takes its writer away. -/
def Operation.takes (conn : ConnId) : Operation → Bool
  | .drain c | .dropWriter c => c == conn
  | _ => false

/-- More frames came to wait for a connection, behind the others, and its writer is the same. -/
structure Grows (conn : ConnId) (r r' : Registry) (frames : List Bytes) : Prop where
  queue : (r'.line conn).queue = (r.line conn).queue ++ frames
  isOpen : r'.isOpen conn = r.isOpen conn

/-- The frames that wait for a connection are the same as before, and so is its writer. -/
structure Undisturbed (conn : ConnId) (r r' : Registry) : Prop where
  queue : (r'.line conn).queue = (r.line conn).queue
  isOpen : r'.isOpen conn = r.isOpen conn

theorem undisturbed_refl (conn : ConnId) (r : Registry) : Undisturbed conn r r := ⟨rfl, rfl⟩

variable {r r₁ r₂ : Registry} {h : Handle} {op : Operation} {ops : List Operation} {conn : ConnId}

theorem Undisturbed.trans (first : Undisturbed conn r r₁) (second : Undisturbed conn r₁ r₂) :
    Undisturbed conn r r₂ where
  queue := second.queue.trans first.queue
  isOpen := second.isOpen.trans first.isOpen

/-- No entry names the connection of a handle for another device. -/
def Faithful (h : Handle) (hs : List Handle) : Prop :=
  ∀ e ∈ hs, e.conn = h.conn → e.device = h.device

theorem accepted_of_spares (spared : op.spares h = true) (plain : h.device.isAdminConsole = false)
    (faithful : Faithful h r.entries) : accepted h.conn r op = [] := by
  cases op with
  | sendFrame conn typ payload =>
    have other : conn ≠ h.conn := bne_iff_ne.1 spared
    simp [accepted, other]
  | sendToDevice id typ payload =>
    have other : id ≠ h.device.text := bne_iff_ne.1 spared
    have elsewhere : (r.find? id).map (·.conn) ≠ some h.conn := by
      intro goal
      obtain ⟨e, newest, same⟩ := Option.map_eq_some_iff.1 goal
      have named : isFor id e = true := List.find?_some newest
      have device := faithful e (List.mem_of_find?_eq_some newest) same
      unfold isFor at named
      rw [device] at named
      exact other (beq_iff_eq.1 named).symm
    simp [accepted, elsewhere]
  | broadcast sender payload =>
    have nobody : (r.reached sender payload).filter (·.conn == h.conn) = [] := by
      rw [List.filter_eq_nil_iff]
      intro e member same
      unfold reached at member
      split at member
      · obtain ⟨entry, admin⟩ := List.mem_filter.1 member
        have device := faithful e entry (beq_iff_eq.1 same)
        have console : e.device.isAdminConsole = true := (Bool.and_eq_true_iff.1 admin).1
        rw [device, plain] at console
        cases console
      · cases member
    simp [accepted, nobody]
  | _ => rfl

theorem takes_of_spares (spared : op.spares h = true) : op.takes h.conn = false := by
  cases op with
  | drain conn => exact beq_eq_false_iff_ne.2 (bne_iff_ne.1 spared)
  | dropWriter conn => exact beq_eq_false_iff_ne.2 (bne_iff_ne.1 spared)
  | _ => rfl

/-- Whatever does not take from a line puts behind it what is accepted. -/
theorem grows_perform (kept : op.takes conn = false) (old : conn < r.nextConn) :
    Grows conn r (r.perform op).2 (accepted conn r op) := by
  constructor
  · have balance := queue_perform op conn fun new => absurd old (Nat.not_lt_of_le new)
    have left : drained conn r op = [] ∧ lost conn r op = [] := by
      cases op with
      | drain c => exact ⟨if_neg (beq_eq_false_iff_ne.1 kept), rfl⟩
      | dropWriter c => exact ⟨rfl, if_neg (beq_eq_false_iff_ne.1 kept)⟩
      | _ => exact ⟨rfl, rfl⟩
    rwa [left.1, left.2] at balance
  · rw [isOpen_perform]
    cases op with
    | connect device peer => simp [Operation.onWriter, Nat.ne_of_lt old]
    | dropWriter c =>
      have other : c ≠ conn := beq_eq_false_iff_ne.1 kept
      simp [Operation.onWriter, Ne.symm other]
    | _ => rfl

theorem lt_nextConn_perform (old : conn < r.nextConn) (op : Operation) :
    conn < (r.perform op).2.nextConn :=
  Nat.lt_of_lt_of_le old (Nat.le.intro (performs_perform r op).nextConn.symm)

theorem grows_after (kept : ∀ op ∈ ops, op.takes conn = false) (old : conn < r.nextConn) :
    Grows conn r (r.after ops) (gather (accepted conn) r ops) := by
  induction ops generalizing r with
  | nil => exact ⟨(List.append_nil _).symm, rfl⟩
  | cons op ops ih =>
    have first := grows_perform (kept op List.mem_cons_self) old
    have rest := ih (fun op' member => kept op' (List.mem_cons_of_mem op member))
      (lt_nextConn_perform old op)
    refine ⟨?_, rest.isOpen.trans first.isOpen⟩
    rw [after_cons, rest.queue, first.queue, List.append_assoc]
    rfl

/-- For a connection whose writer is gone, nothing is accepted any more. -/
theorem accepted_after_of_closed (closed : r.isOpen conn = false)
    (kept : ∀ op ∈ ops, op.takes conn = false) (old : conn < r.nextConn) :
    gather (accepted conn) r ops = [] := by
  induction ops generalizing r with
  | nil => rfl
  | cons op ops ih =>
    have grows := grows_perform (kept op List.mem_cons_self) old
    have rest := ih (grows.isOpen.trans closed)
      (fun op' member => kept op' (List.mem_cons_of_mem op member)) (lt_nextConn_perform old op)
    rw [gather, accepted_of_closed closed, rest]
    rfl

theorem undisturbed_perform (spared : op.spares h = true)
    (plain : h.device.isAdminConsole = false) (faithful : Faithful h r.entries)
    (old : h.conn < r.nextConn) : Undisturbed h.conn r (r.perform op).2 := by
  have grows := grows_perform (takes_of_spares spared) old
  rw [accepted_of_spares spared plain faithful] at grows
  exact ⟨grows.queue.trans (List.append_nil _), grows.isOpen⟩

theorem undisturbed_after (spared : ∀ op ∈ ops, op.spares h = true)
    (plain : h.device.isAdminConsole = false) (faithful : Faithful h r.entries)
    (copies : ∀ e, .register e ∈ ops → e.conn = h.conn → e.device = h.device)
    (old : h.conn < r.nextConn) : Undisturbed h.conn r (r.after ops) := by
  induction ops generalizing r with
  | nil => exact undisturbed_refl _ r
  | cons op ops ih =>
    have first := undisturbed_perform (spared op List.mem_cons_self) plain faithful old
    have faithful' : Faithful h (r.perform op).2.entries := by
      intro e member
      rcases mem_entries_perform member with older | rfl
      · exact faithful e older
      · exact copies e List.mem_cons_self
    exact first.trans (ih (fun op' member => spared op' (List.mem_cons_of_mem op member)) faithful'
      (fun e member => copies e (List.mem_cons_of_mem op member)) (lt_nextConn_perform old op))

end DeviceLink.Registry
