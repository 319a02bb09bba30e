-- Devices do not get in each other's way. What can be seen of a device in the registry depends on
-- the operations that concern it, operations on two devices can change places, and the entries with
-- one identifier are a stack.
import DeviceLink.Proofs.Registry.Delivery
import DeviceLink.Proofs.Registry.Projection
import DeviceLink.Proofs.Registry.Removal

namespace DeviceLink.Registry

/-! ## What is seen of an identifier -/

/-- Two registries look the same to whoever uses an identifier. -/
structure SameFor (id : String) (r r' : Registry) : Prop where
  entries : r.entries.filter (isFor id) = r'.entries.filter (isFor id)
  find : r.find? id = r'.find? id
  unregister : (r.unregister id).1 = (r'.unregister id).1
  unicast : ∀ payload, (r.unicast id payload).1 = (r'.unicast id payload).1
  sendToDevice : ∀ typ payload,
    (r.sendToDevice id typ payload).1 = (r'.sendToDevice id typ payload).1

section

variable {r r' : Registry} {id : String}

theorem find?_eq_head? (r : Registry) (id : String) :
    r.find? id = (r.entries.filter (isFor id)).head? := List.head?_filter.symm

theorem any_filter_isFor (r : Registry) (id : String) :
    r.entries.any (isFor id) = (r.entries.filter (isFor id)).any (isFor id) := by
  simp [List.any_filter]

theorem sendFrame_fst_congr {conn : ConnId} (same : r.isOpen conn = r'.isOpen conn) (typ : UInt8)
    (payload : Bytes) : (r.sendFrame conn typ payload).1 = (r'.sendFrame conn typ payload).1 := by
  unfold sendFrame
  rw [same]
  cases Frame.encode typ payload with
  | error _ => rfl
  | ok bs => cases r'.isOpen conn <;> rfl

theorem sendToDevice_fst_congr (same : r.find? id = r'.find? id)
    (open_eq : ∀ h, r.find? id = some h → r.isOpen h.conn = r'.isOpen h.conn) (typ : UInt8)
    (payload : Bytes) : (r.sendToDevice id typ payload).1 = (r'.sendToDevice id typ payload).1 := by
  unfold sendToDevice
  rw [← same]
  cases found : r.find? id with
  | none => rfl
  | some h => exact sendFrame_fst_congr (open_eq h found) typ payload

/-- It is enough that the entries are the same and that the newest one can be reached or not. -/
theorem SameFor.of_entries (same : r.entries.filter (isFor id) = r'.entries.filter (isFor id))
    (open_eq : ∀ h, r.find? id = some h → r.isOpen h.conn = r'.isOpen h.conn) :
    SameFor id r r' := by
  have find : r.find? id = r'.find? id := by rw [find?_eq_head?, find?_eq_head?, same]
  refine ⟨same, find, ?_, fun payload => ?_, fun typ payload => ?_⟩
  · change r.entries.any (isFor id) = r'.entries.any (isFor id)
    rw [any_filter_isFor, any_filter_isFor, same]
  · exact sendToDevice_fst_congr find open_eq _ payload
  · exact sendToDevice_fst_congr find open_eq typ payload

end

/-- Runs that do the same to an identifier, whatever else they do, look the same to it. -/
theorem sameFor_of_concerns {policy : DuplicatePolicy} {ops ops' : List Operation} {id : String}
    (proper : Proper policy ops) (proper' : Proper policy ops')
    (same : ops.filter (·.concerns (madeIn policy ops) id) =
      ops'.filter (·.concerns (madeIn policy ops') id)) :
    SameFor id (after { policy } ops) (after { policy } ops') := by
  have entries : (after { policy } ops).entries.filter (isFor id) =
      (after { policy } ops').entries.filter (isFor id) := by
    rw [filter_entries_after (distinct_madeIn policy ops) id proper (List.Subset.refl _),
      filter_entries_after (distinct_madeIn policy ops') id proper' (List.Subset.refl _), same]
  refine .of_entries entries fun h found => ?_
  have found' : (after { policy } ops').find? id = some h := by
    rw [find?_eq_head?, ← entries, ← find?_eq_head?, found]
  have named : isFor id h = true := List.find?_some found
  have known := entries_subset_madeIn proper (List.mem_of_find?_eq_some found)
  have known' := entries_subset_madeIn proper' (List.mem_of_find?_eq_some found')
  have mine : belongs (madeIn policy ops) id h.conn = true := by
    rw [belongs_of_mem (distinct_madeIn policy ops) known, named]
  have mine' : belongs (madeIn policy ops') id h.conn = true := by
    rw [belongs_of_mem (distinct_madeIn policy ops') known', named]
  -- The writer goes away in one run if it does in the other, for that concerns the identifier.
  have dropped : Operation.dropWriter h.conn ∈ ops ↔ Operation.dropWriter h.conn ∈ ops' := by
    have kept : Operation.dropWriter h.conn ∈ ops.filter (·.concerns (madeIn policy ops) id) ↔
        Operation.dropWriter h.conn ∈ ops'.filter (·.concerns (madeIn policy ops') id) := by
      rw [same]
    simpa [Operation.concerns, mine, mine'] using kept
  rw [Bool.eq_iff_iff, isOpen_after proper known, isOpen_after proper' known', dropped]

/-! ## Operations that change places -/

/-- An operation is about the entries with an identifier, or about its connections, and about
nothing else. -/
def Operation.isAbout (hs : List Handle) (id : String) : Operation → Bool
  | .register h => isFor id h
  | .unregister id' | .sendToDevice id' _ _ => id' == id
  | .broadcast _ _ => DeviceId.adminConsole.text == id
  | .unregisterConnection conn | .sendFrame conn _ _ | .close conn | .noticeClose conn | .drain conn
  | .dropWriter conn => belongs hs id conn
  | .takeNumber | .connect _ _ | .closeAll => false

/-- Two operations can change places: each gives back the same, and they leave the same entries, in
the same order as far as they have the same identifier. -/
structure ChangePlaces (r : Registry) (op₁ op₂ : Operation) : Prop where
  first : (r.perform op₁).1 = ((r.perform op₂).2.perform op₁).1
  second : ((r.perform op₁).2.perform op₂).1 = (r.perform op₂).1
  entries : ((r.perform op₁).2.perform op₂).2.entries.Perm ((r.perform op₂).2.perform op₁).2.entries
  order : ∀ id, ((r.perform op₁).2.perform op₂).2.entries.filter (isFor id) =
    ((r.perform op₂).2.perform op₁).2.entries.filter (isFor id)

/-- To the operations on an identifier two registries are alike. -/
structure Alike (hs : List Handle) (id : String) (r r' : Registry) : Prop where
  policy : r.policy = r'.policy
  entries : r.entries.filter (isFor id) = r'.entries.filter (isFor id)
  line : ∀ c, belongs hs id c = true → r.line c = r'.line c

section

variable {r r' : Registry} {hs : List Handle} {id id' : String} {op : Operation}

theorem belongs_of_distinct (distinct : Distinct hs) {c : ConnId} (mine : belongs hs id c = true)
    (theirs : belongs hs id' c = true) : id = id' := by
  obtain ⟨h, member, both⟩ := List.any_eq_true.1 mine
  obtain ⟨here, named⟩ := Bool.and_eq_true_iff.1 both
  rw [← beq_iff_eq.1 here, belongs_of_mem distinct member] at theirs
  exact (beq_iff_eq.1 named).symm.trans (beq_iff_eq.1 theirs)

/-- An operation about an identifier does not concern another one. -/
theorem not_concerns_of_isAbout (distinct : Distinct hs) (about : op.isAbout hs id = true)
    (other : id ≠ id') : op.concerns hs id' = false := by
  have apart : ∀ c, belongs hs id c = true → belongs hs id' c = false := by
    intro c mine
    exact Bool.eq_false_iff.2 fun theirs => other (belongs_of_distinct distinct mine theirs)
  cases op with
  | register h => exact not_isFor_of_ne about other
  | unregister device =>
    have same : device = id := beq_iff_eq.1 about
    exact beq_eq_false_iff_ne.2 (same.trans_ne other)
  | unregisterConnection conn => exact apart conn about
  | dropWriter conn => exact apart conn about
  | closeAll => cases about
  | _ => rfl

theorem Queues.line_of_not_mem {bs : Bytes} {conns : List ConnId} (queues : Queues r bs conns r')
    {c : ConnId} (absent : c ∉ conns) : r'.line c = r.line c := by
  rw [queues.line, List.count_eq_zero_of_not_mem absent]
  simp

theorem line_sendFrame_of_ne {conn c : ConnId} (other : c ≠ conn) (typ : UInt8) (payload : Bytes) :
    (r.sendFrame conn typ payload).2.line c = r.line c := by
  rcases sendFrame_cases r conn typ payload with ⟨_, _, _, bs, _, queues⟩ | ⟨_, refused⟩
  · exact queues.line_of_not_mem (by simpa using other)
  · rw [refused]

theorem isFor_of_mem_reached {sender : String} {payload : Bytes} {h : Handle}
    (member : h ∈ r.reached sender payload) :
    h ∈ r.entries ∧ isFor DeviceId.adminConsole.text h = true := by
  unfold reached at member
  split at member
  · obtain ⟨entry, both⟩ := List.mem_filter.1 member
    exact ⟨entry, (Bool.and_eq_true_iff.1 both).1⟩
  · cases member

/-- A connection that does not belong to an identifier has no entry with it. -/
theorem ne_conn_of_belongs (distinct : Distinct hs) (known : r.entries ⊆ hs) {c : ConnId}
    (others : belongs hs id c = false) {h : Handle} (member : h ∈ r.entries)
    (named : isFor id h = true) : c ≠ h.conn := by
  rintro rfl
  rw [belongs_of_mem distinct (known member), named] at others
  cases others

theorem line_register_of_others (distinct : Distinct hs) (known : r.entries ⊆ hs) {h : Handle}
    (named : isFor id h = true) {c : ConnId} (others : belongs hs id c = false) :
    (r.register h).2.line c = r.line c := by
  have silent : ((Operation.register h).asks r.policy r.entries).contains c = false := by
    cases r.policy with
    | allow => rfl
    | replace =>
      refine Bool.eq_false_iff.2 fun asked => ?_
      obtain ⟨h', replaced, here⟩ := List.mem_map.1 (List.contains_iff_mem.1 asked)
      obtain ⟨member, same⟩ := List.mem_filter.1 replaced
      rw [← isFor_of_isFor named] at same
      exact ne_conn_of_belongs distinct known others member same here.symm
  rw [line_register, silent, Bool.or_false]

theorem line_sendToDevice_of_others (distinct : Distinct hs) (known : r.entries ⊆ hs)
    (typ : UInt8) (payload : Bytes) {c : ConnId} (others : belongs hs id c = false) :
    (r.sendToDevice id typ payload).2.line c = r.line c := by
  unfold sendToDevice
  cases found : r.find? id with
  | none => rfl
  | some h =>
    have member := List.mem_of_find?_eq_some found
    have other := ne_conn_of_belongs distinct known others member (List.find?_some found)
    exact line_sendFrame_of_ne other typ payload

theorem line_broadcast_of_others (distinct : Distinct hs) (known : r.entries ⊆ hs)
    (sender : String) (payload : Bytes) {c : ConnId}
    (others : belongs hs DeviceId.adminConsole.text c = false) :
    (r.broadcast sender payload).2.line c = r.line c := by
  have broadcasts := broadcasts_broadcast r sender payload
  by_cases fits : payload.length ≤ 65535
  · refine (broadcasts.queued _ (Frame.encode_of_le _ fits)).line_of_not_mem fun reached => ?_
    obtain ⟨h, member, here⟩ := List.mem_map.1 reached
    obtain ⟨entry, named⟩ := isFor_of_mem_reached member
    exact ne_conn_of_belongs distinct known others entry named here.symm
  · rw [broadcasts.unchanged_of_long (Nat.lt_of_not_le fits)]

/-- An operation about an identifier leaves the lines of all other connections as they are. -/
theorem line_perform_of_isAbout (distinct : Distinct hs) (known : r.entries ⊆ hs)
    (about : op.isAbout hs id = true) {c : ConnId} (others : belongs hs id c = false) :
    (r.perform op).2.line c = r.line c := by
  have apart : ∀ conn, belongs hs id conn = true → c ≠ conn := by
    rintro conn mine rfl
    rw [others] at mine
    cases mine
  cases op with
  | register h => exact line_register_of_others distinct known about others
  | unregister _ => rfl
  | unregisterConnection _ => rfl
  | sendFrame conn typ payload => exact line_sendFrame_of_ne (apart conn about) typ payload
  | sendToDevice device typ payload =>
    obtain rfl : device = id := beq_iff_eq.1 about
    exact line_sendToDevice_of_others distinct known typ payload others
  | broadcast sender payload =>
    obtain rfl : DeviceId.adminConsole.text = id := beq_iff_eq.1 about
    exact line_broadcast_of_others distinct known sender payload others
  | close conn => exact (line_updateLine r conn c _).trans (if_neg (apart conn about))
  | noticeClose conn =>
    change (r.noticeClose conn).2.line c = _
    exact (line_updateLine r conn c _).trans (if_neg (apart conn about))
  | drain conn =>
    change (r.drain conn).2.line c = _
    exact (line_updateLine r conn c _).trans (if_neg (apart conn about))
  | dropWriter conn => exact (line_updateLine r conn c _).trans (if_neg (apart conn about))
  | _ => cases about

theorem filter_perform_of_isAbout (distinct : Distinct hs) (known : r.entries ⊆ hs)
    (about : op.isAbout hs id = true) (other : id ≠ id') :
    (r.perform op).2.entries.filter (isFor id') = r.entries.filter (isFor id') := by
  rw [(performs_perform r op).entries]
  have others := not_concerns_of_isAbout distinct about other
  exact filter_onEntries_of_not_concerns distinct known _ others

/-- Where the entries with an identifier are the same, they are so after any operation. -/
theorem filter_perform_congr (distinct : Distinct hs) (known : r.entries ⊆ hs)
    (known' : r'.entries ⊆ hs) (policy : r.policy = r'.policy)
    (same : r.entries.filter (isFor id) = r'.entries.filter (isFor id)) (op : Operation) :
    (r.perform op).2.entries.filter (isFor id) = (r'.perform op).2.entries.filter (isFor id) := by
  rw [(performs_perform r op).entries, (performs_perform r' op).entries, policy]
  by_cases concerns : op.concerns hs id = true
  · rw [filter_onEntries_of_concerns distinct known _ concerns,
      filter_onEntries_of_concerns distinct known' _ concerns, same]
  · have others := Bool.eq_false_iff.2 concerns
    rw [filter_onEntries_of_not_concerns distinct known _ others,
      filter_onEntries_of_not_concerns distinct known' _ others, same]

/-- An operation about one identifier cannot be told by those about another one. -/
theorem alike_perform (distinct : Distinct hs) (known : r.entries ⊆ hs)
    (about : op.isAbout hs id = true) (other : id ≠ id') : Alike hs id' r (r.perform op).2 where
  policy := (performs_perform r op).policy.symm
  entries := (filter_perform_of_isAbout distinct known about other).symm
  line c mine := by
    refine (line_perform_of_isAbout distinct known about ?_).symm
    exact Bool.eq_false_iff.2 fun theirs => other (belongs_of_distinct distinct theirs mine)

theorem any_conn_of_belongs (distinct : Distinct hs) (known : r.entries ⊆ hs) {conn : ConnId}
    (mine : belongs hs id conn = true) :
    r.entries.any (·.conn == conn) = (r.entries.filter (isFor id)).any (·.conn == conn) := by
  rw [List.any_filter, Bool.eq_iff_iff, List.any_eq_true, List.any_eq_true]
  constructor
  · rintro ⟨h, member, here⟩
    have named : isFor id h = true := by
      rw [← belongs_of_mem distinct (known member), beq_iff_eq.1 here, mine]
    exact ⟨h, member, by simp [named, here]⟩
  · rintro ⟨h, member, both⟩
    exact ⟨h, member, (Bool.and_eq_true_iff.1 both).2⟩

theorem Alike.isOpen_eq (alike : Alike hs id r r') {c : ConnId} (mine : belongs hs id c = true) :
    r.isOpen c = r'.isOpen c := congrArg Line.writer (alike.line c mine)

theorem Alike.sameFor (alike : Alike hs id r r') (distinct : Distinct hs) (known : r.entries ⊆ hs) :
    SameFor id r r' := by
  refine .of_entries alike.entries fun h found => alike.isOpen_eq ?_
  have member := known (List.mem_of_find?_eq_some found)
  rw [belongs_of_mem distinct member, List.find?_some found]

theorem Alike.register_eq (alike : Alike hs id r r') {h : Handle} (named : isFor id h = true) :
    (r.register h).1 = (r'.register h).1 := by
  have evicted : r.entries.filter (·.device == h.device) =
      r'.entries.filter (·.device == h.device) := by
    have same : (·.device == h.device) = isFor id := funext fun h' => (isFor_of_isFor named).symm
    rw [same]
    exact alike.entries
  cases policy : r.policy with
  | allow => rw [register_of_allow h policy, register_of_allow h (alike.policy.symm.trans policy)]
  | replace =>
    rw [register_of_replace h policy, register_of_replace h (alike.policy.symm.trans policy),
      evicted]

theorem Alike.reached_eq (alike : Alike hs DeviceId.adminConsole.text r r')
    (distinct : Distinct hs) (known : r.entries ⊆ hs) (sender : String) (payload : Bytes) :
    r.reached sender payload = r'.reached sender payload := by
  unfold reached
  simp only [Bool.and_comm (isFor _ _), ← List.filter_filter, ← alike.entries]
  split
  · refine List.filter_congr fun h member => ?_
    obtain ⟨entry, admin⟩ := List.mem_filter.1 member
    exact alike.isOpen_eq (by rw [belongs_of_mem distinct (known entry), admin])
  · rfl

/-- An operation gives back the same in registries that are alike to it. -/
theorem Alike.answer_eq (alike : Alike hs id r r') (distinct : Distinct hs)
    (known : r.entries ⊆ hs) (known' : r'.entries ⊆ hs) (about : op.isAbout hs id = true) :
    (r.perform op).1 = (r'.perform op).1 := by
  have same := alike.sameFor distinct known
  cases op with
  | register h => exact congrArg Answer.handles (alike.register_eq about)
  | unregister device =>
    obtain rfl : device = id := beq_iff_eq.1 about
    exact congrArg Answer.flag same.unregister
  | unregisterConnection conn =>
    change Answer.flag (r.entries.any (·.conn == conn)) = .flag (r'.entries.any (·.conn == conn))
    rw [any_conn_of_belongs distinct known about, any_conn_of_belongs distinct known' about,
      alike.entries]
  | sendFrame conn typ payload =>
    exact congrArg Answer.flag (sendFrame_fst_congr (alike.isOpen_eq about) typ payload)
  | sendToDevice device typ payload =>
    obtain rfl : device = id := beq_iff_eq.1 about
    exact congrArg Answer.flag (same.sendToDevice typ payload)
  | broadcast sender payload =>
    obtain rfl : DeviceId.adminConsole.text = id := beq_iff_eq.1 about
    have count := (broadcasts_broadcast r sender payload).count
    have count' := (broadcasts_broadcast r' sender payload).count
    rw [alike.reached_eq distinct known] at count
    exact congrArg Answer.number (count.trans count'.symm)
  | close conn => rfl
  | noticeClose conn => exact congrArg (fun l => Answer.flag l.closing) (alike.line conn about)
  | drain conn => exact congrArg (fun l => Answer.frames l.queue) (alike.line conn about)
  | dropWriter conn => rfl
  | _ => cases about

/-- If the entries with each identifier are the same and in the same order, all are the same. -/
theorem perm_of_filter {entries entries' : List Handle}
    (same : ∀ id, entries.filter (isFor id) = entries'.filter (isFor id)) :
    entries.Perm entries' := by
  rw [List.perm_iff_count]
  intro h
  have named : isFor h.device.text h = true := (isFor_text h.device h).2 rfl
  rw [← List.count_filter named, same, List.count_filter named]

/-- Operations about two identifiers can change places. -/
theorem changePlaces_of_isAbout {op₁ op₂ : Operation} {id₁ id₂ : String} (distinct : Distinct hs)
    (known : r.entries ⊆ hs) (knows₁ : op₁.Knows hs) (knows₂ : op₂.Knows hs)
    (about₁ : op₁.isAbout hs id₁ = true) (about₂ : op₂.isAbout hs id₂ = true) (differ : id₁ ≠ id₂) :
    ChangePlaces r op₁ op₂ := by
  have performs₁ := performs_perform r op₁
  have performs₂ := performs_perform r op₂
  have known₁ : (r.perform op₁).2.entries ⊆ hs := by
    rw [performs₁.entries]
    exact onEntries_subset known knows₁ _
  have known₂ : (r.perform op₂).2.entries ⊆ hs := by
    rw [performs₂.entries]
    exact onEntries_subset known knows₂ _
  have order : ∀ id, ((r.perform op₁).2.perform op₂).2.entries.filter (isFor id) =
      ((r.perform op₂).2.perform op₁).2.entries.filter (isFor id) := by
    intro id
    by_cases here : id₁ = id
    · subst here
      have before := filter_perform_of_isAbout distinct known about₂ differ.symm
      rw [filter_perform_of_isAbout distinct known₁ about₂ differ.symm,
        filter_perform_congr distinct known known₂ performs₂.policy.symm before.symm op₁]
    · have before := filter_perform_of_isAbout distinct known about₁ here
      rw [filter_perform_of_isAbout distinct known₂ about₁ here,
        filter_perform_congr distinct known₁ known performs₁.policy before op₂]
  refine ⟨?_, ?_, perm_of_filter order, order⟩
  · exact (alike_perform distinct known about₂ differ.symm).answer_eq distinct known known₂ about₁
  · exact ((alike_perform distinct known about₁ differ).answer_eq distinct known known₁ about₂).symm

end

/-! ## The stack of an identifier -/

/-- Whatever is done to an identifier is done to one of its entries, the newest one. -/
structure ActsOn (r : Registry) (id : String) (h : Handle) : Prop where
  find : r.find? id = some h
  unicast : ∀ payload, r.unicast id payload = r.send h.conn payload
  sendToDevice : ∀ typ payload, r.sendToDevice id typ payload = r.sendFrame h.conn typ payload
  unregister : ∃ newer older, r.entries = newer ++ h :: older ∧
    (∀ h' ∈ newer, isFor id h' = false) ∧
    r.unregister id = (true, { r with entries := newer ++ older })

/-- Whatever is done to an identifier is done to nobody. -/
structure ActsOnNobody (r : Registry) (id : String) : Prop where
  find : r.find? id = none
  unicast : ∀ payload, r.unicast id payload = (false, r)
  sendToDevice : ∀ typ payload, r.sendToDevice id typ payload = (false, r)
  unregister : r.unregister id = (false, r)

section

variable {r : Registry} {id : String}

theorem actsOn_of_find? {h : Handle} (found : r.find? id = some h) : ActsOn r id h := by
  have sends : ∀ typ payload, r.sendToDevice id typ payload = r.sendFrame h.conn typ payload := by
    intro typ payload
    unfold sendToDevice
    rw [found]
  refine ⟨found, fun payload => sends _ payload, sends, ?_⟩
  obtain ⟨named, newer, older, entries, others⟩ := List.find?_eq_some_iff_append.1 found
  have skipped : ∀ h' ∈ newer, isFor id h' = false := by simpa using others
  refine ⟨newer, older, entries, skipped, ?_⟩
  have there : r.entries.any (isFor id) = true := by simp [entries, named]
  have erased : r.entries.eraseP (isFor id) = newer ++ older := by
    rw [entries, List.eraseP_append_right _ (by simpa using skipped), List.eraseP_cons_of_pos named]
  unfold unregister
  rw [there, erased]

theorem actsOnNobody_of_find? (missing : r.find? id = none) : ActsOnNobody r id := by
  have sends : ∀ typ payload, r.sendToDevice id typ payload = (false, r) := by
    intro typ payload
    unfold sendToDevice
    rw [missing]
  refine ⟨missing, fun payload => sends _ payload, sends, ?_⟩
  have nobody : ∀ h ∈ r.entries, ¬ isFor id h = true := by simpa [find?] using missing
  have absent : r.entries.any (isFor id) = false := by simpa using nobody
  unfold unregister
  rw [absent, List.eraseP_of_forall_not nobody]

end

/-! ## The law -/

/-- Devices do not interfere. Take a run from the beginning in which handles are made before they
are used. Another such run that does the same to an identifier, whatever it does otherwise, looks
the same to the identifier; an operation about one identifier changes nothing for another one; and
two operations that follow each other and are about different identifiers can change places. The
entries are those that survive, the latest first: an identifier stands for the latest of its
survivors, which is the one that is found, sent to and removed, and the end of a connection that
registered once removes its own entry and no other. -/
theorem devices_do_not_interfere {policy : DuplicatePolicy} {ops : List Operation}
    (proper : Proper policy ops) :
    let start : Registry := { policy }
    let r := start.after ops
    (∀ ops' id, Proper policy ops' →
      ops.filter (·.concerns (madeIn policy ops) id) =
        ops'.filter (·.concerns (madeIn policy ops') id) →
      SameFor id r (start.after ops')) ∧
    (∀ before op later id id', ops = before ++ op :: later → id ≠ id' →
      op.isAbout (madeIn policy ops) id = true →
      SameFor id' (start.after before) (start.after (before ++ [op]))) ∧
    (∀ before op₁ op₂ later id₁ id₂, ops = before ++ op₁ :: op₂ :: later → id₁ ≠ id₂ →
      op₁.isAbout (madeIn policy ops) id₁ = true → op₂.isAbout (madeIn policy ops) id₂ = true →
      ChangePlaces (start.after before) op₁ op₂) ∧
    EntriesRanked r (Since policy ops) ∧
    (∀ id t h, Latest (Since policy ops) (isFor id) t h → ActsOn r id h) ∧
    (∀ id, (∀ t h, Since policy ops t h → isFor id h = false) → ActsOnNobody r id) ∧
    ∀ c, ops.countP (·.registers c) ≤ 1 →
      (r.unregisterConnection c).2.entries = r.entries.filter (·.conn != c) := by
  intro start r
  have ranked : EntriesRanked r (Since policy ops) := entriesRanked_after rfl ops
  have distinct := distinct_madeIn policy ops
  refine ⟨fun ops' id proper' same => sameFor_of_concerns proper proper' same, ?_, ?_, ranked,
    fun id t h latest => actsOn_of_find? ((ranked.find?_eq_some_iff id h).2 ⟨t, latest⟩), ?_, ?_⟩
  · rintro before op later id id' rfl differ about
    have known := proper.entries_subset
    rw [after_concat]
    exact (alike_perform distinct known about differ).sameFor distinct known
  · rintro before op₁ op₂ later id₁ id₂ rfl differ about₁ about₂
    have knows₂ : op₂.Knows (madeIn policy (before ++ op₁ :: op₂ :: later)) := by
      rw [List.append_cons] at proper ⊢
      exact proper.knows
    exact changePlaces_of_isAbout distinct proper.entries_subset proper.knows knows₂ about₁ about₂
      differ
  · intro id nobody
    refine actsOnNobody_of_find? ?_
    cases found : r.find? id with
    | none => rfl
    | some h =>
      obtain ⟨t, since, named, _⟩ := (ranked.find?_eq_some_iff id h).1 found
      rw [nobody t h since] at named
      cases named
  · intro c once
    exact eraseP_eq_filter (Nat.le_trans (countP_entries_after_le policy ops c) once)

/-- Two lamps and a door. The lamps look as they would without the door, the last two operations can
change places, and the lamp that is left is the one that answers. -/
theorem the_lamps_do_not_notice_the_door :
    let lamp : DeviceId := ⟨"lamp", by decide⟩
    let door : DeviceId := ⟨"door", by decide⟩
    let before : List Operation := [.connect lamp none, .connect door none, .connect lamp none,
      .register { conn := 1, device := lamp }, .register { conn := 3, device := lamp }]
    let coming : Operation := .register { conn := 2, device := door }
    let leaving : Operation := .unregister lamp.text
    let ops := before ++ [coming, leaving]
    let lamps : List Operation := [.connect lamp none, .takeNumber, .connect lamp none,
      .register { conn := 1, device := lamp }, .register { conn := 3, device := lamp }, leaving]
    let start : Registry := { policy := .allow }
    Proper .allow ops ∧ SameFor lamp.text (start.after ops) (start.after lamps) ∧
      ChangePlaces (start.after before) coming leaving ∧
      ActsOn (start.after ops) lamp.text { conn := 1, device := lamp } := by
  intro lamp door before coming leaving ops lamps start
  have proper : Proper .allow ops := by decide
  obtain ⟨same, _, places, ranked, acts, _, _⟩ := devices_do_not_interfere proper
  have found : (start.after ops).find? lamp.text = some { conn := 1, device := lamp } := by decide
  obtain ⟨t, latest⟩ := (ranked.find?_eq_some_iff lamp.text _).1 found
  exact ⟨proper, same lamps lamp.text (by decide) (by decide),
    places before coming leaving [] door.text lamp.text rfl (by decide) (by decide) (by decide),
    acts lamp.text t _ latest⟩

end DeviceLink.Registry
