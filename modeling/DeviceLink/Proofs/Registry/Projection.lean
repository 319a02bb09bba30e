-- The entries with one identifier. They change only by operations that concern the identifier, and
-- these change them as if there were no other entries. So what a run makes of them is what the
-- operations that concern them make of them alone.
import DeviceLink.Proofs.Registry.Lines
import DeviceLink.Proofs.Registry.Run

namespace DeviceLink.Registry

/-! ## Connections of a run -/

/-- The handles that an operation makes. -/
def made (r : Registry) : Operation → List Handle
  | .connect device peer => [(r.connect device peer).1]
  | _ => []

/-- An operation only registers handles that are known, and only takes writers from connections that
are known. -/
def Operation.Knows (known : List Handle) : Operation → Prop
  | .register h => h ∈ known
  | .dropWriter conn => conn ∈ known.map (·.conn)
  | _ => True

instance (known : List Handle) : DecidablePred (Operation.Knows known)
  | .register h => inferInstanceAs (Decidable (h ∈ known))
  | .dropWriter conn => inferInstanceAs (Decidable (conn ∈ known.map (·.conn)))
  | .takeNumber | .connect _ _ | .unregister _ | .unregisterConnection _ | .sendFrame _ _ _
  | .sendToDevice _ _ _ | .broadcast _ _ | .closeAll | .close _ | .noticeClose _ | .drain _ =>
    inferInstanceAs (Decidable True)

/-- The connections of a run from the beginning. -/
def madeIn (policy : DuplicatePolicy) (ops : List Operation) : List Handle :=
  gather made { policy } ops

/-- In a run from the beginning, handles are made before they are used. -/
def Proper (policy : DuplicatePolicy) (ops : List Operation) : Prop :=
  ∀ before op later, ops = before ++ op :: later → op.Knows (madeIn policy before)

/-- The connection belongs to the device with an identifier. -/
def belongs (hs : List Handle) (id : String) (conn : ConnId) : Bool :=
  hs.any fun h => h.conn == conn && isFor id h

/-- No two handles have the same number. -/
def Distinct (hs : List Handle) : Prop :=
  ∀ h ∈ hs, ∀ h' ∈ hs, h.conn = h'.conn → h = h'

section

variable {policy : DuplicatePolicy} {ops : List Operation} {op : Operation}

theorem proper_iff_getElem : Proper policy ops ↔
    ∀ n, ∀ h : n < ops.length, ops[n].Knows (madeIn policy (ops.take n)) := by
  constructor
  · intro proper n h
    refine proper (ops.take n) ops[n] (ops.drop (n + 1)) ?_
    rw [← List.drop_eq_getElem_cons h, List.take_append_drop]
  · rintro known before op later rfl
    have here := known before.length (by simp)
    rw [List.take_left] at here
    simpa using here

instance : Decidable (Proper policy ops) := decidable_of_iff _ proper_iff_getElem.symm

theorem proper_concat : Proper policy (ops ++ [op]) ↔
    Proper policy ops ∧ op.Knows (madeIn policy ops) := by
  constructor
  · intro proper
    refine ⟨fun before op' later split => ?_, proper ops op [] rfl⟩
    exact proper before op' (later ++ [op]) (by simp [split])
  · rintro ⟨proper, knows⟩ before op' later split
    rcases List.eq_nil_or_concat later with rfl | ⟨later, last, rfl⟩
    · obtain ⟨rfl, same⟩ := List.append_inj' split rfl
      cases same
      exact knows
    · have split' : ops ++ [op] = (before ++ op' :: later) ++ [last] := by simpa using split
      obtain ⟨rfl, _⟩ := List.append_inj' split' rfl
      exact proper before op' later rfl

theorem Proper.before {before later : List Operation} (proper : Proper policy (before ++ later)) :
    Proper policy before := by
  intro before' op later' split
  exact proper before' op (later' ++ later) (by simp [split])

theorem madeIn_concat :
    madeIn policy (ops ++ [op]) = madeIn policy ops ++ made (after { policy } ops) op :=
  gather_concat _ op ops made

theorem madeIn_append_subset (before later : List Operation) :
    madeIn policy before ⊆ madeIn policy (before ++ later) := by
  induction later using List.reverseRecOn with
  | nil => simp
  | append_singleton later op ih =>
    rw [← List.append_assoc, madeIn_concat]
    exact List.Subset.trans ih (List.subset_append_left _ _)

theorem lt_of_mem_madeIn {h : Handle} (member : h ∈ madeIn policy ops) :
    h.conn < (after { policy } ops).nextConn := by
  induction ops using List.reverseRecOn with
  | nil => cases member
  | append_singleton ops op ih =>
    rw [after_concat, (performs_perform _ op).nextConn]
    rw [madeIn_concat, List.mem_append] at member
    rcases member with older | new
    · exact Nat.lt_add_right _ (ih older)
    · cases op with
      | connect device peer =>
        rw [List.mem_singleton.1 new]
        exact Nat.lt_succ_self _
      | _ => cases new

/-- Every connection of a run has its own number. -/
theorem distinct_madeIn (policy : DuplicatePolicy) (ops : List Operation) :
    Distinct (madeIn policy ops) := by
  induction ops using List.reverseRecOn with
  | nil => exact nofun
  | append_singleton ops op ih =>
    rw [madeIn_concat]
    cases op with
    | connect device peer =>
      have new : ∀ h ∈ madeIn policy ops, h.conn ≠ (after { policy } ops).nextConn :=
        fun h older => Nat.ne_of_lt (lt_of_mem_madeIn older)
      intro h member h' member' same
      rcases List.mem_append.1 member with older | latest
      · rcases List.mem_append.1 member' with older' | latest'
        · exact ih h older h' older' same
        · rw [List.mem_singleton.1 latest'] at same
          exact absurd same (new h older)
      · rcases List.mem_append.1 member' with older' | latest'
        · rw [List.mem_singleton.1 latest] at same
          exact absurd same.symm (new h' older')
        · rw [List.mem_singleton.1 latest, List.mem_singleton.1 latest']
    | _ => simpa [made] using ih

/-- A connection has its writer until the writer goes away. -/
theorem isOpen_after (proper : Proper policy ops) {h : Handle} (member : h ∈ madeIn policy ops) :
    (after { policy } ops).isOpen h.conn = true ↔ .dropWriter h.conn ∉ ops := by
  induction ops using List.reverseRecOn with
  | nil => cases member
  | append_singleton ops op ih =>
    have earlier := (proper_concat.1 proper).1
    rw [after_concat, isOpen_perform, List.mem_append, List.mem_singleton, not_or]
    rw [madeIn_concat, List.mem_append] at member
    rcases member with older | new
    · have olderOpen := ih earlier older
      cases op with
      | connect device peer =>
        have other := Nat.ne_of_lt (lt_of_mem_madeIn older)
        simp [Operation.onWriter, olderOpen, other]
      | dropWriter conn => simp [Operation.onWriter, olderOpen]
      | _ => simp [Operation.onWriter, olderOpen]
    · cases op with
      | connect device peer =>
        rw [List.mem_singleton.1 new]
        -- A writer that has gone was that of an older connection.
        have never : Operation.dropWriter (after { policy } ops).nextConn ∉ ops := by
          intro dropped
          obtain ⟨before, later, split⟩ := List.append_of_mem dropped
          obtain ⟨h', member, same⟩ := List.mem_map.1 (earlier before _ later split)
          have known : h' ∈ madeIn policy ops := by
            rw [split]
            exact madeIn_append_subset before _ member
          exact Nat.ne_of_lt (lt_of_mem_madeIn known) same
        simpa [Operation.onWriter, connect, takeNumber] using never
      | _ => cases new

end

/-! ## What concerns an identifier -/

/-- An operation may change the entries with an identifier, or whether they can be reached. -/
def Operation.concerns (hs : List Handle) (id : String) : Operation → Bool
  | .register h => isFor id h
  | .unregister id' => id' == id
  | .unregisterConnection conn | .dropWriter conn => belongs hs id conn
  | .closeAll => true
  | _ => false

theorem filter_eraseP_of_imp {p q : Handle → Bool} {hs : List Handle}
    (within : ∀ h ∈ hs, q h = true → p h = true) :
    (hs.eraseP q).filter p = (hs.filter p).eraseP q := by
  induction hs with
  | nil => rfl
  | cons h hs ih =>
    have ih := ih fun h' member => within h' (List.mem_cons_of_mem h member)
    by_cases erased : q h = true
    · have kept := within h List.mem_cons_self erased
      simp [erased, kept]
    · by_cases kept : p h = true
      · simp [erased, kept, ih]
      · simp [erased, kept, ih]

theorem filter_eraseP_of_not {p q : Handle → Bool} {hs : List Handle}
    (apart : ∀ h ∈ hs, q h = true → p h = false) : (hs.eraseP q).filter p = hs.filter p := by
  induction hs with
  | nil => rfl
  | cons h hs ih =>
    have ih := ih fun h' member => apart h' (List.mem_cons_of_mem h member)
    by_cases erased : q h = true
    · have dropped := apart h List.mem_cons_self erased
      simp [erased, dropped]
    · simp [erased, List.filter_cons, ih]

section

variable {hs entries : List Handle} {id : String}

theorem isFor_of_isFor {h h' : Handle} (named : isFor id h = true) :
    isFor id h' = (h'.device == h.device) := by
  have same : h.device.text = id := beq_iff_eq.1 named
  rw [Bool.eq_iff_iff, ← same, isFor_text, beq_iff_eq]

theorem not_isFor_of_ne {id' : String} {h : Handle} (named : isFor id h = true) (other : id ≠ id') :
    isFor id' h = false := by
  have same : h.device.text = id := beq_iff_eq.1 named
  unfold isFor
  rw [same]
  exact beq_eq_false_iff_ne.2 other

/-- Of known handles, those that belong to an identifier are those for it. -/
theorem belongs_of_mem (distinct : Distinct hs) {h : Handle} (member : h ∈ hs) :
    belongs hs id h.conn = isFor id h := by
  unfold belongs
  rw [Bool.eq_iff_iff, List.any_eq_true]
  constructor
  · rintro ⟨h', member', both⟩
    obtain ⟨same, named⟩ := Bool.and_eq_true_iff.1 both
    rw [distinct h member h' member' (beq_iff_eq.1 same).symm]
    exact named
  · intro named
    exact ⟨h, member, by simp [named]⟩

/-- An operation that concerns an identifier does to its entries what it does to all. -/
theorem filter_onEntries_of_concerns (distinct : Distinct hs) (known : entries ⊆ hs)
    (policy : DuplicatePolicy) {op : Operation} (concerns : op.concerns hs id = true) :
    (op.onEntries policy entries).filter (isFor id) =
      op.onEntries policy (entries.filter (isFor id)) := by
  cases op with
  | register h =>
    have named : isFor id h = true := concerns
    cases policy with
    | allow => simp [Operation.onEntries, named]
    | replace => simp [Operation.onEntries, named, List.filter_filter, Bool.and_comm]
  | unregister id' =>
    have same : id' = id := beq_iff_eq.1 concerns
    subst same
    exact filter_eraseP_of_imp fun h _ named => named
  | unregisterConnection conn =>
    have mine : belongs hs id conn = true := concerns
    refine filter_eraseP_of_imp fun h member here => ?_
    rw [← belongs_of_mem distinct (known member), beq_iff_eq.1 here, mine]
  | closeAll => rfl
  | dropWriter conn => rfl
  | _ => cases concerns

/-- An operation that does not concern an identifier leaves its entries as they are. -/
theorem filter_onEntries_of_not_concerns (distinct : Distinct hs) (known : entries ⊆ hs)
    (policy : DuplicatePolicy) {op : Operation} (others : op.concerns hs id = false) :
    (op.onEntries policy entries).filter (isFor id) = entries.filter (isFor id) := by
  cases op with
  | register h =>
    have unnamed : isFor id h = false := others
    cases policy with
    | allow => simp [Operation.onEntries, unnamed]
    | replace =>
      -- The entries that go are for the device of the handle, and that is another one.
      have stays : ∀ h' ∈ entries, (isFor id h' && h'.device != h.device) = isFor id h' := by
        intro h' _
        by_cases same : h'.device = h.device
        · have unnamed' : isFor id h' = false := by rw [isFor, same]; exact unnamed
          simp [unnamed']
        · simp [same]
      simp [Operation.onEntries, unnamed, List.filter_filter, List.filter_congr stays]
  | unregister id' =>
    have other : id' ≠ id := beq_eq_false_iff_ne.1 others
    exact filter_eraseP_of_not fun h _ named => not_isFor_of_ne named other
  | unregisterConnection conn =>
    have foreign : belongs hs id conn = false := others
    refine filter_eraseP_of_not fun h member here => ?_
    rw [← belongs_of_mem distinct (known member), beq_iff_eq.1 here, foreign]
  | closeAll => cases others
  | _ => rfl

theorem onEntries_subset (known : entries ⊆ hs) {op : Operation} (knows : op.Knows hs)
    (policy : DuplicatePolicy) : op.onEntries policy entries ⊆ hs := by
  cases op with
  | register h =>
    refine List.Subset.trans (Operation.onEntries_register_subset policy entries h) ?_
    exact List.cons_subset.2 ⟨knows, known⟩
  | unregister id => exact List.Subset.trans List.eraseP_subset known
  | unregisterConnection conn => exact List.Subset.trans List.eraseP_subset known
  | closeAll => exact List.nil_subset _
  | _ => exact known

theorem Operation.Knows.mono {hs' : List Handle} (more : hs ⊆ hs') {op : Operation}
    (knows : op.Knows hs) : op.Knows hs' := by
  cases op with
  | register h => exact more knows
  | dropWriter conn => exact List.map_subset _ more knows
  | _ => trivial

end

theorem Proper.knows {policy : DuplicatePolicy} {before later : List Operation} {op : Operation}
    (proper : Proper policy (before ++ op :: later)) :
    op.Knows (madeIn policy (before ++ op :: later)) :=
  (proper before op later rfl).mono (madeIn_append_subset before _)

/-- The entries after a run are connections of the run. -/
theorem entries_subset_madeIn {policy : DuplicatePolicy} {ops : List Operation}
    (proper : Proper policy ops) : (after { policy } ops).entries ⊆ madeIn policy ops := by
  induction ops using List.reverseRecOn with
  | nil => exact List.nil_subset _
  | append_singleton ops op ih =>
    obtain ⟨proper, knows⟩ := proper_concat.1 proper
    rw [after_concat, (performs_perform _ op).entries]
    have more : madeIn policy ops ⊆ madeIn policy (ops ++ [op]) := madeIn_append_subset ops [op]
    exact onEntries_subset (List.Subset.trans (ih proper) more) (knows.mono more) _

theorem Proper.entries_subset {policy : DuplicatePolicy} {before later : List Operation}
    (proper : Proper policy (before ++ later)) :
    (after { policy } before).entries ⊆ madeIn policy (before ++ later) :=
  List.Subset.trans (entries_subset_madeIn proper.before) (madeIn_append_subset before later)

/-- The entries with an identifier are what the operations that concern it would have made alone. -/
theorem filter_entries_after {policy : DuplicatePolicy} {hs : List Handle} (distinct : Distinct hs)
    (id : String) {ops : List Operation} (proper : Proper policy ops)
    (known : madeIn policy ops ⊆ hs) :
    (after { policy } ops).entries.filter (isFor id) =
      (after { policy } (ops.filter (·.concerns hs id))).entries := by
  induction ops using List.reverseRecOn with
  | nil => rfl
  | append_singleton ops op ih =>
    have within := List.Subset.trans (madeIn_append_subset ops [op]) known
    have earlier := (proper_concat.1 proper).1
    have entries := List.Subset.trans (entries_subset_madeIn earlier) within
    rw [after_concat, (performs_perform _ op).entries, List.filter_append, List.filter_singleton]
    by_cases concerns : op.concerns hs id = true
    · rw [filter_onEntries_of_concerns distinct entries _ concerns, ih earlier within, concerns,
        cond_true, after_concat, (performs_perform _ op).entries, policy_after, policy_after]
    · have others := Bool.eq_false_iff.2 concerns
      rw [filter_onEntries_of_not_concerns distinct entries _ others, ih earlier within, others,
        cond_false, List.append_nil]

end DeviceLink.Registry
