-- The entries that are left of a run of operations. A registration survives until something removes
-- it; here that is said without the list of entries, by the times of the registrations alone. The
-- list of entries is the list of those that survive, the latest one first.
import DeviceLink.Proofs.Registry.Entries
import DeviceLink.Proofs.Registry.Run

namespace DeviceLink.Registry

/-! ## Who survives -/

/-- Of the handles that are there, each since its time, this is the latest one with a property. -/
def Latest (there : Nat → Handle → Prop) (p : Handle → Bool) (t : Nat) (h : Handle) : Prop :=
  there t h ∧ p h = true ∧ ∀ t' h', there t' h' → p h' = true → t' ≤ t

/-- A handle was registered by operation number `t` of a run, and nothing has removed it since. The
run is given backwards. A device that replaces its older entries removes them all; any other
removal takes the latest entry that it is meant for. -/
def Survives (policy : DuplicatePolicy) : List Operation → Nat → Handle → Prop
  | [], _, _ => False
  | .register new :: before, t, h =>
    t = before.length ∧ h = new ∨
      Survives policy before t h ∧ ¬ (policy = .replace ∧ h.device = new.device)
  | .unregister id :: before, t, h =>
    Survives policy before t h ∧ ¬ Latest (Survives policy before) (isFor id) t h
  | .unregisterConnection conn :: before, t, h =>
    Survives policy before t h ∧ ¬ Latest (Survives policy before) (·.conn == conn) t h
  | .closeAll :: _, _, _ => False
  | _ :: before, t, h => Survives policy before t h

/-- The handle has been there since operation number `t` of a run. -/
def Since (policy : DuplicatePolicy) (ops : List Operation) : Nat → Handle → Prop :=
  Survives policy ops.reverse

theorem lt_of_survives {policy : DuplicatePolicy} {back : List Operation} {t : Nat} {h : Handle}
    (survives : Survives policy back t h) : t < back.length := by
  induction back with
  | nil => cases survives
  | cons op before ih =>
    rw [List.length_cons]
    cases op with
    | register new =>
      rcases survives with ⟨rfl, _⟩ | ⟨older, _⟩
      · exact Nat.lt_succ_self _
      · exact Nat.lt_succ_of_lt (ih older)
    | closeAll => cases survives
    | unregister id => exact Nat.lt_succ_of_lt (ih survives.1)
    | unregisterConnection conn => exact Nat.lt_succ_of_lt (ih survives.1)
    | _ => exact Nat.lt_succ_of_lt (ih survives)

/-! ## The latest comes first -/

/-- Handles with the times since which they are there, the latest one first. -/
structure Ranked (there : Nat → Handle → Prop) (stamped : List (Nat × Handle)) : Prop where
  later : stamped.Pairwise fun a b => b.1 < a.1
  mem_iff : ∀ t h, (t, h) ∈ stamped ↔ there t h

/-- In such a list this one is the latest with a property. -/
def IsTop (q : Nat × Handle → Bool) (stamped : List (Nat × Handle)) (x : Nat × Handle) : Prop :=
  x ∈ stamped ∧ q x = true ∧ ∀ y ∈ stamped, q y = true → y.1 ≤ x.1

section

variable {q : Nat × Handle → Bool} {a x : Nat × Handle} {stamped : List (Nat × Handle)}

theorem isTop_cons_of_pos (first : ∀ y ∈ stamped, y.1 < a.1) (has : q a = true) :
    IsTop q (a :: stamped) x ↔ x = a := by
  constructor
  · rintro ⟨member, _, top⟩
    rcases List.mem_cons.1 member with rfl | below
    · rfl
    · have := first x below
      have := top a List.mem_cons_self has
      omega
  · rintro rfl
    refine ⟨List.mem_cons_self, has, fun y member _ => ?_⟩
    rcases List.mem_cons.1 member with rfl | below
    · exact Nat.le_refl _
    · exact Nat.le_of_lt (first y below)

theorem isTop_cons_of_neg (lacks : ¬ q a = true) :
    IsTop q (a :: stamped) x ↔ IsTop q stamped x := by
  constructor
  · rintro ⟨member, has, top⟩
    refine ⟨?_, has, fun y below => top y (List.mem_cons_of_mem a below)⟩
    rcases List.mem_cons.1 member with rfl | below
    · exact absurd has lacks
    · exact below
  · rintro ⟨member, has, top⟩
    refine ⟨List.mem_cons_of_mem a member, has, fun y within hasToo => ?_⟩
    rcases List.mem_cons.1 within with rfl | below
    · exact absurd hasToo lacks
    · exact top y below hasToo

theorem find?_eq_some_iff_isTop (later : stamped.Pairwise fun a b => b.1 < a.1) :
    stamped.find? q = some x ↔ IsTop q stamped x := by
  induction stamped with
  | nil => exact iff_of_false nofun fun top => nomatch top.1
  | cons a stamped ih =>
    obtain ⟨first, later⟩ := List.pairwise_cons.1 later
    by_cases has : q a = true
    · rw [List.find?_cons_of_pos has, isTop_cons_of_pos first has, Option.some.injEq, eq_comm]
    · rw [List.find?_cons_of_neg has, isTop_cons_of_neg has, ih later]

theorem mem_eraseP_iff_not_isTop (later : stamped.Pairwise fun a b => b.1 < a.1) :
    x ∈ stamped.eraseP q ↔ x ∈ stamped ∧ ¬ IsTop q stamped x := by
  induction stamped with
  | nil => exact iff_of_false nofun fun both => nomatch both.1
  | cons a stamped ih =>
    obtain ⟨first, later⟩ := List.pairwise_cons.1 later
    by_cases has : q a = true
    · rw [List.eraseP_cons_of_pos has, isTop_cons_of_pos first has, List.mem_cons]
      constructor
      · intro below
        refine ⟨.inr below, ?_⟩
        rintro rfl
        exact Nat.lt_irrefl _ (first x below)
      · rintro ⟨rfl | below, differs⟩
        · exact absurd rfl differs
        · exact below
    · rw [List.eraseP_cons_of_neg has, isTop_cons_of_neg has, List.mem_cons, List.mem_cons,
        ih later]
      constructor
      · rintro (rfl | ⟨below, notTop⟩)
        · exact ⟨.inl rfl, fun top => has top.2.1⟩
        · exact ⟨.inr below, notTop⟩
      · rintro ⟨rfl | below, notTop⟩
        · exact .inl rfl
        · exact .inr ⟨below, notTop⟩

end

variable {there : Nat → Handle → Prop} {stamped : List (Nat × Handle)} {p : Handle → Bool}
  {t : Nat} {h : Handle}

theorem Ranked.isTop_iff (ranked : Ranked there stamped) :
    IsTop (fun x => p x.2) stamped (t, h) ↔ Latest there p t h := by
  unfold IsTop Latest
  simp only [Prod.forall, ranked.mem_iff]

theorem Ranked.congr {there' : Nat → Handle → Prop} (ranked : Ranked there stamped)
    (same : ∀ t h, there t h ↔ there' t h) : Ranked there' stamped where
  later := ranked.later
  mem_iff t h := (ranked.mem_iff t h).trans (same t h)

/-- Removing what comes first removes the latest. -/
theorem Ranked.eraseP (ranked : Ranked there stamped) (p : Handle → Bool) :
    Ranked (fun t h => there t h ∧ ¬ Latest there p t h) (stamped.eraseP fun x => p x.2) where
  later := ranked.later.sublist List.eraseP_sublist
  mem_iff t h := by
    rw [mem_eraseP_iff_not_isTop ranked.later, ranked.mem_iff, ranked.isTop_iff]

theorem Ranked.filter (ranked : Ranked there stamped) (p : Handle → Bool) :
    Ranked (fun t h => there t h ∧ p h = true) (stamped.filter fun x => p x.2) where
  later := ranked.later.sublist List.filter_sublist
  mem_iff t h := by rw [List.mem_filter, ranked.mem_iff]

theorem Ranked.cons (ranked : Ranked there stamped) {now : Nat} (new : Handle)
    (past : ∀ t h, there t h → t < now) :
    Ranked (fun t h => t = now ∧ h = new ∨ there t h) ((now, new) :: stamped) where
  later := List.pairwise_cons.2
    ⟨fun x member => past x.1 x.2 ((ranked.mem_iff x.1 x.2).1 member), ranked.later⟩
  mem_iff t h := by rw [List.mem_cons, Prod.mk.injEq, ranked.mem_iff]

theorem ranked_nil (nobody : ∀ t h, ¬ there t h) : Ranked there [] where
  later := .nil
  mem_iff t h := iff_of_false nofun (nobody t h)

/-! ## The entries are ranked -/

/-- The entries of a registry are the handles that have been there since some operation of a run,
the latest one first. -/
def EntriesRanked (r : Registry) (there : Nat → Handle → Prop) : Prop :=
  ∃ stamped, stamped.map (·.2) = r.entries ∧ Ranked there stamped

theorem EntriesRanked.eraseP {r r' : Registry} {there : Nat → Handle → Prop}
    (ranked : EntriesRanked r there) {p : Handle → Bool}
    (erased : r'.entries = r.entries.eraseP p) :
    EntriesRanked r' fun t h => there t h ∧ ¬ Latest there p t h := by
  obtain ⟨stamped, same, ranked⟩ := ranked
  refine ⟨_, ?_, ranked.eraseP p⟩
  rw [erased, ← same, List.eraseP_map]
  rfl

theorem EntriesRanked.register {r r' : Registry} {back : List Operation} {new : Handle}
    (ranked : EntriesRanked r (Survives r.policy back)) (performs : Performs r (.register new) r') :
    EntriesRanked r' (Survives r.policy (.register new :: back)) := by
  obtain ⟨stamped, same, ranked⟩ := ranked
  have entries := performs.entries
  rw [← same] at entries
  match policy_eq : r.policy with
  | .allow =>
    rw [policy_eq] at entries ranked
    refine ⟨(back.length, new) :: stamped, entries.symm,
      (ranked.cons new fun t h => lt_of_survives).congr fun t h => ?_⟩
    simp [Survives]
  | .replace =>
    rw [policy_eq] at entries ranked
    have others := ranked.filter (·.device != new.device)
    refine ⟨_, ?_, (others.cons new fun t h both => lt_of_survives both.1).congr fun t h => ?_⟩
    · rw [entries, List.map_cons, Operation.onEntries, List.filter_map]
      rfl
    · simp [Survives]

/-- One operation more. -/
theorem EntriesRanked.perform {r r' : Registry} {back : List Operation} {op : Operation}
    (ranked : EntriesRanked r (Survives r.policy back)) (performs : Performs r op r') :
    EntriesRanked r' (Survives r.policy (op :: back)) := by
  cases op with
  | register new => exact ranked.register performs
  | unregister id => exact ranked.eraseP performs.entries
  | unregisterConnection conn => exact ranked.eraseP performs.entries
  | closeAll => exact ⟨[], performs.entries.symm, ranked_nil nofun⟩
  | _ =>
    obtain ⟨stamped, same, ranked⟩ := ranked
    exact ⟨stamped, same.trans performs.entries.symm, ranked⟩

variable {r : Registry}

/-- The entries are those that survived all operations since there was none, in reverse order of
their registrations. -/
theorem entriesRanked_after (empty : r.entries = []) (ops : List Operation) :
    EntriesRanked (r.after ops) (Since r.policy ops) := by
  induction ops using List.reverseRecOn with
  | nil => exact ⟨[], empty.symm, ranked_nil nofun⟩
  | append_singleton ops op ih =>
    unfold Since at *
    rw [← policy_after r ops] at ih ⊢
    rw [after_concat, List.reverse_concat]
    exact ih.perform (performs_perform _ op)

/-- A lookup finds the latest of those that are there. -/
theorem EntriesRanked.find?_eq_some_iff {there : Nat → Handle → Prop}
    (ranked : EntriesRanked r there) (id : String) (h : Handle) :
    r.find? id = some h ↔ ∃ t, Latest there (isFor id) t h := by
  obtain ⟨stamped, same, ranked⟩ := ranked
  unfold find?
  rw [← same, List.find?_map, Option.map_eq_some_iff]
  constructor
  · rintro ⟨⟨t, h⟩, found, rfl⟩
    exact ⟨t, ranked.isTop_iff.1 ((find?_eq_some_iff_isTop ranked.later).1 found)⟩
  · rintro ⟨t, latest⟩
    exact ⟨(t, h), (find?_eq_some_iff_isTop ranked.later).2 (ranked.isTop_iff.2 latest), rfl⟩

end DeviceLink.Registry
