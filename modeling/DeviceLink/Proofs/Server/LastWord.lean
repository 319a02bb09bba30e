-- The last word. Where only the connections of a server change its entries, and none is interrupted
-- in coming or leaving, the admin consoles were told who is there and who is not.
import DeviceLink.Proofs.Server.Presence

namespace DeviceLink.Server

open Registry (Performs)

/-! ## The last word on a device -/

/-- The last word on a device: whether it is online. -/
def lastWord? (d : DeviceId) (log : List Announcement) : Option Bool :=
  (log.reverse.find? (·.device == d)).map (·.online)

theorem lastWord?_concat (d : DeviceId) (log : List Announcement) (a : Announcement) :
    lastWord? d (log ++ [a]) = if a.device = d then some a.online else lastWord? d log := by
  unfold lastWord?
  rw [List.reverse_append, List.reverse_singleton, List.singleton_append, List.find?_cons]
  by_cases same : a.device = d
  · simp [same]
  · simp [beq_eq_false_iff_ne.2 same, same]

/-- How often the word was that a device is online, or offline. -/
def countWord (d : DeviceId) (online : Bool) (log : List Announcement) : Nat :=
  log.count ⟨d, online⟩

theorem countWord_concat (d : DeviceId) (online : Bool) (log : List Announcement)
    (a : Announcement) :
    countWord d online (log ++ [a]) =
      countWord d online log + (a.online == online && a.device == d).toNat := by
  unfold countWord
  rw [List.count_append, List.count_singleton]
  obtain ⟨device, word⟩ := a
  by_cases same : device = d
  · by_cases agree : word = online
    · simp [same, agree]
    · simp [same, agree]
  · simp [same]

variable {s s' : Server} {log news : List Announcement} {c : ClientId} {conn : Connection}
  {h : Handle}

theorem isReplaced_of_allow (allow : s.registry.policy = .allow) (device : DeviceId) :
    s.isReplaced device = false := by
  unfold isReplaced
  rw [allow]
  rfl

theorem isReplaced_iff (replace : s.registry.policy = .replace) (device : DeviceId) :
    s.isReplaced device = true ↔ device ∈ s.registry.list := by
  unfold isReplaced
  rw [replace, ← Registry.isSome_find?_text]
  rfl

/-- The announcements agree with who is there. -/
structure Consistent (s : Server) (log : List Announcement) : Prop where
  calm : Calm s
  numbered : Numbered s
  last : s.registry.policy = .replace →
    ∀ d, lastWord? d log = some true ↔ d ∈ s.registry.list
  balance : s.registry.policy = .allow →
    ∀ d, countWord d true log = countWord d false log + s.countPresent d

theorem Quiet.consistent (quiet : Quiet s s') (consistent : Consistent s log) :
    Consistent s' log where
  calm := quiet.calm consistent.calm
  numbered := quiet.numbered consistent.numbered
  last := by
    rw [quiet.policy, Registry.list, quiet.entries]
    exact consistent.last
  balance := by
    simp only [quiet.policy, quiet.present]
    exact consistent.balance

/-! ## Coming and leaving -/

theorem performs_withDevice (s : Server) (h : Handle) :
    Performs s.registry (.register h) (s.withDevice h).registry :=
  (Registry.performs_register s.registry h).trans (Registry.sameButLines_sendEach _ _ _)

theorem performs_withoutEntry (s : Server) (h : Handle) :
    Performs s.registry (.unregisterConnection h.conn) (s.withoutEntry h).registry :=
  Registry.performs_perform _ _

theorem performs_withoutDevice (s : Server) (h : Handle) :
    Performs s.registry (.unregisterConnection h.conn) (s.withoutDevice h).registry := by
  have removed := performs_withoutEntry s h
  rcases withoutDevice_eq s h with same | same
  · rwa [same]
  · rw [same]
    exact removed.trans (Registry.sameButLines_sendEach _ _ _)

/-- A connection that has a handle may enter it, or lose its entry. -/
theorem Numbered.of_entries {m : Server} {place place' : Place} (numbered : Numbered s)
    (found : s.connections[c]? = some conn) (stage : conn.stage = .identified h place)
    (same : m.connections = s.connections)
    (numbers : s.registry.nextConn ≤ m.registry.nextConn)
    (entries : m.registry.entries ⊆ h :: s.registry.entries) :
    Numbered (m.setConnection c (conn.moveTo h place')) := by
  have own : h ∈ s.known := known_of_found found (by simp only [Connection.handle?, stage])
  refine numbered.of_subset numbers fun h' member => ?_
  rcases known_setConnection member with old | new
  · unfold known at old
    rw [same] at old
    rcases List.mem_append.1 old with entry | handle
    · rcases List.mem_cons.1 (entries entry) with rfl | entry
      · exact own
      · exact List.mem_append_left _ entry
    · exact List.mem_append_right _ handle
  · cases new
    exact own

theorem countPresent_moveTo {m : Server} {place : Place} (found : s.connections[c]? = some conn)
    (stage : conn.stage = .identified h place) (same : m.connections = s.connections)
    (place' : Place) (d : DeviceId) :
    (m.setConnection c (conn.moveTo h place')).countPresent d +
        (place.isPresent && h.device == d).toNat =
      s.countPresent d + (place'.isPresent && h.device == d).toNat := by
  have found' : m.connections[c]? = some conn := by rwa [same]
  have counted := countPresent_setConnection found' (conn.moveTo h place') d
  have moved : (conn.moveTo h place').isPresentAs d = (place'.isPresent && h.device == d) := rfl
  rw [isPresentAs_of_stage stage, moved] at counted
  rwa [countPresent, countPresent, same] at counted

theorem consistent_coming (consistent : Consistent s log)
    (found : s.connections[c]? = some conn) (stage : conn.stage = .identified h .named) :
    Consistent ((s.withDevice h).setConnection c (conn.moveTo h .announced))
      (log ++ [⟨h.device, true⟩]) := by
  have performs := performs_withDevice s h
  refine ⟨Calm.setConnection (s := s.withDevice h) consistent.calm rfl, ?_, ?_, ?_⟩
  · refine consistent.numbered.of_entries found stage rfl ?_ ?_
    · rw [performs.nextConn]
      exact Nat.le_add_right _ _
    · rw [performs.entries]
      exact Registry.Operation.onEntries_register_subset _ _ h
  · intro replace d
    have replace : s.registry.policy = .replace := performs.policy.symm.trans replace
    rw [lastWord?_concat]
    refine Iff.trans ?_ (Registry.mem_list_of_replace performs replace d).symm
    by_cases same : h.device = d
    · simp only [same, if_true, true_or]
    · simp only [same, if_false, false_or]
      exact consistent.last replace d
  · intro allow d
    have allow : s.registry.policy = .allow := performs.policy.symm.trans allow
    have counted := countPresent_moveTo (m := s.withDevice h) found stage rfl .announced d
    rw [countWord_concat, countWord_concat, consistent.balance allow d]
    simp only [Place.isPresent, Bool.true_and, Bool.false_and, Bool.toNat_false,
      Bool.true_beq] at counted ⊢
    omega

theorem consistent_leaving (consistent : Consistent s log)
    (found : s.connections[c]? = some conn) (stage : conn.stage = .identified h .leaving) :
    Consistent ((s.withoutDevice h).setConnection c (conn.moveTo h .departed))
      (log ++ if (s.withoutEntry h).isReplaced h.device then [] else [⟨h.device, false⟩]) := by
  have performs := performs_withoutDevice s h
  have connections := connections_withoutDevice s h
  have found' : (s.withoutDevice h).connections[c]? = some conn := by rwa [connections]
  have calm : Calm (s.withoutDevice h) := by rw [Calm, connections]; exact consistent.calm
  refine ⟨calm.setConnection rfl, ?_, ?_, ?_⟩
  · refine consistent.numbered.of_entries found stage connections ?_ ?_
    · rw [performs.nextConn]
      exact Nat.le_add_right _ _
    · rw [performs.entries]
      exact fun h' member => List.mem_cons_of_mem _ (List.mem_of_mem_eraseP member)
  · intro replace d
    have replace : s.registry.policy = .replace := performs.policy.symm.trans replace
    have own : ∀ h' ∈ s.registry.entries, h'.conn = h.conn → h'.device = h.device := by
      intro h' member same
      have entry : h' ∈ s.known := List.mem_append_left _ member
      have handle : h ∈ s.known :=
        known_of_found found (by simp only [Connection.handle?, stage])
      rw [consistent.numbered.unique h' entry h handle same]
    by_cases same : h.device = d
    · subst same
      have there : (s.withoutEntry h).isReplaced h.device = true ↔
          h.device ∈ (s.withoutDevice h).registry.list := by
        have without := performs_withoutEntry s h
        rw [performs.list_eq without]
        exact isReplaced_iff (without.policy.trans replace) h.device
      by_cases replaced : (s.withoutEntry h).isReplaced h.device = true
      · rw [if_pos replaced, List.append_nil]
        have stays := there.1 replaced
        have before := Registry.mem_list_of_mem_unregisterConnection performs stays
        exact iff_of_true ((consistent.last replace _).2 before) stays
      · rw [if_neg replaced, lastWord?_concat, if_pos rfl]
        refine iff_of_false (fun said => ?_) fun stays => replaced (there.2 stays)
        cases said
    · refine Iff.trans ?_ (Registry.mem_list_of_unregisterConnection performs own same).symm
      rw [← consistent.last replace d]
      by_cases replaced : (s.withoutEntry h).isReplaced h.device = true
      · rw [if_pos replaced, List.append_nil]
      · rw [if_neg replaced, lastWord?_concat, if_neg same]
  · intro allow d
    have allow : s.registry.policy = .allow := performs.policy.symm.trans allow
    have counted := countPresent_moveTo found stage connections .departed d
    have replaced := isReplaced_of_allow ((performs_withoutEntry s h).policy.trans allow) h.device
    rw [if_neg (Bool.eq_false_iff.1 replaced), countWord_concat, countWord_concat,
      consistent.balance allow d]
    simp only [Place.isPresent, Bool.true_and, Bool.false_and, Bool.toNat_false, Bool.false_beq,
      Bool.not_true, Bool.not_false] at counted ⊢
    omega

/-! ## Strides and runs -/

/-- While nobody is in the middle of coming or leaving, there is nothing to announce. -/
theorem announcement?_of_calm (calm : Calm s) (e : Event) : s.announcement? e = none := by
  refine Option.eq_none_iff_forall_ne_some.2 fun a announces => ?_
  cases e with
  | proceed c =>
    obtain ⟨⟨h, place⟩, stands, announced⟩ := Option.bind_eq_some_iff.1 announces
    obtain ⟨conn, found, stage⟩ := standing?_eq_some_iff.1 stands
    have still := calm conn (List.mem_of_getElem? found)
    simp only [Connection.isBetween, stage] at still
    cases place with
    | entered => cases still
    | judged replaced => cases still
    | _ => cases announced
  | _ => cases announces

theorem stride?_of_single {e : Event} (calm : Calm s) (single : s.stride e = 1)
    (run : s.stride? e = some (news, s')) : news = [] ∧ s.step? e = some s' := by
  unfold stride? at run
  rw [single, List.replicate_one, narrate?, announcement?_of_calm calm] at run
  obtain ⟨s₁, step, rest⟩ := Option.bind_eq_some_iff.1 run
  cases rest
  exact ⟨rfl, step⟩

/-- A stride keeps the announcements in agreement with who is there. -/
theorem consistent_stride? {e : Event} (consistent : Consistent s log)
    (others : OthersKeepEntries s) (own : e.keepsEntries = true)
    (run : s.stride? e = some (news, s')) :
    Consistent s' (log ++ news) ∧ SameSetup s s' ∧ s'.registry.policy = s.registry.policy := by
  rcases stride_cases s e with ⟨c, h, rfl, stands⟩ | ⟨c, h, rfl, stands⟩ | single
  · obtain ⟨conn, found, stage⟩ := standing?_eq_some_iff.1 stands
    rw [stride?_coming found stage] at run
    cases run
    exact ⟨consistent_coming consistent found stage, ⟨rfl, rfl, rfl, rfl⟩,
      (performs_withDevice s h).policy⟩
  · obtain ⟨conn, found, stage⟩ := standing?_eq_some_iff.1 stands
    rw [stride?_leaving found stage] at run
    cases run
    exact ⟨consistent_leaving consistent found stage,
      (sameSetup_withoutDevice s h).setConnection _ _, (performs_withoutDevice s h).policy⟩
  · obtain ⟨rfl, step⟩ := stride?_of_single consistent.calm single run
    have transition := transition_of_step? step
    have quiet := transition.quiet others own consistent.calm single
    rw [List.append_nil]
    exact ⟨quiet.consistent consistent, transition.sameSetup, quiet.policy⟩

theorem consistent_strides? {es : List Event} (consistent : Consistent s log)
    (others : OthersKeepEntries s) (own : ∀ e ∈ es, e.keepsEntries = true)
    (run : s.strides? es = some (news, s')) :
    Consistent s' (log ++ news) ∧ s'.registry.policy = s.registry.policy := by
  induction es generalizing s log news with
  | nil =>
    cases run
    rw [List.append_nil]
    exact ⟨consistent, rfl⟩
  | cons e es ih =>
    obtain ⟨⟨first, s₁⟩, strides, rest⟩ := Option.bind_eq_some_iff.1 run
    obtain ⟨⟨later, s₂⟩, run₁, same⟩ := Option.map_eq_some_iff.1 rest
    cases same
    obtain ⟨consistent₁, setup, policy⟩ :=
      consistent_stride? consistent others (own e List.mem_cons_self) strides
    rw [← List.append_assoc, ← policy]
    exact ih consistent₁ (others.of_sameSetup setup)
      (fun e' member => own e' (List.mem_cons_of_mem e member)) run₁

theorem consistent_nil (alone : s.connections = []) (empty : s.registry.entries = []) :
    Consistent s [] where
  calm := by
    rw [Calm, alone]
    intro conn member
    cases member
  numbered := by
    have nobody : s.known = [] := by
      rw [known, alone, empty]
      rfl
    constructor
    · rw [nobody]
      intro h member
      cases member
    · rw [nobody]
      intro h member
      cases member
  last _ d := by
    rw [Registry.list, empty]
    constructor
    · intro said
      cases said
    · intro member
      cases member
  balance _ d := by
    rw [countPresent, alone]
    rfl

/-! ## The law -/

/-- The admin consoles know who is there, whatever comes in between. On a server that starts with
nobody, where only its connections change the entries and none is interrupted in coming or
leaving: if duplicates are replaced, the last word on a device is that it is online exactly when it
has an entry; if they are allowed, the word was that it is online once more often than that it is
offline for each connection that has registered as it and not yet left. And each word was broadcast
when it was given. -/
theorem the_last_word_on_a_device_is_true {es : List Event} {log : List Announcement}
    (alone : s.connections = []) (empty : s.registry.entries = []) (others : OthersKeepEntries s)
    (own : ∀ e ∈ es, e.keepsEntries = true) (run : s.strides? es = some (log, s'))
    (d : DeviceId) :
    (s.registry.policy = .replace → (lastWord? d log = some true ↔ d ∈ s'.registry.list)) ∧
      (s.registry.policy = .allow →
        countWord d true log = countWord d false log + s'.countPresent d) ∧
      (∃ steps, s.run? steps = some s' ∧ s.narrate? steps = some (log, s')) ∧
      ∀ (t t' : Server) (e : Event) (a : Announcement), t.announcement? e = some a →
        t.step? e = some t' → t'.registry = (t.registry.perform a.operation).2 := by
  obtain ⟨consistent, policy⟩ :=
    consistent_strides? (consistent_nil alone empty) others own run
  obtain ⟨steps, narrated⟩ := narrate?_of_strides? run
  have runs : s.run? steps = some s' := by rw [← narrate?_map_snd, narrated, Option.map_some]
  refine ⟨fun replace => ?_, fun allow => ?_, ⟨steps, runs, narrated⟩, ?_⟩
  · exact consistent.last (policy.trans replace) d
  · exact consistent.balance (policy.trans allow) d
  · intro t t' e a announces step
    exact registry_of_announcement? announces step

/-- Two connections come as one device. The first one is replaced and leaves without a word, so the
last word is still that the device is online, and it is. -/
theorem a_replaced_connection_leaves_without_a_word :
    let s : Server :=
      { handler := (Router.standard ⟨"", ""⟩).handle, registry := { policy := .replace } }
    let d : DeviceId := ⟨"a", by decide⟩
    let es : List Event :=
      [.accept none, .arrive 0 [1, 0, 1, 97], .read 0, .proceed 0,
        .accept none, .arrive 1 [1, 0, 1, 97], .read 1, .proceed 1,
        .proceed 0, .proceed 0, .proceed 0, .noticeClose 0, .proceed 0]
    ∃ s', s.strides? es = some ([⟨d, true⟩, ⟨d, true⟩], s') ∧ d ∈ s'.registry.list := by
  intro s d es
  have words : (s.strides? es).map (·.1) = some [⟨d, true⟩, ⟨d, true⟩] := by decide +kernel
  obtain ⟨⟨log, s'⟩, run, rfl⟩ := Option.map_eq_some_iff.1 words
  have others : OthersKeepEntries s :=
    ⟨fun _ => nofun, fun _ => nofun, nofun, Router.keepsEntries_standard _⟩
  have own : ∀ e ∈ es, e.keepsEntries = true := by decide
  have last : lastWord? d [⟨d, true⟩, ⟨d, true⟩] = some true := by decide
  exact ⟨s', run, ((the_last_word_on_a_device_is_true rfl rfl others own run d).1 rfl).1 last⟩

end DeviceLink.Server
