-- What is true of a server at every moment of a story. Each connection stands where its life says,
-- and its entry is in the registry from when it registers until it leaves or somebody removes it.
import DeviceLink.Proofs.Frame.Decoding
import DeviceLink.Proofs.Server.Lives

namespace DeviceLink.Server

open Registry (Operation HeldUnless entriesOf)

/-! ## Stories one moment longer -/

section

variable (acts : Request → Registry → List Operation) (start : Server) (story : List Moment)
  (m : Moment) (c : ClientId)

/-- The handles that were there at the start, and those that others register. -/
def outsiders : List Handle := start.registry.entries ++ story.flatMap (·.outsiders acts)

/-- Others use no number that a connection of the server has. -/
def KeepApart : Prop :=
  ∀ h ∈ outsiders acts start story, ∀ c h', .identified h' ∈ life story c → h.conn ≠ h'.conn

@[simp] theorem removed_concat : removed acts (story ++ [m]) = removed acts story ++
    Registry.gather Registry.removes m.server.registry (m.operations acts) := by
  simp [removed]

@[simp] theorem outsiders_concat :
    outsiders acts start (story ++ [m]) = outsiders acts start story ++ m.outsiders acts := by
  simp [outsiders]

@[simp] theorem calls_concat : calls (story ++ [m]) = calls story ++ m.call?.toList := by
  cases called : m.call? <;> simp [calls, called]

end

section

variable {acts : Request → Registry → List Operation} {start : Server} {story : List Moment}
  {m : Moment} {c : ClientId} {h h' : Handle} {place : Place}

theorem KeepApart.before (apart : KeepApart acts start (story ++ [m])) :
    KeepApart acts start story := by
  intro h outsider c h' known
  exact apart h (by simp [outsider]) c h' (by simp [known])

theorem firstDevice?_append {cap : Nat} {bytes : Bytes} {device : DeviceId}
    (first : firstDevice? cap bytes = some device) (more : Bytes) :
    firstDevice? cap (bytes ++ more) = some device := by
  unfold firstDevice? at *
  cases decoded : Frame.decode? cap bytes with
  | none => simp [decoded] at first
  | some x =>
    rw [decoded] at first
    rw [Frame.decode?_append more decoded]
    exact first

theorem mem_registeredBy {ops : List Operation} (member : .register h ∈ ops) :
    h ∈ registeredBy ops := List.mem_filterMap.2 ⟨_, member, rfl⟩

/-- Only a connection itself and others register handles. -/
theorem register_mem_operations (member : .register h ∈ m.operations acts) :
    h ∈ m.outsiders acts ∨
      ∃ c, m.event = .proceed c ∧ m.server.standing? c = some (h, .named) := by
  obtain ⟨s, e⟩ := m
  have registered := mem_registeredBy member
  cases e with
  | proceed c =>
    cases stands : s.standing? c with
    | none => simp [Moment.operations, stands] at member
    | some x =>
      obtain ⟨h', place⟩ := x
      by_cases named : place = .named
      · subst named
        simp only [Moment.operations, stands, Option.map_some, Option.getD_some, doings,
          List.mem_singleton, Operation.register.injEq] at member
        exact .inr ⟨c, rfl, by rw [member, stands]⟩
      · left
        cases place <;> simp_all [Moment.outsiders]
  | _ => exact .inl registered

end

/-! ## Where a connection stands -/

/-- What is true of a connection at some moment of a story. -/
inductive Stands (acts : Request → Registry → List Operation) (cap : Nat) (story : List Moment)
    (r : Registry) (c : ClientId) (conn : Connection) : Prop
  | unknown (stage : conn.stage = .handshake) (lived : life story c = [])
      (inbox : conn.inbox = bytesFrom story c)
  | known {h : Handle} {place : Place} (stage : conn.stage = .identified h place)
      (lived : life story c = place.deeds h)
      (device : firstDevice? cap (bytesFrom story c) = some h.device)
      (held : place.isPresent = true → HeldUnless (removed acts story) r h)
      (gone : place.isPresent = false → place ≠ .named → r.entriesOf h.conn = [])
  | refused (stage : conn.stage = .ended) (lived : life story c = [])
  | closed {h : Handle} (stage : conn.stage = .ended) (lived : life story c = Place.parted.deeds h)
      (gone : r.entriesOf h.conn = [])

/-- What is true of a server at some moment of a story. -/
structure Tracked (acts : Request → Registry → List Operation) (start : Server)
    (story : List Moment) (s : Server) : Prop where
  cap : s.cap = start.cap
  handler : s.handler = start.handler
  active : s.active = s.connections.countP (!·.isEnded)
  passages : s.passages = calls story
  stands : ∀ c conn, s.connections[c]? = some conn →
    Stands acts start.cap story s.registry c conn
  absent : ∀ c, s.connections[c]? = none → life story c = [] ∧ bytesFrom story c = []
  numbers : Numbers story s.registry
  origin : ∀ h, h ∈ s.registry.entries ∨ h ∈ removed acts story →
    h ∈ outsiders acts start story ∨ ∃ c, .registered h ∈ life story c

section

variable {acts : Request → Registry → List Operation} {start s s' : Server} {story : List Moment}
  {m : Moment} {c : ClientId} {conn conn' : Connection} {h : Handle} {place : Place}

theorem Stands.lived {cap : Nat} {r : Registry} (stands : Stands acts cap story r c conn) :
    conn.stage.Lived (life story c) := by
  cases stands with
  | unknown stage lived =>
    rw [stage, lived]
    exact .unknown
  | known stage lived =>
    rw [stage, lived]
    exact .known _ _
  | refused stage lived =>
    rw [stage, lived]
    exact .refused
  | closed stage lived =>
    rw [stage, lived]
    exact .closed _

theorem Tracked.lived (tracked : Tracked acts start story s) : Lived story s :=
  ⟨tracked.numbers, fun c conn found => (tracked.stands c conn found).lived,
    fun c missing => (tracked.absent c missing).1⟩

theorem Tracked.unknown (tracked : Tracked acts start story s)
    (found : s.connections[c]? = some conn) (stage : conn.stage = .handshake) :
    life story c = [] ∧ conn.inbox = bytesFrom story c := by
  cases tracked.stands c conn found with
  | unknown _ lived inbox => exact ⟨lived, inbox⟩
  | known stage' => simp [stage] at stage'
  | refused stage' => simp [stage] at stage'
  | closed stage' => simp [stage] at stage'

theorem Tracked.known (tracked : Tracked acts start story s)
    (found : s.connections[c]? = some conn) (stage : conn.stage = .identified h place) :
    life story c = place.deeds h ∧
      firstDevice? start.cap (bytesFrom story c) = some h.device ∧
      (place.isPresent = true → HeldUnless (removed acts story) s.registry h) ∧
      (place.isPresent = false → place ≠ .named → s.registry.entriesOf h.conn = []) := by
  cases tracked.stands c conn found with
  | known stage' lived device held gone =>
    rw [stage] at stage'
    cases stage'
    exact ⟨lived, device, held, gone⟩
  | unknown stage' => simp [stage] at stage'
  | refused stage' => simp [stage] at stage'
  | closed stage' => simp [stage] at stage'

/-- Whoever has the number of a connection that said who it is, is that connection. -/
theorem Tracked.unique (tracked : Tracked acts start story s) (apart : KeepApart acts start story)
    (known : .identified h ∈ life story c) {e : Handle}
    (there : e ∈ s.registry.entries ∨ e ∈ removed acts story) (same : e.conn = h.conn) :
    .registered e ∈ life story c := by
  rcases tracked.origin e there with outsider | ⟨c', registered⟩
  · exact absurd same (apart e outsider c h known)
  · have known' := tracked.lived.identified_of_registered registered
    have own := tracked.numbers.distinct c' c e h known' known same
    rwa [← own]

/-- A moment registers no connection that said who it is, but one that does so itself. -/
theorem Tracked.not_registers (tracked : Tracked acts start story m.server)
    (apart : KeepApart acts start (story ++ [m])) (known : .identified h ∈ life story c)
    (passive : ∀ h', .registered h' ∉ m.deedsOf c) :
    ∀ op ∈ m.operations acts, op.registers h.conn = false := by
  intro op member
  cases op with
  | register h₂ =>
    refine Bool.eq_false_iff.2 fun registers => ?_
    have same : h₂.conn = h.conn := beq_iff_eq.1 registers
    rcases register_mem_operations member with outsider | ⟨c₂, event, stands⟩
    · exact apart h₂ (by simp [outsider]) c h (by simp [known]) same
    · obtain ⟨conn₂, found, stage⟩ := standing?_eq_some_iff.1 stands
      have known₂ : .identified h₂ ∈ life story c₂ := by
        rw [(tracked.known found stage).1]
        exact identified_mem_deeds.2 rfl
      have own := tracked.numbers.distinct c₂ c h₂ h known₂ known same
      subst own
      refine passive h₂ ?_
      obtain ⟨t, e⟩ := m
      cases event
      rw [deedsOf_proceed found stage]
      simp [Place.deed?]
  | _ => rfl

/-! ## One moment more, for one connection -/

/-- A connection that nothing happened to, except that bytes arrived. -/
theorem Stands.carry {cap : Nat} (stands : Stands acts cap story m.server.registry c conn)
    (stage : conn'.stage = conn.stage)
    (inbox : conn.stage = .handshake → conn'.inbox = conn.inbox ++ m.bytesFrom c)
    (deeds : m.deedsOf c = [])
    (others : ∀ h, .identified h ∈ life story c →
      ∀ op ∈ m.operations acts, op.registers h.conn = false) :
    Stands acts cap (story ++ [m]) (m.server.registry.after (m.operations acts)) c conn' := by
  cases stands with
  | unknown stage₀ lived all =>
    refine .unknown (stage.trans stage₀) (by simp [lived, deeds]) ?_
    rw [inbox stage₀, all, bytesFrom_concat]
  | @known h place stage₀ lived device held gone =>
    have others := others h (by rw [lived]; exact identified_mem_deeds.2 rfl)
    refine .known (stage.trans stage₀) (by simp [lived, deeds]) ?_ ?_ ?_
    · rw [bytesFrom_concat]
      exact firstDevice?_append device _
    · intro present
      rw [removed_concat]
      exact (held present).after others
    · intro absent entered
      exact Registry.entriesOf_after_of_nil (gone absent entered) others
  | refused stage₀ lived => exact .refused (stage.trans stage₀) (by simp [lived, deeds])
  | @closed h stage₀ lived gone =>
    have others := others h (by rw [lived]; exact identified_mem_deeds.2 rfl)
    exact .closed (stage.trans stage₀) (by simp [lived, deeds])
      (Registry.entriesOf_after_of_nil gone others)

theorem Tracked.stands_of_identify (tracked : Tracked acts start story m.server)
    (found : m.server.connections[c]? = some conn) (stage : conn.stage = .handshake)
    (stage' : conn'.stage = .identified h .named)
    (first : firstDevice? m.server.cap conn.inbox = some h.device)
    (deeds : m.deedsOf c = [.identified h]) (r : Registry) :
    Stands acts start.cap (story ++ [m]) r c conn' := by
  obtain ⟨lived, inbox⟩ := tracked.unknown found stage
  refine .known stage' (by simp [lived, deeds, Place.deeds]) ?_ nofun ?_
  · rw [inbox, tracked.cap] at first
    rw [bytesFrom_concat]
    exact firstDevice?_append first _
  · intro _ entered
    exact absurd rfl entered

theorem Tracked.stands_of_enter (tracked : Tracked acts start story m.server)
    (apart : KeepApart acts start story) (found : m.server.connections[c]? = some conn)
    (stage : conn.stage = .identified h .named) (stage' : conn'.stage = .identified h .entered)
    (operations : m.operations acts = [.register h]) (deeds : m.deedsOf c = [.registered h]) :
    Stands acts start.cap (story ++ [m]) (m.server.registry.after (m.operations acts)) c conn' := by
  obtain ⟨lived, device, _, _⟩ := tracked.known found stage
  have known : .identified h ∈ life story c := by simp [lived, Place.deeds]
  -- Whatever has its number was registered by the connection, and it has registered nothing yet.
  have fresh : ∀ e, e ∈ m.server.registry.entries ∨ e ∈ removed acts story → e.conn ≠ h.conn := by
    intro e there same
    have registered := tracked.unique apart known there same
    rw [lived] at registered
    exact (registered_mem_deeds.1 registered).2 rfl
  have nobody : m.server.registry.entriesOf h.conn = [] :=
    Registry.entriesOf_eq_nil_iff.2 fun e member => fresh e (.inl member)
  have kept : h ∉ removed acts story := fun lost => fresh h (.inr lost) rfl
  refine .known stage' (by simp [lived, deeds, Place.deeds]) ?_ (fun _ => ?_) (fun absent => ?_)
  · rw [bytesFrom_concat]
    exact firstDevice?_append device _
  · have entered := Registry.heldUnless_register nobody kept
    simpa [operations, Registry.gather] using entered
  · cases absent

theorem Tracked.stands_of_leave (tracked : Tracked acts start story m.server)
    (found : m.server.connections[c]? = some conn) (stage : conn.stage = .identified h .leaving)
    (stage' : conn'.stage = .identified h .removed)
    (operations : m.operations acts = [.unregisterConnection h.conn])
    (deeds : m.deedsOf c = [.removed h]) :
    Stands acts start.cap (story ++ [m]) (m.server.registry.after (m.operations acts)) c conn' := by
  obtain ⟨lived, device, held, _⟩ := tracked.known found stage
  refine .known stage' (by simp [lived, deeds, Place.deeds]) ?_ nofun fun _ _ => ?_
  · rw [bytesFrom_concat]
    exact firstDevice?_append device _
  · rw [operations, Registry.entriesOf_eq_nil_iff]
    intro e member
    rw [Registry.after_cons, Registry.after_nil, (held rfl).leave] at member
    exact bne_iff_ne.1 (List.mem_filter.1 member).2

theorem Tracked.stands_of_move (tracked : Tracked acts start story m.server) {place' : Place}
    (apart : KeepApart acts start (story ++ [m])) (found : m.server.connections[c]? = some conn)
    (stage : conn.stage = .identified h place) (stage' : conn'.stage = .identified h place')
    (entered : place ≠ .named) (present : place'.isPresent = place.isPresent)
    (deeds : place'.deeds h = place.deeds h ++ m.deedsOf c)
    (passive : ∀ h', .registered h' ∉ m.deedsOf c) :
    Stands acts start.cap (story ++ [m]) (m.server.registry.after (m.operations acts)) c conn' := by
  obtain ⟨lived, device, held, gone⟩ := tracked.known found stage
  have known : .identified h ∈ life story c := by
    rw [lived]
    exact identified_mem_deeds.2 rfl
  have others := tracked.not_registers apart known passive
  refine .known stage' (by rw [life_concat, lived, deeds]) ?_ ?_ ?_
  · rw [bytesFrom_concat]
    exact firstDevice?_append device _
  · intro there
    rw [removed_concat]
    exact (held (present.symm.trans there)).after others
  · intro absent _
    exact Registry.entriesOf_after_of_nil (gone (present.symm.trans absent) entered) others

/-- A connection whose moment it was. -/
theorem Tracked.stands_of_how (tracked : Tracked acts start story m.server)
    (apart : KeepApart acts start (story ++ [m])) (found : m.server.connections[c]? = some conn)
    (how : How acts m c conn conn') :
    Stands acts start.cap (story ++ [m]) (m.server.registry.after (m.operations acts)) c conn' := by
  cases how with
  | still stage inbox deeds =>
    refine (tracked.stands c conn found).carry stage inbox deeds fun h known => ?_
    exact tracked.not_registers apart known (by simp [deeds])
  | identify stage stage' first fresh operations deeds =>
    exact tracked.stands_of_identify found stage stage' first deeds _
  | giveUp stage stage' deeds =>
    exact .refused stage' (by simp [(tracked.unknown found stage).1, deeds])
  | enter stage stage' operations deeds =>
    exact tracked.stands_of_enter apart.before found stage stage' operations deeds
  | leave stage stage' operations deeds =>
    exact tracked.stands_of_leave found stage stage' operations deeds
  | move stage stage' entered entered' present deeds passing =>
    exact tracked.stands_of_move apart found stage stage' entered present deeds
      fun h' => (passing h').2
  | @part h stage stage' deeds =>
    obtain ⟨lived, _, _, gone⟩ := tracked.known found stage
    have known : .identified h ∈ life story c := by simp [lived, Place.deeds]
    have others := tracked.not_registers apart known (by simp [deeds])
    exact .closed stage' (by simp [lived, deeds])
      (Registry.entriesOf_after_of_nil (gone rfl (by simp)) others)

/-! ## One moment more, for the server -/

theorem How.isEnded_of_isEnded (how : How acts m c conn conn') (ended : conn.isEnded = true) :
    conn'.isEnded = true := by
  have last : conn.stage = .ended := by simpa [Connection.isEnded] using ended
  cases how with
  | still stage => simp [Connection.isEnded, stage, last]
  | identify stage => simp [last] at stage
  | giveUp _ stage' => simp [Connection.isEnded, stage']
  | enter stage => simp [last] at stage
  | leave stage => simp [last] at stage
  | move stage => simp [last] at stage
  | part _ stage' => simp [Connection.isEnded, stage']

theorem Turn.active_eq (turn : Turn acts m s')
    (active : m.server.active = m.server.connections.countP (!·.isEnded)) :
    s'.active = s'.connections.countP (!·.isEnded) := by
  cases turn with
  | accept peer _ connections counted =>
    rw [counted, connections, active, List.countP_append]
    rfl
  | nothing connections counted => rw [counted, connections, active]
  | @act c conn conn' found connections how counted =>
    have moved := countP_setConnection (fun conn => !conn.isEnded) found conn'
    rw [counted, connections, active]
    unfold setConnection at moved
    unfold ends
    cases ended : conn.isEnded with
    | true =>
      -- What is over stays over.
      have ended' := how.isEnded_of_isEnded ended
      simp only [ended, ended', Bool.not_true, Bool.and_false, Bool.toNat_false] at moved ⊢
      omega
    | false =>
      cases ended' : conn'.isEnded with
      | true =>
        simp only [ended, ended', Bool.not_true, Bool.not_false, Bool.and_self, Bool.toNat_true,
          Bool.toNat_false] at moved ⊢
        omega
      | false =>
        simp only [ended, ended', Bool.not_false, Bool.false_and, Bool.toNat_true,
          Bool.toNat_false] at moved ⊢
        omega

/-- Whatever entry there is or was, others brought it or a connection registered it. -/
theorem origin_concat {r : Registry} (origin : ∀ h,
      h ∈ m.server.registry.entries ∨ h ∈ removed acts story →
        h ∈ outsiders acts start story ∨ ∃ c, .registered h ∈ life story c)
    (registry : r = m.server.registry.after (m.operations acts))
    (there : h ∈ r.entries ∨ h ∈ removed acts (story ++ [m])) :
    h ∈ outsiders acts start (story ++ [m]) ∨ ∃ c, .registered h ∈ life (story ++ [m]) c := by
  have either : (h ∈ m.server.registry.entries ∨ h ∈ removed acts story) ∨
      .register h ∈ m.operations acts := by
    rw [registry, removed_concat, List.mem_append] at there
    rcases there with entry | lost | losing
    · exact (Registry.mem_entries_after entry).imp_left .inl
    · exact .inl (.inr lost)
    · exact (Registry.mem_gather_removes losing).imp_left .inl
  rcases either with older | registers
  · rcases origin h older with outsider | ⟨c, registered⟩
    · exact .inl (by simp [outsider])
    · exact .inr ⟨c, by simp [registered]⟩
  · rcases register_mem_operations registers with outsider | ⟨c, event, stands⟩
    · exact .inl (by simp [outsider])
    · obtain ⟨conn, found, stage⟩ := standing?_eq_some_iff.1 stands
      have deeds : m.deedsOf c = [.registered h] := by
        obtain ⟨t, e⟩ := m
        cases event
        exact deedsOf_proceed found stage
      exact .inr ⟨c, by simp [deeds]⟩

theorem origin_of_story (does : Does acts start.handler) (told : Story start story s) :
    ∀ h, h ∈ s.registry.entries ∨ h ∈ removed acts story →
      h ∈ outsiders acts start story ∨ ∃ c, .registered h ∈ life story c := by
  induction told with
  | nil =>
    rintro h (entry | lost)
    · exact .inl (List.mem_append_left _ entry)
    · cases lost
  | @snoc past t t' e told hooks step ih =>
    have registry := registry_of_story does told step
    intro h there
    exact origin_concat (m := ⟨{ t with hooks }, e⟩) ih registry there

theorem Tracked.stands_of_turn (tracked : Tracked acts start story m.server)
    (apart : KeepApart acts start (story ++ [m])) (turn : Turn acts m s')
    (registry : s'.registry = m.server.registry.after (m.operations acts))
    (found : s'.connections[c]? = some conn) :
    Stands acts start.cap (story ++ [m]) s'.registry c conn := by
  have carried : m.server.connections[c]? = some conn → m.deedsOf c = [] ∧ m.bytesFrom c = [] →
      Stands acts start.cap (story ++ [m]) s'.registry c conn := by
    intro found idle
    rw [registry]
    refine (tracked.stands c conn found).carry rfl (fun _ => by simp [idle.2]) idle.1 ?_
    exact fun h known => tracked.not_registers apart known (by simp [idle.1])
  cases turn with
  | accept peer _ connections _ idle =>
    rw [connections] at found
    by_cases old : c < m.server.connections.length
    · rw [List.getElem?_append_left old] at found
      exact carried found (idle c)
    · have late := Nat.le_of_not_lt old
      obtain ⟨lived, silent⟩ := tracked.absent c (List.getElem?_eq_none late)
      rw [List.getElem?_append_right late, List.getElem?_singleton] at found
      split at found
      · cases found
        exact .unknown rfl (by simp [lived, (idle c).1]) (by simp [silent, (idle c).2])
      · cases found
  | nothing connections _ idle =>
    rw [connections] at found
    exact carried found (idle c)
  | @act c' conn₁ conn₂ found₁ connections how _ idle =>
    rw [connections, List.getElem?_set] at found
    by_cases same : c' = c
    · subst same
      simp only [if_true] at found
      split at found
      · cases found
        rw [registry]
        exact tracked.stands_of_how apart found₁ how
      · cases found
    · rw [if_neg same] at found
      exact carried found (idle c (Ne.symm same))

theorem Tracked.absent_of_turn (tracked : Tracked acts start story m.server)
    (turn : Turn acts m s') (missing : s'.connections[c]? = none) :
    life (story ++ [m]) c = [] ∧ bytesFrom (story ++ [m]) c = [] := by
  have carried : m.server.connections[c]? = none → m.deedsOf c = [] ∧ m.bytesFrom c = [] →
      life (story ++ [m]) c = [] ∧ bytesFrom (story ++ [m]) c = [] := by
    intro missing idle
    simp [tracked.absent c missing, idle]
  cases turn with
  | accept peer _ connections _ idle =>
    refine carried ?_ (idle c)
    rw [connections, List.getElem?_eq_none_iff, List.length_append] at missing
    exact List.getElem?_eq_none (Nat.le_of_add_right_le missing)
  | nothing connections _ idle =>
    rw [connections] at missing
    exact carried missing (idle c)
  | @act c' conn₁ conn₂ found₁ connections how _ idle =>
    rw [connections, List.getElem?_eq_none_iff, List.length_set] at missing
    have missing := List.getElem?_eq_none missing
    have other : c ≠ c' := by
      rintro rfl
      rw [missing] at found₁
      cases found₁
    exact carried missing (idle c other)

/-- One moment more. -/
theorem Tracked.snoc (tracked : Tracked acts start story m.server) (does : Does acts start.handler)
    (apart : KeepApart acts start (story ++ [m])) (t : Transition m.server m.event s') :
    Tracked acts start (story ++ [m]) s' := by
  have setup := t.sameSetup
  have turn : Turn acts m s' := t.turn
  have registry : s'.registry = m.server.registry.after (m.operations acts) :=
    t.registry_eq (tracked.handler ▸ does)
  refine ⟨setup.cap.trans tracked.cap, setup.handler.trans tracked.handler,
    turn.active_eq tracked.active, ?_, fun c conn => tracked.stands_of_turn apart turn registry,
    fun c => tracked.absent_of_turn turn, tracked.numbers.snoc turn registry,
    fun h => origin_concat tracked.origin registry⟩
  · rw [t.passages_eq, tracked.passages, calls_concat]

/-- What is true at every moment of a story. -/
theorem tracked_of_story (does : Does acts start.handler) (alone : start.connections = [])
    (idle : start.active = 0) (silent : start.notes = []) (told : Story start story s)
    (apart : KeepApart acts start story) : Tracked acts start story s := by
  induction told with
  | nil =>
    refine ⟨rfl, rfl, by simp [idle, alone], by simp [passages, silent, calls], ?_, ?_,
      (lived_nil alone).numbers, ?_⟩
    · intro c conn found
      simp [alone] at found
    · exact fun c _ => ⟨rfl, rfl⟩
    · rintro h (entry | lost)
      · exact .inl (List.mem_append_left _ entry)
      · cases lost
  | @snoc past t t' e told hooks step ih =>
    have earlier := ih apart.before
    -- Other hooks in force change nothing of what is tracked.
    have tracked : Tracked acts start past { t with hooks } :=
      ⟨earlier.cap, earlier.handler, earlier.active, earlier.passages, earlier.stands,
        earlier.absent, earlier.numbers, earlier.origin⟩
    exact Tracked.snoc (m := ⟨{ t with hooks }, e⟩) tracked does apart (transition_of_step? step)

end

end DeviceLink.Server
