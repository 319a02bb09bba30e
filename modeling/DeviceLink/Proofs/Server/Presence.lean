-- Who is there. On a server whose entries are changed by nobody but its connections, only coming
-- and leaving make a difference to that; all other steps go unnoticed.
import DeviceLink.Proofs.Exchange.Handlers
import DeviceLink.Proofs.Server.Announcement

namespace DeviceLink.Server

open Registry (Keeps keeps_perform keeps_performAll)

/-! ## Who is there -/

/-- A connection at this place has registered and has not left yet. -/
def Place.isPresent : Place → Bool
  | .entered | .announced | .greeted | .ready | .waiting | .leaving => true
  | .named | .removed | .judged _ | .departed | .parted => false

/-- A connection at this place is in the middle of coming or of leaving. -/
def Place.isBetween : Place → Bool
  | .entered | .removed | .judged _ => true
  | _ => false

/-- The connection has registered as a device and has not left yet. -/
def Connection.isPresentAs (d : DeviceId) (conn : Connection) : Bool :=
  match conn.stage with
  | .identified h place => place.isPresent && h.device == d
  | _ => false

/-- The connection is in the middle of coming or of leaving. -/
def Connection.isBetween (conn : Connection) : Bool :=
  match conn.stage with
  | .identified _ place => place.isBetween
  | _ => false

/-- No connection is in the middle of coming or of leaving. -/
def Calm (s : Server) : Prop := ∀ conn ∈ s.connections, conn.isBetween = false

/-- How many connections are there as a device. -/
def countPresent (s : Server) (d : DeviceId) : Nat := s.connections.countP (·.isPresentAs d)

variable {s s' : Server} {c : ClientId} {conn conn' : Connection} {h : Handle}

theorem isPresentAs_of_stage {place : Place} (stage : conn.stage = .identified h place)
    (d : DeviceId) : conn.isPresentAs d = (place.isPresent && h.device == d) := by
  simp only [Connection.isPresentAs, stage]

theorem countP_setConnection (p : Connection → Bool) (found : s.connections[c]? = some conn)
    (conn' : Connection) :
    (s.setConnection c conn').connections.countP p + (p conn).toNat =
      s.connections.countP p + (p conn').toNat := by
  obtain ⟨bound, here⟩ := List.getElem?_eq_some_iff.1 found
  have asNat : ∀ b : Bool, (if b = true then 1 else 0) = b.toNat := by decide
  have counted : (p conn).toNat ≤ s.connections.countP p := by
    by_cases has : p conn = true
    · rw [has]
      exact List.countP_pos_iff.2 ⟨conn, List.mem_of_getElem? found, has⟩
    · rw [Bool.eq_false_iff.2 has]
      exact Nat.zero_le _
  unfold setConnection
  rw [List.countP_set bound, here, asNat, asNat]
  omega

theorem countPresent_setConnection (found : s.connections[c]? = some conn) (conn' : Connection)
    (d : DeviceId) :
    (s.setConnection c conn').countPresent d + (conn.isPresentAs d).toNat =
      s.countPresent d + (conn'.isPresentAs d).toNat :=
  countP_setConnection (·.isPresentAs d) found conn'

theorem Calm.setConnection (calm : Calm s) (still : conn'.isBetween = false) :
    Calm (s.setConnection c conn') := by
  intro other member
  rcases List.mem_or_eq_of_mem_set member with old | rfl
  · exact calm other old
  · exact still

/-! ## Numbers -/

/-- The handles that a server knows: those of its entries and those of its connections. -/
def known (s : Server) : List Handle := s.registry.entries ++ s.connections.filterMap (·.handle?)

/-- The number of a handle was taken, and no other handle has it. -/
structure Numbered (s : Server) : Prop where
  taken : ∀ h ∈ s.known, h.conn < s.registry.nextConn
  unique : ∀ h ∈ s.known, ∀ h' ∈ s.known, h.conn = h'.conn → h = h'

theorem Numbered.of_subset (numbered : Numbered s)
    (numbers : s.registry.nextConn ≤ s'.registry.nextConn) (subset : s'.known ⊆ s.known) :
    Numbered s' where
  taken h member := Nat.lt_of_lt_of_le (numbered.taken h (subset member)) numbers
  unique h member h' member' := numbered.unique h (subset member) h' (subset member')

/-- A handle that takes the next number has a number that nobody has. -/
theorem Numbered.of_fresh (numbered : Numbered s) {fresh : Handle}
    (takes : fresh.conn = s.registry.nextConn)
    (numbers : s'.registry.nextConn = s.registry.nextConn + 1)
    (subset : ∀ h ∈ s'.known, h ∈ s.known ∨ h = fresh) : Numbered s' := by
  have older : ∀ h ∈ s.known, h.conn < fresh.conn := by
    rw [takes]
    exact numbered.taken
  constructor
  · intro h member
    rw [numbers, ← takes]
    rcases subset h member with old | rfl
    · exact Nat.lt_succ_of_lt (older h old)
    · exact Nat.lt_succ_self _
  · intro h₁ member₁ h₂ member₂ same
    rcases subset h₁ member₁ with old₁ | rfl
    · rcases subset h₂ member₂ with old₂ | rfl
      · exact numbered.unique h₁ old₁ h₂ old₂ same
      · exact absurd same (Nat.ne_of_lt (older h₁ old₁))
    · rcases subset h₂ member₂ with old₂ | rfl
      · exact absurd same.symm (Nat.ne_of_lt (older h₂ old₂))
      · rfl

theorem known_of_found (found : s.connections[c]? = some conn) (handle : conn.handle? = some h) :
    h ∈ s.known :=
  List.mem_append_right _ (List.mem_filterMap.2 ⟨conn, List.mem_of_getElem? found, handle⟩)

theorem known_setConnection {h' : Handle} (member : h' ∈ (s.setConnection c conn').known) :
    h' ∈ s.known ∨ conn'.handle? = some h' := by
  unfold known setConnection at *
  rcases List.mem_append.1 member with entry | handle
  · exact .inl (List.mem_append_left _ entry)
  · obtain ⟨other, found, known⟩ := List.mem_filterMap.1 handle
    rcases List.mem_or_eq_of_mem_set found with old | rfl
    · exact .inl (List.mem_append_right _ (List.mem_filterMap.2 ⟨other, old, known⟩))
    · exact .inr known

/-! ## Steps that nobody notices -/

/-- A connection changed, and it is there as before. -/
structure Unnoticed (conn conn' : Connection) : Prop where
  present : ∀ d, conn'.isPresentAs d = conn.isPresentAs d
  calm : conn.isBetween = false → conn'.isBetween = false
  handle : ∀ h, conn'.handle? = some h → conn.handle? = some h

theorem unnoticed_of_stage (same : conn'.stage = conn.stage) : Unnoticed conn conn' where
  present d := by rw [Connection.isPresentAs, Connection.isPresentAs, same]
  calm calm := by rwa [Connection.isBetween, same]
  handle h handle := by rwa [Connection.handle?, same] at handle

theorem unnoticed_of_move {place place' : Place} (stage : conn.stage = .identified h place)
    (stage' : conn'.stage = .identified h place') (present : place'.isPresent = place.isPresent)
    (calm : place'.isBetween = false) : Unnoticed conn conn' where
  present d := by simp only [Connection.isPresentAs, stage, stage', present]
  calm _ := by simp only [Connection.isBetween, stage', calm]
  handle h handle := by
    simp only [Connection.handle?, stage'] at handle
    simp only [Connection.handle?, stage, handle]

theorem unnoticed_of_end (absent : ∀ d, conn.isPresentAs d = false)
    (stage' : conn'.stage = .ended) : Unnoticed conn conn' where
  present d := by
    rw [absent d]
    simp only [Connection.isPresentAs, stage']
  calm _ := by simp only [Connection.isBetween, stage']
  handle h handle := by
    simp only [Connection.handle?, stage'] at handle
    cases handle

/-- A server changed, and the same connections are there with the same entries. -/
structure Quiet (s s' : Server) : Prop where
  policy : s'.registry.policy = s.registry.policy
  entries : s'.registry.entries = s.registry.entries
  present : ∀ d, s'.countPresent d = s.countPresent d
  calm : Calm s → Calm s'
  numbered : Numbered s → Numbered s'

theorem Quiet.trans {s₁ s₂ : Server} (q₁ : Quiet s s₁) (q₂ : Quiet s₁ s₂) : Quiet s s₂ where
  policy := q₂.policy.trans q₁.policy
  entries := q₂.entries.trans q₁.entries
  present d := (q₂.present d).trans (q₁.present d)
  calm calm := q₂.calm (q₁.calm calm)
  numbered numbered := q₂.numbered (q₁.numbered numbered)

theorem quiet_of_keeps (same : s'.connections = s.connections)
    (keeps : Keeps s.registry s'.registry) : Quiet s s' where
  policy := keeps.policy
  entries := keeps.entries
  present d := by rw [countPresent, countPresent, same]
  calm calm := by rwa [Calm, same]
  numbered numbered := by
    refine numbered.of_subset keeps.nextConn ?_
    rw [known, known, same, keeps.entries]
    exact List.Subset.refl _

theorem quiet_setConnection (found : s.connections[c]? = some conn)
    (unnoticed : Unnoticed conn conn') : Quiet s (s.setConnection c conn') where
  policy := rfl
  entries := rfl
  present d := by
    have counted := countPresent_setConnection found conn' d
    rw [unnoticed.present d] at counted
    exact Nat.add_right_cancel counted
  calm calm := calm.setConnection (unnoticed.calm (calm conn (List.mem_of_getElem? found)))
  numbered numbered := by
    refine numbered.of_subset (Nat.le_refl _) fun h member => ?_
    rcases known_setConnection member with old | new
    · exact old
    · exact known_of_found found (unnoticed.handle h new)

/-! ## Servers that are left alone -/

/-- A hook does nothing to the entries. -/
def Reaction.KeepsEntries (reaction : Reaction) : Prop :=
  ∀ op ∈ reaction.operations, op.keepsEntries = true

/-- Only the connections of a server change its entries, as far as hooks and handlers go. -/
structure OthersKeepEntries (s : Server) : Prop where
  connected : ∀ h, (s.hooks.connected h).KeepsEntries
  disconnected : ∀ device, (s.hooks.disconnected device).KeepsEntries
  sink : ∀ sink, s.hooks.sink = some sink → ∀ h f, (sink h f).KeepsEntries
  handler : s.handler.KeepsEntries

/-- An event is nothing that others do to the entries. -/
def Event.keepsEntries : Event → Bool
  | .operate op => op.keepsEntries
  | .finishStop => false
  | _ => true

theorem OthersKeepEntries.of_sameSetup (others : OthersKeepEntries s) (same : SameSetup s s') :
    OthersKeepEntries s' := by
  obtain ⟨connected, disconnected, sink, handler⟩ := others
  rw [← same.hooks] at connected disconnected sink
  rw [← same.handler] at handler
  exact ⟨connected, disconnected, sink, handler⟩

theorem keeps_react {reaction : Reaction} (keeps : reaction.KeepsEntries) (s : Server)
    (occasion : Occasion) : Keeps s.registry (s.react occasion reaction).registry :=
  keeps_performAll keeps

theorem keeps_deliver (others : OthersKeepEntries s) (h : Handle) (f : Frame) :
    Keeps s.registry (s.deliver h f).registry := by
  unfold deliver
  cases takes : s.hooks.sink with
  | none => exact keeps_perform rfl
  | some sink => exact keeps_react (others.sink sink takes h f) s _

theorem keeps_answer (others : OthersKeepEntries s) (source : Source) :
    Keeps s.registry (s.answer source).2.registry := by
  unfold answer Exchange.serve
  dsimp only
  split
  · exact others.handler.keeps _ s.registry
  · exact Keeps.refl _
  · exact Keeps.refl _

/-! ## Most steps go unnoticed -/

theorem quiet_accept (s : Server) (peer : Option Network.Endpoint) (active : Nat) :
    Quiet s { s with connections := s.connections ++ [{ peer }], active } where
  policy := rfl
  entries := rfl
  present d := by
    simp only [countPresent, List.countP_append]
    rfl
  calm calm conn member := by
    rcases List.mem_append.1 member with old | new
    · exact calm conn old
    · rw [List.mem_singleton.1 new]
      rfl
  numbered numbered := by
    refine numbered.of_subset (Nat.le_refl _) ?_
    simp only [known, List.filterMap_append]
    exact List.append_subset.2 ⟨List.subset_append_left _ _, List.append_subset.2
      ⟨List.subset_append_right _ _, nofun⟩⟩

/-- A connection that says who it is gets a number that nobody has. -/
theorem quiet_identify (found : s.connections[c]? = some conn) (stage : conn.stage = .handshake)
    (device : DeviceId) (inbox : Bytes) :
    Quiet s ({ s with registry := (s.registry.connect device conn.peer).2 }.setConnection c
      { conn with
        inbox, stage := .identified (s.registry.connect device conn.peer).1 .named }) where
  policy := rfl
  entries := rfl
  present d := by
    have counted := countPresent_setConnection found
      { conn with
        inbox, stage := .identified (s.registry.connect device conn.peer).1 .named } d
    simp only [Connection.isPresentAs, stage] at counted
    exact counted
  calm calm := Calm.setConnection (s := { s with registry := _ }) calm rfl
  numbered numbered := by
    have takes : (s.registry.connect device conn.peer).1.conn = s.registry.nextConn := rfl
    refine numbered.of_fresh takes rfl fun h member => ?_
    rcases known_setConnection member with old | new
    · exact .inl old
    · exact .inr (Option.some.inj new).symm

theorem absent_of_handshake (stage : conn.stage = .handshake) (d : DeviceId) :
    conn.isPresentAs d = false := by
  simp only [Connection.isPresentAs, stage]

theorem quiet_finish (found : s.connections[c]? = some conn)
    (absent : ∀ d, conn.isPresentAs d = false) (conn' : Connection) :
    Quiet s (s.finish c conn') := by
  have ended : Quiet s (s.setConnection c { conn' with stage := .ended }) :=
    quiet_setConnection found (unnoticed_of_end absent rfl)
  exact ended.trans (quiet_of_keeps rfl (Keeps.refl _))

theorem quiet_part (found : s.connections[c]? = some conn)
    (stage : conn.stage = .identified h .parted) (written : List Bytes) :
    Quiet s (s.part c conn h written) := by
  have dropped : Quiet s (s.operate (.dropWriter h.conn)) := quiet_of_keeps rfl (keeps_perform rfl)
  have absent : ∀ d, conn.isPresentAs d = false := fun d => by
    simp only [Connection.isPresentAs, stage]
    rfl
  exact dropped.trans (quiet_finish (s := s.operate (.dropWriter h.conn)) found absent _)

/-- The moves that are neither part of coming nor of leaving. -/
theorem quiet_move {place place' : Place} (others : OthersKeepEntries s)
    (found : s.connections[c]? = some conn) (stage : conn.stage = .identified h place)
    (moves : s.move? h place = some (place', s')) (calm : conn.isBetween = false)
    (stays : place ≠ .named ∧ place ≠ .leaving) :
    Quiet s (s'.setConnection c { conn with stage := .identified h place' }) := by
  have same := connections_of_move? moves
  have found' : s'.connections[c]? = some conn := by rwa [same]
  simp only [Connection.isBetween, stage] at calm
  cases place with
  | named => exact absurd rfl stays.1
  | leaving => exact absurd rfl stays.2
  | entered => cases calm
  | removed => cases calm
  | judged => cases calm
  | waiting => cases moves
  | parted => cases moves
  | announced =>
    cases moves
    exact (quiet_of_keeps same (keeps_perform rfl)).trans
      (quiet_setConnection found' (unnoticed_of_move stage rfl rfl rfl))
  | greeted =>
    cases moves
    exact (quiet_of_keeps same (keeps_react (others.connected h) s _)).trans
      (quiet_setConnection found' (unnoticed_of_move stage rfl rfl rfl))
  | ready =>
    cases moves
    refine quiet_setConnection found' (unnoticed_of_move stage rfl ?_ ?_)
    · by_cases runs : s.lifecycle = .running <;> simp only [runs, if_true, if_false] <;> rfl
    · by_cases runs : s.lifecycle = .running <;> simp only [runs, if_true, if_false] <;> rfl
  | departed =>
    cases moves
    exact (quiet_of_keeps same (keeps_react (others.disconnected h.device) s _)).trans
      (quiet_setConnection found' (unnoticed_of_move stage rfl rfl rfl))

/-- A step that is neither part of coming nor of leaving goes unnoticed. -/
theorem Transition.quiet {e : Event} (t : Transition s e s') (others : OthersKeepEntries s)
    (own : e.keepsEntries = true) (calm : Calm s) (single : s.stride e = 1) : Quiet s s' := by
  cases t with
  | accept peer _ => exact quiet_accept s peer _
  | arrive bytes found _ => exact quiet_setConnection found (unnoticed_of_stage rfl)
  | hangUp found => exact quiet_setConnection found (unnoticed_of_stage rfl)
  | move found stage moves =>
    apply quiet_move others found stage moves (calm _ (List.mem_of_getElem? found))
    simp only [stride, standing?_of_found found stage] at single
    constructor
    · rintro rfl
      cases single
    · rintro rfl
      cases single
  | part found stage => exact quiet_part found stage _
  | identify found stage => exact quiet_identify found stage _ _
  | refuse found stage => exact quiet_finish found (absent_of_handshake stage) _
  | leave found stage => exact quiet_finish found (absent_of_handshake stage) _
  | @receive c conn h f inbox found stage =>
    have delivered : Quiet s (s.deliver h f) :=
      quiet_of_keeps (connections_deliver s h f) (keeps_deliver others h f)
    exact delivered.trans (quiet_setConnection ((connections_deliver s h f).symm ▸ found)
      (unnoticed_of_move stage rfl rfl rfl))
  | noticeEnd found stage => exact quiet_setConnection found (unnoticed_of_move stage rfl rfl rfl)
  | giveUp found stage => exact quiet_finish found (absent_of_handshake stage) _
  | abort found stage => exact quiet_part found stage _
  | @noticeClose c conn h found stage =>
    have noticed : Quiet s (s.operate (.noticeClose h.conn)) :=
      quiet_of_keeps rfl (keeps_perform rfl)
    exact noticed.trans (quiet_setConnection found (unnoticed_of_move stage rfl rfl rfl))
  | noticeStop found stage =>
    exact quiet_setConnection found (unnoticed_of_move stage rfl rfl rfl)
  | @write c conn h found handle =>
    have drained : Quiet s (s.operate (.drain h.conn)) := quiet_of_keeps rfl (keeps_perform rfl)
    exact drained.trans (quiet_setConnection found (unnoticed_of_stage rfl))
  | failWrite found handle => exact quiet_of_keeps rfl (keeps_perform rfl)
  | operate op => exact quiet_of_keeps rfl (keeps_perform own)
  | exchange source => exact quiet_of_keeps rfl (keeps_answer others source)
  | signalStop => exact quiet_of_keeps rfl (Keeps.refl _)
  | unbind => exact quiet_of_keeps rfl (Keeps.refl _)
  | finishStop => cases own

end DeviceLink.Server
