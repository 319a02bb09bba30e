-- What a moment of a story does: to the registry, to the notes, and to the connections. Each case
-- of a step is looked at once here; what is proved of stories goes through the few turns that a
-- connection can take.
import DeviceLink.Proofs.Server.Presence
import DeviceLink.Proofs.Server.Story

namespace DeviceLink.Server

open Registry (Operation)

variable {acts : Request → Registry → List Operation} {s s' : Server} {e : Event}

theorem handleOf?_of_found {c : ClientId} {conn : Connection} {h : Handle}
    (found : s.connections[c]? = some conn) (handle : conn.handle? = some h) :
    s.handleOf? c = some h := by
  unfold handleOf?
  rw [found]
  exact handle

theorem standing?_of_other {c : ClientId} {conn : Connection}
    (found : s.connections[c]? = some conn) (stage : ∀ h place, conn.stage ≠ .identified h place) :
    s.standing? c = none := by
  cases stands : s.standing? c with
  | none => rfl
  | some x =>
    obtain ⟨conn', found', stage'⟩ := standing?_eq_some_iff.1 stands
    rw [found] at found'
    cases found'
    exact absurd stage' (stage _ _)

/-! ## The registry -/

theorem registry_of_move? {h : Handle} {place place' : Place}
    (moves : s.move? h place = some (place', s')) :
    s'.registry = s.registry.after (s.doings h place) := by
  cases place with
  | waiting => cases moves
  | parted => cases moves
  | judged replaced => cases replaced <;> cases moves <;> rfl
  | _ =>
    cases moves
    rfl

theorem registry_answer (does : Does acts s.handler) (source : Source) :
    (s.answer source).2.registry =
      s.registry.after (Moment.operations acts ⟨s, .exchange source⟩) := by
  unfold answer Exchange.serve Moment.operations
  dsimp only
  cases (Exchange.Inbound.read s.limit source).1 with
  | error reason => rfl
  | ok inbound =>
    cases inbound with
    | request request => exact does request s.registry
    | rejected typ => rfl

/-- Whatever happens to the registry at a moment are the operations of the moment. -/
theorem Transition.registry_eq (t : Transition s e s') (does : Does acts s.handler) :
    s'.registry = s.registry.after (Moment.operations acts ⟨s, e⟩) := by
  cases t with
  | move found stage moves =>
    have moved := registry_of_move? moves
    simp only [Moment.operations, standing?_of_found found stage]
    exact moved
  | part found stage =>
    simp only [Moment.operations, standing?_of_found found stage]
    rfl
  | identify found stage decoded named =>
    simp only [Moment.operations, intake, found, decoded, stage, named]
    rfl
  | refuse found stage decoded unnamed =>
    simp only [Moment.operations, intake, found, decoded, stage, unnamed]
    rfl
  | leave found stage incomplete =>
    simp only [Moment.operations, intake, found, incomplete]
    rfl
  | receive found stage decoded =>
    simp only [Moment.operations, intake, found, decoded, stage, deliver]
    cases s.hooks.sink <;> rfl
  | noticeEnd found stage incomplete =>
    simp only [Moment.operations, intake, found, incomplete]
    rfl
  | giveUp found stage =>
    have nobody := standing?_of_other found (fun h place => by simp [stage])
    simp only [Moment.operations, nobody]
    rfl
  | abort found stage =>
    simp only [Moment.operations, standing?_of_found found stage]
    rfl
  | @noticeClose c conn h found stage =>
    have handle : conn.handle? = some h := by simp only [Connection.handle?, stage]
    simp only [Moment.operations, handleOf?_of_found found handle]
    rfl
  | write found handle =>
    simp only [Moment.operations, handleOf?_of_found found handle]
    rfl
  | failWrite found handle =>
    simp only [Moment.operations, handleOf?_of_found found handle]
    rfl
  | exchange source => exact registry_answer does source
  | _ => rfl

/-! ## The notes -/

theorem passages_react (s : Server) (occasion : Occasion) (reaction : Reaction) :
    (s.react occasion reaction).passages =
      s.passages ++ if occasion.isPassage then [occasion] else [] := by
  cases passage : occasion.isPassage <;> simp [react, passages, passage]

theorem passages_of_move? {h : Handle} {place place' : Place}
    (moves : s.move? h place = some (place', s')) :
    s'.passages = s.passages ++ ((place.deed? h).bind (·.occasion?)).toList := by
  cases place with
  | waiting => cases moves
  | parted => cases moves
  | judged replaced => cases replaced <;> cases moves <;> exact (List.append_nil _).symm
  | greeted =>
    cases moves
    exact passages_react s _ _
  | departed =>
    cases moves
    exact passages_react s _ _
  | _ =>
    cases moves
    exact (List.append_nil _).symm

/-- What is noted of devices that come and go are the calls of the moments. -/
theorem Transition.passages_eq (t : Transition s e s') :
    s'.passages = s.passages ++ (Moment.call? ⟨s, e⟩).toList := by
  cases t with
  | move found stage moves =>
    have moved := passages_of_move? moves
    simp only [Moment.call?, standing?_of_found found stage]
    exact moved
  | part found stage =>
    simp only [Moment.call?, standing?_of_found found stage]
    exact (List.append_nil _).symm
  | @receive c conn h f inbox found stage decoded =>
    have delivered : (s.deliver h f).passages = s.passages := by
      unfold deliver
      cases s.hooks.sink with
      | none => rfl
      | some sink => exact (passages_react s _ _).trans (List.append_nil _)
    exact delivered.trans (List.append_nil _).symm
  | _ => exact (List.append_nil _).symm

/-! ## The connections -/

/-- What becomes of a connection at a moment that is its own. -/
inductive How (acts : Request → Registry → List Operation) (m : Moment) (c : ClientId)
    (conn conn' : Connection) : Prop
  | still (stage : conn'.stage = conn.stage)
      (inbox : conn.stage = .handshake → conn'.inbox = conn.inbox ++ m.bytesFrom c)
      (deeds : m.deedsOf c = [])
  | identify {h : Handle} (stage : conn.stage = .handshake)
      (stage' : conn'.stage = .identified h .named)
      (first : firstDevice? m.server.cap conn.inbox = some h.device)
      (fresh : h.conn = m.server.registry.nextConn)
      (operations : m.operations acts = [.connect h.device conn.peer])
      (deeds : m.deedsOf c = [.identified h])
  | giveUp (stage : conn.stage = .handshake) (stage' : conn'.stage = .ended)
      (deeds : m.deedsOf c = [])
  | enter {h : Handle} (stage : conn.stage = .identified h .named)
      (stage' : conn'.stage = .identified h .entered)
      (operations : m.operations acts = [.register h]) (deeds : m.deedsOf c = [.registered h])
  | leave {h : Handle} (stage : conn.stage = .identified h .leaving)
      (stage' : conn'.stage = .identified h .removed)
      (operations : m.operations acts = [.unregisterConnection h.conn])
      (deeds : m.deedsOf c = [.removed h])
  | move {h : Handle} {place place' : Place} (stage : conn.stage = .identified h place)
      (stage' : conn'.stage = .identified h place') (entered : place ≠ .named)
      (entered' : place' ≠ .named) (present : place'.isPresent = place.isPresent)
      (deeds : place'.deeds h = place.deeds h ++ m.deedsOf c)
      (passing : ∀ h', .identified h' ∉ m.deedsOf c ∧ .registered h' ∉ m.deedsOf c)
  | part {h : Handle} (stage : conn.stage = .identified h .parted) (stage' : conn'.stage = .ended)
      (deeds : m.deedsOf c = [])

/-- A connection comes to its end. -/
def ends (conn conn' : Connection) : Bool := conn'.isEnded && !conn.isEnded

/-- What becomes of the connections at a moment, and of their count. -/
inductive Turn (acts : Request → Registry → List Operation) (m : Moment) (s' : Server) : Prop
  | accept (peer : Option Network.Endpoint) (event : m.event = .accept peer)
      (connections : s'.connections = m.server.connections ++ [({ peer } : Connection)])
      (active : s'.active = m.server.active + 1)
      (idle : ∀ c, m.deedsOf c = [] ∧ m.bytesFrom c = [])
  | nothing (connections : s'.connections = m.server.connections)
      (active : s'.active = m.server.active) (idle : ∀ c, m.deedsOf c = [] ∧ m.bytesFrom c = [])
  | act {c : ClientId} {conn conn' : Connection} (found : m.server.connections[c]? = some conn)
      (connections : s'.connections = m.server.connections.set c conn')
      (how : How acts m c conn conn')
      (active : s'.active = m.server.active - (ends conn conn').toNat)
      (idle : ∀ c', c' ≠ c → m.deedsOf c' = [] ∧ m.bytesFrom c' = [])

section

variable {c c' : ClientId} {conn : Connection} {h : Handle} {place : Place}

theorem deedsOf_read_of_ne (other : c' ≠ c) : Moment.deedsOf ⟨s, .read c⟩ c' = [] :=
  if_neg (Ne.symm other)

theorem deedsOf_proceed_of_ne (other : c' ≠ c) : Moment.deedsOf ⟨s, .proceed c⟩ c' = [] :=
  if_neg (Ne.symm other)

theorem deedsOf_proceed (found : s.connections[c]? = some conn)
    (stage : conn.stage = .identified h place) :
    Moment.deedsOf ⟨s, .proceed c⟩ c = (place.deed? h).toList := by
  simp [Moment.deedsOf, standing?_of_found found stage]

/-- A moment of reading is no deed but for a connection that says who it is. -/
theorem deedsOf_read (found : s.connections[c]? = some conn) :
    Moment.deedsOf ⟨s, .read c⟩ c =
      if conn.stage = .handshake then
        (firstDevice? s.cap conn.inbox).toList.map fun device =>
          .identified (s.registry.connect device conn.peer).1
      else [] := by
  by_cases stage : conn.stage = .handshake
  · cases first : firstDevice? s.cap conn.inbox <;>
      simp [Moment.deedsOf, newHandle?, found, stage, first]
  · simp [Moment.deedsOf, newHandle?, found, stage]

end

section

variable {conn conn' : Connection}

theorem not_ends_of_stage (same : conn'.stage = conn.stage) : ends conn conn' = false := by
  simp [ends, Connection.isEnded, same]

theorem not_ends_of_identified {h : Handle} {place : Place}
    (stage' : conn'.stage = .identified h place) : ends conn conn' = false := by
  simp [ends, Connection.isEnded, stage']

theorem ends_of_ended (stage : conn.stage ≠ .ended) (stage' : conn'.stage = .ended) :
    ends conn conn' = true := by
  simp [ends, Connection.isEnded, stage, stage']

end

theorem how_of_move? {c : ClientId} {conn conn' : Connection} {h : Handle} {place place' : Place}
    {moved : Server} (found : s.connections[c]? = some conn)
    (stage : conn.stage = .identified h place) (stage' : conn'.stage = .identified h place')
    (moves : s.move? h place = some (place', moved)) :
    How acts ⟨s, .proceed c⟩ c conn conn' := by
  have deeds := deedsOf_proceed found stage
  have operations : Moment.operations acts ⟨s, .proceed c⟩ = s.doings h place := by
    simp only [Moment.operations, standing?_of_found found stage]
    rfl
  cases place with
  | named =>
    cases moves
    exact .enter stage stage' operations deeds
  | leaving =>
    cases moves
    exact .leave stage stage' operations deeds
  | waiting => cases moves
  | parted => cases moves
  | ready =>
    cases moves
    by_cases runs : s.lifecycle = .running
    · simp only [runs, if_true] at stage'
      exact .move stage stage' nofun nofun rfl (by rw [deeds]; rfl) (by simp [deeds, Place.deed?])
    · simp only [runs, if_false] at stage'
      exact .move stage stage' nofun nofun rfl (by rw [deeds]; rfl) (by simp [deeds, Place.deed?])
  | _ =>
    cases moves
    exact .move stage stage' nofun nofun rfl (by rw [deeds]; rfl) (by simp [deeds, Place.deed?])

theorem active_of_move? {h : Handle} {place place' : Place}
    (moves : s.move? h place = some (place', s')) : s'.active = s.active := by
  cases place with
  | waiting => cases moves
  | parted => cases moves
  | judged replaced => cases replaced <;> cases moves <;> rfl
  | _ =>
    cases moves
    rfl

theorem active_deliver (s : Server) (h : Handle) (f : Frame) :
    (s.deliver h f).active = s.active := by
  unfold deliver
  cases s.hooks.sink <;> rfl

section

variable {c : ClientId} {conn conn' : Connection} {h : Handle} {place : Place}

/-- A turn that leaves a connection where it is. -/
theorem Turn.of_stage (found : s.connections[c]? = some conn)
    (connections : s'.connections = s.connections.set c conn') (active : s'.active = s.active)
    (stage : conn'.stage = conn.stage)
    (inbox : conn'.inbox = conn.inbox ++ Moment.bytesFrom ⟨s, e⟩ c)
    (deeds : ∀ c, Moment.deedsOf ⟨s, e⟩ c = [])
    (others : ∀ c', c' ≠ c → Moment.bytesFrom ⟨s, e⟩ c' = []) : Turn acts ⟨s, e⟩ s' := by
  refine .act found connections (.still stage (fun _ => inbox) (deeds c)) ?_
    fun c' other => ⟨deeds c', others c' other⟩
  rw [active, not_ends_of_stage stage]
  rfl

/-- A turn of a connection that ends without having said who it is. -/
theorem Turn.of_handshake (found : s.connections[c]? = some conn)
    (connections : s'.connections = s.connections.set c conn') (active : s'.active = s.active - 1)
    (stage : conn.stage = .handshake) (stage' : conn'.stage = .ended)
    (idle : ∀ c, Moment.deedsOf ⟨s, e⟩ c = [] ∧ Moment.bytesFrom ⟨s, e⟩ c = []) :
    Turn acts ⟨s, e⟩ s' := by
  refine .act found connections (.giveUp stage stage' (idle c).1) ?_ fun c' _ => idle c'
  rw [active, ends_of_ended (by simp [stage]) stage']
  rfl

/-- A turn of a connection that waited. -/
theorem Turn.of_waiting (found : s.connections[c]? = some conn)
    (connections : s'.connections = s.connections.set c conn') (active : s'.active = s.active)
    (stage : conn.stage = .identified h .waiting) (stage' : conn'.stage = .identified h place)
    (on : place = .ready ∨ place = .leaving)
    (idle : ∀ c, Moment.deedsOf ⟨s, e⟩ c = [] ∧ Moment.bytesFrom ⟨s, e⟩ c = []) :
    Turn acts ⟨s, e⟩ s' := by
  have how : How acts ⟨s, e⟩ c conn conn' := by
    rcases on with rfl | rfl
    · exact .move stage stage' nofun nofun rfl (by rw [(idle c).1]; rfl) (by simp [(idle c).1])
    · exact .move stage stage' nofun nofun rfl (by rw [(idle c).1]; rfl) (by simp [(idle c).1])
  refine .act found connections how ?_ fun c' _ => idle c'
  rw [active, not_ends_of_identified stage']
  rfl

/-- Reading is no deed for a connection that has said who it is, or cannot. -/
theorem idle_read (found : s.connections[c]? = some conn)
    (nobody : conn.stage = .handshake → firstDevice? s.cap conn.inbox = none) (c' : ClientId) :
    Moment.deedsOf ⟨s, .read c⟩ c' = [] ∧ Moment.bytesFrom ⟨s, .read c⟩ c' = [] := by
  refine ⟨?_, rfl⟩
  by_cases same : c' = c
  · subst same
    rw [deedsOf_read found]
    split
    · rename_i stage
      rw [nobody stage]
      rfl
    · rfl
  · exact deedsOf_read_of_ne same

end

/-- A moment takes one of the turns. -/
theorem Transition.turn (t : Transition s e s') : Turn acts ⟨s, e⟩ s' := by
  cases t with
  | accept peer => exact .accept peer rfl rfl rfl fun c => ⟨rfl, rfl⟩
  | @arrive c conn bytes found =>
    refine .of_stage found rfl rfl rfl ?_ (fun _ => rfl) fun c' other => if_neg (Ne.symm other)
    simp [Moment.bytesFrom]
  | hangUp found =>
    exact .of_stage found rfl rfl rfl (List.append_nil _).symm (fun _ => rfl) fun _ _ => rfl
  | write found handle =>
    exact .of_stage found rfl rfl rfl (List.append_nil _).symm (fun _ => rfl) fun _ _ => rfl
  | @move c conn h place place' moved found stage moves =>
    have how : How acts ⟨s, .proceed c⟩ c conn { conn with stage := .identified h place' } :=
      how_of_move? found stage rfl moves
    have connections := connections_of_move? moves
    have active := active_of_move? moves
    refine .act found ?_ how ?_ fun c' other => ⟨deedsOf_proceed_of_ne other, rfl⟩
    · simp [setConnection, connections]
    · rw [not_ends_of_identified rfl]
      exact active
  | part found stage =>
    refine .act found rfl (.part stage rfl (deedsOf_proceed found stage)) ?_
      fun c' other => ⟨deedsOf_proceed_of_ne other, rfl⟩
    rw [ends_of_ended (by simp [stage]) rfl]
    rfl
  | @identify c conn f inbox device found stage decoded named =>
    have first : firstDevice? s.cap conn.inbox = some device := by
      simp [firstDevice?, decoded, named]
    have deeds : Moment.deedsOf ⟨s, .read c⟩ c =
        [.identified (s.registry.connect device conn.peer).1] := by
      rw [deedsOf_read found, if_pos stage, first]
      rfl
    have operations : Moment.operations acts ⟨s, .read c⟩ = [.connect device conn.peer] := by
      simp [Moment.operations, intake, found, decoded, stage, named]
    refine .act found rfl (.identify stage rfl first rfl operations deeds) ?_
      fun c' other => ⟨deedsOf_read_of_ne other, rfl⟩
    rw [not_ends_of_identified rfl]
    rfl
  | refuse found stage decoded unnamed =>
    exact .of_handshake found rfl rfl stage rfl
      (idle_read found fun _ => by simp [firstDevice?, decoded, unnamed])
  | leave found stage incomplete =>
    exact .of_handshake found rfl rfl stage rfl
      (idle_read found fun _ => by simp [firstDevice?, incomplete])
  | @receive c conn h f inbox found stage =>
    have connections := connections_deliver s h f
    have set : ((s.deliver h f).setConnection c
        { conn with inbox, stage := .identified h .ready }).connections =
        s.connections.set c { conn with inbox, stage := .identified h .ready } := by
      rw [setConnection, connections]
    exact .of_waiting found set (active_deliver s h f) stage rfl (.inl rfl)
      (idle_read found fun other => by simp [stage] at other)
  | noticeEnd found stage =>
    exact .of_waiting found rfl rfl stage rfl (.inr rfl)
      (idle_read found fun other => by simp [stage] at other)
  | giveUp found stage => exact .of_handshake found rfl rfl stage rfl fun _ => ⟨rfl, rfl⟩
  | abort found stage =>
    refine .act found rfl (.part stage rfl rfl) ?_ fun _ _ => ⟨rfl, rfl⟩
    rw [ends_of_ended (by simp [stage]) rfl]
    rfl
  | noticeClose found stage =>
    exact .of_waiting found rfl rfl stage rfl (.inr rfl) fun _ => ⟨rfl, rfl⟩
  | noticeStop found stage =>
    exact .of_waiting found rfl rfl stage rfl (.inr rfl) fun _ => ⟨rfl, rfl⟩
  | _ => exact .nothing rfl rfl fun _ => ⟨rfl, rfl⟩

end DeviceLink.Server
