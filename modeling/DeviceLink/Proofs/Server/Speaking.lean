-- What a connection is told. If nobody pushes anything to it, it gets its greeting and then each
-- frame that it sent, and none of it depends on what other connections do.
import DeviceLink.Proofs.DeviceId
import DeviceLink.Proofs.Registry.Undisturbed
import DeviceLink.Proofs.Server.Hearing
import DeviceLink.Proofs.Server.Tracking

namespace DeviceLink.Server

open Registry (Operation Undisturbed Faithful)

/-! ## Others -/

/-- What hooks, handlers and other users of the registry do to it at a moment. -/
def Moment.foreign (acts : Request → Registry → List Operation) (m : Moment) : List Operation :=
  match m.event with
  | .proceed c =>
    match m.server.standing? c with
    | some (_, .greeted) | some (_, .departed) => m.operations acts
    | _ => []
  | .read c =>
    match m.server.hooks.sink, m.server.ready? c with
    | some sink, some (h, f) => (sink h f).operations
    | _, _ => []
  | .operate _ | .exchange _ => m.operations acts
  | _ => []

/-- Nobody but the server itself sends anything to a connection or to its device, or does what only
its writer does, and whoever registers the connection does so under its device. -/
structure LeftAlone (acts : Request → Registry → List Operation) (start : Server)
    (story : List Moment) (h : Handle) : Prop where
  spared : ∀ m ∈ story, ∀ op ∈ m.foreign acts, op.spares h = true
  faithful : Faithful h (outsiders acts start story)

/-- The connection whose moment it is. -/
def Event.client? : Event → Option ClientId
  | .arrive c _ | .hangUp c | .proceed c | .read c | .expire c | .noticeClose c | .noticeStop c
  | .write c | .failWrite c => some c
  | _ => none

/-- The connection whose writer does something at a moment. -/
def Moment.writes? (m : Moment) : Option Handle :=
  match m.event with
  | .write c | .failWrite c => m.server.handleOf? c
  | .proceed c | .expire c =>
    match m.server.standing? c with
    | some (h, .parted) => some h
    | _ => none
  | _ => none

variable {acts : Request → Registry → List Operation} {start s s' : Server} {e : Event}
  {story : List Moment} {m : Moment} {c : ClientId} {conn conn' : Connection} {h h' : Handle}
  {place : Place}

theorem LeftAlone.before (alone : LeftAlone acts start (story ++ [m]) h) :
    LeftAlone acts start story h where
  spared m' member := alone.spared m' (List.mem_append_left _ member)
  faithful e member := alone.faithful e (by simp [member])

/-- What a connection does as it moves on concerns nobody else. -/
theorem spares_doings {op : Operation} (own : place = .greeted ∨ place = .departed → op.spares h)
    (other : place = .announced ∨ place = .parted → h'.conn ≠ h.conn)
    (member : op ∈ s.doings h' place) : op.spares h = true := by
  cases place with
  | greeted => exact own (.inl rfl)
  | departed => exact own (.inr rfl)
  | announced =>
    obtain rfl := List.mem_singleton.1 member
    exact bne_iff_ne.2 (other (.inl rfl))
  | parted =>
    obtain rfl := List.mem_singleton.1 member
    exact bne_iff_ne.2 (other (.inr rfl))
  | judged replaced =>
    cases replaced with
    | true => cases member
    | false =>
      obtain rfl := List.mem_singleton.1 member
      rfl
  | ready => cases member
  | waiting => cases member
  | removed => cases member
  | _ =>
    obtain rfl := List.mem_singleton.1 member
    rfl

theorem handle?_of_stage (stage : conn.stage = .identified h place) : conn.handle? = some h := by
  simp only [Connection.handle?, stage]

theorem handleOf?_of_standing? (stands : s.standing? c = some (h, place)) :
    s.handleOf? c = some h := by
  obtain ⟨conn, found, stage⟩ := standing?_eq_some_iff.1 stands
  exact handleOf?_of_found found (handle?_of_stage stage)

/-- At a moment that is not its own, nothing is done that concerns a connection. -/
theorem spares_of_other (noSink : m.server.hooks.sink = none)
    (foreign : ∀ op ∈ m.foreign acts, op.spares h = true)
    (others : ∀ c' h', m.event.client? = some c' → m.server.handleOf? c' = some h' →
      h'.conn ≠ h.conn) :
    ∀ op ∈ m.operations acts, op.spares h = true := by
  obtain ⟨s, e⟩ := m
  intro op member
  have single : ∀ {c' : ClientId} (f : Handle → Operation), e.client? = some c' →
      (∀ h', h'.conn ≠ h.conn → (f h').spares h = true) →
      op ∈ (s.handleOf? c').toList.map f → op.spares h = true := by
    intro c' f own spared here
    obtain ⟨h', handle, rfl⟩ := List.mem_map.1 here
    exact spared h' (others c' h' own (Option.mem_toList.1 handle))
  cases e with
  | operate op' => exact foreign op member
  | exchange source => exact foreign op member
  | finishStop =>
    obtain rfl := List.mem_singleton.1 member
    rfl
  | write c' => exact single (.drain ·.conn) rfl (fun h' other => bne_iff_ne.2 other) member
  | failWrite c' =>
    exact single (.dropWriter ·.conn) rfl (fun h' other => bne_iff_ne.2 other) member
  | noticeClose c' => exact single (.noticeClose ·.conn) rfl (fun h' other => rfl) member
  | proceed c' =>
    cases stands : s.standing? c' with
    | none => simp [Moment.operations, stands] at member
    | some x =>
      obtain ⟨h', place⟩ := x
      have doings : Moment.operations acts ⟨s, .proceed c'⟩ = s.doings h' place := by
        simp [Moment.operations, stands]
      refine spares_doings (fun called => foreign op ?_)
        (fun _ => others c' h' rfl (handleOf?_of_standing? stands)) (doings ▸ member)
      rcases called with rfl | rfl
      · simpa only [Moment.foreign, stands] using member
      · simpa only [Moment.foreign, stands] using member
  | expire c' =>
    unfold Moment.operations at member
    dsimp only at member
    split at member
    · rename_i h' stands
      obtain rfl := List.mem_singleton.1 member
      exact bne_iff_ne.2 (others c' h' rfl (handleOf?_of_standing? stands))
    · cases member
  | read c' =>
    unfold Moment.operations intake at member
    dsimp only at member noSink
    rw [noSink] at member
    split at member
    · cases member
    · rename_i conn found
      split at member
      · obtain ⟨device, _, rfl⟩ := List.mem_map.1 member
        rfl
      · rename_i h' decoded stage
        obtain rfl := List.mem_singleton.1 member
        exact bne_iff_ne.2 (others c' h' rfl (handleOf?_of_found found (handle?_of_stage stage)))
      · cases member
  | _ => cases member

/-! ## The moments of a connection -/

/-- A moment changes no connection but the one whose moment it is. -/
theorem Transition.connections_of_other (t : Transition s e s') (other : e.client? ≠ some c)
    (found : s.connections[c]? = some conn) : s'.connections[c]? = some conn := by
  have set : ∀ {c₀ : ClientId} (conn₀ : Connection), c₀ ≠ c →
      (s.connections.set c₀ conn₀)[c]? = some conn := by
    intro c₀ conn₀ ne
    rw [List.getElem?_set_ne ne, found]
  have apart : ∀ {c₀ : ClientId}, e.client? = some c₀ → c₀ ≠ c := by
    rintro c₀ own rfl
    exact other own
  cases t with
  | accept peer =>
    change (s.connections ++ [({ peer } : Connection)])[c]? = _
    rw [List.getElem?_append_left (List.getElem?_eq_some_iff.1 found).1, found]
  | arrive => exact set _ (apart rfl)
  | hangUp => exact set _ (apart rfl)
  | move _ _ moves =>
    rw [setConnection, connections_of_move? moves]
    exact set _ (apart rfl)
  | receive =>
    rw [setConnection, connections_deliver]
    exact set _ (apart rfl)
  | part => exact set _ (apart rfl)
  | identify => exact set _ (apart rfl)
  | refuse => exact set _ (apart rfl)
  | leave => exact set _ (apart rfl)
  | noticeEnd => exact set _ (apart rfl)
  | giveUp => exact set _ (apart rfl)
  | abort => exact set _ (apart rfl)
  | noticeClose => exact set _ (apart rfl)
  | noticeStop => exact set _ (apart rfl)
  | write => exact set _ (apart rfl)
  | _ => exact found

theorem intake?_of_other (other : e.client? ≠ some c) : Moment.intake? ⟨s, e⟩ c = none := by
  cases e with
  | read c' => exact intake?_read_of_ne fun same => other (same ▸ rfl)
  | _ => rfl

theorem same_of_client? {c₀ : ClientId} {conn₀ : Connection} (own : e.client? = some c)
    (found : s.connections[c]? = some conn) (own₀ : e.client? = some c₀)
    (found₀ : s.connections[c₀]? = some conn₀) : c = c₀ ∧ conn = conn₀ := by
  cases own₀.symm.trans own
  exact ⟨rfl, Option.some.inj (found.symm.trans found₀)⟩

/-- A writer does something at a moment of its connection only. -/
theorem client?_of_writes? (writes : m.writes? = some h) :
    ∃ c, m.event.client? = some c ∧ m.server.handleOf? c = some h := by
  obtain ⟨s, e⟩ := m
  unfold Moment.writes? at writes
  cases e with
  | write c => exact ⟨c, rfl, writes⟩
  | failWrite c => exact ⟨c, rfl, writes⟩
  | proceed c =>
    dsimp only at writes
    split at writes
    · rename_i stands
      cases writes
      exact ⟨c, rfl, handleOf?_of_standing? stands⟩
    · cases writes
  | expire c =>
    dsimp only at writes
    split at writes
    · rename_i stands
      cases writes
      exact ⟨c, rfl, handleOf?_of_standing? stands⟩
    · cases writes
  | _ => cases writes

theorem writes?_of_parted (stands : s.standing? c = some (h, .parted)) :
    Moment.writes? ⟨s, .proceed c⟩ = some h ∧ Moment.writes? ⟨s, .expire c⟩ = some h := by
  simp only [Moment.writes?, stands, and_self]

theorem writes?_of_move? {place' : Place} {moved : Server} (found : s.connections[c]? = some conn)
    (stage : conn.stage = .identified h place) (moves : s.move? h place = some (place', moved)) :
    Moment.writes? ⟨s, .proceed c⟩ = none := by
  have stands := standing?_of_found found stage
  unfold Moment.writes?
  dsimp only
  split
  · rename_i parted
    cases stands.symm.trans parted
    cases moves
  · rfl

/-- Nothing is written to a connection while its writer does nothing. -/
theorem Transition.sent_of_idle (t : Transition s e s')
    (idle : e.client? = some c → Moment.writes? ⟨s, e⟩ = none)
    (found : s.connections[c]? = some conn) (found' : s'.connections[c]? = some conn') :
    conn'.sent = conn.sent := by
  by_cases own : e.client? = some c
  · have here : ∀ {conn₀ : Connection}, s'.connections = s.connections.set c conn₀ →
        conn₀.sent = conn.sent → conn'.sent = conn.sent := by
      intro conn₀ set kept
      rw [set, List.getElem?_set_self (List.getElem?_eq_some_iff.1 found).1] at found'
      cases found'
      exact kept
    have idle := idle own
    cases t with
    | arrive bytes found₀ =>
      obtain ⟨rfl, rfl⟩ := same_of_client? own found rfl found₀
      exact here rfl rfl
    | hangUp found₀ =>
      obtain ⟨rfl, rfl⟩ := same_of_client? own found rfl found₀
      exact here rfl rfl
    | move found₀ stage moves =>
      obtain ⟨rfl, rfl⟩ := same_of_client? own found rfl found₀
      exact here (congrArg (List.set · c _) (connections_of_move? moves)) rfl
    | part found₀ stage =>
      have writes := (writes?_of_parted (standing?_of_found found₀ stage)).1
      cases idle.symm.trans writes
    | identify found₀ =>
      obtain ⟨rfl, rfl⟩ := same_of_client? own found rfl found₀
      exact here rfl rfl
    | refuse found₀ =>
      obtain ⟨rfl, rfl⟩ := same_of_client? own found rfl found₀
      exact here rfl rfl
    | leave found₀ =>
      obtain ⟨rfl, rfl⟩ := same_of_client? own found rfl found₀
      exact here rfl rfl
    | @receive _ _ h f _ found₀ =>
      obtain ⟨rfl, rfl⟩ := same_of_client? own found rfl found₀
      exact here (congrArg (List.set · c _) (connections_deliver s h f)) rfl
    | noticeEnd found₀ =>
      obtain ⟨rfl, rfl⟩ := same_of_client? own found rfl found₀
      exact here rfl rfl
    | giveUp found₀ =>
      obtain ⟨rfl, rfl⟩ := same_of_client? own found rfl found₀
      exact here rfl rfl
    | abort found₀ stage =>
      have writes := (writes?_of_parted (standing?_of_found found₀ stage)).2
      cases idle.symm.trans writes
    | noticeClose found₀ =>
      obtain ⟨rfl, rfl⟩ := same_of_client? own found rfl found₀
      exact here rfl rfl
    | noticeStop found₀ =>
      obtain ⟨rfl, rfl⟩ := same_of_client? own found rfl found₀
      exact here rfl rfl
    | write found₀ handle => cases idle.symm.trans (handleOf?_of_found found₀ handle)
    | failWrite found₀ handle => cases idle.symm.trans (handleOf?_of_found found₀ handle)
    | _ => cases own
  · cases (t.connections_of_other own found).symm.trans found'
    rfl

/-- Nothing is written to a connection that has not said who it is. -/
theorem Transition.sent_of_unknown (t : Transition s e s') (nobody : conn.handle? = none)
    (found : s.connections[c]? = some conn) (found' : s'.connections[c]? = some conn') :
    conn'.sent = conn.sent := by
  refine t.sent_of_idle (fun own => Option.eq_none_iff_forall_ne_some.2 fun h writes => ?_) found
    found'
  obtain ⟨c', client, handle⟩ := client?_of_writes? writes
  cases own.symm.trans client
  rw [handleOf?, found, Option.bind_some, nobody] at handle
  cases handle

/-- The greeting of a connection was queued. -/
def Place.isGreeted : Place → Bool
  | .named | .entered | .announced => false
  | _ => true

/-- What becomes of what is said to a connection that said who it is, at any moment. -/
inductive Tells (m : Moment) (s' : Server) (c : ClientId) (h : Handle) (place : Place)
    (conn conn' : Connection) : Prop
  | nothing {place' : Place} (stage : conn'.stage = .identified h place')
      (greeted : place'.isGreeted = place.isGreeted) (sent : conn'.sent = conn.sent)
      (calm : Undisturbed h.conn m.server.registry s'.registry) (intake : m.intake? c = none)
  | greet (here : place = .announced) (stage : conn'.stage = .identified h .greeted)
      (sent : conn'.sent = conn.sent)
      (registry : s'.registry = (m.server.registry.send h.conn (greeting h.device)).2)
      (intake : m.intake? c = none)
  | reply {f : Frame} (here : place = .waiting) (stage : conn'.stage = .identified h .ready)
      (sent : conn'.sent = conn.sent) (fits : f.payload.length ≤ 65535)
      (registry : s'.registry = (m.server.registry.send h.conn f.payload).2)
      (intake : m.intake? c = some (h, f))
  | write (stage : conn'.stage = .identified h place)
      (sent : conn'.sent = conn.sent ++ (m.server.registry.line h.conn).queue)
      (registry : s'.registry = (m.server.registry.drain h.conn).2)
      (intake : m.intake? c = none)
  | fail (event : m.event = .failWrite c) (same : conn' = conn)
      (registry : s'.registry = m.server.registry.dropWriter h.conn) (intake : m.intake? c = none)
  | part (here : place = .parted) (stage : conn'.stage = .ended)
      (sent : conn'.sent = conn.sent ++ (m.server.registry.line h.conn).queue)
      (intake : m.intake? c = none)
  | abort (event : m.event = .expire c) (here : place = .parted) (stage : conn'.stage = .ended)
      (sent : conn'.sent = conn.sent) (intake : m.intake? c = none)

theorem isGreeted_of_move? {place' : Place} {moved : Server}
    (moves : s.move? h place = some (place', moved)) (other : place ≠ .announced) :
    place'.isGreeted = place.isGreeted := by
  cases place with
  | announced => exact absurd rfl other
  | waiting => cases moves
  | parted => cases moves
  | ready =>
    cases moves
    by_cases runs : s.lifecycle = .running <;> simp [runs, Place.isGreeted]
  | _ =>
    cases moves
    rfl

theorem length_of_decode?_payload {limit : Nat} {bs rest : Bytes} {f : Frame}
    (decoded : Frame.decode? limit bs = some (f, rest)) : f.payload.length ≤ 65535 := by
  obtain ⟨_, payload, _, _, kept⟩ := Frame.decode?_eq_some_iff.1 decoded
  rw [kept, List.length_take]
  unfold Frame.cap Frame.maxPayload
  omega

theorem registry_operate_send (s : Server) (conn : ConnId) (payload : Bytes) :
    (s.operate (.send conn payload)).registry = (s.registry.send conn payload).2 := rfl

/-- What a connection is told at one of its own moments. -/
theorem Transition.tells_of_own (t : Transition s e s') (own : e.client? = some c)
    (found : s.connections[c]? = some conn) (stage : conn.stage = .identified h place)
    (noSink : s.hooks.sink = none)
    (foreign : ∀ op ∈ Moment.foreign acts ⟨s, e⟩, op.spares h = true)
    (calm : (∀ op ∈ Moment.operations acts ⟨s, e⟩, op.spares h = true) →
      Undisturbed h.conn s.registry s'.registry) :
    ∃ conn', s'.connections[c]? = some conn' ∧ Tells ⟨s, e⟩ s' c h place conn conn' := by
  have set : ∀ {conn₀ : Connection}, s'.connections = s.connections.set c conn₀ →
      Tells ⟨s, e⟩ s' c h place conn conn₀ →
      ∃ conn', s'.connections[c]? = some conn' ∧ Tells ⟨s, e⟩ s' c h place conn conn' := by
    intro conn₀ connections tells
    refine ⟨conn₀, ?_, tells⟩
    rw [connections, List.getElem?_set_self (List.getElem?_eq_some_iff.1 found).1]
  cases t with
  | arrive bytes found₀ =>
    obtain ⟨rfl, rfl⟩ := same_of_client? own found rfl found₀
    exact set rfl (.nothing stage rfl rfl (calm (List.forall_mem_nil _)) rfl)
  | hangUp found₀ =>
    obtain ⟨rfl, rfl⟩ := same_of_client? own found rfl found₀
    exact set rfl (.nothing stage rfl rfl (calm (List.forall_mem_nil _)) rfl)
  | @move _ _ _ _ place' moved found₀ stage₀ moves =>
    obtain ⟨rfl, rfl⟩ := same_of_client? own found rfl found₀
    cases stage.symm.trans stage₀
    have connections : moved.connections = s.connections := connections_of_move? moves
    refine set (by rw [setConnection, connections]) ?_
    by_cases announced : place = .announced
    · subst announced
      cases moves
      refine .greet rfl rfl rfl ?_ rfl
      rw [setConnection, registry_operate_send]
    · have stands := standing?_of_found found stage
      have doings : Moment.operations acts ⟨s, .proceed c⟩ = s.doings h place := by
        simp [Moment.operations, stands]
      refine .nothing rfl (isGreeted_of_move? moves announced) rfl (calm fun op member => ?_) rfl
      refine spares_doings (fun called => foreign op ?_) ?_ (doings ▸ member)
      · rcases called with rfl | rfl
        · simpa only [Moment.foreign, stands] using member
        · simpa only [Moment.foreign, stands] using member
      · rintro (rfl | rfl)
        · exact absurd rfl announced
        · cases moves
  | part found₀ stage₀ =>
    obtain ⟨rfl, rfl⟩ := same_of_client? own found rfl found₀
    cases stage.symm.trans stage₀
    exact set rfl (.part rfl rfl rfl rfl)
  | identify found₀ stage₀ =>
    obtain ⟨rfl, rfl⟩ := same_of_client? own found rfl found₀
    cases stage.symm.trans stage₀
  | refuse found₀ stage₀ =>
    obtain ⟨rfl, rfl⟩ := same_of_client? own found rfl found₀
    cases stage.symm.trans stage₀
  | leave found₀ stage₀ =>
    obtain ⟨rfl, rfl⟩ := same_of_client? own found rfl found₀
    cases stage.symm.trans stage₀
  | @receive _ _ _ f inbox found₀ stage₀ decoded =>
    obtain ⟨rfl, rfl⟩ := same_of_client? own found rfl found₀
    cases stage.symm.trans stage₀
    have echo : s.deliver h f = s.operate (.send h.conn f.payload) := by simp [deliver, noSink]
    have connections := connections_deliver s h f
    refine set (by rw [setConnection, connections]) ?_
    have registry : (s.deliver h f).registry = (s.registry.send h.conn f.payload).2 := by
      rw [echo, registry_operate_send]
    refine .reply rfl rfl rfl (length_of_decode?_payload decoded) registry ?_
    rw [intake?_read_self, ready?_of_waiting found stage, decoded]
    rfl
  | noticeEnd found₀ stage₀ incomplete =>
    obtain ⟨rfl, rfl⟩ := same_of_client? own found rfl found₀
    cases stage.symm.trans stage₀
    have nothing : s.ready? c = none := by
      rw [ready?_of_waiting found stage, incomplete]
      rfl
    refine set rfl (.nothing rfl rfl rfl (Registry.undisturbed_refl _ _) ?_)
    rw [intake?_read_self, nothing]
  | giveUp found₀ stage₀ =>
    obtain ⟨rfl, rfl⟩ := same_of_client? own found rfl found₀
    cases stage.symm.trans stage₀
  | abort found₀ stage₀ =>
    obtain ⟨rfl, rfl⟩ := same_of_client? own found rfl found₀
    cases stage.symm.trans stage₀
    exact set rfl (.abort rfl rfl rfl (List.append_nil _) rfl)
  | noticeClose found₀ stage₀ =>
    obtain ⟨rfl, rfl⟩ := same_of_client? own found rfl found₀
    cases stage.symm.trans stage₀
    refine set rfl (.nothing rfl rfl rfl (calm fun op member => ?_) rfl)
    obtain ⟨h', _, rfl⟩ := List.mem_map.1 member
    rfl
  | noticeStop found₀ stage₀ =>
    obtain ⟨rfl, rfl⟩ := same_of_client? own found rfl found₀
    cases stage.symm.trans stage₀
    exact set rfl (.nothing rfl rfl rfl (calm (List.forall_mem_nil _)) rfl)
  | write found₀ handle =>
    obtain ⟨rfl, rfl⟩ := same_of_client? own found rfl found₀
    cases (handle?_of_stage stage).symm.trans handle
    exact set rfl (.write stage rfl rfl rfl)
  | failWrite found₀ handle =>
    obtain ⟨rfl, rfl⟩ := same_of_client? own found rfl found₀
    cases (handle?_of_stage stage).symm.trans handle
    exact ⟨conn, found, .fail rfl rfl rfl rfl⟩
  | _ => cases own

/-- What a connection is told at any moment. -/
theorem Transition.tells (t : Transition s e s') (found : s.connections[c]? = some conn)
    (stage : conn.stage = .identified h place) (noSink : s.hooks.sink = none)
    (foreign : ∀ op ∈ Moment.foreign acts ⟨s, e⟩, op.spares h = true)
    (others : ∀ c' h', c' ≠ c → s.handleOf? c' = some h' → h'.conn ≠ h.conn)
    (calm : (∀ op ∈ Moment.operations acts ⟨s, e⟩, op.spares h = true) →
      Undisturbed h.conn s.registry s'.registry) :
    ∃ conn', s'.connections[c]? = some conn' ∧ Tells ⟨s, e⟩ s' c h place conn conn' := by
  by_cases own : e.client? = some c
  · exact t.tells_of_own own found stage noSink foreign calm
  · have spared : ∀ op ∈ Moment.operations acts ⟨s, e⟩, op.spares h = true :=
      spares_of_other noSink foreign fun c' h' client => others c' h' fun same =>
        own (same ▸ client)
    exact ⟨conn, t.connections_of_other own found,
      .nothing stage rfl rfl (calm spared) (intake?_of_other own)⟩

end DeviceLink.Server
