-- A message that cannot be framed, from both ends. The client is told so and gives up its socket for
-- good; the server hears the end of the stream, and the device is gone.
import DeviceLink.Proofs.Client.Silence
import DeviceLink.Proofs.Server.Hearing
import DeviceLink.Proofs.Server.Lifecycle

namespace DeviceLink.Server

open Registry (Operation)
open Session (SocketId sentOn?)

variable {acts : Request → Registry → List Operation} {start s s' : Server} {e : Event}
  {story : List Moment} {m : Moment} {c : ClientId} {conn conn' : Connection} {h : Handle}

/-! ## Connections whose clients are gone -/

/-- The client of a connection sends no more, or the connection is over. -/
def Connection.Deserted (conn : Connection) : Prop := conn.hungUp = true ∨ conn.stage = .ended

theorem Hears.deserted (hears : Hears m s' c conn conn') (alone : conn.Deserted) :
    conn'.Deserted := by
  rcases alone with hungUp | ended
  · cases hears with
    | still _ _ silent => exact .inl (silent hungUp).1
    | identify _ _ _ _ after => exact .inl (by rw [after]; exact hungUp)
    | refuse _ _ _ stage' => exact .inr stage'
    | leave _ _ _ after => exact .inl (by rw [after]; exact hungUp)
    | giveUp _ _ stage' => exact .inr stage'
    | take _ _ after => exact .inl (by rw [after]; exact hungUp)
    | part _ _ after => exact .inl (by rw [after]; exact hungUp)
    | pass _ _ _ after => exact .inl (by rw [after]; exact hungUp)
    | finish _ stage' => exact .inr stage'
  · exact .inr (hears.of_ended ended).1

/-- Once a client sends no more, its connection is deserted ever after. -/
theorem deserted_of_story (told : Story start story s) (heard : ∃ m ∈ story, m.event = .hangUp c) :
    ∃ conn, s.connections[c]? = some conn ∧ conn.Deserted := by
  induction told with
  | nil => simp at heard
  | @snoc past t t' e told hooks step ih =>
    have transition := transition_of_step? step
    obtain ⟨m, member, event⟩ := heard
    rcases List.mem_append.1 member with old | new
    · obtain ⟨conn, found, alone⟩ := ih ⟨m, old, event⟩
      obtain ⟨conn', found', hears⟩ := transition.hears found
      exact ⟨conn', found', hears.deserted alone⟩
    · cases List.mem_singleton.1 new
      cases event
      cases transition with
      | @hangUp _ conn found =>
        refine ⟨{ conn with hungUp := true }, ?_, .inl rfl⟩
        exact List.getElem?_set_self (List.getElem?_eq_some_iff.1 found).1

/-- At rest a deserted connection is over. -/
theorem isEnded_of_deserted (rest : AtRest s) (found : s.connections[c]? = some conn)
    (alone : conn.Deserted) : conn.isEnded = true := by
  have waits := atRest_iff.1 rest c conn found
  cases stage : conn.stage with
  | handshake =>
    simp only [Waits, stage] at waits
    rcases alone with hungUp | ended
    · rw [waits.2] at hungUp
      cases hungUp
    · cases stage.symm.trans ended
  | identified h place =>
    simp only [Waits, stage] at waits
    rcases alone with hungUp | ended
    · rw [waits.2.2.2.2] at hungUp
      cases hungUp
    · cases stage.symm.trans ended
  | ended =>
    unfold Connection.isEnded
    rw [stage]
    rfl

/-! ## Both ends -/

/-- A connection of a server is the far end of a socket of a client. It hears what is written there,
and the end once the client can no longer write. -/
structure FarEnd (story : List Moment) (c : ClientId) (client : Session) (i : SocketId) : Prop where
  heard : ∀ sent, client.sentOn? i = some sent → bytesFrom story c <+: sent.flatten
  ending : ¬ client.MayWrite i → ∃ m ∈ story, m.event = .hangUp c

/-- A server lets a device go whose connection has ended, after these frames at most. -/
structure LetsGo (acts : Request → Registry → List Operation) (story : List Moment) (s : Server)
    (c : ClientId) (sent : List Bytes) : Prop where
  heard : bytesFrom story c <+: sent.flatten
  ended : ∃ conn, s.connections[c]? = some conn ∧ conn.isEnded = true
  gone : ∀ h, .identified h ∈ life story c → s.registry.entriesOf h.conn = [] ∧
    .disconnected h ∈ life story c

theorem letsGo {client : Session} {i : SocketId} {sent : List Bytes}
    (tracked : Tracked acts start story s) (told : Story start story s) (rest : AtRest s)
    (far : FarEnd story c client i) (up : client.GivenUp i sent) : LetsGo acts story s c sent := by
  obtain ⟨conn, found, alone⟩ := deserted_of_story told (far.ending up.mute)
  have ended := isEnded_of_deserted rest found alone
  refine ⟨far.heard sent up.sent, ⟨conn, found, ended⟩, fun h known => ?_⟩
  rcases (tracked.settled rest found).closed ended with nothing | ⟨h', gone, lived⟩
  · rw [nothing] at known
    cases known
  · rw [lived] at known ⊢
    have same : h = h' := by simpa using known
    rw [same]
    exact ⟨gone, by simp⟩

/-- What is left of a client that wrote to a socket, where it had sent these frames. Nothing is
written any more, not even by what happens later, and the server lets the device go. -/
structure CutOff (acts : Request → Registry → List Operation) (start : Server) (client : Session)
    (i : SocketId) (sent : List Bytes) (left : Session) : Prop where
  sockets : left.sockets = client.sockets
  state : left.state = client.state
  task : left.task = client.task
  /-- Messages of any length are refused from now on. -/
  refuses : ∀ typ payload, left.send typ payload = (.error .notConnected, left)
  /-- The socket is lost for good. -/
  givenUp : ∀ later u, Session.Story left later u → u.GivenUp i sent
  letsGo : ∀ later u, Session.Story left later u → ∀ story s c, Story start story s →
    KeepApart acts start story → FarEnd story c u i → AtRest s → LetsGo acts story s c sent

variable {cap : Nat} {timeout : Duration} {past : List Session.Moment} {client : Session}
  {i : SocketId} {payload : Bytes}

/-- A message that cannot be framed costs the connection. Take any client that can write to a
socket, after any story, and a payload that is too long for a frame. The message is refused with the
size as the cause; nothing is written, the client keeps its state, and no wait begins. But the
client cannot write from then on, whatever the length: neither at once, nor ever again to this
socket, whatever happens to it. So the stream to the server is over. A server on the other side
hears what was sent before and then the end, and when it is at rest the connection is closed, the
device has no entry, and the hook for devices that go was called for it. -/
theorem a_message_that_cannot_be_framed_costs_the_connection (does : Does acts start.handler)
    (alone : start.connections = []) (idle : start.active = 0) (silent : start.notes = [])
    (told : Session.Story ({ cap, timeout } : Session) past client) (writes : client.writer = some i)
    (typ : UInt8) (long : 65535 < payload.length) :
    ∃ sent, client.sentOn? i = some sent ∧
      ((client.send typ payload).1 = .error (.link (.oversize payload.length)) ∧
        (client.send typ payload).2.pending = client.pending ∧
        CutOff acts start client i sent (client.send typ payload).2) ∧
      (client.waiting = none →
        (client.ask payload).replies =
          client.replies ++ [.error (.link (.oversize payload.length))] ∧
        (client.ask payload).pending = none ∧ (client.ask payload).waiting = none ∧
        CutOff acts start client i sent (client.ask payload)) := by
  have c := (Session.tracked_of_story told).coherent
  obtain ⟨sent, written, up⟩ := Session.givenUp_of_writer c writes
  have cutOff : ∀ left : Session, left.Coherent → left.sockets = client.sockets →
      left.state = client.state → left.task = client.task → left.writer = none →
      CutOff acts start client i sent left := by
    intro left coherent sockets state task writer
    have given : left.GivenUp i sent := by
      refine ⟨?_, fun may => up.mute (may.of_same _ writer task)⟩
      rw [sentOn?, sockets]
      exact written
    refine ⟨sockets, state, task, Session.send_of_unconnected writer, ?_, ?_⟩
    · intro later u onward
      exact (onward.givenUp coherent given).2
    · intro later u onward story s c serves apart far rest
      exact letsGo (tracked_of_story does alone idle silent serves apart) serves rest far
        (onward.givenUp coherent given).2
  have refused := Session.send_of_long writes typ long
  have asked := Session.ask_of_long writes long
  refine ⟨sent, written, ⟨?_, ?_, ?_⟩, fun waits => ⟨?_, ?_, ?_, ?_⟩⟩
  · rw [refused]
  · rw [refused]
  · have coherent := c.mild (Session.mild_send c typ payload)
    rw [refused] at coherent ⊢
    exact cutOff _ coherent rfl rfl rfl rfl
  · rw [asked]
  · rw [asked]
  · rw [asked]
    exact waits
  · have coherent := c.mild (Session.mild_ask waits payload)
    rw [asked] at coherent ⊢
    exact cutOff _ coherent rfl rfl rfl rfl

/-- A device is connected and has been greeted. It tries to send one byte more than a frame can have,
and as it has gone, the server closes its connection. -/
theorem a_device_is_gone_after_a_message_that_cannot_be_framed :
    let server : Server := { handler := fun _ r => (none, r) }
    let device : DeviceId := ⟨"a", by decide⟩
    let turns : List Session.Event := [.connect device, .resume 0, .resume 0, .proceed,
      .dialed true, .arrive 0 (Frame.ordinary (greeting device)), .read, .proceed, .proceed]
    let es : List Event := [.accept none, .arrive 0 [1, 0, 1, 97], .read 0, .proceed 0, .proceed 0,
      .proceed 0, .proceed 0, .proceed 0, .write 0, .hangUp 0, .read 0, .proceed 0, .proceed 0,
      .proceed 0, .proceed 0, .proceed 0]
    let long : Bytes := List.replicate 65536 120
    ∃ client s, ({} : Session).run? turns = some client ∧ client.state = .connected ∧
      (client.send 1 long).1 = .error (.link (.oversize 65536)) ∧ server.run? es = some s ∧
      LetsGo (fun _ _ => []) (server.tell es) s 0 [[1, 0, 1, 97]] := by
  intro server device turns es long
  have size : long.length = 65536 := List.length_replicate
  clear_value long
  have comes : (({} : Session).run? turns).map (fun client =>
      (client.state, client.writer, client.sentOn? 0)) =
      some (.connected, some 0, some [[1, 0, 1, 97]]) := by decide +kernel
  have stays : ((server.run? es).bind (·.advanceFirst?)).isNone = true := by decide +kernel
  have happens : (server.run? es).isSome = true := by decide +kernel
  have nobody : outsiders (fun _ _ => []) server (server.tell es) = [] := by decide +kernel
  have came : bytesFrom (server.tell es) 0 = [1, 0, 1, 97] := by decide +kernel
  have hangs : (server.tell es).any (fun m => decide (m.event = .hangUp 0)) = true := by
    decide +kernel
  obtain ⟨client, run, state⟩ := Option.map_eq_some_iff.1 comes
  simp only [Prod.mk.injEq] at state
  obtain ⟨state, writes, written⟩ := state
  obtain ⟨s, runs⟩ := Option.isSome_iff_exists.1 happens
  have rest : AtRest s := by
    apply atRest_of_advanceFirst?
    simpa [runs] using stays
  have apart : KeepApart (fun _ _ => []) server (server.tell es) := by
    intro h outsider
    rw [nobody] at outsider
    cases outsider
  have tooLong : 65535 < long.length := by omega
  have does : Does (fun _ _ => []) server.handler := fun _ _ => rfl
  have alone : server.connections = [] := rfl
  obtain ⟨sent, known, ⟨refused, _, cutOff⟩, _⟩ :=
    a_message_that_cannot_be_framed_costs_the_connection does alone rfl rfl
      (Session.story_moments run) writes 1 tooLong
  cases written.symm.trans known
  have far : FarEnd (server.tell es) 0 (client.send 1 long).2 0 := by
    refine ⟨fun sent found => ?_, fun _ => ?_⟩
    · rw [sentOn?, cutOff.sockets] at found
      cases written.symm.trans found
      rw [came]
      exact List.prefix_refl _
    · obtain ⟨m, member, event⟩ := List.any_eq_true.1 hangs
      exact ⟨m, member, of_decide_eq_true event⟩
  rw [size] at refused
  exact ⟨client, s, run, state, refused, runs,
    cutOff.letsGo [] _ .nil _ s 0 (story_tell runs) apart far rest⟩

/-- Right after that, the client says that it is connected and refuses a message of one byte; and the
server that hears the end has no entry for the device. -/
theorem a_short_message_is_refused_after_one_that_cannot_be_framed :
    let server : Server := { handler := fun _ r => (none, r) }
    let device : DeviceId := ⟨"a", by decide⟩
    let turns : List Session.Event := [.connect device, .resume 0, .resume 0, .proceed,
      .dialed true, .arrive 0 (Frame.ordinary (greeting device)), .read, .proceed, .proceed]
    let es : List Event := [.accept none, .arrive 0 [1, 0, 1, 97], .read 0, .proceed 0, .proceed 0,
      .proceed 0, .proceed 0, .proceed 0, .write 0]
    let ending : List Event := [.hangUp 0, .read 0, .proceed 0, .proceed 0, .proceed 0, .proceed 0,
      .proceed 0]
    let long : Bytes := List.replicate 65536 120
    (∃ client left, ({} : Session).run? turns = some client ∧ client.writer = some 0 ∧
      client.send 1 long = (.error (.link (.oversize 65536)), left) ∧ left.state = .connected ∧
      left.writer = none ∧ left.send 1 [121] = (.error .notConnected, left)) ∧
    (server.run? es).map (·.registry.list) = some [device] ∧
    (server.run? (es ++ ending)).map (·.registry.list) = some [] := by
  intro server device turns es ending long
  have size : long.length = 65536 := List.length_replicate
  clear_value long
  have tooLong : 65535 < long.length := by omega
  have comes : (({} : Session).run? turns).map (fun client => (client.state, client.writer)) =
      some (.connected, some 0) := by decide +kernel
  refine ⟨?_, by decide +kernel, by decide +kernel⟩
  obtain ⟨client, run, state⟩ := Option.map_eq_some_iff.1 comes
  simp only [Prod.mk.injEq] at state
  obtain ⟨state, writes⟩ := state
  have refused := Session.send_of_long writes 1 tooLong
  rw [size] at refused
  exact ⟨client, _, run, writes, refused, state, rfl, Session.send_of_unconnected rfl 1 [121]⟩

end DeviceLink.Server
