-- What a device sends and what it gets back. A connection is a conversation between a device and
-- the server that nobody else takes part in.
import DeviceLink.Proofs.Server.Owed
import DeviceLink.Proofs.Server.Rest

namespace DeviceLink.Server

open Registry (Operation)

/-! ## What a server does for a connection -/

/-- The complete frames that some bytes hold after the first one, each cut to the cap. -/
def laterFrames (cap : Nat) (bytes : Bytes) : List Frame := (Frame.decodeAll cap bytes).1.tail

/-- A connection whose device is not known: it got nothing, and nothing was taken from it. -/
structure Unanswered (story : List Moment) (c : ClientId) (conn : Connection) : Prop where
  nameless : ∀ h, .identified h ∉ life story c
  frames : framesFrom story c = []
  sent : conn.sent = []

/-- What a server does for a connection that said who it is. The frames that it takes are the first
ones of those that came, and all of them if nobody ended the connection but its client. A sink is
handed these frames. Without one they go back after a greeting, to a device that is no admin console
and that nobody sends anything else. -/
structure Serves (acts : Request → Registry → List Operation) (start : Server)
    (story : List Moment) (s : Server) (c : ClientId) (h : Handle) (conn : Connection) : Prop where
  device : firstDevice? start.cap (bytesFrom story c) = some h.device
  starts : framesFrom story c <+: laterFrames start.cap (bytesFrom story c)
  all : AtRest s → ¬ Dismissed acts story s h →
    framesFrom story c = laterFrames start.cap (bytesFrom story c)
  handed : (∀ m ∈ story, m.server.hooks.sink.isSome = true) →
    s.messages.filter (·.1.conn == h.conn) = (framesFrom story c).map fun f => (h, f)
  back : (∀ m ∈ story, m.server.hooks.sink = none) → h.device.isAdminConsole = false →
    LeftAlone acts start story h →
      conn.sent <+: owed h (framesFrom story c) ∧
      (AtRest s → s.step? (.write c) = none → ¬ Cut story c →
        conn.sent = owed h (framesFrom story c))

variable {acts : Request → Registry → List Operation} {start s : Server} {story : List Moment}
  {c : ClientId} {conn : Connection} {h : Handle}

/-! ## Unknown devices -/

theorem life_of_nameless (lived : Lived story s) (nameless : ∀ h, .identified h ∉ life story c) :
    life story c = [] := by
  rcases lived.cases c with nothing | ⟨h, place, deeds⟩
  · exact nothing
  · have known : .identified h ∈ life story c := deeds ▸ identified_mem_deeds.2 rfl
    exact absurd known (nameless h)

theorem device_of_taken {cap : Nat} {bytes left : Bytes} {fs : List Frame} {first : Frame}
    (taken : Frame.Taken cap bytes (first :: fs) left) :
    firstDevice? cap bytes = DeviceId.ofWire? first.payload := by
  obtain ⟨rest, decoded⟩ := taken.first
  simp [firstDevice?, decoded]

/-- Where the first frame names no device, or is not there yet, nobody gets an answer. -/
theorem unanswered_of_story (does : Does acts start.handler) (alone : start.connections = [])
    (told : Story start story s) (found : s.connections[c]? = some conn)
    (nobody : firstDevice? start.cap (bytesFrom story c) = none) :
    Unanswered story c conn := by
  have listening := listening_of_story does alone told
  have lived := listening.lived
  have silent : ∀ (nameless : ∀ h, .identified h ∉ life story c), framesFrom story c = [] →
      Unanswered story c conn := fun nameless frames =>
    ⟨nameless, frames, sent_of_silent does alone told (life_of_nameless lived nameless) found⟩
  cases listening.heard c conn found with
  | unknown stage inbox frames =>
    refine silent (fun h known => ?_) frames
    rw [lived.handshake found stage] at known
    cases known
  | refused stage nameless frames => exact silent nameless frames
  | known stage named taken =>
    rw [device_of_taken taken, named] at nobody
    cases nobody
  | closed stage known named taken =>
    rw [device_of_taken taken, named] at nobody
    cases nobody

/-- Where the first frame names a device, the connection is known as this device, unless its time
was up before. -/
theorem known_of_story (does : Does acts start.handler) (alone : start.connections = [])
    (told : Story start story s) (found : s.connections[c]? = some conn) {device : DeviceId}
    (first : firstDevice? start.cap (bytesFrom story c) = some device) (rest : AtRest s) :
    (∃ h, h.device = device ∧ .identified h ∈ life story c) ∨
      Unanswered story c conn ∧ ∃ m ∈ story, m.event = .expire c := by
  have listening := listening_of_story does alone told
  have lived := listening.lived
  cases listening.heard c conn found with
  | unknown stage inbox =>
    -- At rest, the first frame would have been taken.
    have waits := atRest_iff.1 rest c conn found
    simp only [Waits, stage, inbox, listening.cap] at waits
    simp [firstDevice?, waits.1] at first
  | @known h place f stage named taken =>
    rw [device_of_taken taken, named] at first
    cases first
    exact .inl ⟨h, rfl, lived.identified found stage⟩
  | @closed h f stage known named taken =>
    rw [device_of_taken taken, named] at first
    cases first
    exact .inl ⟨h, rfl, known⟩
  | refused stage nameless frames why =>
    have nothing := life_of_nameless lived nameless
    refine .inr ⟨⟨nameless, frames, sent_of_silent does alone told nothing found⟩, ?_⟩
    cases why with
    | unnamed decoded unnamed => simp [firstDevice?, decoded, unnamed] at first
    | left hungUp incomplete => simp [firstDevice?, incomplete] at first
    | late member event => exact ⟨_, member, event⟩

/-! ## Known devices -/

/-- What was heard from a connection that said who it is. -/
theorem Listening.taken (listening : Listening acts start story s)
    (found : s.connections[c]? = some conn) (known : .identified h ∈ life story c) :
    ∃ first, DeviceId.ofWire? first.payload = some h.device ∧
      Frame.Taken start.cap (bytesFrom story c) (first :: framesFrom story c) conn.inbox := by
  have lived := listening.lived
  cases listening.heard c conn found with
  | unknown stage =>
    rw [lived.handshake found stage] at known
    cases known
  | known stage named taken =>
    obtain rfl := lived.handle_unique known (lived.identified found stage)
    exact ⟨_, named, taken⟩
  | closed stage known' named taken =>
    obtain rfl := lived.handle_unique known known'
    exact ⟨_, named, taken⟩
  | refused stage nameless => exact absurd known (nameless h)

/-- At rest, a connection that the server did not dismiss has taken all frames. -/
theorem Listening.nothing_left (listening : Listening acts start story s)
    (found : s.connections[c]? = some conn) (known : .identified h ∈ life story c)
    (rest : AtRest s) (kept : ¬ Dismissed acts story s h) :
    Frame.decode? start.cap conn.inbox = none := by
  have lived := listening.lived
  cases listening.heard c conn found with
  | unknown stage =>
    rw [lived.handshake found stage] at known
    cases known
  | known stage =>
    have waits := atRest_iff.1 rest c conn found
    simp only [Waits, stage, listening.cap] at waits
    exact waits.2.2.2.1
  | closed stage known' named taken ending =>
    obtain rfl := lived.handle_unique known known'
    rcases ending with dismissed | ⟨_, incomplete⟩
    · exact absurd dismissed kept
    · exact incomplete
  | refused stage nameless => exact absurd known (nameless h)

theorem queue_of_step?_write (found : s.connections[c]? = some conn)
    (handle : conn.handle? = some h) (idle : s.step? (.write c) = none) :
    (s.registry.line h.conn).queue = [] := by
  have nothing : s.write? c conn = none := by simpa [step?, at?, found] using idle
  unfold write? at nothing
  rw [handle] at nothing
  dsimp only at nothing
  split at nothing
  · rename_i same
    exact congrArg Prod.fst same
  · cases nothing

/-- At rest, with nothing left to write, a connection whose writer was not cut off got all. -/
theorem Got.all (got : Got story s.registry c h conn) (found : s.connections[c]? = some conn)
    (rest : AtRest s) (idle : s.step? (.write c) = none) (whole : ¬ Cut story c) :
    conn.sent = owed h (framesFrom story c) := by
  cases got with
  | ended stage said why => exact why.resolve_right whole
  | @present place stage early said =>
    have waits := atRest_iff.1 rest c conn found
    simp only [Waits, stage] at waits
    obtain ⟨rfl, _⟩ := waits
    cases said with
    | cut _ _ _ why => exact absurd why whole
    | whole writer same =>
      rw [queue_of_step?_write found (handle?_of_stage stage) idle, List.append_nil] at same
      exact same

theorem serves_of_story (does : Does acts start.handler) (alone : start.connections = [])
    (silent : start.notes = []) (told : Story start story s)
    (found : s.connections[c]? = some conn) (known : .identified h ∈ life story c) :
    Serves acts start story s c h conn := by
  have listening := listening_of_story does alone told
  have called := called_of_story does alone silent told
  obtain ⟨first, named, taken⟩ := listening.taken found known
  refine ⟨(device_of_taken taken).trans named, ?_, fun rest kept => ?_,
    fun installed => called.own installed c h known, fun noSink plain left => ?_⟩
  · obtain ⟨more, whole⟩ := taken.starts
    refine ⟨more, ?_⟩
    rw [laterFrames, ← whole]
    rfl
  · rw [laterFrames, taken.all (listening.nothing_left found known rest kept)]
    rfl
  · have got := got_of_story does alone told noSink plain left known found
    exact ⟨got.starts, got.all found⟩

/-! ## The law -/

/-- A device and the server talk with each other, whatever anybody else does. Take any story of a
server that starts with no connection: the bytes of a client may come in any pieces, and hooks,
handlers, other clients and other users of the registry may do what they like in between. As long as
the bytes hold no complete first frame, or if its payload, cut to the cap, names no device, the
client gets nothing back and nothing of it is handed on. Otherwise the connection is known as that
device, unless its time was up before. The frames that are taken from it are the first ones of
those that came after, in order and each once, and all of them unless the server stops or somebody
asked the connection to close. If there is a sink, it is called with just these, however the calls
end. If there is none, and nobody sends anything to a device that is no admin console, what it gets
is its greeting and then each of these frames, and nothing else. And the sink is called with nothing
but frames that some connection sent after it had said who it is. -/
theorem a_device_talks_with_the_server_alone (does : Does acts start.handler)
    (alone : start.connections = []) (silent : start.notes = []) (told : Story start story s) :
    (∀ (c : ClientId) conn, s.connections[c]? = some conn →
      (firstDevice? start.cap (bytesFrom story c) = none → Unanswered story c conn) ∧
      (∀ device, firstDevice? start.cap (bytesFrom story c) = some device → AtRest s →
        (∃ h, h.device = device ∧ .identified h ∈ life story c) ∨
          Unanswered story c conn ∧ ∃ m ∈ story, m.event = .expire c) ∧
      ∀ h, .identified h ∈ life story c → Serves acts start story s c h conn) ∧
    ∀ h f, (h, f) ∈ s.messages → ∃ c, .identified h ∈ life story c ∧ f ∈ framesFrom story c := by
  refine ⟨fun c conn found => ⟨?_, ?_, ?_⟩, ?_⟩
  · exact unanswered_of_story does alone told found
  · intro device first rest
    exact known_of_story does alone told found first rest
  · intro h known
    exact serves_of_story does alone silent told found known
  · exact (called_of_story does alone silent told).known

/-- A device sends who it is and a frame that is too long for the cap, all at once, while another
client sends a first frame that is empty. The device gets its greeting and as much of its frame as
the server kept; the other client gets nothing. -/
theorem a_device_is_greeted_and_gets_its_frame_back :
    let s : Server := { cap := 2, handler := fun _ r => (none, r) }
    let h : Handle := { conn := 1, device := ⟨"a", by decide⟩ }
    let es : List Event := [.accept none, .accept none, .arrive 1 [1, 0],
      .arrive 0 [1, 0, 1, 97, 1, 0, 3, 98, 99, 100], .read 0, .proceed 0, .proceed 0, .proceed 0,
      .proceed 0, .proceed 0, .arrive 1 [0], .read 1, .read 0, .proceed 0, .write 0]
    ∃ s' conn conn', s.run? es = some s' ∧ s'.connections[0]? = some conn ∧
      s'.connections[1]? = some conn' ∧
      conn.sent = [Frame.ordinary (greeting h.device), Frame.ordinary [98, 99]] ∧
      Unanswered (s.tell es) 1 conn' := by
  intro s h es
  have stays : ((s.run? es).bind (·.advanceFirst?)).isNone = true := by decide +kernel
  have first : ((s.run? es).bind (·.connections[0]?)).isSome = true := by decide +kernel
  have second : ((s.run? es).bind (·.connections[1]?)).isSome = true := by decide +kernel
  have written : ((s.run? es).bind (·.step? (.write 0))).isNone = true := by decide +kernel
  have happens : (s.run? es).isSome = true := by decide +kernel
  obtain ⟨s', run⟩ := Option.isSome_iff_exists.1 happens
  rw [run, Option.bind_some] at stays first second written
  obtain ⟨conn, found⟩ := Option.isSome_iff_exists.1 first
  obtain ⟨conn', found'⟩ := Option.isSome_iff_exists.1 second
  have rest : AtRest s' := atRest_of_advanceFirst? (Option.isNone_iff_eq_none.1 stays)
  have idle := Option.isNone_iff_eq_none.1 written
  have known : .identified h ∈ life (s.tell es) 0 := by decide +kernel
  have frames : framesFrom (s.tell es) 0 = [⟨1, [98, 99], 3⟩] := by decide +kernel
  have nobody : firstDevice? s.cap (bytesFrom (s.tell es) 1) = none := by decide +kernel
  have plainly : (s.tell es).all (·.server.hooks.sink.isNone) = true := by decide +kernel
  have noSink : ∀ m ∈ s.tell es, m.server.hooks.sink = none := fun m member =>
    Option.isNone_iff_eq_none.1 (List.all_eq_true.1 plainly m member)
  have left : LeftAlone (fun _ _ => []) s (s.tell es) h := by
    have outside : outsiders (fun _ _ => []) s (s.tell es) = [] := by decide +kernel
    refine ⟨by decide +kernel, ?_⟩
    rw [outside]
    exact fun e => nofun
  have whole : ¬ Cut (s.tell es) 0 := by
    unfold Cut
    decide +kernel
  have does : Does (fun _ _ => []) s.handler := fun _ _ => rfl
  obtain ⟨served, _⟩ := a_device_talks_with_the_server_alone does rfl rfl (story_tell run)
  obtain ⟨_, _, serves⟩ := served 0 conn found
  have back := ((serves h known).back noSink rfl left).2 rest idle whole
  rw [frames] at back
  exact ⟨s', conn, conn', run, found, found', back, (served 1 conn' found').1 nobody⟩

end DeviceLink.Server
