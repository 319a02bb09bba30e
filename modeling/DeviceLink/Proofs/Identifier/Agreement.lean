-- The name that a device gives itself and the one that a server takes it for. They are the same
-- just where the name has no NUL and no line end comes last in it.
import DeviceLink.Proofs.Client.Silence
import DeviceLink.Proofs.Identifier.Decoding
import DeviceLink.Proofs.Server.Conversation
import DeviceLink.Proofs.Server.Lifecycle

namespace DeviceLink

namespace DeviceId

variable {payload : Bytes} {d d' : DeviceId}

/-! ## Identifiers as they are sent -/

/-- The identifier has nothing that a receiver would leave out. -/
structure Plain (d : DeviceId) : Prop where
  no_nul : '\x00' ∉ d.text.toList
  no_line_end : ∀ c, d.text.toList.getLast? = some c → c ≠ '\r' ∧ c ≠ '\n'

theorem wireText_utf8 (s : String) : wireText (Text.utf8 s) =
    (s.toList.takeWhile (· ≠ '\x00')).rdropWhile isLineEnd := by
  unfold wireText Text.utf8
  rw [Text.takeWhile_encodeChars, Text.lossy_encodeChars, String.toList_ofList]
  rfl

/-- What is left of an identifier is short enough. -/
theorem sizeOf_wireText_utf8 (d : DeviceId) :
    Text.sizeOf (wireText (Text.utf8 d.text)) ≤ limit := by
  have part : wireText (Text.utf8 d.text) <+: d.text.toList := by
    rw [wireText_utf8]
    exact (List.rdropWhile_prefix _ _).trans (List.takeWhile_prefix _)
  obtain ⟨rest, whole⟩ := part
  have size := d.fits.2
  rw [← whole, Text.sizeOf_append] at size
  omega

theorem toList_of_short (short : Text.sizeOf (wireText payload) ≤ limit)
    (named : ofWire? payload = some d) : d.text.toList = wireText payload := by
  rw [toList_of_ofWire? named, Text.takeBytes_eq_self short]

/-- An identifier that did not have to be cut is plain. -/
theorem plain_of_short (short : Text.sizeOf (wireText payload) ≤ limit)
    (named : ofWire? payload = some d) : d.Plain := by
  refine ⟨(fits_of_ofWire? named).no_nul, ?_⟩
  rw [toList_of_short short named]
  exact (trims_wireText payload).last

/-- An identifier is the same after it was sent if and only if it is plain. -/
theorem ofWire?_utf8_eq_self_iff : ofWire? (Text.utf8 d.text) = some d ↔ d.Plain := by
  constructor
  · intro same
    exact plain_of_short (sizeOf_wireText_utf8 d) same
  · intro plain
    have free : d.text.toList.takeWhile (· ≠ '\x00') = d.text.toList := by
      apply List.takeWhile_eq_self_iff.2
      intro c member
      rw [decide_eq_true_iff]
      rintro rfl
      exact plain.no_nul member
    have all : wireText (Text.utf8 d.text) = d.text.toList := by
      rw [wireText_utf8, free]
      apply List.rdropWhile_eq_self_iff.2
      intro some_text
      have last := plain.no_line_end _ (List.getLast?_eq_some_getLast some_text)
      rw [isLineEnd_iff, not_or]
      exact last
    rw [ofWire?_eq, all, Text.takeBytes_eq_self d.fits.2, ofText?_eq_some_iff,
      String.ofList_toList]

end DeviceId

namespace Server

open Registry (Operation)
open Session (introduction)

variable {acts : Request → Registry → List Operation} {start s : Server} {story : List Moment}
  {c : ClientId} {conn : Connection} {device : DeviceId} {bytes : Bytes} {cap : Nat}

/-! ## The first frame -/

/-- With room for an identifier, a server that has got the first frame of a device decodes the
identifier of the device. -/
theorem firstDevice?_of_introduction (roomy : 63 ≤ cap) (arrived : introduction device <+: bytes) :
    firstDevice? cap bytes = DeviceId.ofWire? (Text.utf8 device.text) := by
  obtain ⟨more, rfl⟩ := arrived
  have size : (Text.utf8 device.text).length ≤ 63 := device.length_utf8_text
  have decoded := Frame.decode?_of_encode cap (Session.encode_introduction device)
  have whole : (Text.utf8 device.text).take (min cap 65535) = Text.utf8 device.text := by
    apply List.take_of_length_le
    omega
  unfold firstDevice?
  rw [Frame.decode?_append more decoded, Option.bind_some]
  dsimp only [Frame.kept]
  rw [whole]

/-- A connection that stood somewhere at some moment had said who it is. -/
theorem identified_of_moment (does : Does acts start.handler) (alone : start.connections = [])
    (told : Story start story s) {m : Moment} (member : m ∈ story) {h : Handle} {place : Place}
    (stands : m.server.standing? c = some (h, place)) : .identified h ∈ life story c := by
  induction told with
  | nil => cases member
  | @snoc past t t' e told hooks step ih =>
    rw [life_append]
    rcases List.mem_append.1 member with before | now
    · exact List.mem_append_left _ (ih before)
    · cases List.mem_singleton.1 now
      obtain ⟨conn, found, stage⟩ := standing?_eq_some_iff.1 stands
      have lived := (lived_of_story does alone told).withHooks hooks
      exact List.mem_append_left _ (lived.identified found stage)

/-! ## The law -/

/-- A server takes the client of a connection for this device and for no other. -/
structure Welcomes (acts : Request → Registry → List Operation) (start : Server)
    (story : List Moment) (s : Server) (c : ClientId) (conn : Connection) (device : DeviceId) :
    Prop where
  named : ∀ h, .identified h ∈ life story c → h.device = device
  /-- Whatever is sent to it, the greeting is the one for the device. -/
  greeting : ∀ m ∈ story, ∀ h, m.event = .proceed c →
    m.server.standing? c = some (h, .announced) →
      h.device = device ∧ m.operations acts = [.send h.conn (Server.greeting device)]
  /-- At rest the server knows the device, unless its time was up before. -/
  known : AtRest s → (∃ h, .identified h ∈ life story c) ∨ ∃ m ∈ story, m.event = .expire c
  /-- A connection that is not over is registered once, and it is listed. -/
  registered : AtRest s → conn.isEnded = false → ∃ h, h.device = device ∧
    life story c = [.identified h, .registered h, .connected h] ∧
    (h ∉ removed acts story → s.registry.entriesOf h.conn = [h] ∧ device ∈ s.registry.list)
  /-- What is written to it begins with this greeting if nobody else sends anything. -/
  greeted : ∀ h, .identified h ∈ life story c → (∀ m ∈ story, m.server.hooks.sink = none) →
    device.isAdminConsole = false → LeftAlone acts start story h → AtRest s →
      s.step? (.write c) = none → ¬ Cut story c →
        conn.sent.head? = some (Frame.ordinary (Server.greeting device))

theorem welcomes (does : Does acts start.handler) (alone : start.connections = [])
    (idle : start.active = 0) (silent : start.notes = []) (told : Story start story s)
    (apart : KeepApart acts start story) (found : s.connections[c]? = some conn)
    (first : firstDevice? start.cap (bytesFrom story c) = some device) :
    Welcomes acts start story s c conn device := by
  have tracked := tracked_of_story does alone idle silent told apart
  have serves := fun h (known : .identified h ∈ life story c) =>
    serves_of_story does alone silent told found known
  have named : ∀ h, .identified h ∈ life story c → h.device = device := by
    intro h known
    exact Option.some.inj ((serves h known).device.symm.trans first)
  refine ⟨named, ?_, fun rest => ?_, fun rest open_ => ?_, ?_⟩
  · intro m member h event stands
    have same := named h (identified_of_moment does alone told member stands)
    refine ⟨same, ?_⟩
    unfold Moment.operations
    rw [event]
    simp only [stands, Option.map_some, Option.getD_some, doings, same]
  · rcases known_of_story does alone told found first rest with ⟨h, _, known⟩ | ⟨_, late⟩
    · exact .inl ⟨h, known⟩
    · exact .inr late
  · obtain ⟨h, _, same, entry, lived⟩ := (tracked.settled rest found).known open_ device first
    refine ⟨h, same, lived, fun kept => ?_⟩
    rw [if_neg kept] at entry
    have member : h ∈ s.registry.entriesOf h.conn := by
      rw [entry]
      exact List.mem_singleton_self h
    exact ⟨entry, List.mem_map.2 ⟨h, List.mem_of_mem_filter member, same⟩⟩
  · intro h known noSink plain left rest idle whole
    have same := named h known
    have back := ((serves h known).back noSink (by rw [same]; exact plain) left).2 rest idle whole
    rw [back]
    unfold owed
    rw [same]
    rfl

/-- Client and server agree on an identifier if and only if it is plain. Sending an identifier and
decoding it gives it back just then, and what comes of an identifier that is not plain is plain. One
that was decoded from any payload has no NUL, so that it is plain if no line end comes last in it,
and always if nothing was cut off. Take any story of a server that has room for an identifier, and
any client whose task keeps the connection for a device on a socket, after any story of its own: the
task was started for this device; a connection of the server on which the first frame of that socket
has arrived is decoded to what the device has in its identifier; and if that is plain, the connection
is registered, greeted and listed as this very device. -/
theorem client_and_server_agree_on_plain_identifiers (does : Does acts start.handler)
    (alone : start.connections = []) (idle : start.active = 0) (silent : start.notes = [])
    (roomy : 63 ≤ start.cap) (told : Story start story s) (apart : KeepApart acts start story) :
    (∀ d : DeviceId, (DeviceId.ofWire? (Text.utf8 d.text) = some d ↔ d.Plain) ∧
      ∀ d', DeviceId.ofWire? (Text.utf8 d.text) = some d' → d'.Plain) ∧
    (∀ payload d, DeviceId.ofWire? payload = some d → '\x00' ∉ d.text.toList ∧
      ((Text.encodeChars (DeviceId.wireText payload)).length ≤ 63 → d.Plain)) ∧
    ∀ cap timeout clientStory client,
      Session.Story ({ cap, timeout } : Session) clientStory client →
      ∀ t i sent, client.task = some t → t.socket? = some i → client.sentOn? i = some sent →
        (clientStory.filterMap (·.started?)).getLast? = some t.device ∧
        ∀ (c : ClientId) conn, s.connections[c]? = some conn → bytesFrom story c <+: sent.flatten →
          (introduction t.device).length ≤ (bytesFrom story c).length →
            firstDevice? start.cap (bytesFrom story c) =
              DeviceId.ofWire? (Text.utf8 t.device.text) ∧
            (t.device.Plain → Welcomes acts start story s c conn t.device) := by
  refine ⟨fun d => ⟨DeviceId.ofWire?_utf8_eq_self_iff, fun d' => ?_⟩, fun payload d named => ?_, ?_⟩
  · exact DeviceId.plain_of_short (DeviceId.sizeOf_wireText_utf8 d)
  · refine ⟨(DeviceId.fits_of_ofWire? named).no_nul, fun short => ?_⟩
    rw [Text.length_encodeChars] at short
    exact DeviceId.plain_of_short short named
  · intro cap timeout clientStory client clientTold t i sent task socket written
    refine ⟨Session.device_of_started clientTold task, fun c conn found heard enough => ?_⟩
    have said : introduction t.device <+: sent.flatten := by
      obtain ⟨_, k, there, head⟩ :=
        (Session.tracked_of_story clientTold).coherent.socket t i task socket
      rw [Session.sentOn?, there, Option.map_some, Option.some.injEq] at written
      obtain ⟨later, all⟩ := List.head?_eq_some_iff.1 (written ▸ head)
      rw [all, List.flatten_cons]
      exact List.prefix_append _ _
    have arrived := List.prefix_of_prefix_length_le said heard enough
    have first := firstDevice?_of_introduction roomy arrived
    refine ⟨first, fun plain => ?_⟩
    rw [DeviceId.ofWire?_utf8_eq_self_iff.2 plain] at first
    exact welcomes does alone idle silent told apart found first

/-- A device says who it is, and the server knows it by that name. -/
theorem a_device_is_known_by_its_own_name :
    let server : Server := { handler := fun _ r => (none, r) }
    let device : DeviceId := ⟨"a", by decide⟩
    let turns : List Session.Event :=
      [.connect device, .resume 0, .resume 0, .proceed, .dialed true]
    let es : List Event := [.accept none, .arrive 0 [1, 0, 1, 97], .read 0, .proceed 0, .proceed 0,
      .proceed 0, .proceed 0, .proceed 0, .write 0]
    ∃ client s conn, ({} : Session).run? turns = some client ∧
      client.sentOn? 0 = some [[1, 0, 1, 97]] ∧ server.run? es = some s ∧
      s.connections[0]? = some conn ∧ s.registry.list = [device] ∧
      Welcomes (fun _ _ => []) server (server.tell es) s 0 conn device := by
  intro server device turns es
  have comes : (({} : Session).run? turns).map (fun client => (client.task, client.sentOn? 0)) =
      some (some ⟨device, .introduced 0⟩, some [[1, 0, 1, 97]]) := by decide +kernel
  have serves : (server.run? es).map (·.registry.list) = some [device] := by decide +kernel
  have there : ((server.run? es).bind (·.connections[0]?)).isSome = true := by decide +kernel
  have nobody : outsiders (fun _ _ => []) server (server.tell es) = [] := by decide +kernel
  have came : bytesFrom (server.tell es) 0 = [1, 0, 1, 97] := by decide +kernel
  obtain ⟨client, run, state⟩ := Option.map_eq_some_iff.1 comes
  simp only [Prod.mk.injEq] at state
  obtain ⟨task, written⟩ := state
  obtain ⟨s, runs, listed⟩ := Option.map_eq_some_iff.1 serves
  rw [runs, Option.bind_some] at there
  obtain ⟨conn, found⟩ := Option.isSome_iff_exists.1 there
  have apart : KeepApart (fun _ _ => []) server (server.tell es) := by
    intro h outsider
    rw [nobody] at outsider
    cases outsider
  obtain ⟨_, _, agree⟩ := client_and_server_agree_on_plain_identifiers (fun _ _ => rfl) rfl rfl rfl
    (by decide) (story_tell runs) apart
  obtain ⟨_, meets⟩ := agree _ _ _ client (Session.story_moments run) _ 0 _ task rfl written
  obtain ⟨_, welcomes⟩ := meets 0 conn found (by rw [came]; exact List.prefix_refl _)
    (by rw [came]; decide)
  have plain : device.Plain := by
    refine ⟨by decide, fun c last => ?_⟩
    have text : device.text.toList.getLast? = some 'a' := by decide
    cases text.symm.trans last
    decide
  exact ⟨client, s, conn, run, written, runs, found, listed, welcomes plain⟩

/-- A device gives itself a name that ends in a line end, and the server knows it by another one. An
identifier of 63 bytes that was cut behind a line end is not the same when it is decoded again. -/
theorem a_line_end_is_lost_on_the_way :
    let server : Server := { handler := fun _ r => (none, r) }
    let device : DeviceId := ⟨"a\n", by decide⟩
    let other : DeviceId := ⟨"a", by decide⟩
    let payload : Bytes := List.replicate 62 97 ++ [10, 98]
    let turns : List Session.Event :=
      [.connect device, .resume 0, .resume 0, .proceed, .dialed true]
    DeviceId.ofText? "a\n" = some device ∧
      DeviceId.ofWire? (Text.utf8 device.text) = some other ∧
      (({} : Session).run? turns).bind (·.sentOn? 0) = some [[1, 0, 2, 97, 10]] ∧
      (server.run? [.accept none, .arrive 0 [1, 0, 2, 97, 10], .read 0, .proceed 0]).map
        (·.registry.list) = some [other] ∧
      (DeviceId.ofWire? payload).map (·.text.toList) = some (List.replicate 62 'a' ++ ['\n']) ∧
      ((DeviceId.ofWire? payload).bind fun d => DeviceId.ofWire? (Text.utf8 d.text)).map
        (·.text.toList) = some (List.replicate 62 'a') := by
  decide +kernel

end Server

end DeviceLink
