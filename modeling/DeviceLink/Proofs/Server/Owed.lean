-- What a connection is owed and what it got. While its writer is there, what was written and what
-- waits is what it is owed; when the writer is gone, what was written is a first part of it.
import DeviceLink.Proofs.Server.Listening
import DeviceLink.Proofs.Server.Speaking

namespace DeviceLink.Server

open Registry (Operation Undisturbed)

/-! ## What is owed -/

/-- What a device gets for the frames that it sent: its greeting, and then each of them. -/
def owed (h : Handle) (frames : List Frame) : List Bytes :=
  Frame.ordinary (greeting h.device) :: frames.map fun f => Frame.ordinary f.payload

/-- What it gets as long as its connection is at a place. -/
def Place.owed (place : Place) (h : Handle) (frames : List Frame) : List Bytes :=
  if place.isGreeted then Server.owed h frames else []

/-- The writer of a connection failed, or the connection did not wait for it. -/
def Cut (story : List Moment) (c : ClientId) : Prop :=
  ∃ m ∈ story, m.event = .failWrite c ∨ m.event = .expire c

/-- What was said to a connection, if something was to be said. -/
inductive Said (story : List Moment) (c : ClientId) (conn : Connection) (line : Line)
    (all : List Bytes) : Prop
  | whole (writer : line.writer = true) (said : conn.sent ++ line.queue = all)
  | cut (writer : line.writer = false) (queue : line.queue = []) (said : conn.sent <+: all)
      (why : Cut story c)

variable {acts : Request → Registry → List Operation} {start s s' : Server} {e : Event}
  {story : List Moment} {m : Moment} {c : ClientId} {conn conn' : Connection} {h : Handle}
  {place : Place} {line line' : Line} {all : List Bytes}

theorem length_greeting (device : DeviceId) : (greeting device).length ≤ 65535 := by
  have short := device.length_utf8_text
  rw [Text.length_utf8] at short
  have parts : (greeting device).length = Text.sizeOf "Hello ".toList +
      Text.sizeOf device.text.toList + Text.sizeOf " from server handler\n".toList := by
    rw [← Text.sizeOf_append, ← Text.sizeOf_append, greeting, Text.length_utf8]
    simp [toString]
  have first : Text.sizeOf "Hello ".toList = 6 := by decide
  have last : Text.sizeOf " from server handler\n".toList = 21 := by decide
  unfold DeviceId.limit at short
  omega

theorem Cut.snoc (cut : Cut story c) : Cut (story ++ [m]) c := by
  obtain ⟨m', member, event⟩ := cut
  exact ⟨m', List.mem_append_left _ member, event⟩

theorem Said.starts (said : Said story c conn line all) : conn.sent <+: all := by
  cases said with
  | whole _ same => exact ⟨_, same⟩
  | cut _ _ first => exact first

/-! ## One moment more -/

theorem Said.still (said : Said story c conn line all) (sent : conn'.sent = conn.sent)
    (queue : line'.queue = line.queue) (writer : line'.writer = line.writer) :
    Said (story ++ [m]) c conn' line' all := by
  cases said with
  | whole there same => exact .whole (writer.trans there) (by rw [sent, queue, same])
  | cut gone empty first why =>
    exact .cut (writer.trans gone) (queue.trans empty) (sent ▸ first) why.snoc

/-- A frame that is sent waits behind the others, if there is a writer. -/
theorem Said.send {r : Registry} {payload : Bytes}
    (said : Said story c conn (r.line h.conn) all) (sent : conn'.sent = conn.sent)
    (fits : payload.length ≤ 65535) :
    Said (story ++ [m]) c conn' ((r.send h.conn payload).2.line h.conn)
      (all ++ [Frame.ordinary payload]) := by
  rcases Registry.sendFrame_cases r h.conn MessageType.socket.code payload with
    ⟨_, there, _, bs, encodes, queues⟩ | ⟨impossible, refused⟩
  · rw [Frame.encode_ordinary fits] at encodes
    cases encodes
    have line' := queues.line h.conn
    cases said with
    | whole writer same =>
      refine .whole ?_ ?_
      · exact (congrArg Line.writer line').trans writer
      · rw [sent, ← same, List.append_assoc]
        have queue := congrArg Line.queue line'
        simp only [List.count_singleton_self, List.replicate_one] at queue
        exact congrArg (conn.sent ++ ·) queue
    | cut writer =>
      have open' : (r.line h.conn).writer = true := there
      rw [writer] at open'
      cases open'
  · have same : (r.send h.conn payload).2 = r := by rw [Registry.send, refused]
    rw [same]
    cases said with
    | whole writer => exact absurd ⟨fits, writer⟩ impossible
    | cut writer queue first why =>
      exact .cut writer queue (sent ▸ first.trans (List.prefix_append _ _)) why.snoc

/-- What waits is written. -/
theorem Said.write {r : Registry} (said : Said story c conn (r.line h.conn) all)
    (sent : conn'.sent = conn.sent ++ (r.line h.conn).queue) :
    Said (story ++ [m]) c conn' ((r.drain h.conn).2.line h.conn) all := by
  have line' := r.line_drain h.conn h.conn
  rw [if_pos rfl] at line'
  rw [line']
  cases said with
  | whole writer same => exact .whole writer (by rw [sent, same, List.append_nil])
  | cut writer queue first why =>
    refine .cut writer rfl ?_ why.snoc
    rwa [sent, queue, List.append_nil]

/-- The writer goes away, and what waited is lost. -/
theorem Said.fail {r : Registry} (said : Said story c conn (r.line h.conn) all)
    (event : m.event = .failWrite c) :
    Said (story ++ [m]) c conn ((r.dropWriter h.conn).line h.conn) all := by
  have line' := r.line_dropWriter h.conn h.conn
  rw [line']
  refine .cut ?_ (if_pos rfl) said.starts ⟨m, by simp, .inl event⟩
  simp

/-! ## Connections -/

/-- What a connection got that said who it is. -/
inductive Got (story : List Moment) (r : Registry) (c : ClientId) (h : Handle)
    (conn : Connection) : Prop
  | present {place : Place} (stage : conn.stage = .identified h place)
      (early : place.isGreeted = false → framesFrom story c = [])
      (said : Said story c conn (r.line h.conn) (place.owed h (framesFrom story c)))
  | ended (stage : conn.stage = .ended) (said : conn.sent <+: owed h (framesFrom story c))
      (why : conn.sent = owed h (framesFrom story c) ∨ Cut story c)

theorem Got.starts {r : Registry} (got : Got story r c h conn) :
    conn.sent <+: owed h (framesFrom story c) := by
  cases got with
  | @present place stage early said =>
    have first := said.starts
    unfold Place.owed at first
    split at first
    · exact first
    · rw [List.prefix_nil.1 first]
      exact List.nil_prefix
  | ended stage said why => exact said

theorem framesFrom_of_intake (story : List Moment) (intake : m.intake? c = none) :
    framesFrom (story ++ [m]) c = framesFrom story c := by
  rw [framesFrom_concat, intake]
  exact List.append_nil _

theorem Got.snoc (got : Got story m.server.registry c h conn)
    (stage : conn.stage = .identified h place) (tells : Tells m s' c h place conn conn') :
    Got (story ++ [m]) s'.registry c h conn' := by
  cases got with
  | ended stage₀ => cases stage.symm.trans stage₀
  | @present place₀ stage₀ early said =>
    cases stage.symm.trans stage₀
    cases tells with
    | @nothing place' stage' greeted sent calm intake =>
      have frames := framesFrom_of_intake story intake
      refine .present stage' (fun before => ?_) ?_
      · rw [frames]
        exact early (greeted ▸ before)
      · unfold Place.owed at said ⊢
        rw [frames, greeted]
        exact said.still sent calm.queue calm.isOpen
    | greet here stage' sent registry intake =>
      subst here
      refine .present stage' nofun ?_
      have more : Said (story ++ [m]) c conn' (s'.registry.line h.conn)
          ([] ++ [Frame.ordinary (greeting h.device)]) := by
        rw [registry]
        exact said.send sent (length_greeting h.device)
      rw [framesFrom_of_intake _ intake, early rfl]
      exact more
    | @reply f here stage' sent fits registry intake =>
      subst here
      refine .present stage' nofun ?_
      rw [framesFrom_concat, intake, registry]
      simpa [Place.owed, Place.isGreeted, owed] using said.send (m := m) sent fits
    | write stage' sent registry intake =>
      have frames := framesFrom_of_intake story intake
      refine .present stage' (frames ▸ early) ?_
      rw [frames, registry]
      exact said.write sent
    | fail event same registry intake =>
      subst same
      have frames := framesFrom_of_intake story intake
      refine .present stage (frames ▸ early) ?_
      rw [frames, registry]
      exact said.fail event
    | part here stage' sent intake =>
      subst here
      have frames := framesFrom_of_intake story intake
      have said : Said story c conn (m.server.registry.line h.conn) (owed h (framesFrom story c)) :=
        said
      cases said with
      | whole writer same =>
        have all : conn'.sent = owed h (framesFrom (story ++ [m]) c) := by rw [sent, same, frames]
        exact .ended stage' (all ▸ List.prefix_rfl) (.inl all)
      | cut writer queue first why =>
        refine .ended stage' ?_ (.inr why.snoc)
        rwa [sent, queue, List.append_nil, frames]
    | abort event here stage' sent intake =>
      subst here
      refine .ended stage' ?_ (.inr ⟨m, by simp, .inr event⟩)
      rw [sent, framesFrom_of_intake _ intake]
      exact said.starts

/-! ## The whole story -/

/-- A connection that did not say who it is got nothing. -/
theorem sent_of_silent (does : Does acts start.handler) (alone : start.connections = [])
    (told : Story start story s) (nobody : life story c = [])
    (found : s.connections[c]? = some conn) : conn.sent = [] := by
  induction told generalizing conn with
  | nil => simp [alone] at found
  | @snoc past t t' e told hooks step ih =>
    have transition := transition_of_step? step
    have lived := lived_of_story does alone told
    have before : life past c = [] := (List.append_eq_nil_iff.1 (life_concat .. ▸ nobody)).1
    cases found₀ : t.connections[c]? with
    | none => exact ((transition.comes found₀).1 conn found).2.2
    | some conn₀ =>
      have silent : conn₀.handle? = none := by
        cases stage : conn₀.stage with
        | identified h place =>
          have known := lived.identified found₀ stage
          rw [before] at known
          cases known
        | handshake => simp [Connection.handle?, stage]
        | ended => simp [Connection.handle?, stage]
      rw [transition.sent_of_unknown silent found₀ found]
      exact ih before found₀

/-- The entries for a connection are its own, or copies that others registered. -/
theorem faithful_of_story (does : Does acts start.handler) (alone : start.connections = [])
    (told : Story start story s) (left : LeftAlone acts start story h)
    (known : .identified h ∈ life story c) : Registry.Faithful h s.registry.entries := by
  have lived := lived_of_story does alone told
  intro e entry same
  rcases origin_of_story does told e (.inl entry) with outsider | ⟨c', registered⟩
  · exact left.faithful e outsider same
  · have known' := lived.identified_of_registered registered
    obtain rfl := lived.numbers.distinct c' c e h known' known same
    rw [lived.handle_unique known known']

/-- Whoever registers a connection does so under its device. -/
theorem copies_of_moment (lived : Lived story m.server)
    (left : LeftAlone acts start (story ++ [m]) h) (known : .identified h ∈ life story c) :
    ∀ e, .register e ∈ m.operations acts → e.conn = h.conn → e.device = h.device := by
  intro e registers same
  rcases register_mem_operations registers with outsider | ⟨c', _, stands⟩
  · exact left.faithful e (by simp [outsider]) same
  · obtain ⟨conn, found, stage⟩ := standing?_eq_some_iff.1 stands
    have known' := lived.identified found stage
    obtain rfl := lived.numbers.distinct c' c e h known' known same
    rw [lived.handle_unique known known']

theorem Lived.identified_of_handle? (lived : Lived story s) (found : s.connections[c]? = some conn)
    (handle : conn.handle? = some h) : .identified h ∈ life story c := by
  cases stage : conn.stage with
  | identified h₀ place =>
    rw [handle?_of_stage stage] at handle
    cases handle
    exact lived.identified found stage
  | handshake => simp [Connection.handle?, stage] at handle
  | ended => simp [Connection.handle?, stage] at handle

theorem Lived.number_of_other (lived : Lived story s) (known : .identified h ∈ life story c)
    {c' : ClientId} {h' : Handle} (other : c' ≠ c) (handle : s.handleOf? c' = some h') :
    h'.conn ≠ h.conn := by
  obtain ⟨conn, found, handle⟩ := Option.bind_eq_some_iff.1 handle
  have known' := lived.identified_of_handle? found handle
  exact fun same => other (lived.numbers.distinct c' c h' h known' known same)

/-- A connection that had said who it is got what it is owed, and so it is a moment later. -/
theorem Got.after (got : Got story m.server.registry c h conn)
    (transition : Transition m.server m.event s') (lived : Lived story m.server)
    (known : .identified h ∈ life story c) (found : m.server.connections[c]? = some conn)
    (found' : s'.connections[c]? = some conn') (noSink : m.server.hooks.sink = none)
    (foreign : ∀ op ∈ m.foreign acts, op.spares h = true)
    (calm : (∀ op ∈ m.operations acts, op.spares h = true) →
      Undisturbed h.conn m.server.registry s'.registry) :
    Got (story ++ [m]) s'.registry c h conn' := by
  cases stage : conn.stage with
  | handshake =>
    rw [lived.handshake found stage] at known
    cases known
  | identified h₀ place =>
    obtain rfl := lived.handle_unique known (lived.identified found stage)
    obtain ⟨conn₁, found₁, tells⟩ := transition.tells found stage noSink foreign
      (fun c' h' other => lived.number_of_other known other) calm
    cases found'.symm.trans found₁
    exact got.snoc stage tells
  | ended =>
    obtain ⟨conn₁, found₁, hears⟩ := transition.hears found
    cases found'.symm.trans found₁
    obtain ⟨stage', intake⟩ := hears.of_ended stage
    have silent : conn.handle? = none := by simp [Connection.handle?, stage]
    have sent := transition.sent_of_unknown silent found found'
    have frames := framesFrom_of_intake story intake
    cases got with
    | present other => cases stage.symm.trans other
    | ended _ said why =>
      refine .ended stage' ?_ ?_
      · rwa [sent, frames]
      · rw [sent, frames]
        exact why.imp_right Cut.snoc

/-- A connection that says who it is got nothing so far. -/
theorem got_of_identified (transition : Transition m.server m.event s')
    (listening : Listening acts start story m.server) (new : .identified h ∈ m.deedsOf c)
    (silent : ∀ conn, m.server.connections[c]? = some conn → conn.stage = .handshake →
      conn.sent = [])
    (found' : s'.connections[c]? = some conn') : Got (story ++ [m]) s'.registry c h conn' := by
  have turn : Turn acts m s' := transition.turn
  obtain ⟨⟨conn, found, stage⟩, known, _⟩ := turn.introduces new
  have stage' := known conn' found'
  obtain ⟨conn₁, found₁, hears⟩ := transition.hears found
  cases found'.symm.trans found₁
  have unknown : conn.handle? = none := by simp [Connection.handle?, stage]
  have sent := (transition.sent_of_unknown unknown found found').trans (silent conn found stage)
  obtain ⟨line, intake⟩ := hears.of_identified stage stage'
  have frames : framesFrom (story ++ [m]) c = [] :=
    (framesFrom_of_intake _ intake).trans ((listening.heard c conn found).handshake stage).2
  refine .present stage' (fun _ => frames) ?_
  rw [line, frames]
  exact .whole rfl (by rw [sent]; rfl)

/-- Whatever else happens, a connection that nobody sends anything gets what it is owed. -/
theorem got_of_story (does : Does acts start.handler) (alone : start.connections = [])
    (told : Story start story s) (noSink : ∀ m ∈ story, m.server.hooks.sink = none)
    (plain : h.device.isAdminConsole = false) (left : LeftAlone acts start story h)
    (known : .identified h ∈ life story c) (found : s.connections[c]? = some conn) :
    Got story s.registry c h conn := by
  induction told generalizing conn with
  | nil => cases known
  | @snoc past t t' e told hooks step ih =>
    have transition := transition_of_step? step
    have registry := registry_of_story does told step
    have listening := (listening_of_story does alone told).withHooks hooks
    have lived := listening.lived
    rcases List.mem_append.1 (life_concat .. ▸ known) with old | new
    · have faithful := faithful_of_story does alone told left.before old
      have number := lived.numbers.taken c h old
      have copies := copies_of_moment lived left old
      obtain missing | ⟨conn₀, found₀⟩ := Option.eq_none_or_eq_some t.connections[c]?
      · rw [lived.absent c missing] at old
        cases old
      · have got := ih (fun m member => noSink m (List.mem_append_left _ member)) left.before old
          found₀
        refine Got.after (m := ⟨{ t with hooks }, e⟩) got transition lived old found₀ found
          (noSink _ (by simp)) (left.spared _ (by simp)) fun spared => ?_
        rw [registry]
        exact Registry.undisturbed_after spared plain faithful copies number
    · refine got_of_identified transition listening new (fun conn₀ found₀ stage => ?_) found
      exact sent_of_silent does alone told (lived.handshake found₀ stage) found₀

end DeviceLink.Server
