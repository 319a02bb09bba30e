-- The greeting of a connection, and what a client takes for it. A connection can be pushed to
-- before its greeting is queued, and the client takes the first frame on its socket as the
-- greeting, whatever it is.
import DeviceLink.Proofs.Client.Replies
import DeviceLink.Proofs.Server.Pushed

namespace DeviceLink.Session

/-- A client takes the frames that arrive on a socket in turn. -/
theorem taken_in_turn {cap : Nat} {timeout : Duration} {story : List Moment} {s : Session}
    {i : SocketId} {frames : List Bytes} (told : Story ({ cap, timeout } : Session) story s)
    (encoded : ∀ bs ∈ frames, ∃ typ payload, Frame.encode typ payload = .ok bs)
    (arrived : bytesOn story i <+: frames.flatten) {k : Nat} {d : Delivery}
    (found : (deliveriesOn story i)[k]? = some d) :
    ∃ bs, frames[k]? = some bs ∧ Frame.decode? cap bs = some (d.frame, []) := by
  have taken := ((tracked_of_story told).streamed.off i).starts
  rw [(setup_of_story told).1] at taken
  obtain ⟨more, split⟩ := arrived
  have all : (deliveriesOn story i).map (·.frame) <+: (Frame.decodeAll cap frames.flatten).1 := by
    rw [← split, Frame.decodeAll_append]
    exact taken.trans (List.prefix_append _ _)
  have frame : (Frame.decodeAll cap frames.flatten).1[k]? = some d.frame :=
    getElem?_of_extends all (by rw [List.getElem?_map, found]; rfl)
  have one := congrArg (·[k]?) (Frame.decodeAll_flatten cap encoded)
  simp only [List.getElem?_map, frame, Option.map_some] at one
  exact Option.map_eq_some_iff.1 one

end DeviceLink.Session

namespace DeviceLink.Server

open Registry (Operation accepted gather)
open Session (bytesOn deliveriesOn)

variable {acts : Request → Registry → List Operation} {start s t t' : Server}
  {before after : List Moment} {c : ClientId} {conn : Connection} {h : Handle} {k : ConnId}

/-! ## What is pushed -/

theorem pushed_append (before after : List Moment) (k : ConnId) :
    pushed acts (before ++ after) k = pushed acts before k ++ pushed acts after k :=
  List.flatMap_append

theorem pushed_cons (m : Moment) (after : List Moment) (k : ConnId) :
    pushed acts (m :: after) k = m.pushedTo acts k ++ pushed acts after k := List.flatMap_cons

theorem encoded_of_pushed {story : List Moment} {bs : Bytes} (member : bs ∈ pushed acts story k) :
    ∃ typ payload, Frame.encode typ payload = .ok bs := by
  obtain ⟨m, _, now⟩ := List.mem_flatMap.1 member
  unfold Moment.pushedTo at now
  split at now
  · obtain ⟨r, op, sent⟩ := Registry.exists_of_mem_gather now
    exact Registry.encoded_of_accepted sent
  · cases now

/-- The greeting is accepted if the writer is there. -/
theorem pushedTo_of_announced (stands : t.standing? c = some (h, .announced))
    (old : h.conn < t.registry.nextConn) (there : t.registry.isOpen h.conn = true) :
    Moment.pushedTo acts ⟨t, .proceed c⟩ h.conn = [Frame.ordinary (greeting h.device)] := by
  have operations : Moment.operations acts ⟨t, .proceed c⟩ =
      [.send h.conn (greeting h.device)] := by
    simp only [Moment.operations, stands]
    rfl
  have fits := length_greeting h.device
  have sends : (t.registry.send h.conn (greeting h.device)).1 = true :=
    (Registry.pushes_sendFrame t.registry (fun _ => Iff.rfl) _ _).accepted_iff_possible.2
      ⟨h.conn, rfl, fits, there⟩
  have takes : accepted h.conn t.registry (.send h.conn (greeting h.device)) =
      Registry.framed MessageType.socket.code (greeting h.device) := if_pos ⟨rfl, sends⟩
  rw [Moment.pushedTo, if_pos old, operations, gather, takes,
    Registry.framed_of_encode (Frame.encode_ordinary fits)]
  rfl

/-! ## The law -/

/-- What a client makes of a socket on which the greeting for a device comes behind other frames. It
takes all of them in turn, the first one as the greeting. The greeting itself is that only if
nothing comes before it; else it is the reply to the wait that is pending when it is taken. -/
structure TakesGreeting (cap : Nat) (device : DeviceId) (early frames : List Bytes)
    (story : List Session.Moment) (client : Session) (i : Session.SocketId) : Prop where
  inTurn : ∀ (n : Nat) d, (deliveriesOn story i)[n]? = some d → d.isGreeting = (n == 0) ∧
    ∃ bs, frames[n]? = some bs ∧ Frame.decode? cap bs = some (d.frame, [])
  greeting : ∀ d, (deliveriesOn story i)[early.length]? = some d →
    d.frame = Frame.kept cap (MessageType.socket.code, greeting device) ∧
    (d.isGreeting = true ↔ early = []) ∧ (early = [] → d.isReply = false) ∧
    (early ≠ [] → ∀ w, d.wait = some w → client.replies[w]? = some (.ok d.frame))

theorem takesGreeting {cap : Nat} {timeout : Duration} {story : List Session.Moment}
    {client : Session} {i : Session.SocketId} {device : DeviceId} {early late : List Bytes}
    (told : Session.Story ({ cap, timeout } : Session) story client)
    (encoded : ∀ bs ∈ early ++ Frame.ordinary (greeting device) :: late,
      ∃ typ payload, Frame.encode typ payload = .ok bs)
    (arrived : bytesOn story i <+: (early ++ Frame.ordinary (greeting device) :: late).flatten) :
    TakesGreeting cap device early (early ++ Frame.ordinary (greeting device) :: late) story client
      i := by
  have first := (Session.tracked_of_story told).streamed.first
  have inTurn := fun (n : Nat) d => Session.taken_in_turn (k := n) (d := d) told encoded arrived
  refine ⟨fun n d found => ⟨first i n d found, inTurn n d found⟩, fun d found => ?_⟩
  have greets := first i early.length d found
  have frame : d.frame = Frame.kept cap (MessageType.socket.code, greeting device) := by
    obtain ⟨bs, here, decoded⟩ := inTurn early.length d found
    rw [List.getElem?_append_right (Nat.le_refl _), Nat.sub_self, List.getElem?_cons_zero] at here
    cases here
    have encodes := Frame.encode_ordinary (length_greeting device)
    rw [Frame.decode?_of_encode cap encodes] at decoded
    exact (congrArg Prod.fst (Option.some.inj decoded)).symm
  have asGreeting : d.isGreeting = true ↔ early = [] := by
    rw [greets, beq_iff_eq, List.length_eq_zero_iff]
  refine ⟨frame, asGreeting, fun nothing => ?_, fun something w waits => ?_⟩
  · simp [Session.Delivery.isReply, asGreeting.2 nothing]
  · have other : d.isGreeting = false := by
      apply Bool.eq_false_iff.2
      exact fun same => something (asGreeting.1 same)
    have reply : d.isReply = true := by
      simp [Session.Delivery.isReply, other, waits, frame, Frame.kept]
    have member : d ∈ Session.deliveries story :=
      List.mem_of_mem_filter (List.mem_of_getElem? found)
    obtain ⟨w', waits', given⟩ := (Session.accounted_of_story told).given d member reply
    cases waits.symm.trans waits'
    exact given

/-- A greeting waits behind whatever was pushed before. Take any story of a server that starts with
no connection, in which a connection is about to be greeted, and whatever happens then; others may
push to the connection at any time, before and after, and do to the registry what they like, if
only they leave to its writer what waits for it. What was written to the connection, with what still
waits, is what was accepted for it so far, then its greeting, and then what was accepted later; or
it is a first part of this, if the writer is gone. A client on the other side takes these frames in
turn, and the first one as its greeting. So if anything was accepted for the connection before it
was greeted, the client takes that for the greeting, and gives the greeting as the reply to a
message if it waits for one. -/
theorem a_greeting_waits_behind_what_was_pushed_before (does : Does acts start.handler)
    (alone : start.connections = []) (told : Story start before t)
    (stands : t.standing? c = some (h, .announced)) (there : t.registry.isOpen h.conn = true)
    (step : t.step? (.proceed c) = some t') (later : Story t' after s)
    (untouched : Untouched acts (before ++ ⟨t, .proceed c⟩ :: after) h.conn)
    (found : s.connections[c]? = some conn) :
    let early := pushed acts before h.conn
    let frames := early ++ Frame.ordinary (greeting h.device) :: pushed acts after h.conn
    InTurn frames s.registry h.conn conn.sent ∧
    ∀ cap timeout story client i, Session.Story ({ cap, timeout } : Session) story client →
      bytesOn story i <+: conn.sent.flatten →
      TakesGreeting cap h.device early frames story client i := by
  intro early frames
  have split : before ++ ⟨t, .proceed c⟩ :: after = (before ++ [⟨t, .proceed c⟩]) ++ after := by
    rw [List.append_assoc, List.singleton_append]
  have whole : Story start (before ++ ⟨t, .proceed c⟩ :: after) s :=
    split ▸ (told.snoc t.hooks step).append later
  have lived := lived_of_story does alone told
  obtain ⟨conn₀, found₀, stage⟩ := standing?_eq_some_iff.1 stands
  have known := lived.identified found₀ stage
  have old := lived.numbers.taken c h known
  have all : pushed acts (before ++ ⟨t, .proceed c⟩ :: after) h.conn = frames := by
    rw [pushed_append, pushed_cons, pushedTo_of_announced stands old there]
    rfl
  have known' : .identified h ∈ life (before ++ ⟨t, .proceed c⟩ :: after) c := by
    rw [life_append]
    exact List.mem_append_left _ known
  have inTurn := inTurn_of_story does alone whole untouched known' found
  rw [all] at inTurn
  refine ⟨inTurn, fun cap timeout story client i clientTold arrived => ?_⟩
  have encoded : ∀ bs ∈ frames, ∃ typ payload, Frame.encode typ payload = .ok bs := by
    rw [← all]
    exact fun bs => encoded_of_pushed
  obtain ⟨more, sent⟩ := inTurn.starts
  apply takesGreeting clientTold encoded
  refine arrived.trans ?_
  change conn.sent.flatten <+: frames.flatten
  rw [← sent, List.flatten_append]
  exact List.prefix_append _ _

/-- A frame is pushed to a device right after its greeting. The client takes the greeting for what
it is. -/
theorem a_greeting_comes_first_if_nothing_was_pushed_before :
    let s : Server := { handler := fun _ r => (none, r) }
    let h : Handle := { conn := 1, device := ⟨"a", by decide⟩ }
    let es : List Event := [.accept none, .arrive 0 [1, 0, 1, 97], .read 0, .proceed 0, .proceed 0]
    let es' : List Event := [.operate (.unicast "a" [120]), .write 0]
    let frames := [Frame.ordinary (greeting h.device), Frame.ordinary [120]]
    let client : Session := {}
    let turns : List Session.Event := [.connect h.device, .resume 0, .resume 0, .proceed,
      .dialed true, .arrive 0 frames.flatten, .read, .proceed, .proceed, .read]
    ∃ t t' s' conn client', s.run? es = some t ∧ t.step? (.proceed 0) = some t' ∧
      t'.run? es' = some s' ∧ s'.connections[0]? = some conn ∧ conn.sent = frames ∧
      client.run? turns = some client' ∧
      TakesGreeting client.cap h.device [] frames (client.moments turns) client' 0 := by
  intro s h es es' frames client turns
  have comes : (s.run? es).map (fun t =>
      (t.standing? 0, t.registry.isOpen 1, decide (1 < t.registry.nextConn))) =
      some (some (h, .announced), true, true) := by decide +kernel
  have steps : ((s.run? es).bind (·.step? (.proceed 0))).isSome = true := by decide +kernel
  have writes : ((((s.run? es).bind (·.step? (.proceed 0))).bind (·.run? es')).bind
      (·.connections[0]?)).map (·.sent) = some frames := by decide +kernel
  have takes : (client.run? turns).isSome = true := by decide +kernel
  have early : pushed (fun _ _ => []) (s.tell es) h.conn = [] := by decide +kernel
  have all : pushed (fun _ _ => []) (s.tell (es ++ .proceed 0 :: es')) h.conn = frames := by
    decide +kernel
  have untouched : Untouched (fun _ _ => []) (s.tell (es ++ .proceed 0 :: es')) h.conn := by
    unfold Untouched
    decide +kernel
  have arrived : bytesOn (client.moments turns) 0 = frames.flatten := by decide +kernel
  obtain ⟨t, run, stands⟩ := Option.map_eq_some_iff.1 comes
  simp only [Prod.mk.injEq, decide_eq_true_eq] at stands
  obtain ⟨stands, there, old⟩ := stands
  rw [run, Option.bind_some] at steps writes
  obtain ⟨t', step⟩ := Option.isSome_iff_exists.1 steps
  rw [step, Option.bind_some] at writes
  obtain ⟨conn, found, sent⟩ := Option.map_eq_some_iff.1 writes
  obtain ⟨s', run', found⟩ := Option.bind_eq_some_iff.1 found
  obtain ⟨client', clientRun⟩ := Option.isSome_iff_exists.1 takes
  rw [tell_append_cons run step] at untouched all
  rw [pushed_append, pushed_cons, early, pushedTo_of_announced stands old there] at all
  obtain ⟨_, meets⟩ := a_greeting_waits_behind_what_was_pushed_before (fun _ _ => rfl) rfl
    (story_tell run) stands there step (story_tell run') untouched found
  have law := meets _ _ _ _ 0 (Session.story_moments clientRun) (by rw [arrived, sent])
  rw [early] at law
  refine ⟨t, t', s', conn, client', run, step, run', found, sent, clientRun, ?_⟩
  rw [← all]
  exact law

/-- A frame is pushed to a device that has registered and is not yet greeted. It comes before the
greeting; the client takes it as the greeting, and the greeting as the reply that it waits for. -/
theorem a_push_comes_before_the_greeting :
    let s : Server := { handler := fun _ r => (none, r) }
    let d : DeviceId := ⟨"a", by decide⟩
    let es : List Event := [.accept none, .arrive 0 [1, 0, 1, 97], .read 0, .proceed 0,
      .operate (.unicast "a" [120]), .proceed 0, .proceed 0, .write 0]
    let frames := [Frame.ordinary [120], Frame.ordinary (greeting d)]
    let turns : List Session.Event := [.connect d, .resume 0, .resume 0, .proceed, .dialed true,
      .arrive 0 frames.flatten, .read, .proceed, .proceed, .ask [1], .read]
    (s.run? es).map (fun s' => s'.connections.map (·.sent)) = some [frames] ∧
    (({} : Session).run? turns).map (fun client => (client.told, client.replies.map (·.toOption))) =
      some ([Frame.socket [120]], [some (Frame.socket (greeting d))]) := by
  decide +kernel

end DeviceLink.Server
