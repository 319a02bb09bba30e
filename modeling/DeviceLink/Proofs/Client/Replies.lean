-- Where the frames of a client go: an ordinary one to the wait that is pending, if there is one,
-- and everything else to the callback. The slot for a reply is filled as a message is sent and
-- emptied in four places; it is never left filled behind a wait that is over.
import DeviceLink.Proofs.Client.Streams

namespace DeviceLink.Session

variable {start s s' : Session} {story : List Moment} {e : Event} {m : Moment}

/-! ## What a moment does to the waits -/

/-- Why a wait ends without a reply. -/
inductive Unanswered (timeout : Duration) : ClientError → Prop
  | unconnected : Unanswered timeout .notConnected
  | broken (cause : LinkError) : Unanswered timeout (.link cause)
  | lost : Unanswered timeout .lost
  | late : Unanswered timeout (.timeout timeout)

/-- What a moment does to the callback and to the waits. -/
inductive Turn (m : Moment) (s' : Session) : Prop
  | quiet (delivery : m.delivery? = none) (asks : m.event.isAsk = false)
      (told : s'.told = m.session.told) (replies : s'.replies = m.session.replies)
      (waits : s'.waiting = m.session.waiting)
  | tell {d : Delivery} (delivery : m.delivery? = some d) (asks : m.event.isAsk = false)
      (callback : d.isReply = false)
      (free : d.frame.typ = MessageType.socket.code → d.isGreeting = false →
        m.session.waiting = none)
      (told : s'.told = m.session.told ++ [d.frame]) (replies : s'.replies = m.session.replies)
      (waits : s'.waiting = m.session.waiting)
  | answer {d : Delivery} {w : WaitId} (delivery : m.delivery? = some d)
      (asks : m.event.isAsk = false) (reply : d.isReply = true) (slot : d.wait = some w)
      (before : m.session.waiting = some w) (told : s'.told = m.session.told)
      (replies : s'.replies = m.session.replies ++ [.ok d.frame]) (waits : s'.waiting = none)
  | fail {w : WaitId} {cause : ClientError} (delivery : m.delivery? = none)
      (asks : m.event.isAsk = false) (kind : Unanswered m.session.timeout cause)
      (before : m.session.waiting = some w) (told : s'.told = m.session.told)
      (replies : s'.replies = m.session.replies ++ [.error cause]) (waits : s'.waiting = none)
  | await (delivery : m.delivery? = none) (asks : m.event.isAsk = true)
      (before : m.session.waiting = none) (told : s'.told = m.session.told)
      (replies : s'.replies = m.session.replies)
      (waits : s'.waiting = some m.session.replies.length)
  | refuse {cause : ClientError} (delivery : m.delivery? = none) (asks : m.event.isAsk = true)
      (kind : Unanswered m.session.timeout cause) (before : m.session.waiting = none)
      (told : s'.told = m.session.told)
      (replies : s'.replies = m.session.replies ++ [.error cause]) (waits : s'.waiting = none)

/-- A moment at which a cell is cleared. -/
theorem Turn.of_clear {cell : Cell} (slot : m.session.pending = m.session.waiting)
    (delivery : m.delivery? = none) (asks : m.event.isAsk = false)
    (told : s'.told = (m.session.clear cell).told)
    (replies : s'.replies = (m.session.clear cell).replies)
    (waits : s'.waiting = (m.session.clear cell).waiting) : Turn m s' := by
  rw [clear_eq slot] at told replies waits
  cases cell with
  | slot =>
    have waits : s'.waiting = none := waits
    have replies : s'.replies = (m.session.endSlot (.error .lost)).replies := replies
    obtain before | ⟨w, before⟩ := Option.eq_none_or_eq_some m.session.waiting
    · refine .quiet delivery asks told ?_ (waits.trans before.symm)
      rw [replies, endSlot, before]
      exact List.append_nil _
    · refine .fail delivery asks .lost before told ?_ waits
      rw [replies, endSlot, before]
      rfl
  | _ => exact .quiet delivery asks told replies waits

theorem turn_receive (c : Coherent s) {i : SocketId} {f : Frame} {inbox : Bytes}
    (delivery : Moment.delivery? ⟨s, .read⟩ = some ⟨i, f, false, s.pending⟩) :
    Turn ⟨s, .read⟩ ((s.leaveOn i inbox).dispatch f) := by
  rw [dispatch_eq (s := s.leaveOn i inbox) c.slot]
  obtain before | ⟨w, before⟩ := Option.eq_none_or_eq_some s.waiting
  · rw [if_neg (by simp [leaveOn, updateSocket, before])]
    exact .tell delivery rfl (by simp [Delivery.isReply, c.slot, before]) (fun _ _ => before) rfl
      rfl rfl
  · by_cases ordinary : f.typ = MessageType.socket.code
    · rw [if_pos (by simp [leaveOn, updateSocket, before, ordinary])]
      refine .answer delivery rfl ?_ (c.slot.trans before) before rfl ?_ rfl
      · simp [Delivery.isReply, c.slot, before, ordinary]
      · simp [endSlot, leaveOn, updateSocket, before]
    · rw [if_neg (by simp [ordinary])]
      exact .tell delivery rfl (by simp [Delivery.isReply, ordinary])
        (fun same _ => absurd same ordinary) rfl rfl rfl

theorem turn_send (s : Session) (typ : UInt8) (payload : Bytes) :
    Turn ⟨s, .send typ payload⟩ (s.send typ payload).2 := by
  have sends := sends_send s typ payload
  generalize s.send typ payload = result at sends ⊢
  obtain ⟨outcome, after⟩ := result
  cases sends <;> exact .quiet rfl rfl rfl rfl rfl

theorem turn_ask (idle : s.waiting = none) (payload : Bytes) :
    Turn ⟨s, .ask payload⟩ (s.ask payload) := by
  have asks := asks_ask s payload
  generalize s.ask payload = after at asks ⊢
  cases asks with
  | begun writer bs => exact .await rfl rfl idle rfl rfl rfl
  | unconnected writer => exact .refuse rfl rfl .unconnected idle rfl rfl idle
  | broken writer cause => exact .refuse rfl rfl (.broken cause) idle rfl rfl idle

theorem Transition.turn (transition : Transition s e s') (c : Coherent s) : Turn ⟨s, e⟩ s' := by
  cases transition with
  | erase called stage => exact .of_clear c.slot rfl rfl rfl rfl rfl
  | clear task place => exact .of_clear c.slot rfl rfl rfl rfl rfl
  | greet task place found decoded =>
    exact .tell (delivery?_greet task place found decoded) rfl (by simp [Delivery.isReply])
      (fun _ => nofun) rfl rfl rfl
  | miscarry task place found incomplete hungUp =>
    exact .quiet (delivery?_incomplete task (.inl place) found incomplete) rfl rfl rfl rfl
  | receive task place found decoded =>
    exact turn_receive c (delivery?_receive task place found decoded)
  | lose task place found incomplete hungUp =>
    exact .quiet (delivery?_incomplete task (.inr place) found incomplete) rfl rfl rfl rfl
  | send typ payload => exact turn_send s typ payload
  | ask payload idle => exact turn_ask idle payload
  | expire waits =>
    rw [endWait_eq waits]
    refine .fail rfl rfl .late waits rfl ?_ rfl
    simp [endSlot, waits]
  | _ => exact .quiet rfl rfl rfl rfl rfl

theorem Turn.extends (turn : Turn m s') : m.session.replies <+: s'.replies := by
  cases turn with
  | quiet delivery asks told replies => exact replies ▸ List.prefix_refl _
  | tell delivery asks callback free told replies => exact replies ▸ List.prefix_refl _
  | answer delivery asks reply slot before told replies => exact replies ▸ List.prefix_append _ _
  | fail delivery asks kind before told replies => exact replies ▸ List.prefix_append _ _
  | await delivery asks before told replies => exact replies ▸ List.prefix_refl _
  | refuse delivery asks kind before told replies => exact replies ▸ List.prefix_append _ _

/-! ## What comes of a wait -/

/-- What has come of a wait, given the frames that were taken after it began: it goes on, and no
ordinary one has come; or it got the first ordinary one, which is no greeting; or it ended without
one. -/
inductive Outcome (timeout : Duration) (s : Session) (w : WaitId) (frames : List Delivery) : Prop
  | waiting (waits : s.waiting = some w) (slot : s.pending = some w)
      (nothing : ∀ d ∈ frames, d.frame.typ ≠ MessageType.socket.code)
  | answered {d : Delivery} (reply : s.replies[w]? = some (.ok d.frame))
      (first : frames.find? (·.frame.typ == MessageType.socket.code) = some d)
      (ordinary : d.isGreeting = false) (slot : d.wait = some w)
  | failed {cause : ClientError} (reply : s.replies[w]? = some (.error cause))
      (kind : Unanswered timeout cause)

theorem getElem?_of_extends {α : Type} {xs ys : List α} {x : α} {k : Nat} (extends_ : xs <+: ys)
    (found : xs[k]? = some x) : ys[k]? = some x := by
  obtain ⟨more, rfl⟩ := extends_
  rw [List.getElem?_append_left (List.getElem?_eq_some_iff.1 found).1, found]

theorem not_greeting_of_isReply {d : Delivery} (reply : d.isReply = true) :
    d.frame.typ = MessageType.socket.code ∧ d.isGreeting = false := by
  simp only [Delivery.isReply, Bool.and_eq_true, beq_iff_eq, Bool.not_eq_true'] at reply
  exact reply.1

/-- One moment more for a wait that has begun. All frames are counted but some greetings, and no
greeting that is counted comes while a wait is pending. -/
theorem Outcome.snoc {w : WaitId} {after : List Moment} {counts : Delivery → Bool}
    (c : Coherent m.session) (c' : Coherent s') (turn : Turn m s')
    (all : ∀ d, d.isGreeting = false → counts d = true)
    (greeted : ∀ d, m.delivery? = some d → counts d = true → d.isGreeting = true →
      d.wait = none)
    (outcome : Outcome m.session.timeout m.session w ((deliveries after).filter counts)) :
    Outcome m.session.timeout s' w ((deliveries (after ++ [m])).filter counts) := by
  rw [deliveries_snoc, List.filter_append]
  cases outcome with
  | answered reply first ordinary slot =>
    refine .answered (getElem?_of_extends turn.extends reply) ?_ ordinary slot
    rw [List.find?_append, first]
    rfl
  | failed reply kind => exact .failed (getElem?_of_extends turn.extends reply) kind
  | waiting waits slot nothing =>
    have number := c.turn w waits
    cases turn with
    | quiet delivery asks told replies waits' =>
      have waits' := waits'.trans waits
      refine .waiting waits' (c'.slot.trans waits') ?_
      rwa [delivery, Option.toList_none, List.filter_nil, List.append_nil]
    | @tell d delivery asks callback free told replies waits' =>
      have waits' := waits'.trans waits
      refine .waiting waits' (c'.slot.trans waits') ?_
      intro d' member
      rw [delivery] at member
      rcases List.mem_append.1 member with old | new
      · exact nothing d' old
      · rw [Option.toList_some, List.mem_filter, List.mem_singleton] at new
        obtain ⟨rfl, counted⟩ := new
        intro ordinary
        cases greeting : d'.isGreeting with
        | false => exact absurd ((free ordinary greeting).symm.trans waits) nofun
        | true =>
          have before := greeted d' delivery counted greeting
          rw [wait_of_delivery? delivery, slot] at before
          cases before
    | answer delivery asks reply slot' before told replies =>
      obtain ⟨ordinary, greeting⟩ := not_greeting_of_isReply reply
      have same : w = _ := Option.some.inj (waits.symm.trans before)
      refine .answered (by rw [replies, number, List.getElem?_concat_length]) ?_ greeting
        (same ▸ slot')
      have none_before : ((deliveries after).filter counts).find?
          (·.frame.typ == MessageType.socket.code) = none :=
        List.find?_eq_none.2 fun d' member => by simpa using nothing d' member
      rw [delivery, List.find?_append, none_before]
      simp [all _ greeting, ordinary]
    | fail delivery asks kind before told replies =>
      exact .failed (by rw [replies, number, List.getElem?_concat_length]) kind
    | await delivery asks before => simp [before] at waits
    | refuse delivery asks kind before => simp [before] at waits

/-- A wait has just begun, or has failed at once. -/
theorem Outcome.of_ask (c' : Coherent s') (turn : Turn m s') (asks : m.event.isAsk = true) :
    Outcome m.session.timeout s' m.session.replies.length [] := by
  cases turn with
  | await delivery _ before told replies waits =>
    exact .waiting waits (c'.slot.trans waits) fun _ => nofun
  | refuse delivery _ kind before told replies =>
    exact .failed (by rw [replies, List.getElem?_concat_length]) kind
  | quiet _ other | tell _ other | answer _ other | fail _ other => simp [asks] at other

/-! ## The whole story -/

/-- No wait is pending as a greeting is taken. -/
def Unwaited (story : List Moment) : Prop :=
  ∀ d ∈ deliveries story, d.isGreeting = true → d.wait = none

theorem unwaited_of_snoc (unwaited : Unwaited (story ++ [m])) : Unwaited story := by
  intro d member
  apply unwaited d
  rw [deliveries_snoc]
  exact List.mem_append_left _ member

/-- The frames and the waits of a story are accounted for by what the client was told, and by the
replies. -/
structure Accounted (story : List Moment) (s : Session) : Prop where
  told : s.told = ((deliveries story).filter (!·.isReply)).map (·.frame)
  answers : s.replies.filterMap (·.toOption) =
    ((deliveries story).filter (·.isReply)).map (·.frame)
  given : ∀ d ∈ deliveries story, d.isReply = true →
    ∃ w, d.wait = some w ∧ s.replies[w]? = some (.ok d.frame)
  count : story.countP (·.event.isAsk) = s.replies.length + s.waiting.toList.length
  outcomes : ∀ before m after, story = before ++ m :: after → m.event.isAsk = true →
    m.session.replies.length = before.countP (·.event.isAsk) ∧
      Outcome s.timeout s m.session.replies.length ((deliveries after).filter (!·.isGreeting)) ∧
      (Unwaited story → Outcome s.timeout s m.session.replies.length (deliveries after))

theorem Accounted.told_snoc (acc : Accounted story m.session) (turn : Turn m s') :
    s'.told = ((deliveries (story ++ [m])).filter (!·.isReply)).map (·.frame) := by
  rw [deliveries_snoc, List.filter_append, List.map_append, ← acc.told]
  cases turn with
  | quiet delivery asks told => simp [delivery, told]
  | tell delivery asks callback free told => simp [delivery, callback, told]
  | answer delivery asks reply slot before told => simp [delivery, reply, told]
  | fail delivery asks kind before told => simp [delivery, told]
  | await delivery asks before told => simp [delivery, told]
  | refuse delivery asks kind before told => simp [delivery, told]

theorem Accounted.answers_snoc (acc : Accounted story m.session) (turn : Turn m s') :
    s'.replies.filterMap (·.toOption) =
      ((deliveries (story ++ [m])).filter (·.isReply)).map (·.frame) := by
  rw [deliveries_snoc, List.filter_append, List.map_append, ← acc.answers]
  cases turn with
  | quiet delivery asks told replies => simp [delivery, replies]
  | tell delivery asks callback free told replies => simp [delivery, callback, replies]
  | answer delivery asks reply slot before told replies =>
    simp [delivery, reply, replies, Except.toOption]
  | fail delivery asks kind before told replies => simp [delivery, replies, Except.toOption]
  | await delivery asks before told replies => simp [delivery, replies]
  | refuse delivery asks kind before told replies => simp [delivery, replies, Except.toOption]

theorem Accounted.given_snoc (acc : Accounted story m.session) (c : Coherent m.session)
    (turn : Turn m s') {d : Delivery} (member : d ∈ deliveries (story ++ [m]))
    (reply : d.isReply = true) : ∃ w, d.wait = some w ∧ s'.replies[w]? = some (.ok d.frame) := by
  rw [deliveries_snoc] at member
  rcases List.mem_append.1 member with old | new
  · obtain ⟨w, slot, given⟩ := acc.given d old reply
    exact ⟨w, slot, getElem?_of_extends turn.extends given⟩
  · have delivered : m.delivery? = some d := by simpa using new
    cases turn with
    | tell delivery asks callback =>
      cases delivery.symm.trans delivered
      simp [reply] at callback
    | @answer d' w delivery asks _ slot before told replies =>
      cases delivery.symm.trans delivered
      refine ⟨w, slot, ?_⟩
      rw [replies, c.turn w before, List.getElem?_concat_length]
    | quiet delivery => simp [delivery] at delivered
    | fail delivery => simp [delivery] at delivered
    | await delivery => simp [delivery] at delivered
    | refuse delivery => simp [delivery] at delivered

theorem Accounted.count_snoc (acc : Accounted story m.session) (turn : Turn m s') :
    (story ++ [m]).countP (·.event.isAsk) = s'.replies.length + s'.waiting.toList.length := by
  rw [List.countP_append, acc.count]
  cases turn with
  | quiet delivery asks told replies waits => simp [asks, replies, waits]
  | tell delivery asks callback free told replies waits => simp [asks, replies, waits]
  | answer delivery asks reply slot before told replies waits =>
    simp [asks, replies, waits, before]
  | fail delivery asks kind before told replies waits => simp [asks, replies, waits, before]
  | await delivery asks before told replies waits => simp [asks, replies, waits, before]
  | refuse delivery asks kind before told replies waits => simp [asks, replies, waits, before]

theorem Accounted.outcomes_snoc (acc : Accounted story m.session) (c : Coherent m.session)
    (c' : Coherent s') (turn : Turn m s') {before after : List Moment} {m' : Moment}
    (parts : story ++ [m] = before ++ m' :: after) (asks : m'.event.isAsk = true) :
    m'.session.replies.length = before.countP (·.event.isAsk) ∧
      Outcome m.session.timeout s' m'.session.replies.length
        ((deliveries after).filter (!·.isGreeting)) ∧
      (Unwaited (story ++ [m]) →
        Outcome m.session.timeout s' m'.session.replies.length (deliveries after)) := by
  rcases mem_snoc_cases parts with ⟨rfl, rfl, rfl⟩ | ⟨after', rfl, rfl⟩
  · refine ⟨?_, .of_ask c' turn asks, fun _ => .of_ask c' turn asks⟩
    have idle : m'.session.waiting = none := by
      cases turn with
      | await _ _ before => exact before
      | refuse _ _ _ before => exact before
      | quiet _ other | tell _ other | answer _ other | fail _ other => simp [asks] at other
    rw [acc.count, idle]
    rfl
  · obtain ⟨number, outcome, outcome'⟩ := acc.outcomes before m' after' rfl asks
    refine ⟨number, ?_, fun unwaited => ?_⟩
    · refine outcome.snoc c c' turn (by simp) fun d _ counted greeting => ?_
      simp [greeting] at counted
    · -- with no greeting to leave out, all frames are counted
      have every : ∀ frames : List Delivery, frames.filter (fun _ => true) = frames := by simp
      have counted := outcome' (unwaited_of_snoc unwaited)
      rw [← every (deliveries after')] at counted
      rw [← every (deliveries (after' ++ [m]))]
      refine counted.snoc c c' turn (fun _ _ => rfl) fun d delivery _ => unwaited d ?_
      rw [deliveries_snoc, delivery]
      exact List.mem_append_right _ (List.mem_singleton_self d)

theorem accounted_of_story {cap : Nat} {timeout : Duration}
    (told : Story ({ cap, timeout } : Session) story s) : Accounted story s := by
  induction told with
  | nil =>
    refine ⟨rfl, rfl, fun _ => nofun, rfl, fun before m after parts => ?_⟩
    simp at parts
  | @snoc past t t' e told step acc =>
    have c := (tracked_of_story told).coherent
    have c' := (tracked_of_story (told.snoc step)).coherent
    have transition := transition_of_step? step
    have turn := transition.turn c
    refine ⟨acc.told_snoc turn, acc.answers_snoc turn, fun d => acc.given_snoc c turn,
      acc.count_snoc turn, fun before m after parts asks => ?_⟩
    rw [(transition.setup c).2]
    exact acc.outcomes_snoc c c' turn parts asks

end DeviceLink.Session
