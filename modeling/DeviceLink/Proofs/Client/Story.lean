-- The story of a client: its run, moment by moment, with the frames that its task took off each
-- socket. The client keeps no such record; it is read off the moments. What a moment does is told
-- three times over: to the task, to what arrived on a socket, and to the waits.
import DeviceLink.Proofs.Client.Steps
import DeviceLink.Proofs.Frame.Fragments

namespace DeviceLink.Session

/-! ## Moments -/

/-- A client, and what happens to it. -/
structure Moment where
  session : Session
  event : Event

/-- A run moment by moment. -/
inductive Story (s : Session) : List Moment → Session → Prop
  | nil : Story s [] s
  | snoc {past : List Moment} {t t' : Session} {e : Event} (told : Story s past t)
      (step : t.step? e = some t') : Story s (past ++ [⟨t, e⟩]) t'

/-- The moments of a run. -/
def moments (s : Session) : List Event → List Moment
  | [] => []
  | e :: es => ⟨s, e⟩ :: ((s.step? e).getD s).moments es

theorem Story.append_moments {s t t' : Session} {past : List Moment} {es : List Event}
    (told : Story s past t) (run : t.run? es = some t') : Story s (past ++ t.moments es) t' := by
  induction es generalizing past t with
  | nil =>
    cases run
    rwa [moments, List.append_nil]
  | cons e es ih =>
    obtain ⟨t₁, step, rest⟩ := Option.bind_eq_some_iff.1 run
    have later := ih (told.snoc step) rest
    rwa [moments, step, Option.getD_some, List.append_cons]

/-- Every run has its story. -/
theorem story_moments {s s' : Session} {es : List Event} (run : s.run? es = some s') :
    Story s (s.moments es) s' := Story.append_moments .nil run

/-! ## Frames -/

/-- A frame that the task took off a socket. -/
structure Delivery where
  socket : SocketId
  frame : Frame
  /-- The task waited for the greeting. -/
  isGreeting : Bool
  /-- The wait that the next ordinary frame would go to. -/
  wait : Option WaitId
deriving Repr, DecidableEq

/-- A frame is a reply if it is an ordinary one and not the greeting, and a wait is pending. -/
def Delivery.isReply (d : Delivery) : Bool :=
  d.frame.typ == MessageType.socket.code && !d.isGreeting && d.wait.isSome

/-- The bytes of a socket that were not taken. -/
def inbox? (s : Session) (i : SocketId) : Option Bytes := s.sockets[i]?.map (·.inbox)

/-- The frame that the task takes off a socket. -/
def taking? (s : Session) (i : SocketId) (isGreeting : Bool) : Option Delivery :=
  (s.inbox? i).bind fun inbox => (Frame.decode? s.cap inbox).map fun x =>
    ⟨i, x.1, isGreeting, s.pending⟩

/-- The frame that is taken at a moment. -/
def Moment.delivery? (m : Moment) : Option Delivery :=
  match m.event, m.session.task.map Task.place with
  | .read, some (.introduced i) => m.session.taking? i true
  | .read, some (.reading i) => m.session.taking? i false
  | _, _ => none

/-- The frame that is taken off a given socket at a moment. -/
def Moment.deliveryOn? (m : Moment) (i : SocketId) : Option Delivery :=
  m.delivery?.filter (·.socket == i)

/-- The bytes that arrive on a socket at a moment. -/
def Moment.bytesOn (m : Moment) (i : SocketId) : Bytes :=
  match m.event with
  | .arrive j bytes => if j = i ∧ m.session.sockets[i]?.any (!·.hungUp) then bytes else []
  | _ => []

/-- A message is sent and a reply waited for. -/
def Event.isAsk : Event → Bool
  | .ask _ => true
  | _ => false

/-- The device that a connection is asked for. -/
def Event.wanted? : Event → Option DeviceId
  | .connect device => some device
  | _ => none

/-- The call that does its next step at a moment. -/
def Moment.call? (m : Moment) : Option Call :=
  match m.event with
  | .resume n => m.session.calls[n]?
  | _ => none

/-- The device for which a task is started at a moment. -/
def Moment.started? (m : Moment) : Option DeviceId :=
  (m.call?.filter (·.stage == .starting)).bind (·.device)

/-- The task is gone at a moment, for a call told it to stop. -/
def Moment.stops (m : Moment) : Bool := m.call?.any (·.stage == .stopping)

/-- The task that was started last was started while no call lingered. -/
def InOrder (story : List Moment) : Prop :=
  ∀ m, (story.filter (·.started?.isSome)).getLast? = some m → m.session.Calm

/-- Tasks were only started while no call lingered. -/
def Ordered (story : List Moment) : Prop :=
  ∀ m ∈ story, m.started?.isSome = true → m.session.Calm

/-- The frames that were taken in a story, first one first. -/
def deliveries (story : List Moment) : List Delivery := story.filterMap (·.delivery?)

/-- The frames that were taken off one socket. -/
def deliveriesOn (story : List Moment) (i : SocketId) : List Delivery :=
  (deliveries story).filter (·.socket == i)

/-- The bytes that arrived on a socket. -/
def bytesOn (story : List Moment) (i : SocketId) : Bytes := story.flatMap (·.bytesOn i)

section

variable (past : List Moment) (m : Moment) (i : SocketId)

theorem deliveries_snoc : deliveries (past ++ [m]) = deliveries past ++ m.delivery?.toList := by
  cases taken : m.delivery? <;> simp [deliveries, taken]

theorem deliveriesOn_snoc :
    deliveriesOn (past ++ [m]) i = deliveriesOn past i ++ (m.deliveryOn? i).toList := by
  rw [deliveriesOn, deliveries_snoc, List.filter_append, ← Option.toList_filter]
  rfl

theorem bytesOn_snoc : bytesOn (past ++ [m]) i = bytesOn past i ++ m.bytesOn i := by
  simp [bytesOn]

/-- Whether tasks are started in order is up to the last one. -/
theorem inOrder_snoc : InOrder (past ++ [m]) ↔
    if m.started?.isSome then m.session.Calm else InOrder past := by
  unfold InOrder
  rw [List.filter_append]
  split
  · rename_i starts
    simp [starts]
  · rename_i starts
    simp [starts]

end

theorem Ordered.inOrder {story : List Moment} (ordered : Ordered story) : InOrder story := by
  intro m last
  obtain ⟨member, starts⟩ := List.mem_filter.1 (List.mem_of_getLast? last)
  exact ordered m member starts

/-- A moment of a longer story is the last one, or lies in the story before. -/
theorem mem_snoc_cases {past before after : List Moment} {m m' : Moment}
    (parts : past ++ [m] = before ++ m' :: after) :
    (before = past ∧ m' = m ∧ after = []) ∨
      ∃ after', after = after' ++ [m] ∧ past = before ++ m' :: after' := by
  rcases List.eq_nil_or_concat after with rfl | ⟨after', last, rfl⟩
  · obtain ⟨same, last⟩ := List.append_inj' parts rfl
    exact .inl ⟨same.symm, (List.singleton_inj.1 last).symm, rfl⟩
  · have split : past ++ [m] = (before ++ m' :: after') ++ [last] := by simpa using parts
    obtain ⟨same, final⟩ := List.append_inj' split rfl
    refine .inr ⟨after', ?_, same⟩
    rw [List.singleton_inj.1 final]
    exact List.concat_eq_append

variable {s s' : Session} {e : Event} {i : SocketId}

theorem deliveryOn?_of_none {m : Moment} (nothing : m.delivery? = none) :
    m.deliveryOn? i = none := by
  rw [Moment.deliveryOn?, nothing]
  rfl

theorem delivery?_greet {t : Task} {socket : Socket} {f : Frame} {rest : Bytes}
    (task : s.task = some t) (place : t.place = .introduced i)
    (found : s.sockets[i]? = some socket)
    (decoded : Frame.decode? s.cap socket.inbox = some (f, rest)) :
    Moment.delivery? ⟨s, .read⟩ = some ⟨i, f, true, s.pending⟩ := by
  simp [Moment.delivery?, taking?, inbox?, task, place, found, decoded]

theorem delivery?_receive {t : Task} {socket : Socket} {f : Frame} {rest : Bytes}
    (task : s.task = some t) (place : t.place = .reading i)
    (found : s.sockets[i]? = some socket)
    (decoded : Frame.decode? s.cap socket.inbox = some (f, rest)) :
    Moment.delivery? ⟨s, .read⟩ = some ⟨i, f, false, s.pending⟩ := by
  simp [Moment.delivery?, taking?, inbox?, task, place, found, decoded]

/-- A frame that is taken tells of the slot as it was. -/
theorem wait_of_delivery? {m : Moment} {d : Delivery} (delivery : m.delivery? = some d) :
    d.wait = m.session.pending := by
  have taking : ∀ i isGreeting, m.session.taking? i isGreeting = some d →
      d.wait = m.session.pending := by
    intro i isGreeting taking
    obtain ⟨inbox, -, taking⟩ := Option.bind_eq_some_iff.1 taking
    obtain ⟨x, -, rfl⟩ := Option.map_eq_some_iff.1 taking
    rfl
  unfold Moment.delivery? at delivery
  split at delivery
  · exact taking _ _ delivery
  · exact taking _ _ delivery
  · cases delivery

/-- Nothing is taken where no frame is complete. -/
theorem delivery?_incomplete {t : Task} {socket : Socket} (task : s.task = some t)
    (place : t.place = .introduced i ∨ t.place = .reading i)
    (found : s.sockets[i]? = some socket)
    (incomplete : Frame.decode? s.cap socket.inbox = none) :
    Moment.delivery? ⟨s, .read⟩ = none := by
  rcases place with place | place
  · simp [Moment.delivery?, taking?, inbox?, task, place, found, incomplete]
  · simp [Moment.delivery?, taking?, inbox?, task, place, found, incomplete]

/-! ## The task -/

/-- What becomes of the task at a moment, and how this goes with the frame that is taken. -/
inductive Course (m : Moment) (s' : Session) : Prop
  | start (device : DeviceId) (started : m.started? = some device)
      (before : m.session.task = none) (task' : s'.task = some { device })
      (delivery : m.delivery? = none)
  | stop (stops : m.stops = true) (started : m.started? = none) (task' : s'.task = none)
      (delivery : m.delivery? = none)
  | stay (started : m.started? = none) (task' : s'.task = m.session.task)
      (delivery : ∀ d, m.delivery? = some d → d.isGreeting = false ∧
        ∃ t, m.session.task = some t ∧ t.place = .reading d.socket)
  | move {t : Task} {place : Place} (started : m.started? = none) (task : m.session.task = some t)
      (next : t.place.Next m.session.sockets.length place)
      (task' : s'.task = some { t with place })
      (delivery : ∀ d, m.delivery? = some d →
        d.isGreeting = true ∧ t.place = .introduced d.socket)
      (greets : ∀ i, place = .greeted i → ∃ d, m.delivery? = some d ∧ d.socket = i)

theorem Course.quiet {m : Moment} {t : Task} {place : Place} (started : m.started? = none)
    (task : m.session.task = some t) (next : t.place.Next m.session.sockets.length place)
    (task' : s'.task = some { t with place }) (delivery : m.delivery? = none)
    (greets : ∀ i, place ≠ .greeted i) : Course m s' :=
  .move started task next task' (fun d taken => by simp [delivery] at taken)
    fun i greeted => absurd greeted (greets i)

theorem started?_of_stage {n : CallId} {call : Call} (called : s.calls[n]? = some call)
    (other : call.stage ≠ .starting) : Moment.started? ⟨s, .resume n⟩ = none := by
  simp [Moment.started?, Moment.call?, called, other]

theorem started?_eq_some_iff {device : DeviceId} :
    Moment.started? ⟨s, e⟩ = some device ↔ ∃ n call, e = .resume n ∧ s.calls[n]? = some call ∧
      call.stage = .starting ∧ call.device = some device := by
  unfold Moment.started? Moment.call?
  cases e <;> simp [Option.bind_eq_some_iff, and_assoc]

theorem started?_of_starting {n : CallId} {call : Call} {device : DeviceId}
    (called : s.calls[n]? = some call) (starting : call.stage = .starting)
    (named : call.device = some device) : Moment.started? ⟨s, .resume n⟩ = some device :=
  started?_eq_some_iff.2 ⟨n, call, rfl, called, starting, named⟩

theorem Transition.course (transition : Transition s e s') (c : Coherent s) :
    Course ⟨s, e⟩ s' := by
  have idle : ∀ d, (none : Option Delivery) = some d → d.isGreeting = false ∧
      ∃ t, s.task = some t ∧ t.place = .reading d.socket := nofun
  have mild := transition.mild c
  cases transition with
  | connect device => exact .stay rfl rfl idle
  | close => exact .stay rfl rfl idle
  | enter called stage free =>
    exact .stay (started?_of_stage called (by rw [stage]; exact nofun)) rfl idle
  | stop called stage =>
    refine .stop ?_ (started?_of_stage called (by rw [stage]; exact nofun)) rfl rfl
    simp [Moment.stops, Moment.call?, called, stage]
  | erase called stage =>
    refine .stay (started?_of_stage called (by rw [stage]; exact nofun)) ?_ idle
    rw [clear_eq c.slot]
    rfl
  | @launch n call device called stage named =>
    have before := c.gone n call called (by rw [Call.holdsTask, stage]) (by rw [stage]; exact nofun)
    exact .start device (started?_of_starting called stage named) before rfl rfl
  | reach task place => exact .quiet rfl task (place ▸ .reach) rfl rfl nofun
  | miss task place => exact .quiet rfl task (place ▸ .miss) rfl rfl nofun
  | start task place => exact .quiet rfl task (place ▸ .start) rfl rfl nofun
  | share task place => exact .quiet rfl task (place ▸ .share _) rfl rfl nofun
  | publish task place => exact .quiet rfl task (place ▸ .publish _) rfl rfl nofun
  | @clear t i cell task place =>
    cases cell with
    | writer => exact .quiet rfl task (place ▸ .release i) rfl rfl nofun
    | slot => exact .quiet rfl task (place ▸ .empty i) rfl rfl nofun
    | state => exact .quiet rfl task (place ▸ .clear i) rfl rfl nofun
  | pause task place => exact .quiet rfl task (place ▸ .pause) rfl rfl nofun
  | greet task place found decoded =>
    have taken := delivery?_greet task place found decoded
    refine .move rfl task (place ▸ .greet _) rfl ?_ ?_
    · intro d same
      cases taken.symm.trans same
      exact ⟨rfl, place⟩
    · intro j greeted
      cases greeted
      exact ⟨_, taken, rfl⟩
  | miscarry task place found incomplete hungUp =>
    exact .quiet rfl task (place ▸ .giveUp _) rfl
      (delivery?_incomplete task (.inl place) found incomplete) nofun
  | receive task place found decoded =>
    have taken := delivery?_receive task place found decoded
    refine .stay rfl (mild_receive c _ _ _).task ?_
    intro d same
    cases taken.symm.trans same
    exact ⟨rfl, _, task, place⟩
  | lose task place found incomplete hungUp =>
    exact .quiet rfl task (place ▸ .lose _) rfl
      (delivery?_incomplete task (.inr place) found incomplete) nofun
  | giveUp task place => exact .quiet rfl task (place ▸ .giveUp _) rfl rfl nofun
  | wake task place => exact .quiet rfl task (place ▸ .wake) rfl rfl nofun
  | arrive | hangUp | breakOff | send | ask | expire => exact .stay rfl (mild rfl).task idle

/-- A new task is only started where there is none. -/
theorem Course.task_of_started {m : Moment} (course : Course m s')
    (starts : m.started?.isSome = true) : m.session.task = none := by
  cases course with
  | start device started before => exact before
  | stop stops started => simp [started] at starts
  | stay started => simp [started] at starts
  | move started => simp [started] at starts

/-! ## What arrives -/

/-- What a moment does to what arrived on a socket. -/
inductive Traffic (m : Moment) (s' : Session) (i : SocketId) : Prop
  | absent (before : m.session.inbox? i = none) (after : s'.inbox? i = none)
      (bytes : m.bytesOn i = []) (delivery : m.deliveryOn? i = none)
  | opened (before : m.session.inbox? i = none) (after : s'.inbox? i = some [])
      (bytes : m.bytesOn i = []) (delivery : m.deliveryOn? i = none)
  | arrived {inbox : Bytes} (before : m.session.inbox? i = some inbox)
      (after : s'.inbox? i = some (inbox ++ m.bytesOn i)) (delivery : m.deliveryOn? i = none)
  | taken {d : Delivery} {inbox rest : Bytes} (before : m.session.inbox? i = some inbox)
      (decoded : Frame.decode? m.session.cap inbox = some (d.frame, rest))
      (after : s'.inbox? i = some rest) (bytes : m.bytesOn i = [])
      (delivery : m.deliveryOn? i = some d)

/-- A moment at which nothing arrives on a socket and nothing is taken off it. -/
theorem Traffic.still {m : Moment} (same : s'.inbox? i = m.session.inbox? i)
    (bytes : m.bytesOn i = []) (delivery : m.deliveryOn? i = none) : Traffic m s' i := by
  cases before : m.session.inbox? i with
  | none => exact .absent before (same.trans before) bytes delivery
  | some inbox =>
    refine .arrived before ?_ delivery
    rw [same, before, bytes, List.append_nil]

theorem inbox?_updateSocket (s : Session) (i j : SocketId) (change : Socket → Socket) :
    (s.updateSocket j change).inbox? i =
      if j = i then s.sockets[i]?.map fun k => (change k).inbox else s.inbox? i := by
  unfold inbox? updateSocket
  rw [List.getElem?_modify]
  split
  · simp [Function.comp_def]
  · simp

/-- A new socket is the last one, and nothing has arrived on it. -/
theorem inbox?_openAs (s : Session) (device : DeviceId) (i : SocketId) :
    (s.openAs device).inbox? i = if i = s.sockets.length then some [] else s.inbox? i := by
  unfold inbox? openAs
  rcases Nat.lt_trichotomy i s.sockets.length with old | newest | later
  · rw [List.getElem?_append_left old, if_neg (Nat.ne_of_lt old)]
  · simp [newest]
  · rw [List.getElem?_eq_none (by simp; omega), List.getElem?_eq_none (Nat.le_of_lt later),
      if_neg (Nat.ne_of_gt later)]

/-- Writing to a socket leaves what arrived on it. -/
theorem inbox?_updateSocket_of_keeps {j : SocketId} {change : Socket → Socket}
    (keeps : ∀ k, (change k).inbox = k.inbox) :
    (s.updateSocket j change).inbox? i = s.inbox? i := by
  rw [inbox?_updateSocket]
  split
  · simp only [keeps]
    rfl
  · rfl

theorem inbox?_send (s : Session) (typ : UInt8) (payload : Bytes) :
    (s.send typ payload).2.inbox? i = s.inbox? i := by
  have sends := sends_send s typ payload
  generalize s.send typ payload = result at sends ⊢
  obtain ⟨outcome, after⟩ := result
  cases sends with
  | unconnected writer => rfl
  | written writer bs => exact inbox?_updateSocket_of_keeps fun _ => rfl
  | broken writer cause => rfl

theorem inbox?_ask (s : Session) (payload : Bytes) : (s.ask payload).inbox? i = s.inbox? i := by
  have asks := asks_ask s payload
  generalize s.ask payload = after at asks ⊢
  cases asks with
  | @begun j writer bs =>
    have kept : (s.updateSocket j fun k => { k with sent := k.sent ++ [bs] }).inbox? i =
        s.inbox? i := inbox?_updateSocket_of_keeps fun _ => rfl
    exact kept
  | unconnected writer => rfl
  | broken writer cause => rfl

theorem inbox?_dispatch (c : s.pending = s.waiting) (f : Frame) :
    (s.dispatch f).inbox? i = s.inbox? i := by
  rw [dispatch_eq c]
  split
  · rfl
  · rfl

/-- What is left on a socket as a frame is taken. -/
theorem traffic_of_taken {j : SocketId} {socket : Socket} {d : Delivery} {rest : Bytes}
    (found : s.sockets[j]? = some socket)
    (decoded : Frame.decode? s.cap socket.inbox = some (d.frame, rest))
    (delivery : Moment.delivery? ⟨s, .read⟩ = some d) (on : d.socket = j)
    (after : s'.inbox? i = (s.leaveOn j rest).inbox? i) : Traffic ⟨s, .read⟩ s' i := by
  rw [leaveOn, inbox?_updateSocket] at after
  by_cases same : j = i
  · rw [if_pos same, ← same, found] at after
    refine .taken (d := d) (by rw [inbox?, ← same, found]; rfl) decoded (same ▸ after) rfl ?_
    simp [Moment.deliveryOn?, delivery, on, same]
  · rw [if_neg same] at after
    refine .still after rfl ?_
    simp [Moment.deliveryOn?, delivery, on, same]

theorem Transition.traffic (transition : Transition s e s') (c : Coherent s) (i : SocketId) :
    Traffic ⟨s, e⟩ s' i := by
  have cleared : ∀ cell, (s.clear cell).inbox? i = s.inbox? i := by
    intro cell
    rw [clear_eq c.slot]
    rfl
  cases transition with
  | erase called stage => exact .still (cleared _) rfl rfl
  | @reach t task place =>
    have after := inbox?_openAs s t.device i
    split at after
    · rename_i newest
      exact .opened (by simp [inbox?, newest]) after rfl rfl
    · exact .still after rfl rfl
  | clear task place => exact .still (cleared _) rfl rfl
  | greet task place found decoded =>
    exact traffic_of_taken found decoded (delivery?_greet task place found decoded) rfl rfl
  | miscarry task place found incomplete hungUp =>
    exact .still rfl rfl
      (deliveryOn?_of_none (delivery?_incomplete task (.inl place) found incomplete))
  | receive task place found decoded =>
    exact traffic_of_taken found decoded (delivery?_receive task place found decoded) rfl
      (inbox?_dispatch (s := s.leaveOn _ _) c.slot _)
  | lose task place found incomplete hungUp =>
    exact .still rfl rfl
      (deliveryOn?_of_none (delivery?_incomplete task (.inr place) found incomplete))
  | arrive j bytes =>
    have after := inbox?_updateSocket s i j (·.receive bytes)
    by_cases same : j = i
    · subst same
      rw [if_pos rfl] at after
      cases found : s.sockets[j]? with
      | none =>
        rw [found] at after
        exact .absent (by simp [inbox?, found]) after (by simp [Moment.bytesOn, found]) rfl
      | some socket =>
        rw [found] at after
        have before : s.inbox? j = some socket.inbox := by simp [inbox?, found]
        refine .arrived before ?_ rfl
        rw [after]
        cases hungUp : socket.hungUp <;> simp [Socket.receive, Moment.bytesOn, found, hungUp]
    · rw [if_neg same] at after
      exact .still after (if_neg fun on => same on.1) rfl
  | hangUp j => exact .still (inbox?_updateSocket_of_keeps fun _ => rfl) rfl rfl
  | breakOff j reason => exact .still (inbox?_updateSocket_of_keeps fun _ => rfl) rfl rfl
  | send typ payload => exact .still (inbox?_send s typ payload) rfl rfl
  | ask payload idle => exact .still (inbox?_ask s payload) rfl rfl
  | expire waits =>
    rw [endWait_eq waits]
    exact .still rfl rfl rfl
  | _ => exact .still rfl rfl rfl

end DeviceLink.Session
