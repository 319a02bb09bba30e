-- What the cells of a client have to do with each other, its calls and its task. They are changed
-- one by one; here what holds after every step is kept apart from what holds only while no call
-- clears them behind the back of the task.
import DeviceLink.Proofs.Client.Transition

namespace DeviceLink.Session

variable {s s' : Session} {e : Event} {t : Task}

/-! ## Places -/

/-- What others are told while the task is at a place. -/
def Place.state : Place → ConnectionState
  | .starting | .resting => .disconnected
  | .dialing | .introduced _ | .greeted _ | .shared _ | .failed => .connecting
  | .reading _ | .lost _ _ => .connected

/-- The socket that messages may be written to while the task is at a place. -/
def Place.open? : Place → Option SocketId
  | .shared i | .reading i | .lost i .writer => some i
  | _ => none

/-- A wait may be under way while the task is at a place. -/
def Place.waits : Place → Bool
  | .shared _ | .reading _ | .lost _ .writer | .lost _ .slot => true
  | _ => false

/-- The places that follow one another while the task goes on. It fails or loses its socket, rests,
and starts over; `opened` is the number of the next socket. -/
inductive Place.Next (opened : SocketId) : Place → Place → Prop
  | start : Next opened .starting .dialing
  | reach : Next opened .dialing (.introduced opened)
  | miss : Next opened .dialing .failed
  | greet (i : SocketId) : Next opened (.introduced i) (.greeted i)
  | giveUp (i : SocketId) : Next opened (.introduced i) .failed
  | share (i : SocketId) : Next opened (.greeted i) (.shared i)
  | publish (i : SocketId) : Next opened (.shared i) (.reading i)
  | lose (i : SocketId) : Next opened (.reading i) (.lost i .writer)
  | release (i : SocketId) : Next opened (.lost i .writer) (.lost i .slot)
  | empty (i : SocketId) : Next opened (.lost i .slot) (.lost i .state)
  | clear (i : SocketId) : Next opened (.lost i .state) .resting
  | pause : Next opened .failed .resting
  | wake : Next opened .resting .starting

/-! ## Calls -/

/-- Cells are cleared in this order. -/
def Cell.rank : Cell → Nat
  | .writer => 0
  | .slot => 1
  | .state => 2

/-- A cell is still to be cleared by a call. -/
def Call.owes (call : Call) (cell : Cell) : Bool :=
  match call.stage with
  | .clearing first => first.rank ≤ cell.rank
  | _ => false

/-- A call that closes the client has let go of the task, and not yet cleared all cells. -/
def Call.lingers (call : Call) : Bool :=
  match call.stage with
  | .clearing _ => call.device.isNone
  | _ => false

/-- No call is about to clear cells without holding the task. -/
def Calm (s : Session) : Prop := ∀ call ∈ s.calls, call.lingers = false

instance (s : Session) : Decidable s.Calm :=
  inferInstanceAs (Decidable (∀ call ∈ s.calls, call.lingers = false))

/-- Some call is still to clear a cell. -/
def Owed (s : Session) (cell : Cell) : Prop :=
  ∃ (n : CallId) (call : Call), s.calls[n]? = some call ∧ call.owes cell = true

section

variable {call : Call} {cell : Cell} {n : CallId}

theorem Call.owes_mono {cell' : Cell} (owes : call.owes cell = true)
    (later : cell.rank ≤ cell'.rank) : call.owes cell' = true := by
  unfold Call.owes at owes ⊢
  cases stage : call.stage with
  | clearing first =>
    simp only [stage, decide_eq_true_eq] at owes ⊢
    omega
  | _ => simp [stage] at owes

/-- A call that has cleared a cell still clears those after it. -/
theorem Call.owes_onward {cell' : Cell} (owes : call.owes cell' = true)
    (stage : call.stage = .clearing cell) (other : cell' ≠ cell) :
    Call.owes { call with stage := call.onward cell } cell' = true := by
  simp only [Call.owes, stage] at owes
  cases cell <;> cases cell' <;> simp_all [Call.owes, Call.onward, Cell.next?, Cell.rank]

/-- A call that clears a cell, and goes on, holds the task if it held it before. -/
theorem Call.holdsTask_onward (stage : call.stage = .clearing cell) :
    Call.holdsTask { call with stage := call.onward cell } = call.holdsTask := by
  unfold Call.holdsTask Call.onward
  rw [stage]
  cases cell.next? with
  | some cell => rfl
  | none => cases call.device <;> rfl

theorem getElem?_setStage (called : s.calls[n]? = some call) (stage : Stage) (m : CallId) :
    (s.setStage n call stage).calls[m]? =
      if m = n then some { call with stage } else s.calls[m]? := by
  unfold setStage
  dsimp only
  rw [List.getElem?_set]
  by_cases same : n = m
  · rw [if_pos same, if_pos same.symm, if_pos (List.getElem?_eq_some_iff.1 called).1]
  · rw [if_neg same, if_neg (Ne.symm same)]

end

/-! ## The invariant -/

/-- A cell has nothing to be cleared. -/
def Blank (s : Session) : Cell → Prop
  | .writer => s.writer = none
  | .slot => s.waiting = none
  | .state => s.state = .disconnected

theorem blank_congr {cell : Cell} (writer : s'.writer = s.writer)
    (waits : s'.waiting = s.waiting) (state : s'.state = s.state) :
    s'.Blank cell ↔ s.Blank cell := by
  cases cell with
  | writer => exact iff_of_eq (congrArg (· = none) writer)
  | slot => exact iff_of_eq (congrArg (· = none) waits)
  | state => exact iff_of_eq (congrArg (· = ConnectionState.disconnected) state)

/-- The newest socket is the given one, and a device said on it first who it is. -/
def Introduced (s : Session) (i : SocketId) (device : DeviceId) : Prop :=
  i + 1 = s.sockets.length ∧
    ∃ socket, s.sockets[i]? = some socket ∧ socket.sent.head? = some (introduction device)

/-- What the cells of a client have to do with each other in any case. -/
structure Coherent (s : Session) : Prop where
  /-- The slot for a reply is the wait that is under way. -/
  slot : s.pending = s.waiting
  /-- Waits are numbered as they began, and all before this one are over. -/
  turn : ∀ w, s.waiting = some w → w = s.replies.length
  /-- One call at most holds the task. -/
  alone : ∀ (m n : CallId) a b, s.calls[m]? = some a → s.calls[n]? = some b →
    a.holdsTask = true → b.holdsTask = true → m = n
  /-- While a call holds the task and does not wait for its end, there is none. -/
  gone : ∀ (n : CallId) call, s.calls[n]? = some call → call.holdsTask = true →
    call.stage ≠ .stopping → s.task = none
  /-- What a task leaves behind is cleared by some call. -/
  idle : s.task = none → ∀ cell, s.Blank cell ∨ s.Owed cell
  /-- On the socket of the task its device was named first. -/
  socket : ∀ t i, s.task = some t → t.socket? = some i → s.Introduced i t.device
  /-- Messages are written to a socket that was shared. -/
  writer : ∀ i, s.writer = some i → i < s.sockets.length ∧
    ∀ t, s.task = some t → t.place ≠ .introduced i ∧ t.place ≠ .greeted i

/-- A client stands as its task at a place does, and no call is about to change that. -/
structure Stands (s : Session) (place : Place) : Prop where
  state : s.state = place.state
  writer : ∀ i, s.writer = some i → place.open? = some i
  waits : ∀ w, s.waiting = some w → place.waits = true
  calm : s.Calm

/-- The cells of a client agree with its task, if it has one. -/
def Steady (s : Session) : Prop := ∀ t, s.task = some t → s.Stands t.place

theorem coherent_new (cap : Nat) (timeout : Duration) :
    Coherent ({ cap, timeout } : Session) where
  slot := rfl
  turn _ := nofun
  alone _ _ _ _ := nofun
  gone _ _ := nofun
  idle _ cell := .inl (by cases cell <;> rfl)
  socket _ _ := nofun
  writer _ := nofun

theorem steady_new (cap : Nat) (timeout : Duration) : Steady ({ cap, timeout } : Session) :=
  fun _ => nofun

/-! ## What the parts of a step do to a client whose cells agree -/

/-- The wait under way, if there is one, ends with a reply. -/
def endSlot (s : Session) (reply : Except ClientError Frame) : Session :=
  { s with pending := none, waiting := none
           replies := s.replies ++ (s.waiting.map fun _ => reply).toList }

theorem endWait_eq {w : WaitId} {reply : Except ClientError Frame} (waits : s.waiting = some w) :
    { s with pending := none }.endWait w reply = s.endSlot reply := by
  simp [endWait, endSlot, waits]

/-- What is cleared, cell by cell. -/
theorem clear_eq (slot : s.pending = s.waiting) (cell : Cell) : s.clear cell = { s with
    writer := if cell = .writer then none else s.writer
    pending := if cell = .slot then none else s.pending
    waiting := if cell = .slot then none else s.waiting
    replies := if cell = .slot then (s.endSlot (.error .lost)).replies else s.replies
    state := if cell = .state then .disconnected else s.state } := by
  cases cell with
  | slot =>
    unfold clear
    rw [slot]
    cases waits : s.waiting with
    | none =>
      rw [waits] at slot
      cases s
      simp_all [endSlot]
    | some w => simp [endWait, endSlot, waits]
  | _ => rfl

theorem dispatch_eq (slot : s.pending = s.waiting) (f : Frame) :
    s.dispatch f = if f.typ = MessageType.socket.code ∧ s.waiting.isSome = true
      then s.endSlot (.ok f) else s.tell f := by
  unfold dispatch
  obtain waits | ⟨w, waits⟩ := Option.eq_none_or_eq_some s.waiting
  · simp [slot.trans waits, waits]
  · simp [slot.trans waits, waits, ← endWait_eq waits]

theorem blank_clear (slot : s.pending = s.waiting) (cell : Cell) : (s.clear cell).Blank cell := by
  rw [clear_eq slot]
  cases cell <;> simp [Blank]

/-- What is clear stays so as another cell is cleared. -/
theorem Blank.clear {cell : Cell} (blank : s.Blank cell) (slot : s.pending = s.waiting)
    (other : Cell) : (s.clear other).Blank cell := by
  rw [clear_eq slot]
  cases cell <;> simp_all [Blank]

/-! ## Messages -/

/-- A client writes a frame: with what result, and what becomes of the client. -/
inductive Sends (s : Session) : Except ClientError Unit → Session → Prop
  | unconnected (writer : s.writer = none) : Sends s (.error .notConnected) s
  | written {i : SocketId} (writer : s.writer = some i) (bs : Bytes) :
      Sends s (.ok ()) (s.updateSocket i fun k => { k with sent := k.sent ++ [bs] })
  | broken {i : SocketId} (writer : s.writer = some i) (cause : LinkError) :
      Sends s (.error (.link cause)) { s with writer := none }

theorem sends_send (s : Session) (typ : UInt8) (payload : Bytes) :
    Sends s (s.send typ payload).1 (s.send typ payload).2 := by
  unfold send
  cases writer : s.writer with
  | none => exact .unconnected writer
  | some i =>
    dsimp only
    unfold writeTo
    cases encoded : Frame.encode typ payload with
    | error cause => exact .broken writer cause
    | ok bs =>
      cases fault : s.sockets[i]? >>= Socket.fault with
      | some reason =>
        simp only [bind, Except.bind, throw, throwThe, MonadExceptOf.throw]
        exact .broken writer _
      | none =>
        simp only [bind, Except.bind, pure, Except.pure]
        exact .written writer bs

/-- A client that waits for nothing asks: the wait begins, or it ends at once with an error. -/
inductive Asks (s : Session) : Session → Prop
  | begun {i : SocketId} (writer : s.writer = some i) (bs : Bytes) :
      Asks s { s.updateSocket i fun k => { k with sent := k.sent ++ [bs] } with
        pending := some s.replies.length, waiting := some s.replies.length }
  | unconnected (writer : s.writer = none) :
      Asks s { s with pending := none, replies := s.replies ++ [.error .notConnected] }
  | broken {i : SocketId} (writer : s.writer = some i) (cause : LinkError) :
      Asks s { s with
        writer := none, pending := none, replies := s.replies ++ [.error (.link cause)] }

theorem asks_ask (s : Session) (payload : Bytes) : Asks s (s.ask payload) := by
  unfold ask
  dsimp only
  have sends := sends_send { s with pending := some s.replies.length } MessageType.socket.code
    payload
  generalize send _ _ _ = result at sends ⊢
  obtain ⟨outcome, after⟩ := result
  cases sends with
  | unconnected writer => exact Asks.unconnected (s := s) writer
  | written writer bs => exact Asks.begun (s := s) writer bs
  | broken writer cause => exact Asks.broken (s := s) writer cause

/-! ## Steps that leave the task where it is -/

section

variable {i j : SocketId} {device : DeviceId}

/-- Nothing is done to a socket that takes back what was said on it first. -/
theorem Introduced.updateSocket {change : Socket → Socket} (said : s.Introduced i device)
    (keeps : ∀ k : Socket, k.sent.head? = some (introduction device) →
      (change k).sent.head? = some (introduction device)) :
    (s.updateSocket j change).Introduced i device := by
  obtain ⟨newest, socket, found, first⟩ := said
  refine ⟨by rw [newest, Session.updateSocket, List.length_modify], ?_⟩
  by_cases same : j = i
  · refine ⟨change socket, ?_, keeps socket first⟩
    simp [Session.updateSocket, same, found]
  · refine ⟨socket, ?_, first⟩
    rw [Session.updateSocket, List.getElem?_modify_ne _ _ same, found]

theorem head?_append_of_some {bs frame : Bytes} {sent : List Bytes}
    (first : sent.head? = some frame) : (sent ++ [bs]).head? = some frame := by
  rw [List.head?_append, first]
  rfl

end

/-- A step leaves the task and the calls where they are, and writes no more than a client can write
there. -/
structure Mild (s s' : Session) : Prop where
  task : s'.task = s.task
  calls : s'.calls = s.calls
  named : s'.device = s.device
  state : s'.state = s.state
  writer : s'.writer = s.writer ∨ s'.writer = none
  slot : s'.pending = s'.waiting
  turn : ∀ w, s'.waiting = some w → w = s'.replies.length
  waits : ∀ w, s'.waiting = some w → s.waiting = some w ∨ s.writer.isSome = true
  length : s'.sockets.length = s.sockets.length
  sockets : ∀ i device, s.Introduced i device → s'.Introduced i device

theorem Mild.writer_eq (mild : Mild s s') {i : SocketId} (writer : s'.writer = some i) :
    s.writer = some i := by
  rcases mild.writer with same | gone
  · exact same.symm.trans writer
  · rw [gone] at writer
    cases writer

theorem Mild.owed (mild : Mild s s') {cell : Cell} (owed : s.Owed cell) : s'.Owed cell := by
  unfold Owed
  rwa [mild.calls]

/-- Where nothing can be written no wait begins. -/
theorem Mild.blank (mild : Mild s s') {cell : Cell} (blank : s.Blank cell)
    (mute : s.writer = none) : s'.Blank cell := by
  cases cell with
  | writer => exact mild.writer.elim (·.trans mute) id
  | slot =>
    apply Option.eq_none_iff_forall_not_mem.2
    intro w waiting
    rcases mild.waits w waiting with before | writes
    · exact absurd (blank.symm.trans before) nofun
    · rw [mute] at writes
      cases writes
  | state => exact mild.state.trans blank

theorem Coherent.mild (c : Coherent s) (mild : Mild s s') : Coherent s' where
  slot := mild.slot
  turn := mild.turn
  alone := by
    rw [mild.calls]
    exact c.alone
  gone := by
    rw [mild.calls, mild.task]
    exact c.gone
  idle task cell := by
    have before := c.idle (mild.task.symm.trans task)
    rcases before .writer with mute | owed
    · rcases before cell with blank | owed
      · exact .inl (mild.blank blank mute)
      · exact .inr (mild.owed owed)
    · -- whoever clears the writer clears the other cells after it
      obtain ⟨n, call, called, owes⟩ := owed
      exact .inr (mild.owed ⟨n, call, called, Call.owes_mono owes (Nat.zero_le _)⟩)
  socket t i task held := mild.sockets i _ (c.socket t i (mild.task.symm.trans task) held)
  writer i writes := by
    rw [mild.length, mild.task]
    exact c.writer i (mild.writer_eq writes)

theorem Steady.mild (steady : s.Steady) (mild : Mild s s') : s'.Steady := by
  intro t task
  have stands := steady t (mild.task.symm.trans task)
  refine ⟨mild.state.trans stands.state, fun i writes => stands.writer i (mild.writer_eq writes),
    fun w waiting => ?_, ?_⟩
  · rcases mild.waits w waiting with before | writes
    · exact stands.waits w before
    · obtain ⟨i, writes⟩ := Option.isSome_iff_exists.1 writes
      have open_ := stands.writer i writes
      generalize t.place = place at open_
      cases place with
      | lost j cell => cases cell <;> first | rfl | cases open_
      | _ => first | rfl | cases open_
  · unfold Calm
    rw [mild.calls]
    exact stands.calm

theorem mild_updateSocket (c : Coherent s) (i : SocketId) {change : Socket → Socket}
    (keeps : ∀ k frame, k.sent.head? = some frame → (change k).sent.head? = some frame) :
    Mild s (s.updateSocket i change) where
  task := rfl
  calls := rfl
  named := rfl
  state := rfl
  writer := .inl rfl
  slot := c.slot
  turn := c.turn
  waits _ waiting := .inl waiting
  length := List.length_modify ..
  sockets _ _ said := said.updateSocket fun k => keeps k _

theorem mild_endSlot (s : Session) (reply : Except ClientError Frame) :
    Mild s (s.endSlot reply) where
  task := rfl
  calls := rfl
  named := rfl
  state := rfl
  writer := .inl rfl
  slot := rfl
  turn _ := nofun
  waits _ := nofun
  length := rfl
  sockets _ _ said := said

theorem mild_send (c : Coherent s) (typ : UInt8) (payload : Bytes) :
    Mild s (s.send typ payload).2 := by
  have sends := sends_send s typ payload
  generalize s.send typ payload = result at sends ⊢
  obtain ⟨outcome, after⟩ := result
  cases sends with
  | unconnected writer =>
    exact ⟨rfl, rfl, rfl, rfl, .inl rfl, c.slot, c.turn, fun _ => .inl, rfl, fun _ _ said => said⟩
  | written writer bs => exact mild_updateSocket c _ fun k frame => head?_append_of_some
  | broken writer cause =>
    exact ⟨rfl, rfl, rfl, rfl, .inr rfl, c.slot, c.turn, fun _ => .inl, rfl, fun _ _ said => said⟩

theorem mild_ask (idle : s.waiting = none) (payload : Bytes) : Mild s (s.ask payload) := by
  have asks := asks_ask s payload
  generalize s.ask payload = after at asks ⊢
  have nothing : ∀ w n : WaitId, s.waiting = some w → w = n := by
    intro w n waiting
    rw [idle] at waiting
    cases waiting
  cases asks with
  | begun writer bs =>
    refine ⟨rfl, rfl, rfl, rfl, .inl rfl, rfl, fun w waiting => (Option.some.inj waiting).symm,
      fun w _ => .inr (by rw [writer]; rfl), List.length_modify .., fun i device said => ?_⟩
    exact said.updateSocket fun k => head?_append_of_some
  | unconnected writer =>
    exact ⟨rfl, rfl, rfl, rfl, .inl rfl, idle.symm, fun w => nothing w _, fun _ => .inl, rfl,
      fun _ _ said => said⟩
  | broken writer cause =>
    exact ⟨rfl, rfl, rfl, rfl, .inr rfl, idle.symm, fun w => nothing w _, fun _ => .inl, rfl,
      fun _ _ said => said⟩

theorem mild_receive (c : Coherent s) (i : SocketId) (inbox : Bytes) (f : Frame) :
    Mild s ((s.leaveOn i inbox).dispatch f) := by
  have left : Mild s (s.leaveOn i inbox) := mild_updateSocket c i fun _ _ first => first
  rw [dispatch_eq (s := s.leaveOn i inbox) c.slot]
  split
  · exact ⟨rfl, rfl, rfl, rfl, .inl rfl, rfl, fun _ => nofun, fun _ => nofun, left.length,
      left.sockets⟩
  · exact ⟨rfl, rfl, rfl, rfl, .inl rfl, c.slot, c.turn, fun _ => .inl, left.length, left.sockets⟩

/-- Something comes from outside: bytes, the end of a socket, a message, or the end of a wait. -/
def Event.isOutside : Event → Bool
  | .arrive .. | .hangUp _ | .breakOff .. | .send .. | .ask _ | .expire => true
  | _ => false

theorem Transition.mild (transition : Transition s e s') (c : Coherent s)
    (outside : e.isOutside = true) : Mild s s' := by
  cases transition with
  | arrive i bytes =>
    refine mild_updateSocket c i fun k frame first => ?_
    unfold Socket.receive
    split
    · exact first
    · exact first
  | hangUp i => exact mild_updateSocket c i fun _ _ first => first
  | breakOff i reason => exact mild_updateSocket c i fun _ _ first => first
  | send typ payload => exact mild_send c typ payload
  | ask payload idle => exact mild_ask idle payload
  | expire waits =>
    rw [endWait_eq waits]
    exact mild_endSlot s _
  | _ => cases outside

end DeviceLink.Session
