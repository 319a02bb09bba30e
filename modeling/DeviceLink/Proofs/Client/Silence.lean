-- Sockets that a client has given up. Once it can no longer write to a socket it never will again,
-- whatever happens; and a message that cannot be framed makes it give up the one that it has.
import DeviceLink.Proofs.Client.States

namespace DeviceLink.Session

variable {s s' t : Session} {e : Event} {i j : SocketId} {sent : List Bytes} {typ : UInt8}
  {payload : Bytes}

/-! ## Writing -/

/-- A client can write to a socket: messages go there, or its task has yet to share it. -/
inductive MayWrite (s : Session) (i : SocketId) : Prop
  | shared (writer : s.writer = some i)
  | held (t : Task) (task : s.task = some t)
      (place : t.place = .introduced i ∨ t.place = .greeted i)

/-- The frames that were written to a socket. -/
def sentOn? (s : Session) (i : SocketId) : Option (List Bytes) := s.sockets[i]?.map (·.sent)

/-- A client can no longer write to a socket, on which it sent these frames. -/
structure GivenUp (s : Session) (i : SocketId) (sent : List Bytes) : Prop where
  sent : s.sentOn? i = some sent
  mute : ¬ s.MayWrite i

theorem GivenUp.keep (up : s.GivenUp i sent) (same : s'.sentOn? i = s.sentOn? i)
    (less : s'.MayWrite i → s.MayWrite i) : s'.GivenUp i sent where
  sent := same.trans up.sent
  mute may := up.mute (less may)

theorem sentOn?_updateSocket (s : Session) (i j : SocketId) (change : Socket → Socket) :
    (s.updateSocket j change).sentOn? i =
      if j = i then s.sockets[i]?.map fun k => (change k).sent else s.sentOn? i := by
  unfold sentOn? updateSocket
  rw [List.getElem?_modify]
  split
  · simp [Function.comp_def]
  · simp

theorem sentOn?_updateSocket_of_keeps {change : Socket → Socket}
    (keeps : ∀ k, (change k).sent = k.sent) :
    (s.updateSocket j change).sentOn? i = s.sentOn? i := by
  rw [sentOn?_updateSocket]
  split
  · simp only [keeps]
    rfl
  · rfl

theorem sentOn?_updateSocket_of_ne {change : Socket → Socket} (other : j ≠ i) :
    (s.updateSocket j change).sentOn? i = s.sentOn? i := by
  rw [sentOn?_updateSocket, if_neg other]

/-- A new socket is none of those that were there. -/
theorem sentOn?_openAs (device : DeviceId) (there : s.sentOn? i = some sent) :
    (s.openAs device).sentOn? i = s.sentOn? i ∧ i ≠ s.sockets.length := by
  obtain ⟨socket, found, -⟩ := Option.map_eq_some_iff.1 there
  have old : i < s.sockets.length := (List.getElem?_eq_some_iff.1 found).1
  constructor
  · unfold sentOn? openAs
    rw [List.getElem?_append_left old]
  · exact Nat.ne_of_lt old

/-! ## Steps -/

/-- The task goes on to a place where it does not hold the socket for itself. -/
theorem MayWrite.of_goTo {task : Task} {place : Place} (may : (s.goTo task place).MayWrite i)
    (away : place ≠ .introduced i ∧ place ≠ .greeted i) : s.MayWrite i := by
  cases may with
  | shared writer => exact .shared writer
  | held t same here =>
    cases same
    rcases here with here | here
    · exact absurd here away.1
    · exact absurd here away.2

theorem MayWrite.of_same (may : s'.MayWrite i) (s : Session) (writer : s'.writer = s.writer)
    (task : s'.task = s.task) : s.MayWrite i := by
  cases may with
  | shared writes => exact .shared (writer.symm.trans writes)
  | held t held place => exact .held t (task.symm.trans held) place

theorem MayWrite.of_mild (mild : Mild s s') (may : s'.MayWrite i) : s.MayWrite i := by
  cases may with
  | shared writer =>
    rcases mild.writer with same | gone
    · exact .shared (same.symm.trans writer)
    · rw [gone] at writer
      cases writer
  | held t task place => exact .held t (mild.task.symm.trans task) place

theorem MayWrite.of_clear (c : Coherent s) {cell : Cell} (may : (s.clear cell).MayWrite i) :
    s.MayWrite i := by
  rw [clear_eq c.slot] at may
  rcases may with ⟨writes⟩ | ⟨t, task, place⟩
  · dsimp only at writes
    split at writes
    · cases writes
    · exact .shared writes
  · exact .held t task place

/-- A message is written to the socket that is shared, and to no other. -/
theorem sentOn?_send (mute : s.writer ≠ some i) :
    (s.send typ payload).2.sentOn? i = s.sentOn? i := by
  have sends := sends_send s typ payload
  generalize s.send typ payload = result at sends ⊢
  obtain ⟨outcome, after⟩ := result
  cases sends with
  | unconnected writer => rfl
  | @written j writer bs =>
    apply sentOn?_updateSocket_of_ne
    rintro rfl
    exact mute writer
  | broken writer cause => rfl

theorem sentOn?_ask (mute : s.writer ≠ some i) : (s.ask payload).sentOn? i = s.sentOn? i := by
  have asks := asks_ask s payload
  generalize s.ask payload = after at asks ⊢
  cases asks with
  | @begun j writer bs =>
    have other : j ≠ i := by
      rintro rfl
      exact mute writer
    exact sentOn?_updateSocket_of_ne (s := s) other
  | unconnected writer => rfl
  | broken writer cause => rfl

/-- A socket that was given up stays so, and nothing is written to it. -/
theorem Transition.givenUp (transition : Transition s e s') (c : Coherent s)
    (up : s.GivenUp i sent) : s'.GivenUp i sent := by
  have mute : s.writer ≠ some i := fun writer => up.mute (.shared writer)
  have cleared : ∀ cell, (s.clear cell).sentOn? i = s.sentOn? i := by
    intro cell
    rw [clear_eq c.slot]
    rfl
  cases transition with
  | connect | close | enter => exact up.keep rfl fun may => may.of_same s rfl rfl
  | stop called stage =>
    refine up.keep rfl fun may => ?_
    rcases may with ⟨writes⟩ | ⟨t, ⟨⟩, place⟩
    exact .shared writes
  | erase called stage =>
    exact up.keep (cleared _) fun may => (may.of_same (s.clear _) rfl rfl).of_clear c
  | launch called stage named =>
    refine up.keep rfl fun may => ?_
    rcases may with ⟨writes⟩ | ⟨t, task, place⟩
    · exact .shared writes
    · cases task
      rcases place with place | place
      · cases place
      · cases place
  | @reach t task place =>
    obtain ⟨same, other⟩ := sentOn?_openAs t.device up.sent
    refine up.keep same fun may => ?_
    have before : (s.openAs t.device).MayWrite i := by
      apply may.of_goTo
      constructor
      · rintro ⟨⟩
        exact other rfl
      · rintro ⟨⟩
    exact before.of_same s rfl rfl
  | @share t j task place =>
    have other : j ≠ i := by
      rintro rfl
      exact up.mute (.held t task (.inr place))
    refine up.keep rfl fun may => ?_
    cases may with
    | shared writer => exact absurd (Option.some.inj writer) other
    | held t' same here =>
      cases same
      simp at here
  | @clear t j cell task place =>
    refine up.keep (cleared cell) fun may => (may.of_goTo ?_).of_clear c
    cases cell <;> exact ⟨nofun, nofun⟩
  | @greet t j socket f inbox task place found decoded =>
    have other : j ≠ i := by
      rintro rfl
      exact up.mute (.held t task (.inl place))
    refine up.keep (sentOn?_updateSocket_of_keeps fun _ => rfl) fun may => ?_
    have before : ((s.leaveOn j inbox).tell f).MayWrite i := by
      apply may.of_goTo
      constructor
      · rintro ⟨⟩
      · rintro ⟨⟩
        exact other rfl
    exact before.of_same s rfl rfl
  | @receive t j socket f inbox task place found decoded =>
    refine up.keep ?_ fun may => may.of_mild (mild_receive c j inbox f)
    have left : (s.leaveOn j inbox).sentOn? i = s.sentOn? i :=
      sentOn?_updateSocket_of_keeps fun _ => rfl
    rw [← left, dispatch_eq (s := s.leaveOn j inbox) c.slot]
    split
    · rfl
    · rfl
  | arrive j bytes =>
    refine up.keep (sentOn?_updateSocket_of_keeps fun k => ?_) fun may => ?_
    · unfold Socket.receive
      split
      · rfl
      · rfl
    · exact may.of_same s rfl rfl
  | hangUp j =>
    exact up.keep (sentOn?_updateSocket_of_keeps fun _ => rfl) fun may => may.of_same s rfl rfl
  | breakOff j reason =>
    exact up.keep (sentOn?_updateSocket_of_keeps fun _ => rfl) fun may => may.of_same s rfl rfl
  | send typ payload =>
    exact up.keep (sentOn?_send mute) fun may => may.of_mild (mild_send c typ payload)
  | ask payload idle =>
    exact up.keep (sentOn?_ask mute) fun may => may.of_mild (mild_ask idle payload)
  | expire waits =>
    rw [endWait_eq waits]
    exact up.keep rfl fun may => may.of_mild (mild_endSlot s _)
  | start | publish | pause =>
    exact up.keep rfl fun may => (may.of_goTo ⟨nofun, nofun⟩).of_same s rfl rfl
  | miss | miscarry | lose | giveUp | wake =>
    exact up.keep rfl fun may => may.of_goTo ⟨nofun, nofun⟩

/-- Whatever happens later, a socket that was given up stays so. -/
theorem Story.givenUp {later : List Moment} (told : Story s later s') (c : Coherent s)
    (up : s.GivenUp i sent) : Coherent s' ∧ s'.GivenUp i sent := by
  induction told with
  | nil => exact ⟨c, up⟩
  | snoc told step ih =>
    obtain ⟨c', up'⟩ := ih
    have transition := transition_of_step? step
    exact ⟨transition.coherent c', transition.givenUp c' up'⟩

/-! ## Messages that cannot be framed -/

theorem writeTo_of_long (s : Session) (i : SocketId) (typ : UInt8) (long : 65535 < payload.length) :
    s.writeTo i typ payload = .error (.oversize payload.length) := by
  unfold writeTo
  rw [(Frame.encode_eq_error_iff typ payload).2 long]
  rfl

theorem send_of_long (writer : s.writer = some i) (typ : UInt8) (long : 65535 < payload.length) :
    s.send typ payload =
      (.error (.link (.oversize payload.length)), { s with writer := none }) := by
  unfold send
  simp only [writer, writeTo_of_long s i typ long]

theorem ask_of_long (writer : s.writer = some i) (long : 65535 < payload.length) :
    s.ask payload = { s with
      writer := none, pending := none
      replies := s.replies ++ [.error (.link (.oversize payload.length))] } := by
  unfold ask
  have refused := send_of_long (s := { s with pending := some s.replies.length }) writer
    MessageType.socket.code long
  simp only [refused]

theorem send_of_unconnected (writer : s.writer = none) (typ : UInt8) (payload : Bytes) :
    s.send typ payload = (.error .notConnected, s) := by
  unfold send
  simp only [writer]

/-- A client that gives up the socket that it shares is not about to share it again. -/
theorem givenUp_of_writer (c : Coherent s) (writes : s.writer = some i) :
    ∃ sent, s.sentOn? i = some sent ∧ ({ s with writer := none } : Session).GivenUp i sent := by
  obtain ⟨there, away⟩ := c.writer i writes
  have written : s.sentOn? i = some (s.sockets[i]).sent := by
    unfold sentOn?
    rw [List.getElem?_eq_getElem there]
    rfl
  refine ⟨_, written, written, ?_⟩
  rintro (writer | ⟨t, task, here⟩)
  · cases writer
  · rcases here with here | here
    · exact (away t task).1 here
    · exact (away t task).2 here

end DeviceLink.Session
