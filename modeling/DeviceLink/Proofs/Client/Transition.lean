-- What a step of a client can be, one case for each thing that happens. What is proved about all
-- runs of a client goes through these cases, never through the functions behind them.
import DeviceLink.Client.Session
import DeviceLink.Proofs.DeviceId
import DeviceLink.Proofs.Frame.RoundTrip

namespace DeviceLink.Session

/-! ## Sockets -/

/-- The frame by which a client says who it is. -/
def introduction (device : DeviceId) : Bytes := Frame.ordinary (Text.utf8 device.text)

theorem encode_introduction (device : DeviceId) :
    Frame.encode MessageType.socket.code (Text.utf8 device.text) = .ok (introduction device) := by
  apply Frame.encode_ordinary
  have := device.length_utf8_text
  unfold DeviceId.limit at this
  omega

/-- A client has just opened a socket and said who it is. -/
def openAs (s : Session) (device : DeviceId) : Session :=
  { s with sockets := s.sockets ++ [({ sent := [introduction device] } : Socket)] }

/-- The task takes bytes off a socket. -/
def leaveOn (s : Session) (i : SocketId) (inbox : Bytes) : Session :=
  s.updateSocket i fun socket => { socket with inbox }

/-- Bytes come on a socket, unless the server has said that it sends no more. -/
def Socket.receive (socket : Socket) (bytes : Bytes) : Socket :=
  if socket.hungUp then socket else { socket with inbox := socket.inbox ++ bytes }

/-! ## The cases of a step -/

/-- An event makes one client of another. -/
inductive Transition (s : Session) : Event → Session → Prop
  | connect (device : DeviceId) : Transition s (.connect device)
      { s with device := some device, calls := s.calls ++ [{ device := some device }] }
  | close : Transition s .close { s with calls := s.calls ++ [{ device := none }] }
  | enter {n : CallId} {call : Call} (called : s.calls[n]? = some call)
      (stage : call.stage = .queued) (free : s.isHeld = false) :
      Transition s (.resume n) (s.setStage n call (call.entry s.task))
  | stop {n : CallId} {call : Call} (called : s.calls[n]? = some call)
      (stage : call.stage = .stopping) :
      Transition s (.resume n) ({ s with task := none }.setStage n call (.clearing .writer))
  | erase {n : CallId} {call : Call} {cell : Cell} (called : s.calls[n]? = some call)
      (stage : call.stage = .clearing cell) :
      Transition s (.resume n) ((s.clear cell).setStage n call (call.onward cell))
  | launch {n : CallId} {call : Call} {device : DeviceId} (called : s.calls[n]? = some call)
      (stage : call.stage = .starting) (named : call.device = some device) :
      Transition s (.resume n) ({ s with task := some { device } }.setStage n call .ended)
  | reach {t : Task} (task : s.task = some t) (place : t.place = .dialing) :
      Transition s (.dialed true) ((s.openAs t.device).goTo t (.introduced s.sockets.length))
  | miss {t : Task} (task : s.task = some t) (place : t.place = .dialing) :
      Transition s (.dialed false) (s.goTo t .failed)
  | start {t : Task} (task : s.task = some t) (place : t.place = .starting) :
      Transition s .proceed ({ s with state := .connecting }.goTo t .dialing)
  | share {t : Task} {i : SocketId} (task : s.task = some t) (place : t.place = .greeted i) :
      Transition s .proceed ({ s with writer := some i }.goTo t (.shared i))
  | publish {t : Task} {i : SocketId} (task : s.task = some t) (place : t.place = .shared i) :
      Transition s .proceed ({ s with state := .connected }.goTo t (.reading i))
  | clear {t : Task} {i : SocketId} {cell : Cell} (task : s.task = some t)
      (place : t.place = .lost i cell) :
      Transition s .proceed ((s.clear cell).goTo t (cell.next?.elim .resting (.lost i)))
  | pause {t : Task} (task : s.task = some t) (place : t.place = .failed) :
      Transition s .proceed ({ s with state := .disconnected }.goTo t .resting)
  | greet {t : Task} {i : SocketId} {socket : Socket} {f : Frame} {inbox : Bytes}
      (task : s.task = some t) (place : t.place = .introduced i)
      (found : s.sockets[i]? = some socket)
      (decoded : Frame.decode? s.cap socket.inbox = some (f, inbox)) :
      Transition s .read (((s.leaveOn i inbox).tell f).goTo t (.greeted i))
  | miscarry {t : Task} {i : SocketId} {socket : Socket}
      (task : s.task = some t) (place : t.place = .introduced i)
      (found : s.sockets[i]? = some socket)
      (incomplete : Frame.decode? s.cap socket.inbox = none) (hungUp : socket.hungUp = true) :
      Transition s .read (s.goTo t .failed)
  | receive {t : Task} {i : SocketId} {socket : Socket} {f : Frame} {inbox : Bytes}
      (task : s.task = some t) (place : t.place = .reading i)
      (found : s.sockets[i]? = some socket)
      (decoded : Frame.decode? s.cap socket.inbox = some (f, inbox)) :
      Transition s .read ((s.leaveOn i inbox).dispatch f)
  | lose {t : Task} {i : SocketId} {socket : Socket}
      (task : s.task = some t) (place : t.place = .reading i)
      (found : s.sockets[i]? = some socket)
      (incomplete : Frame.decode? s.cap socket.inbox = none) (hungUp : socket.hungUp = true) :
      Transition s .read (s.goTo t (.lost i .writer))
  | giveUp {t : Task} {i : SocketId} (task : s.task = some t) (place : t.place = .introduced i) :
      Transition s .giveUp (s.goTo t .failed)
  | wake {t : Task} (task : s.task = some t) (place : t.place = .resting) :
      Transition s .wake (s.goTo t .starting)
  | arrive (i : SocketId) (bytes : Bytes) :
      Transition s (.arrive i bytes) (s.updateSocket i (·.receive bytes))
  | hangUp (i : SocketId) :
      Transition s (.hangUp i) (s.updateSocket i ({ · with hungUp := true }))
  | breakOff (i : SocketId) (reason : String) :
      Transition s (.breakOff i reason) (s.updateSocket i ({ · with fault := some reason }))
  | send (typ : UInt8) (payload : Bytes) :
      Transition s (.send typ payload) (s.send typ payload).2
  | ask (payload : Bytes) (idle : s.waiting = none) : Transition s (.ask payload) (s.ask payload)
  | expire {wait : WaitId} (waits : s.waiting = some wait) :
      Transition s .expire ({ s with pending := none }.endWait wait (.error (.timeout s.timeout)))

/-! ## The cases are all -/

variable {s s' : Session} {t : Task}

theorem dialed?_eq (t : Task) (opened : Bool) : s.dialed? t opened =
    if t.place = .dialing then
      some (if opened then (s.openAs t.device).goTo t (.introduced s.sockets.length)
        else s.goTo t .failed)
    else none := by
  unfold dialed?
  cases place : t.place with
  | dialing =>
    cases opened with
    | false => rfl
    | true =>
      have written : ({ s with sockets := s.sockets ++ [({} : Socket)] } : Session).writeTo
          s.sockets.length MessageType.socket.code (Text.utf8 t.device.text) =
          .ok (s.openAs t.device) := by
        unfold writeTo
        rw [encode_introduction]
        simp [updateSocket, openAs, List.modify_eq_take_drop]
      simp [written]
  | _ => rfl

theorem transition_of_proceed? (task : s.task = some t) (h : s.proceed? t = some s') :
    Transition s .proceed s' := by
  unfold proceed? at h
  cases place : t.place with
  | starting =>
    simp only [place, Option.some.injEq] at h
    exact h ▸ .start task place
  | greeted i =>
    simp only [place, Option.some.injEq] at h
    exact h ▸ .share task place
  | shared i =>
    simp only [place, Option.some.injEq] at h
    exact h ▸ .publish task place
  | lost i cell =>
    simp only [place, Option.some.injEq] at h
    exact h ▸ .clear task place
  | failed =>
    simp only [place, Option.some.injEq] at h
    exact h ▸ .pause task place
  | _ => simp [place] at h

/-- What is taken off a socket is a frame, or the end. -/
theorem take?_eq_some {i : SocketId} {frame : Frame → Session → Session}
    {gone : Session → Session} (h : s.take? i frame gone = some s') :
    ∃ socket, s.sockets[i]? = some socket ∧
      ((∃ f inbox, Frame.decode? s.cap socket.inbox = some (f, inbox) ∧
          s' = frame f (s.leaveOn i inbox)) ∨
        (Frame.decode? s.cap socket.inbox = none ∧ socket.hungUp = true ∧ s' = gone s)) := by
  obtain ⟨socket, found, h⟩ := Option.bind_eq_some_iff.1 h
  refine ⟨socket, found, ?_⟩
  split at h
  · rename_i f inbox decoded
    left
    refine ⟨f, inbox, decoded, ?_⟩
    cases h
    rfl
  · rename_i incomplete
    right
    split at h
    · rename_i hungUp
      cases h
      exact ⟨incomplete, hungUp, rfl⟩
    · cases h

theorem transition_of_read? (task : s.task = some t) (h : s.read? t = some s') :
    Transition s .read s' := by
  unfold read? at h
  cases place : t.place with
  | introduced i =>
    simp only [place] at h
    obtain ⟨socket, found, ⟨f, inbox, decoded, rfl⟩ | ⟨incomplete, hungUp, rfl⟩⟩ :=
      take?_eq_some h
    · exact .greet task place found decoded
    · exact .miscarry task place found incomplete hungUp
  | reading i =>
    simp only [place] at h
    obtain ⟨socket, found, ⟨f, inbox, decoded, rfl⟩ | ⟨incomplete, hungUp, rfl⟩⟩ :=
      take?_eq_some h
    · exact .receive task place found decoded
    · exact .lose task place found incomplete hungUp
  | _ => simp [place] at h

theorem transition_of_resume? {n : CallId} {call : Call} (called : s.calls[n]? = some call)
    (h : s.resume? n call = some s') : Transition s (.resume n) s' := by
  unfold resume? at h
  cases stage : call.stage with
  | queued =>
    simp only [stage] at h
    split at h
    · cases h
    · rename_i free
      cases h
      exact .enter called stage (Bool.eq_false_iff.2 free)
  | stopping =>
    simp only [stage, Option.some.injEq] at h
    exact h ▸ .stop called stage
  | clearing cell =>
    simp only [stage, Option.some.injEq] at h
    exact h ▸ .erase called stage
  | starting =>
    simp only [stage] at h
    obtain ⟨device, named, rfl⟩ := Option.map_eq_some_iff.1 h
    exact .launch called stage named
  | ended => simp [stage] at h

/-- Whatever a step does is one of the cases. -/
theorem transition_of_step? {e : Event} (h : s.step? e = some s') : Transition s e s' := by
  cases e with
  | connect device =>
    cases h
    exact .connect device
  | close =>
    cases h
    exact .close
  | resume n =>
    obtain ⟨call, called, h⟩ := Option.bind_eq_some_iff.1 h
    exact transition_of_resume? called h
  | dialed opened =>
    obtain ⟨t, task, h⟩ := Option.bind_eq_some_iff.1 h
    rw [dialed?_eq] at h
    split at h
    · rename_i place
      cases opened with
      | true =>
        cases h
        exact .reach task place
      | false =>
        cases h
        exact .miss task place
    · cases h
  | proceed =>
    obtain ⟨t, task, h⟩ := Option.bind_eq_some_iff.1 h
    exact transition_of_proceed? task h
  | read =>
    obtain ⟨t, task, h⟩ := Option.bind_eq_some_iff.1 h
    exact transition_of_read? task h
  | giveUp =>
    obtain ⟨t, task, h⟩ := Option.bind_eq_some_iff.1 h
    unfold giveUp? at h
    split at h
    · rename_i place
      cases h
      exact .giveUp task place
    · cases h
  | wake =>
    obtain ⟨t, task, h⟩ := Option.bind_eq_some_iff.1 h
    unfold wake? at h
    split at h
    · rename_i place
      cases h
      exact .wake task place
    · cases h
  | arrive i bytes =>
    cases h
    exact .arrive i bytes
  | hangUp i =>
    cases h
    exact .hangUp i
  | breakOff i reason =>
    cases h
    exact .breakOff i reason
  | send typ payload =>
    cases h
    exact .send typ payload
  | ask payload =>
    change (if s.waiting.isSome then none else some (s.ask payload)) = some s' at h
    split at h
    · cases h
    · rename_i idle
      cases h
      exact .ask payload (by simpa using idle)
  | expire =>
    obtain ⟨wait, waits, rfl⟩ := Option.map_eq_some_iff.1 h
    exact .expire waits

end DeviceLink.Session
