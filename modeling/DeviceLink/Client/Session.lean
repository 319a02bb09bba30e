-- The notification channel on the side of the client, as a machine. A task in the background
-- keeps a socket to the server: it dials, says who it is, waits for the greeting, takes frames
-- until the socket fails, rests, and starts over. Messages may be sent and replies waited for
-- while it does. Calls that ask for a connection, or close the client, stop the task and clear
-- what it left behind, each in small steps; others may come between any two of them.
import DeviceLink.Client.Error
import DeviceLink.DeviceId
import DeviceLink.Frame

namespace DeviceLink

/-- Whether a client is connected, as it tells others. -/
inductive ConnectionState
  | disconnected
  | connecting
  | connected
deriving Repr, DecidableEq

namespace ConnectionState

def label : ConnectionState → String
  | .disconnected => "Disconnected"
  | .connecting => "Connecting"
  | .connected => "Connected"

end ConnectionState

namespace Session

/-- The number of a socket in the order in which they were opened. -/
abbrev SocketId := Nat

/-- The number of a wait for a reply in the order in which they began. -/
abbrev WaitId := Nat

/-- The number of a call in the order in which they began. -/
abbrev CallId := Nat

/-- A socket to the server. -/
structure Socket where
  /-- The frames that were written to it. -/
  sent : List Bytes := []
  /-- The bytes that arrived and were not taken as frames. -/
  inbox : Bytes := []
  /-- The server sends no more. -/
  hungUp : Bool := false
  /-- Why writing to it fails, if it does. -/
  fault : Option String := none
deriving Repr, DecidableEq

/-- What is cleared once a connection is gone, one cell after another: where messages are written,
the slot for a reply, and what others are told. -/
inductive Cell
  | writer
  | slot
  | state
deriving Repr, DecidableEq

/-- The cell that is cleared after another. -/
def Cell.next? : Cell → Option Cell
  | .writer => some .slot
  | .slot => some .state
  | .state => none

/-- How far the task has come with an attempt to connect. -/
inductive Place
  | starting
  | dialing
  /-- The identifier is written, and the greeting has not come. -/
  | introduced (socket : SocketId)
  | greeted (socket : SocketId)
  /-- The socket can be written to by others. -/
  | shared (socket : SocketId)
  | reading (socket : SocketId)
  /-- The socket failed, and a cell is to be cleared. -/
  | lost (socket : SocketId) (cell : Cell)
  /-- The attempt failed. -/
  | failed
  /-- It rests before the next attempt. -/
  | resting
deriving Repr, DecidableEq

/-- The task that keeps the connection for a device. -/
structure Task where
  device : DeviceId
  place : Place := .starting
deriving Repr, DecidableEq

/-- The socket that a task reads from. -/
def Task.socket? (t : Task) : Option SocketId :=
  match t.place with
  | .introduced i | .greeted i | .shared i | .reading i | .lost i _ => some i
  | .starting | .dialing | .failed | .resting => none

/-- How far a call has come. -/
inductive Stage
  /-- It waits until no other call holds the task. -/
  | queued
  /-- It told the task to stop, and waits until it is gone. -/
  | stopping
  /-- A cell is to be cleared. -/
  | clearing (cell : Cell)
  /-- A new task is to be started. -/
  | starting
  | ended
deriving Repr, DecidableEq

/-- A call that asks for a connection, or closes the client. -/
structure Call where
  /-- The device to connect as. A call that closes the client has none. -/
  device : Option DeviceId
  stage : Stage := .queued
deriving Repr, DecidableEq

namespace Call

/-- A call keeps others from the task. One that closes the client lets go of it as soon as the task
is gone, before the cells are cleared. -/
def holdsTask (call : Call) : Bool :=
  match call.stage with
  | .stopping | .starting => true
  | .clearing _ => call.device.isSome
  | .queued | .ended => false

/-- What a call that got hold of the task does next. -/
def entry (call : Call) (task : Option Task) : Stage :=
  if task.isSome then .stopping
  else if call.device.isSome then .starting
  else .clearing .writer

/-- What a call does once it has cleared a cell. -/
def onward (call : Call) (cell : Cell) : Stage :=
  match cell.next? with
  | some cell => .clearing cell
  | none => if call.device.isSome then .starting else .ended

end Call

end Session

/-- A client of the notification channel. -/
structure Session where
  /-- How much it keeps of the payload of a frame. -/
  cap : Nat := Frame.defaultCap
  /-- How long it waits for a greeting or a reply. -/
  timeout : Duration := .ofSeconds 10
  /-- The identifier of the last connection that was asked for. -/
  device : Option DeviceId := none
  state : ConnectionState := .disconnected
  task : Option Session.Task := none
  /-- The calls that were made, first one first. -/
  calls : List Session.Call := []
  /-- The socket that messages are written to. -/
  writer : Option Session.SocketId := none
  /-- The wait that the next ordinary frame goes to. -/
  pending : Option Session.WaitId := none
  /-- The wait that is under way. -/
  waiting : Option Session.WaitId := none
  sockets : List Session.Socket := []
  /-- The frames that the callback was given, first one first. -/
  told : List Frame := []
  /-- How the waits ended, first one first. -/
  replies : List (Except ClientError Frame) := []

namespace Session

/-- What happens to a client. -/
inductive Event
  /-- A connection is asked for. The identifier is saved as the call begins. -/
  | connect (device : DeviceId)
  /-- The client is to be closed. -/
  | close
  /-- A call does what it need not wait for, or notices that it need not wait any more. -/
  | resume (call : CallId)
  /-- The dial ends, with a new socket or without. -/
  | dialed (opened : Bool)
  /-- The task does what it need not wait for. -/
  | proceed
  /-- The task takes a frame, or notices the end. -/
  | read
  /-- The greeting has not come in time. -/
  | giveUp
  /-- The task has rested. -/
  | wake
  | arrive (socket : SocketId) (bytes : Bytes)
  /-- The server sends no more. -/
  | hangUp (socket : SocketId)
  /-- From now on writing to a socket fails. -/
  | breakOff (socket : SocketId) (reason : String)
  | send (typ : UInt8) (payload : Bytes)
  /-- A message is sent and a reply waited for. -/
  | ask (payload : Bytes)
  /-- The reply has not come in time. -/
  | expire
deriving Repr, DecidableEq

/-! ## What steps are made of -/

/-- Changes one of the sockets. -/
def updateSocket (s : Session) (i : SocketId) (change : Socket → Socket) : Session :=
  { s with sockets := s.sockets.modify i change }

/-- The task goes to another place. -/
def goTo (s : Session) (t : Task) (place : Place) : Session :=
  { s with task := some { t with place } }

/-- Ends the wait that is under way, if it is the given one. -/
def endWait (s : Session) (wait : WaitId) (reply : Except ClientError Frame) : Session :=
  if s.waiting = some wait then { s with waiting := none, replies := s.replies ++ [reply] } else s

/-- Clears a cell. With the slot for a reply, the wait that it was for ends. -/
def clear (s : Session) : Cell → Session
  | .writer => { s with writer := none }
  | .slot =>
    match s.pending with
    | some wait => { s with pending := none }.endWait wait (.error .lost)
    | none => s
  | .state => { s with state := .disconnected }

/-- A call comes to another stage. -/
def setStage (s : Session) (n : CallId) (call : Call) (stage : Stage) : Session :=
  { s with calls := s.calls.set n { call with stage } }

/-- Gives a frame to the callback. -/
def tell (s : Session) (f : Frame) : Session := { s with told := s.told ++ [f] }

/-- Gives a frame to the wait for a reply, if there is one and the frame is an ordinary one, and
to the callback otherwise. -/
def dispatch (s : Session) (f : Frame) : Session :=
  if f.typ = MessageType.socket.code then
    match s.pending with
    | some wait => { s with pending := none }.endWait wait (.ok f)
    | none => s.tell f
  else s.tell f

/-- Writes a frame to a socket. -/
def writeTo (s : Session) (i : SocketId) (typ : UInt8) (payload : Bytes) :
    Except LinkError Session := do
  let bs ← Frame.encode typ payload
  match s.sockets[i]? >>= Socket.fault with
  | some reason => throw (.broken reason)
  | none => return s.updateSocket i fun k => { k with sent := k.sent ++ [bs] }

/-! ## Messages -/

/-- Writes a frame. A failure of whatever kind costs the socket. -/
def send (s : Session) (typ : UInt8) (payload : Bytes) : Except ClientError Unit × Session :=
  match s.writer with
  | none => (.error .notConnected, s)
  | some i =>
    match s.writeTo i typ payload with
    | .ok s => (.ok (), s)
    | .error cause => (.error (.link cause), { s with writer := none })

/-- Writes an ordinary frame and waits for a reply. If it cannot be written there is no wait. -/
def ask (s : Session) (payload : Bytes) : Session :=
  let wait := s.replies.length
  match { s with pending := some wait }.send MessageType.socket.code payload with
  | (.ok (), s) => { s with waiting := some wait }
  | (.error cause, s) => { s with pending := none, replies := s.replies ++ [.error cause] }

/-! ## Steps -/

/-- A call holds the task. -/
def isHeld (s : Session) : Bool := s.calls.any Call.holdsTask

/-- A call does its next step, unless it has to wait for another one. The task goes on until it is
gone. -/
def resume? (s : Session) (n : CallId) (call : Call) : Option Session :=
  match call.stage with
  | .queued => if s.isHeld then none else some (s.setStage n call (call.entry s.task))
  | .stopping => some ({ s with task := none }.setStage n call (.clearing .writer))
  | .clearing cell => some ((s.clear cell).setStage n call (call.onward cell))
  | .starting => call.device.map fun device =>
    { s with task := some { device } }.setStage n call .ended
  | .ended => none

/-- What the task does without waiting. -/
def proceed? (s : Session) (t : Task) : Option Session :=
  match t.place with
  | .starting => some ({ s with state := .connecting }.goTo t .dialing)
  | .greeted i => some ({ s with writer := some i }.goTo t (.shared i))
  | .shared i => some ({ s with state := .connected }.goTo t (.reading i))
  | .lost i cell => some ((s.clear cell).goTo t (cell.next?.elim .resting (.lost i)))
  | .failed => some ({ s with state := .disconnected }.goTo t .resting)
  | .dialing | .introduced _ | .reading _ | .resting => none

/-- The dial ends. On a new socket the identifier is written first. -/
def dialed? (s : Session) (t : Task) (opened : Bool) : Option Session :=
  match t.place with
  | .dialing =>
    if opened then
      let i := s.sockets.length
      match { s with sockets := s.sockets ++ [({} : Socket)] }.writeTo i
          MessageType.socket.code (Text.utf8 t.device.text) with
      | .ok s => some (s.goTo t (.introduced i))
      | .error _ => some (s.goTo t .failed)
    else some (s.goTo t .failed)
  | _ => none

/-- Takes a frame from a socket, or notices that there are no more. -/
def take? (s : Session) (i : SocketId) (frame : Frame → Session → Session)
    (gone : Session → Session) : Option Session := do
  let socket ← s.sockets[i]?
  match Frame.decode? s.cap socket.inbox with
  | some (f, inbox) => return frame f (s.updateSocket i fun k => { k with inbox })
  | none => if socket.hungUp then some (gone s) else none

/-- The task takes what has arrived. The first frame is the greeting, which is never a reply. -/
def read? (s : Session) (t : Task) : Option Session :=
  match t.place with
  | .introduced i =>
    s.take? i (fun f s => (s.tell f).goTo t (.greeted i)) (fun s => s.goTo t .failed)
  | .reading i => s.take? i (fun f s => s.dispatch f) (fun s => s.goTo t (.lost i .writer))
  | _ => none

/-- The task gives up waiting for the greeting. -/
def giveUp? (s : Session) (t : Task) : Option Session :=
  match t.place with
  | .introduced _ => some (s.goTo t .failed)
  | _ => none

/-- The task starts over. -/
def wake? (s : Session) (t : Task) : Option Session :=
  match t.place with
  | .resting => some (s.goTo t .starting)
  | _ => none

/-- The wait for a reply ends without one. -/
def expire? (s : Session) : Option Session :=
  s.waiting.map fun wait => { s with pending := none }.endWait wait (.error (.timeout s.timeout))

/-- What an event makes of a client, if it can happen. There is only one wait at a time. -/
def step? (s : Session) : Event → Option Session
  | .connect device => some { s with
    device := some device, calls := s.calls ++ [{ device := some device }] }
  | .close => some { s with calls := s.calls ++ [{ device := none }] }
  | .resume n => s.calls[n]? >>= s.resume? n
  | .dialed opened => s.task >>= (s.dialed? · opened)
  | .proceed => s.task >>= s.proceed?
  | .read => s.task >>= s.read?
  | .giveUp => s.task >>= s.giveUp?
  | .wake => s.task >>= s.wake?
  | .arrive i bytes => some (s.updateSocket i fun k =>
    if k.hungUp then k else { k with inbox := k.inbox ++ bytes })
  | .hangUp i => some (s.updateSocket i ({ · with hungUp := true }))
  | .breakOff i reason => some (s.updateSocket i ({ · with fault := some reason }))
  | .send typ payload => some (s.send typ payload).2
  | .ask payload => if s.waiting.isSome then none else some (s.ask payload)
  | .expire => s.expire?

/-- What a sequence of events makes of a client, if they can all happen. -/
def run? (s : Session) : List Event → Option Session
  | [] => some s
  | e :: es => s.step? e >>= fun s => s.run? es

/-! ## At rest -/

/-- How much the calls and the task can do at most before they have to wait. -/
def work (s : Session) : Nat :=
  s.sockets.foldr (fun socket n => socket.inbox.length + n) (8 + 6 * s.calls.length)

/-- What a client does next by itself, if there is such a thing. Its calls come before its task. -/
def advance? (s : Session) : Option Session :=
  (List.range s.calls.length).findSome? (fun n => s.step? (.resume n)) <|>
    s.step? .proceed <|> s.step? .read

/-- Lets the client move on until it has to wait, but at most a given number of times. -/
def advanceUpTo : Nat → Session → Session
  | 0, s => s
  | fuel + 1, s =>
    match s.advance? with
    | some s => s.advanceUpTo fuel
    | none => s

/-- The client once its calls are over and its task has to wait. -/
def settle (s : Session) : Session := s.advanceUpTo s.work

/-- The client at rest after an event. One that cannot happen changes nothing. -/
def after (s : Session) (e : Event) : Session := ((s.step? e).getD s).settle

end Session

end DeviceLink
