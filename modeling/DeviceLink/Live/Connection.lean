-- Clients at work: calls over sockets, and a client for notifications that is kept connected while
-- something is waited for.
import DeviceLink.Command.Plan
import DeviceLink.Live.Socket

namespace DeviceLink.Live

open Std.Async (Async Selector)

/-! ## Calls -/

/-- Takes bytes until a response is there, the peer sends no more, or the time is over. -/
partial def takeReply (socket : Socket) (limit : Nat) (deadline : Nat) (begun : Bytes) :
    Async Reply := do
  if (Response.size? limit begun).any (· ≤ begun.length) then return .stream (.ofBytes begun)
  let now ← IO.monoMsNow
  match ← receive (some socket) (some (.ofMilliseconds (deadline - now))) none with
  | .bytes bytes => takeReply socket limit deadline (begun ++ bytes)
  | .ended => return .stream (.ofBytes begun)
  | .broken reason => return .stream ⟨[begun], .failed .other reason⟩
  | .late | .interrupted => return .silence begun

/-- What a client meets that calls with a request. -/
def exchange (client : ClientSettings) (caller : Caller) (request : Request) : Async Reply := do
  match ← dial client.host client.apiPort (.ofSeconds client.connectSeconds) with
  | .error failure => return .refused failure
  | .ok socket =>
    match request.encode with
    | .error _ => return .stream (.ofBytes [])
    | .ok bytes =>
      try
        write socket bytes
      catch e => return .unsent (toString e)
      let deadline := (← IO.monoMsNow) + caller.timeout.milliseconds
      takeReply socket caller.limit deadline []

/-! ## Notifications -/

/-- A client with the socket that it uses now. -/
structure Ongoing where
  session : Session
  socket : Option Socket := none
  /-- The time since which its task is where it is. -/
  since : Nat := 0

/-- Why keeping a connection came to an end. -/
inductive Halt
  | reached
  | late
  | interrupted
deriving DecidableEq

/-- How a client is kept connected. -/
structure Keeper where
  client : ClientSettings
  /-- What is done with a frame that the callback is given. -/
  onFrame : Frame → IO Unit := fun _ => return ()
  /-- What is done when the client tells of another state. -/
  onState : ConnectionState → IO Unit := fun _ => return ()
  interrupt : Option (Selector Unit) := none

namespace Keeper

/-- Passes on what a client wrote, and shows what it was told. -/
def passOn (k : Keeper) (live : Ongoing) : Async Ongoing := do
  for f in live.session.told do k.onFrame f
  let last := live.session.sockets.length - 1
  let written := (live.session.sockets.getLast?.map Session.Socket.sent).getD []
  let session := { live.session with told := [] }.updateSocket last ({ · with sent := [] })
  match live.socket with
  | some socket =>
    try
      unless written.isEmpty do write socket written.flatten
      return { live with session }
    catch e => return { live with session := session.after (.breakOff last (toString e)) }
  | none => return { live with session }

/-- Lets an event happen to a client that then has a given socket. -/
def happen (k : Keeper) (live : Ongoing) (event : Session.Event) (socket : Option Socket) :
    Async Ongoing := do
  let session := live.session.after event
  unless session.state = live.session.state do k.onState session.state
  let moved := session.task.map (·.place) ≠ live.session.task.map (·.place)
  let since ← if moved then IO.monoMsNow else pure live.since
  k.passOn { session, socket, since }

/-- How long the task of a client waits where it is, and what happens then. -/
def deadline? (k : Keeper) (session : Session) : Option (Duration × Session.Event) :=
  match session.task.map Session.Task.place with
  | some (.introduced _) => some (session.timeout, .giveUp)
  | some .resting => some (.ofSeconds k.client.reconnectSeconds, .wake)
  | _ => none

/-- Does the one thing that a client waits for, but no longer than until a given time. -/
def wait (k : Keeper) (live : Ongoing) (until? : Option Nat) : Async (Ongoing × Option Halt) := do
  if live.session.task.map (·.place) = some .dialing then
    match ← dial k.client.host k.client.port (.ofSeconds k.client.connectSeconds) with
    | .ok socket => return (← k.happen live (.dialed true) (some socket), none)
    | .error _ => return (← k.happen live (.dialed false) none, none)
  else
    let own := (k.deadline? live.session).map fun (d, event) =>
      (live.since + d.milliseconds, event)
    let limit := match own.map (·.1), until? with
      | some a, some b => some (min a b)
      | a, b => a <|> b
    let now ← IO.monoMsNow
    let last := live.session.sockets.length - 1
    match ← receive live.socket (limit.map fun t => .ofMilliseconds (t - now)) k.interrupt with
    | .bytes bytes => return (← k.happen live (.arrive last bytes) live.socket, none)
    | .ended | .broken _ => return (← k.happen live (.hangUp last) none, none)
    | .interrupted => return (live, some .interrupted)
    | .late =>
      match own with
      | some (t, event) =>
        if t ≤ (← IO.monoMsNow) then return (← k.happen live event none, none)
        else return (live, none)
      | none => return (live, none)

/-- Keeps a client connected until something is so, but no longer than until a given time. -/
partial def keep (k : Keeper) (live : Ongoing) (until? : Option Nat) (done : Session → Bool) :
    Async (Ongoing × Halt) := do
  if done live.session then return (live, .reached)
  if let some t := until? then
    if t ≤ (← IO.monoMsNow) then return (live, .late)
  match ← k.wait live until? with
  | (live, some halt) => return (live, halt)
  | (live, none) => k.keep live until? done

/-- A client that has just been asked to connect. -/
def begin (k : Keeper) (device : DeviceId) : Ongoing :=
  { session := k.client.session.after (.connect device) }

/-- The time at which a span from now on is over. -/
def timeAfter (d : Duration) : Async Nat := do
  return (← IO.monoMsNow) + d.milliseconds

/-- Stays connected until interrupted. -/
def listen (k : Keeper) (device : DeviceId) : Async Unit := do
  let live := k.begin device
  k.onState live.session.state
  let _ ← k.keep live none fun _ => false

/-- Sends one message and waits for the reply. There is none if the client was not connected in
time. -/
def send (k : Keeper) (device : DeviceId) (message : Bytes) (patience : Duration) :
    Async (Option (Except ClientError Frame)) := do
  let connected := fun (s : Session) => s.state = .connected
  match ← k.keep (k.begin device) (some (← timeAfter patience)) (connected ·) with
  | (live, .reached) =>
    let live ← k.happen live (.ask message) live.socket
    let limit ← timeAfter live.session.timeout
    let (live, _) ← k.keep live (some limit) fun s => !s.replies.isEmpty
    let session := if live.session.replies.isEmpty then live.session.after .expire else live.session
    return session.replies.head?
  | _ => return none

end Keeper

end DeviceLink.Live
