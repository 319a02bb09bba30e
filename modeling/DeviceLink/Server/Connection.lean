-- Connections of the notification channel on the side of the server: how far each has come, what
-- has arrived on it and what was written to it.
import DeviceLink.Registry.Operation

namespace DeviceLink.Server

/-! ## Hooks -/

/-- How a hook ended. Nothing but its note depends on it. -/
inductive Outcome
  | completed
  | failed
  | panicked
deriving Repr, DecidableEq

/-- What a hook does to the registry, and how it ends. -/
structure Reaction where
  operations : List Registry.Operation := []
  outcome : Outcome := .completed
deriving Repr, DecidableEq

/-- What a server calls when a device comes, goes, or sends a frame. -/
structure Hooks where
  connected : Handle → Reaction := fun _ => {}
  disconnected : DeviceId → Reaction := fun _ => {}
  /-- What takes the frames. Without it each frame goes back where it came from. -/
  sink : Option (Handle → Frame → Reaction) := none

/-- Why a hook was called. -/
inductive Occasion
  | online (h : Handle)
  | offline (device : DeviceId)
  | message (h : Handle) (f : Frame)
deriving Repr, DecidableEq

/-- A call of a hook, how it ended, and what its operations gave. -/
structure Note where
  occasion : Occasion
  outcome : Outcome
  answers : List Registry.Answer
deriving Repr, DecidableEq

/-! ## Messages of the server -/

/-- Tells admin consoles that a device came. -/
def onlineMessage (device : DeviceId) : Bytes := Text.utf8 s!"Device {device.text} Online\n"

/-- Tells admin consoles that a device went. -/
def offlineMessage (device : DeviceId) : Bytes := Text.utf8 s!"Device {device.text} Offline\n"

/-- The first message to a device. -/
def greeting (device : DeviceId) : Bytes :=
  Text.utf8 s!"Hello {device.text} from server handler\n"

/-! ## Stages -/

/-- How far a connection has come that said who it is. -/
inductive Place
  /-- It has a number and a line. -/
  | named
  /-- It has an entry in the registry. -/
  | entered
  /-- The admin consoles were told that it came. -/
  | announced
  /-- Its greeting is queued. -/
  | greeted
  /-- It is about to look whether the server stops. -/
  | ready
  /-- It waits for a frame, for the end, or to be closed. -/
  | waiting
  | leaving
  /-- Its entry is gone. -/
  | removed
  /-- It is known whether another connection keeps its device online. -/
  | judged (replaced : Bool)
  /-- The admin consoles were told that it went, unless it was replaced. -/
  | departed
  /-- It only waits for its writer to finish. -/
  | parted
deriving Repr, DecidableEq

/-- How far a connection has come. -/
inductive Stage
  /-- It has not said who it is. -/
  | handshake
  | identified (h : Handle) (place : Place)
  | ended
deriving Repr, DecidableEq

/-- A connection of the notification channel. -/
structure Connection where
  peer : Option Network.Endpoint := none
  stage : Stage := .handshake
  /-- The bytes that arrived and were not taken as frames. -/
  inbox : Bytes := []
  /-- The peer sends no more. -/
  hungUp : Bool := false
  /-- The frames that were written to the peer. -/
  sent : List Bytes := []
deriving Repr, DecidableEq

/-- The handle of a connection that said who it is. -/
def Connection.handle? (conn : Connection) : Option Handle :=
  match conn.stage with
  | .identified h _ => some h
  | _ => none

/-- The connection is over, and closed for the peer. -/
def Connection.isEnded (conn : Connection) : Bool := conn.stage == .ended

/-! ## How much is left to do -/

/-- How many moves are left at most from a place, if no frame is taken. -/
def Place.rank : Place → Nat
  | .named => 10
  | .entered => 9
  | .announced => 8
  | .greeted => 7
  | .ready => 6
  | .waiting => 5
  | .leaving => 4
  | .removed => 3
  | .judged _ => 2
  | .departed => 1
  | .parted => 0

/-- How many moves a connection can make at most before it has to wait. -/
def Connection.work (conn : Connection) : Nat :=
  match conn.stage with
  | .handshake => 12 + conn.inbox.length
  | .identified _ place => 1 + place.rank + conn.inbox.length
  | .ended => 0

end DeviceLink.Server
