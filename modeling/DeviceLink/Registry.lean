-- The registry of live connections, newest first. Every connection has a line: the frames that
-- wait for its writer, whether there is a writer still, and whether it was asked to close. A
-- handle only names its line, so all copies of a handle share it.
import DeviceLink.DeviceId
import DeviceLink.Frame
import DeviceLink.Network.Address

namespace DeviceLink

/-- What to do when an identifier registers that is there already. -/
inductive DuplicatePolicy
  /-- Keep both; lookups find the newest. -/
  | allow
  /-- Remove the older one and ask it to close. -/
  | replace
deriving Repr, DecidableEq

namespace DuplicatePolicy

def name : DuplicatePolicy → String
  | .allow => "allow"
  | .replace => "replace"

def all : List DuplicatePolicy := [.allow, .replace]

def codec : Json.Codec DuplicatePolicy := Json.variants all name

end DuplicatePolicy

/-- The number of a connection. -/
abbrev ConnId := Nat

/-- A connection as others know it. -/
structure Handle where
  conn : ConnId
  device : DeviceId
  peer : Option Network.Endpoint := none
deriving Repr, DecidableEq

/-- The way out to one connection. -/
structure Line where
  /-- The encoded frames that wait, first one first. -/
  queue : List Bytes := []
  /-- There is a writer that takes them. -/
  writer : Bool := true
  /-- The connection was asked to close and has not yet noticed. -/
  closing : Bool := false
deriving Repr, DecidableEq

/-- A line whose writer is gone. -/
def Line.gone : Line := { writer := false }

/-- The connections that are registered, and the lines of all connections there ever were. -/
structure Registry where
  policy : DuplicatePolicy := .allow
  nextConn : ConnId := 1
  entries : List Handle := []
  lines : List (ConnId × Line) := []
deriving Repr, DecidableEq

namespace Registry

/-! ## Lines -/

/-- The line of a connection. -/
def line (r : Registry) (conn : ConnId) : Line := (r.lines.lookup conn).getD .gone

/-- Puts a new line in the place of a connection's line. -/
def setLine (conn : ConnId) (line : Line) : List (ConnId × Line) → List (ConnId × Line)
  | [] => [(conn, line)]
  | (c, l) :: rest => if c = conn then (c, line) :: rest else (c, l) :: setLine conn line rest

/-- Changes the line of a connection. -/
def updateLine (r : Registry) (conn : ConnId) (change : Line → Line) : Registry :=
  { r with lines := setLine conn (change (r.line conn)) r.lines }

/-- Takes the next number for a connection. -/
def takeNumber (r : Registry) : ConnId × Registry :=
  (r.nextConn, { r with nextConn := r.nextConn + 1 })

/-- Gives a new connection its number and a line of its own. It is not registered yet. -/
def connect (r : Registry) (device : DeviceId) (peer : Option Network.Endpoint := none) :
    Handle × Registry :=
  let (conn, r) := r.takeNumber
  (⟨conn, device, peer⟩, { r with lines := setLine conn {} r.lines })

/-- The writer of a connection is still there. -/
def isOpen (r : Registry) (conn : ConnId) : Bool := (r.line conn).writer

/-- Queues a frame on the line of a connection: fails if it cannot be encoded or the writer is
gone. -/
def sendFrame (r : Registry) (conn : ConnId) (typ : UInt8) (payload : Bytes) : Bool × Registry :=
  match Frame.encode typ payload with
  | .error _ => (false, r)
  | .ok bs =>
    if r.isOpen conn then (true, r.updateLine conn fun l => { l with queue := l.queue ++ [bs] })
    else (false, r)

/-- Queues an ordinary frame. -/
def send (r : Registry) (conn : ConnId) (payload : Bytes) : Bool × Registry :=
  r.sendFrame conn MessageType.socket.code payload

/-- Asks a connection to close. -/
def close (r : Registry) (conn : ConnId) : Registry :=
  r.updateLine conn fun l => { l with closing := true }

/-- Whether a connection was asked to close; it has noticed now. -/
def noticeClose (r : Registry) (conn : ConnId) : Bool × Registry :=
  ((r.line conn).closing, r.updateLine conn fun l => { l with closing := false })

/-- Takes the queued frames off a line. -/
def drain (r : Registry) (conn : ConnId) : List Bytes × Registry :=
  ((r.line conn).queue, r.updateLine conn fun l => { l with queue := [] })

/-- The writer of a connection goes away, and with it what it had not written. -/
def dropWriter (r : Registry) (conn : ConnId) : Registry :=
  r.updateLine conn fun l => { l with queue := [], writer := false }

/-! ## Entries -/

/-- The entry is for the device with a given identifier. -/
def isFor (id : String) (h : Handle) : Bool := h.device.text == id

/-- Asks each of some connections to close. -/
def closeEach (r : Registry) (hs : List Handle) : Registry :=
  hs.foldl (fun r h => r.close h.conn) r

/-- Puts a handle in front. Where duplicates are replaced, the entries with its identifier go
and are asked to close; they are given back. -/
def register (r : Registry) (h : Handle) : List Handle × Registry :=
  match r.policy with
  | .allow => ([], { r with entries := h :: r.entries })
  | .replace =>
    let (evicted, kept) := r.entries.partition (·.device == h.device)
    (evicted, { r with entries := h :: kept }.closeEach evicted)

/-- The newest entry with an identifier. -/
def find? (r : Registry) (id : String) : Option Handle := r.entries.find? (isFor id)

/-- Removes the newest entry with an identifier. -/
def unregister (r : Registry) (id : String) : Bool × Registry :=
  (r.entries.any (isFor id), { r with entries := r.entries.eraseP (isFor id) })

/-- Removes the newest entry of a connection. -/
def unregisterConnection (r : Registry) (conn : ConnId) : Bool × Registry :=
  (r.entries.any (·.conn == conn), { r with entries := r.entries.eraseP (·.conn == conn) })

/-- Queues a frame for the newest entry with an identifier. -/
def sendToDevice (r : Registry) (id : String) (typ : UInt8) (payload : Bytes) : Bool × Registry :=
  match r.find? id with
  | some h => r.sendFrame h.conn typ payload
  | none => (false, r)

/-- Queues an ordinary frame for the newest entry with an identifier. -/
def unicast (r : Registry) (id : String) (payload : Bytes) : Bool × Registry :=
  r.sendToDevice id MessageType.socket.code payload

/-- Queues an ordinary frame for each of some entries and counts those that took it. -/
def sendEach (payload : Bytes) : List Handle → Registry → Nat × Registry
  | [], r => (0, r)
  | h :: hs, r =>
    let (sent, r) := r.send h.conn payload
    let (count, r) := sendEach payload hs r
    (count + sent.toNat, r)

/-- The entries that a message from `sender` goes to: the admin consoles, unless the sender is
one. -/
def audience (r : Registry) (sender : String) : List Handle :=
  r.entries.filter fun h => !isFor sender h && h.device.isAdminConsole

/-- Queues an ordinary frame for every admin console but the sender, and counts those that took
it. -/
def broadcast (r : Registry) (sender : String) (payload : Bytes) : Nat × Registry :=
  sendEach payload (r.audience sender) r

/-- The identifiers of all entries, newest first. -/
def list (r : Registry) : List DeviceId := r.entries.map (·.device)

/-- Removes all entries and asks their connections to close. -/
def closeAll (r : Registry) : Nat × Registry :=
  (r.entries.length, { r with entries := [] }.closeEach r.entries)

end Registry

end DeviceLink
