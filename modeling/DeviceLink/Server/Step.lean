-- The server as a machine. Its connections share a registry and move on by themselves, each in
-- small steps; clients, other users of the registry and a stop may come between any two of them.
import DeviceLink.Exchange.Inbound
import DeviceLink.Server.Connection

namespace DeviceLink

namespace Server

/-- How far a stop has come. -/
inductive Lifecycle
  | running
  /-- The stop was signalled. -/
  | stopping
  /-- No connection is accepted any more. -/
  | unbound
  /-- The registered connections were asked to close. -/
  | stopped
deriving Repr, DecidableEq

/-- The number of a connection in the order in which they were accepted. -/
abbrev ClientId := Nat

/-- What happens to a server. -/
inductive Event
  /-- A client connects. -/
  | accept (peer : Option Network.Endpoint)
  /-- Bytes arrive from a client. -/
  | arrive (client : ClientId) (bytes : Bytes)
  /-- A client sends no more. -/
  | hangUp (client : ClientId)
  /-- A connection does what it need not wait for. -/
  | proceed (client : ClientId)
  /-- A connection takes a frame, or notices the end. -/
  | read (client : ClientId)
  /-- A connection has waited too long for its first frame, or for its writer. -/
  | expire (client : ClientId)
  /-- A connection notices that it was asked to close. -/
  | noticeClose (client : ClientId)
  /-- A connection notices that the server stops. -/
  | noticeStop (client : ClientId)
  /-- The writer of a connection writes what waits. -/
  | write (client : ClientId)
  /-- The writer of a connection fails, because the client is gone. -/
  | failWrite (client : ClientId)
  /-- Someone else uses the registry. -/
  | operate (op : Registry.Operation)
  /-- A connection of the exchange channel brings its bytes. -/
  | exchange (source : Source)
  | signalStop
  | unbind
  | finishStop
deriving Repr, DecidableEq

end Server

/-- A server. -/
structure Server where
  /-- How much it keeps of the payload of a frame. -/
  cap : Nat := Frame.defaultCap
  /-- The longest payload of a request that it accepts. -/
  limit : Nat := Exchange.defaultLimit
  handler : Handler
  hooks : Server.Hooks := {}
  registry : Registry := {}
  lifecycle : Server.Lifecycle := .running
  connections : List Server.Connection := []
  /-- How many notification connections are served. -/
  active : Nat := 0
  /-- The calls of hooks, first one first. -/
  notes : List Server.Note := []

namespace Server

/-! ## What steps are made of -/

/-- Puts a connection in the place of another. -/
def setConnection (s : Server) (c : ClientId) (conn : Connection) : Server :=
  { s with connections := s.connections.set c conn }

/-- Uses the registry. -/
def operate (s : Server) (op : Registry.Operation) : Server :=
  { s with registry := (s.registry.perform op).2 }

/-- Lets a hook have its way. -/
def react (s : Server) (occasion : Occasion) (reaction : Reaction) : Server :=
  let (answers, registry) := s.registry.performAll reaction.operations
  { s with registry, notes := s.notes ++ [⟨occasion, reaction.outcome, answers⟩] }

/-- Hands a frame to the sink, or back to its sender. -/
def deliver (s : Server) (h : Handle) (f : Frame) : Server :=
  match s.hooks.sink with
  | some sink => s.react (.message h f) (sink h f)
  | none => s.operate (.send h.conn f.payload)

/-- Another connection keeps a device online. -/
def isReplaced (s : Server) (device : DeviceId) : Bool :=
  s.registry.policy == .replace && (s.registry.find? device.text).isSome

/-- Ends a connection and closes it. -/
def finish (s : Server) (c : ClientId) (conn : Connection) : Server :=
  { s.setConnection c { conn with stage := .ended } with active := s.active - 1 }

/-- Ends a connection whose writer is done with the given frames. -/
def part (s : Server) (c : ClientId) (conn : Connection) (h : Handle) (written : List Bytes) :
    Server :=
  (s.operate (.dropWriter h.conn)).finish c { conn with sent := conn.sent ++ written }

/-! ## Steps of a connection -/

/-- What a connection at a place does without waiting: where it is then, and the server. -/
def move? (s : Server) (h : Handle) : Place → Option (Place × Server)
  | .named => some (.entered, s.operate (.register h))
  | .entered =>
    some (.announced, s.operate (.broadcast h.device.text (onlineMessage h.device)))
  | .announced => some (.greeted, s.operate (.send h.conn (greeting h.device)))
  | .greeted => some (.ready, s.react (.online h) (s.hooks.connected h))
  | .ready => some (if s.lifecycle = .running then .waiting else .leaving, s)
  | .leaving => some (.removed, s.operate (.unregisterConnection h.conn))
  | .removed => some (.judged (s.isReplaced h.device), s)
  | .judged replaced =>
    some (.departed,
      if replaced then s else s.operate (.broadcast h.device.text (offlineMessage h.device)))
  | .departed => some (.parted, s.react (.offline h.device) (s.hooks.disconnected h.device))
  | .waiting | .parted => none

/-- A connection does what it need not wait for. At the end its writer writes what is left. -/
def proceed? (s : Server) (c : ClientId) (conn : Connection) : Option Server :=
  match conn.stage with
  | .identified h .parted => some (s.part c conn h (s.registry.line h.conn).queue)
  | .identified h place => do
    let (place, s) ← s.move? h place
    return s.setConnection c { conn with stage := .identified h place }
  | _ => none

/-- A new connection takes its first frame, which says who it is. -/
def identify? (s : Server) (c : ClientId) (conn : Connection) : Option Server :=
  match Frame.decode? s.cap conn.inbox with
  | some (f, inbox) =>
    match DeviceId.ofWire? f.payload with
    | none => some (s.finish c { conn with inbox })
    | some device =>
      let (h, registry) := s.registry.connect device conn.peer
      some ({ s with registry }.setConnection c
        { conn with inbox, stage := .identified h .named })
  | none => if conn.hungUp then some (s.finish c conn) else none

/-- A connection takes its next frame, or notices that there is none. -/
def receive? (s : Server) (c : ClientId) (conn : Connection) (h : Handle) : Option Server :=
  match Frame.decode? s.cap conn.inbox with
  | some (f, inbox) =>
    some ((s.deliver h f).setConnection c { conn with inbox, stage := .identified h .ready })
  | none =>
    if conn.hungUp then
      some (s.setConnection c { conn with stage := .identified h .leaving })
    else none

/-- A connection takes what has arrived. -/
def read? (s : Server) (c : ClientId) (conn : Connection) : Option Server :=
  match conn.stage with
  | .handshake => s.identify? c conn
  | .identified h .waiting => s.receive? c conn h
  | _ => none

/-- A connection has waited too long. -/
def expire? (s : Server) (c : ClientId) (conn : Connection) : Option Server :=
  match conn.stage with
  | .handshake => some (s.finish c conn)
  | .identified h .parted => some (s.part c conn h [])
  | _ => none

/-- A connection that waits notices that it was asked to close. -/
def noticeClose? (s : Server) (c : ClientId) (conn : Connection) : Option Server :=
  match conn.stage with
  | .identified h .waiting =>
    if (s.registry.line h.conn).closing then
      some ((s.operate (.noticeClose h.conn)).setConnection c
        { conn with stage := .identified h .leaving })
    else none
  | _ => none

/-- A connection that waits notices that the server stops. -/
def noticeStop? (s : Server) (c : ClientId) (conn : Connection) : Option Server :=
  match conn.stage with
  | .identified h .waiting =>
    if s.lifecycle = .running then none
    else some (s.setConnection c { conn with stage := .identified h .leaving })
  | _ => none

/-- The writer of a connection writes what waits. -/
def write? (s : Server) (c : ClientId) (conn : Connection) : Option Server :=
  match conn.handle? with
  | some h =>
    match s.registry.drain h.conn with
    | ([], _) => none
    | (frames, registry) =>
      some ({ s with registry }.setConnection c { conn with sent := conn.sent ++ frames })
  | none => none

/-- The writer of a connection fails. -/
def failWrite? (s : Server) (conn : Connection) : Option Server :=
  match conn.handle? with
  | some h => if conn.hungUp then some (s.operate (.dropWriter h.conn)) else none
  | none => none

/-! ## Steps of the server -/

/-- A client connects, if the server still listens. -/
def accept? (s : Server) (peer : Option Network.Endpoint) : Option Server :=
  if s.lifecycle = .running ∨ s.lifecycle = .stopping then
    some { s with connections := s.connections ++ [{ peer }], active := s.active + 1 }
  else none

/-- The answer to what a connection of the exchange channel brings. -/
def answer (s : Server) (source : Source) : Option Response × Server :=
  let (response, registry) := Exchange.serve s.limit s.handler source s.registry
  (response, { s with registry })

/-- Goes on with a stop. -/
def goOn? (s : Server) (here there : Lifecycle) : Option Server :=
  if s.lifecycle = here then some { s with lifecycle := there } else none

/-- A step of one of the connections. -/
def at? (s : Server) (c : ClientId) (f : Connection → Option Server) : Option Server :=
  s.connections[c]? >>= f

/-- What an event makes of a server, if it can happen. -/
def step? (s : Server) : Event → Option Server
  | .accept peer => s.accept? peer
  | .arrive c bytes => s.at? c fun conn =>
    if conn.hungUp then none
    else some (s.setConnection c { conn with inbox := conn.inbox ++ bytes })
  | .hangUp c => s.at? c fun conn => some (s.setConnection c { conn with hungUp := true })
  | .proceed c => s.at? c (s.proceed? c)
  | .read c => s.at? c (s.read? c)
  | .expire c => s.at? c (s.expire? c)
  | .noticeClose c => s.at? c (s.noticeClose? c)
  | .noticeStop c => s.at? c (s.noticeStop? c)
  | .write c => s.at? c (s.write? c)
  | .failWrite c => s.at? c s.failWrite?
  | .operate op => some (s.operate op)
  | .exchange source => some (s.answer source).2
  | .signalStop => s.goOn? .running .stopping
  | .unbind => s.goOn? .stopping .unbound
  | .finishStop => (s.operate .closeAll).goOn? .unbound .stopped

/-- What a sequence of events makes of a server, if they can all happen. -/
def run? (s : Server) : List Event → Option Server
  | [] => some s
  | e :: es => s.step? e >>= fun s => s.run? es

end Server

end DeviceLink
