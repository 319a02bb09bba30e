-- Letting a server come to rest: every connection does what it can, and every writer writes what
-- waits, until there is nothing left to do but to wait for the clients.
import DeviceLink.Server.Step

namespace DeviceLink.Server

/-- What a connection does next by itself, if there is such a thing. One that waits looks for a
stop first, then for a close, and only then for a frame. -/
def advance? (s : Server) (c : ClientId) : Option Server := s.at? c fun conn =>
  s.proceed? c conn <|> s.noticeStop? c conn <|> s.noticeClose? c conn <|> s.read? c conn

/-- The server after the first connection that can do something has done it. -/
def advanceFirst? (s : Server) : Option Server :=
  (List.range s.connections.length).findSome? s.advance?

/-- Lets connections move on until none can, but at most a given number of times. -/
def advanceUpTo : Nat → Server → Server
  | 0, s => s
  | fuel + 1, s =>
    match s.advanceFirst? with
    | some s => s.advanceUpTo fuel
    | none => s

/-- How much the connections can do at most before all have to wait. -/
def work (s : Server) : Nat := s.connections.foldr (fun c n => c.work + n) 0

/-- Lets all writers write what waits. -/
def writeAll (s : Server) : Server :=
  (List.range s.connections.length).foldl (fun s c => (s.at? c (s.write? c)).getD s) s

/-- The server at rest. -/
def settle (s : Server) : Server := (s.advanceUpTo s.work).writeAll

/-- The server at rest after an event. One that cannot happen changes nothing. -/
def after (s : Server) (e : Event) : Server := ((s.step? e).getD s).settle

/-- Stops a server: it is told, it accepts no more connections, and the registered connections
are asked to close. -/
def stop (s : Server) : Server := ((s.after .signalStop).after .unbind).after .finishStop

/-! ## What others see -/

/-- A connection is not over yet. -/
def isOpen (s : Server) (c : ClientId) : Bool :=
  match s.connections[c]? with
  | some conn => !conn.isEnded
  | none => false

/-- The notes and the frames that were written since they were last taken, and the server
without them. -/
def takeWritten (s : Server) : List (List Bytes) × List Note × Server :=
  (s.connections.map (·.sent), s.notes,
    { s with connections := s.connections.map ({ · with sent := [] }), notes := [] })

end DeviceLink.Server
