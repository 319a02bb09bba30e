-- A server at work: it accepts connections at two endpoints, hands what arrives to the server as
-- events, and writes what the server wrote.
import DeviceLink.Live.Socket
import DeviceLink.Server.Settle
import Std.Sync.Mutex

namespace DeviceLink.Live

open Std.Async (Async)

/-- A server with the sockets of its clients, in the order in which they were accepted. Those that
were shut down are gone. -/
structure Service where
  server : Server
  sockets : List (Option Socket) := []

/-- A service that several tasks use. -/
abbrev SharedService := Std.Mutex Service

/-- Begins to do something, and does not care how it ends. -/
def begin (action : Async Unit) : IO Unit := do
  let _ ← Async.toIO (try action catch _ => return ())

/-- Passes on what the server wrote and closed. -/
def passOn (service : Service) : IO Service := do
  let (written, _, server) := service.server.takeWritten
  let mut sockets := []
  for (socket?, client) in service.sockets.zipIdx do
    match socket? with
    | none => sockets := none :: sockets
    | some socket =>
      let bytes := (written.getD client []).flatten
      unless bytes.isEmpty do begin (write socket bytes)
      if server.isOpen client then sockets := some socket :: sockets
      else
        begin socket.shutdown
        sockets := none :: sockets
  return { server, sockets := sockets.reverse }

/-- Lets events happen to a server, with all that follows from them. -/
def happen (shared : SharedService) (events : List Server.Event) : IO Unit :=
  shared.atomically do
    let service ← get
    set (← passOn { service with server := events.foldl Server.after service.server })

/-! ## Notifications -/

/-- Takes the bytes of a client until there are no more. -/
partial def takeBytes (shared : SharedService) (client : Server.ClientId) (socket : Socket) :
    Async Unit := do
  match ← receive (some socket) none none with
  | .bytes bytes =>
    happen shared [.arrive client bytes]
    takeBytes shared client socket
  | _ => happen shared [.hangUp client]

/-- Serves a client for notifications, which has to say who it is in time. -/
def serveClient (shared : SharedService) (handshake : Duration) (socket : Socket) : Async Unit := do
  socket.noDelay
  let peer := endpointOf (← socket.getPeerName)
  let client ← shared.atomically do
    let service ← get
    let client := service.server.connections.length
    set (← passOn { service with
      server := service.server.after (.accept (some peer))
      sockets := service.sockets ++ [some socket] })
    return client
  begin do
    Std.Async.sleep (timerSpan handshake)
    happen shared [.expire client]
  takeBytes shared client socket

/-! ## Exchanges -/

/-- Takes bytes until a request is there, the peer sends no more, or the time is over. -/
partial def takeRequest (socket : Socket) (limit : Nat) (deadline : Nat) (begun : Bytes) :
    Async Bytes := do
  if (Exchange.Inbound.size? limit begun).any (· ≤ begun.length) then return begun
  let now ← IO.monoMsNow
  match ← receive (some socket) (some (.ofMilliseconds (deadline - now))) none with
  | .bytes bytes => takeRequest socket limit deadline (begun ++ bytes)
  | _ => return begun

/-- Serves a connection that brings a request. -/
def serveExchange (shared : SharedService) (patience : Duration) (socket : Socket) :
    Async Unit := do
  let limit := (← shared.atomically get).server.limit
  let deadline := (← IO.monoMsNow) + patience.milliseconds
  let bytes ← takeRequest socket limit deadline []
  let response ← shared.atomically do
    let service ← get
    let (response, server) := service.server.answer (.ofBytes bytes)
    set (← passOn { service with server := server.settle })
    return response
  unless response.isNone do write socket (Exchange.sentBytes response)
  socket.shutdown

/-! ## Listening -/

/-- Accepts connections and serves each of them. -/
partial def acceptAll (listener : Std.Async.TCP.Socket.Server) (serve : Socket → Async Unit) :
    Async Unit := do
  let socket ← listener.accept
  begin (serve socket)
  acceptAll listener serve

/-- Listens at an endpoint. -/
def listenAt (endpoint : Network.Endpoint) : IO Std.Async.TCP.Socket.Server := do
  let listener ← Std.Async.TCP.Socket.Server.mk
  listener.bind (systemAddress endpoint)
  listener.listen 1024
  return listener

end DeviceLink.Live
