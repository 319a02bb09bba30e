-- The program: it reads its arguments and settings, carries out the command, and reports.
import DeviceLink.Command.Notice
import DeviceLink.Live.Connection
import DeviceLink.Live.Service
import Std.Async.Signal
import Std.Time

namespace DeviceLink.Live

open Std.Async (Async)

/-! ## Logging -/

/-- How the program logs, and which messages. -/
structure Log where
  format : LogFormat
  filter : LogFilter

/-- Logs an event, if those of its level are wanted. -/
def Log.event (log : Log) (e : LogEvent) : IO Unit := do
  if log.filter.allows e.level then
    let time := (← Std.Time.PlainDateTime.now).format "uuuu-MM-dd HH:mm:ss.SSS"
    IO.print (log.format.line time [] e)
    (← IO.getStdout).flush

/-- Logs a message of a component. -/
def Log.info (log : Log) (component message : String) : IO Unit :=
  log.event { message := .words message, component := some (.text component) }

/-- Logs something about the settings. -/
def Log.notice (log : Log) (n : Settings.Notice) : IO Unit :=
  log.event { level := n.1, message := .words n.2 }

/-- Logging on the standard output. -/
def Log.start (filter : LogFilter) : IO Log := do
  let terminal ← (← IO.getStdout).isTty
  let kind := (← IO.getEnv "TERM").getD ""
  return ⟨.forOutput "guard" terminal kind, filter⟩

/-! ## Commands -/

/-- Waits until the program is interrupted. -/
def untilInterrupted : IO Unit := do
  let interrupt ← Std.Async.Signal.Waiter.mk .sigint false
  let _ ← (← interrupt.wait).block

/-- Serves until the program is interrupted. -/
def serve (log : Log) (settings : ServerSettings) (notify exchange : Network.Endpoint)
    (handshake : Duration) : IO Command.Report := do
  log.info "server" "Starting sagiri-guard v0.1.0"
  let listen := fun (channel : String) (endpoint : Network.Endpoint) => do
    try
      return Except.ok (← listenAt endpoint)
    catch e => return Except.error [s!"binding {channel} port {endpoint.text}", toString e]
  match ← listen "notification" notify with
  | .error errors => return { errors }
  | .ok notifier =>
    match ← listen "API" exchange with
    | .error errors => return { errors }
    | .ok exchanger =>
      let shared ← Std.Mutex.new ({ server := settings.server } : Service)
      begin (acceptAll notifier (serveClient shared handshake))
      begin (acceptAll exchanger (serveExchange shared (.ofSeconds settings.requestSeconds)))
      let bound := fun (s : Std.Async.TCP.Socket.Server) => do
        return (endpointOf (← s.getSockName)).text
      let notifyAt ← bound notifier
      let exchangeAt ← bound exchanger
      log.info "server" s!"Notification on {notifyAt}, API on {exchangeAt}"
      untilInterrupted
      log.info "server" "Shutdown requested"
      happen shared [.signalStop, .unbind, .finishStop]
      IO.sleep 50
      return {}

/-- Stays connected and prints what comes, until the program is interrupted. -/
def listen (log : Log) (client : ClientSettings) (device : DeviceId) : IO Command.Report := do
  let interrupt ← Std.Async.Signal.Waiter.mk .sigint false
  let onFrame := fun f => do
    IO.print (Command.frameLine f)
    (← IO.getStdout).flush
  let onState := fun (state : ConnectionState) => log.info "client" s!"Connection {state.label}"
  let keeper : Keeper := { client, onFrame, onState, interrupt := some interrupt.selector }
  (keeper.listen device).block
  return {}

/-- Does what is planned, and reports on it. -/
def carryOut (log : Log) : Command.Plan → IO Command.Report
  | .fail report => return report
  | .serve settings notify exchange handshake => serve log settings notify exchange handshake
  | .listen client device => listen log client device
  | .login client who => do
    let request := Request.login who.username who.password none
    let reply ← (Live.exchange client client.caller request).block
    return Command.loginReport (client.caller.call request reply)
  | .users client => do
    let reply ← (Live.exchange client client.caller .onlineUsers).block
    return Command.usersReport (client.caller.ask .onlineUsers reply)
  | .send client device message wait => do
    let keeper : Keeper := { client }
    match ← (keeper.send device (Text.utf8 message) wait).block with
    | some reply => return Command.replyReport reply
    | none => return Command.notAcceptedReport

/-! ## Surroundings -/

/-- The contents of a file, if it can be read. -/
def contents (path : String) : IO (Option Bytes) := do
  try
    return some (← IO.FS.readBinFile path).toList
  catch _ => return none

/-- The variables of the environment that count. -/
def environment : IO (String → Option String) := do
  let values ← Settings.variableNames.mapM fun name => return (name, ← IO.getEnv name)
  return fun name => (values.lookup name).join

/-- Runs a command under the settings in effect, and reports on it. Without a filter for messages
nothing is logged. -/
def run (args : Command.Arguments) : IO Command.Report := do
  let file ← contents args.settings
  let lookup ← environment
  let log ← Log.start ((LogFilter.ofText args.logLevel).toOption.getD ⟨0⟩)
  for n in Settings.notices args.settings file lookup do log.notice n
  carryOut log (args.plan (.load file lookup))

end DeviceLink.Live

/-- Runs the program: its exit code. -/
def main (args : List String) : IO UInt32 := do
  match DeviceLink.Command.Arguments.read args with
  | .error .usage =>
    IO.eprint DeviceLink.Command.usageText
    return 2
  | .error .help =>
    IO.print DeviceLink.Command.helpText
    return 0
  | .error .version =>
    IO.print DeviceLink.Command.versionText
    return 0
  | .error .overflow =>
    IO.eprint DeviceLink.Command.overflowText
    return 101
  | .ok args =>
    let report ← DeviceLink.Live.run args
    IO.print report.output
    IO.eprint report.errorText
    return report.exitCode.toUInt32
