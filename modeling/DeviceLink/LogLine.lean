-- Log lines: time, component and level in brackets, then the connection that a message is about,
-- then the message. Colours are for terminals.
import DeviceLink.Text.Quoted

namespace DeviceLink

/-- How grave a message is. -/
inductive LogLevel
  | error
  | warn
  | info
  | debug
  | trace
deriving Repr, DecidableEq

/-- The mark of a level. -/
def LogLevel.mark : LogLevel → String
  | .error => "✗ ERROR"
  | .warn => "⚠ WARN"
  | .info => "ℹ INFO"
  | .debug => "◦ DEBUG"
  | .trace => "◦ TRACE"

def LogLevel.name : LogLevel → String
  | .error => "error"
  | .warn => "warn"
  | .info => "info"
  | .debug => "debug"
  | .trace => "trace"

def LogLevel.all : List LogLevel := [.error, .warn, .info, .debug, .trace]

/-- A value of an event, by the way in which it was given. -/
inductive LogValue
  /-- A text as it is. -/
  | text (s : String)
  /-- The words for a value, from which quotes around all of them are taken. -/
  | words (s : String)
  /-- A text that was quoted on the way; the quotes go, the escapes stay. -/
  | quoted (s : String)
deriving Repr, DecidableEq

/-- What is shown of a value. -/
def LogValue.shown : LogValue → String
  | .text s => s
  | .words s => Text.unquote s
  | .quoted s => Text.unquote (Text.quote s)

/-- Something to be logged. -/
structure LogEvent where
  level : LogLevel := .info
  message : LogValue
  component : Option LogValue := none
  device : Option LogValue := none
deriving Repr, DecidableEq

/-- An activity during which events happen, and what is known of its connection. -/
structure LogSpan where
  /-- The activity is the service of one connection. -/
  isConnection : Bool := true
  peer : Option String := none
  device : Option String := none
  conn : Option Nat := none
deriving Repr, DecidableEq

/-- How a program logs. -/
structure LogFormat where
  service : String
  colored : Bool
deriving Repr, DecidableEq

namespace LogFormat

/-- Colours are for terminals, except dumb ones. -/
def forOutput (service : String) (terminal : Bool) (kind : String) : LogFormat :=
  ⟨service, terminal && kind != "dumb"⟩

/-! ## Parts of a line -/

/-- A code that a terminal understands, where there are colours. -/
def code (f : LogFormat) (digits : String) : String :=
  if f.colored then "\x1b[" ++ digits ++ "m" else ""

def reset (f : LogFormat) : String := f.code "0"

/-- The colour of a level. -/
def levelCode (f : LogFormat) : LogLevel → String
  | .error => f.code "91"
  | .warn => f.code "93"
  | .info => f.code "32"
  | .debug | .trace => f.code "90"

/-- A text filled up with blanks to a number of characters. -/
def padded (width : Nat) (s : String) : String :=
  s ++ String.ofList (List.replicate (width - s.length) ' ')

/-- The width of the component. -/
def componentWidth : Nat := 16

/-- The name of the component: that of the service, with the part of it that logs. A name that
is too long is cut. -/
def component (f : LogFormat) (part : Option LogValue) : String :=
  let name := match part with
    | some p => s!"{f.service}-{p.shown}"
    | none => f.service
  if componentWidth < name.length then
    String.ofList (name.toList.take (componentWidth - 1)) ++ "…"
  else padded componentWidth name

/-- A name and its value. -/
def field (f : LogFormat) (name value : String) : String :=
  String.join [f.code "3", name, f.reset, f.code "2", "=", f.reset, value]

/-- What is known of the connection of a span. -/
def spanFields (f : LogFormat) (s : LogSpan) : String :=
  String.intercalate " " (List.flatten [
    (s.peer.map (f.field "peer")).toList,
    (s.device.map fun d => f.field "device_id" (Text.quote d)).toList,
    (s.conn.map fun n => f.field "conn_id" (toString n)).toList])

/-- A text in braces, with a blank after them. -/
def braced (s : String) : String := "\x7b" ++ s ++ "\x7d "

/-- The connection that an event is about: that of the innermost connection span around it, or
the device that the event itself names when nothing is known of that. -/
def context (f : LogFormat) (spans : List LogSpan) (e : LogEvent) : String :=
  let known := match spans.reverse.find? (·.isConnection) with
    | some s => f.spanFields s
    | none => ""
  if known ≠ "" then braced known
  else
    match e.device with
    | some d => braced ("device_id=" ++ d.shown)
    | none => ""

/-- The line for an event that happened at a given time inside some spans, the outermost
first. -/
def line (f : LogFormat) (time : String) (spans : List LogSpan) (e : LogEvent) : String :=
  String.join [
    f.code "36", "[", time, "] [", f.component e.component, "] [", f.levelCode e.level,
    padded 7 e.level.mark, f.reset, "] ", f.context spans e, e.message.shown, f.reset, "\n"]

end LogFormat

end DeviceLink
