-- What is logged of the settings before a command begins: where they come from, which variables
-- changed them, and what they come to.
import DeviceLink.LogLine
import DeviceLink.Settings

namespace DeviceLink.Settings

/-- A message to be logged. -/
abbrev Notice := LogLevel × String

/-- What is said of the file. -/
def fileNotice (path : String) (file : Option Bytes) : Notice :=
  match file >>= Text.ofUtf8? with
  | none => (.warn, s!"Config file {Text.quote path} not found, using defaults")
  | some text =>
    if (ofYaml? text).isSome then (.info, s!"Loaded configuration from {Text.quote path}")
    else (.warn, s!"Failed to parse config file {Text.quote path}, using defaults")

/-- What is said of the variables that count. -/
def variableNotices (lookup : String → Option String) : List Notice :=
  let said := fun (what : String) (value : String) =>
    (LogLevel.info, s!"{what} overridden by environment: {value}")
  let port := fun name => (lookup name >>= port?).map fun p => toString p.toNat
  List.flatten [
    ((lookup "GUARD_HOST").map (said "Host")).toList,
    ((port "GUARD_PORT").map (said "Notification port")).toList,
    ((port "GUARD_API_PORT").map (said "API port")).toList]

/-- What is said of the settings in effect. -/
def finalNotice (s : Settings) : Notice :=
  let places := fun (host : String) (port apiPort : UInt16) => s!"{host}:{port}/{apiPort}"
  let server := places s.server.host s.server.port s.server.apiPort
  let client := places s.client.host s.client.port s.client.apiPort
  (.info, s!"Final configuration: server={server}, client={client}")

/-- All that is said while settings are loaded. -/
def notices (path : String) (file : Option Bytes) (lookup : String → Option String) :
    List Notice :=
  fileNotice path file :: variableNotices lookup ++ [finalNotice (load file lookup)]

end DeviceLink.Settings
