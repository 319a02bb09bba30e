-- The settings of a server and a client. They come from a YAML file, in which anything may be
-- left out; a file that cannot be read counts as empty. Environment variables go over them.
import DeviceLink.Registry
import DeviceLink.Yaml.Node

namespace DeviceLink

/-- The settings of a server. -/
structure ServerSettings where
  /-- The address to listen at. -/
  host : String := "0.0.0.0"
  port : UInt16 := 8080
  apiPort : UInt16 := 8081
  handshakeSeconds : Nat := 30
  requestSeconds : Nat := 10
  frameBufferSize : Nat := Frame.defaultCap
  maxApiPayload : Nat := 64 * 1024 * 1024
  duplicatePolicy : DuplicatePolicy := .allow
  adminUsername : String := "admin"
  adminPassword : String := "admin"
deriving Repr, DecidableEq

/-- The settings of a client. -/
structure ClientSettings where
  /-- The server to dial. -/
  host : String := "127.0.0.1"
  port : UInt16 := 8080
  apiPort : UInt16 := 8081
  requestSeconds : Nat := 10
  connectSeconds : Nat := 5
  reconnectSeconds : Nat := 2
deriving Repr, DecidableEq

/-- All settings. -/
structure Settings where
  server : ServerSettings := {}
  client : ClientSettings := {}
deriving Repr, DecidableEq

/-! ## Values in a file -/

namespace Yaml

/-- The node itself, or the one that an alias names. -/
def Document.resolve (d : Document) : Node → Option Node
  | .alias slot => d.atSlot slot
  | node => some node

/-- Any scalar as a text. -/
def Node.text? : Node → Option String
  | .scalar _ _ text => some text
  | _ => none

/-- The digits of a number in some base. -/
def digits? (base : Nat) (cs : List Char) : Option Nat := do
  if cs.isEmpty then none
  let values ← cs.mapM hexValue?
  if values.all (· < base) then some (values.foldl (fun n d => n * base + d) 0) else none

/-- A whole number that is not negative: in decimal without zeros in front, or in base sixteen,
eight or two after `0x`, `0o` or `0b`. A plus sign may stand before it. -/
def wholeNumber? (text : String) : Option Nat :=
  let cs := match text.toList with
    | '+' :: rest => rest
    | cs => cs
  match cs with
  | '0' :: 'x' :: rest => digits? 16 rest
  | '0' :: 'o' :: rest => digits? 8 rest
  | '0' :: 'b' :: rest => digits? 2 rest
  | '0' :: _ :: _ => none
  | _ => digits? 10 cs

/-- The tag of an integer. -/
def integerTag : Bytes := Text.utf8 "tag:yaml.org,2002:int"

/-- A plain scalar, or a literal block that is tagged as an integer, as a number below a
bound. -/
def Node.number? (bound : Nat) : Node → Option Nat
  | .scalar tag style text =>
    if style = .plain ∨ (style = .literal ∧ tag = some integerTag) then do
      let n ← wholeNumber? text
      if n < bound then some n else none
    else none
  | _ => none

/-- The scalar stands for no value. -/
def Node.isNull : Node → Bool
  | .scalar _ .plain text => ["", "~", "null", "Null", "NULL"].contains text
  | _ => false

/-- The name that a tag of the document's own spells after its exclamation mark, or the mark if
nothing comes after. -/
def tagName? : Bytes → Option String
  | [0x21] => some "!"
  | 0x21 :: name => Text.ofUtf8? name
  | _ => none

/-- The name of a variant: such a tag on no value, or else a scalar. -/
def Node.variant? (node : Node) : Option String :=
  match node with
  | .scalar tag _ text =>
    match tag >>= tagName? with
    | some name => if node.isNull then some name else none
    | none => some text
  | _ => none

/-- The members of a mapping. A scalar that is left out counts as a mapping without members. -/
def Node.members? : Node → Option (List (Node × Node))
  | .mapping entries => some entries
  | .scalar _ .plain "" => some []
  | _ => none

end Yaml

/-! ## Sections of a file -/

namespace Settings

open Yaml (Document Node)

/-- A setting of a section: its name, and how a value of it changes the section. -/
structure Setting (σ : Type) where
  name : String
  read : Node → Option (σ → σ)

def textSetting {σ : Type} (name : String) (put : String → σ → σ) : Setting σ :=
  ⟨name, fun node => put <$> node.text?⟩

def portSetting {σ : Type} (name : String) (put : UInt16 → σ → σ) : Setting σ :=
  ⟨name, fun node => (put ∘ UInt16.ofNat) <$> node.number? UInt16.size⟩

def countSetting {σ : Type} (name : String) (put : Nat → σ → σ) : Setting σ :=
  ⟨name, fun node => put <$> node.number? UInt64.size⟩

/-- Reads the members of a section one after the other. Names that are no settings are passed
over; a setting that comes twice is an error. -/
def readMembers {σ : Type} (d : Document) (settings : List (Setting σ)) :
    List String → σ → List (Node × Node) → Option σ
  | _, current, [] => some current
  | seen, current, (key, value) :: rest => do
    let name ← (← d.resolve key).text?
    match settings.find? (·.name == name) with
    | none => readMembers d settings seen current rest
    | some setting =>
      if seen.contains name then none
      let change ← setting.read (← d.resolve value)
      readMembers d settings (name :: seen) (change current) rest

/-- Reads a section in which anything may be left out. -/
def readSection {σ : Type} (d : Document) (settings : List (Setting σ)) (start : σ)
    (node : Node) : Option σ := do
  readMembers d settings [] start (← node.members?)

def serverSettings : List (Setting ServerSettings) := [
  textSetting "host" fun x s => { s with host := x },
  portSetting "port" fun x s => { s with port := x },
  portSetting "api_port" fun x s => { s with apiPort := x },
  countSetting "handshake_timeout_secs" fun x s => { s with handshakeSeconds := x },
  countSetting "request_timeout_secs" fun x s => { s with requestSeconds := x },
  countSetting "frame_buffer_size" fun x s => { s with frameBufferSize := x },
  countSetting "max_api_payload" fun x s => { s with maxApiPayload := x },
  ⟨"duplicate_policy", fun node => do
    let name ← node.variant?
    let policy ← DuplicatePolicy.all.find? (·.name == name)
    return fun s => { s with duplicatePolicy := policy }⟩,
  textSetting "admin_username" fun x s => { s with adminUsername := x },
  textSetting "admin_password" fun x s => { s with adminPassword := x }]

def clientSettings : List (Setting ClientSettings) := [
  textSetting "host" fun x s => { s with host := x },
  portSetting "port" fun x s => { s with port := x },
  portSetting "api_port" fun x s => { s with apiPort := x },
  countSetting "request_timeout_secs" fun x s => { s with requestSeconds := x },
  countSetting "connect_timeout_secs" fun x s => { s with connectSeconds := x },
  countSetting "reconnect_backoff_secs" fun x s => { s with reconnectSeconds := x }]

/-- The two sections of a file. -/
def sections (d : Document) : List (Setting Settings) := [
  ⟨"server", fun node => do
    let server ← readSection d serverSettings {} node
    return fun s => { s with server }⟩,
  ⟨"client", fun node => do
    let client ← readSection d clientSettings {} node
    return fun s => { s with client }⟩]

/-- The settings in the text of a file. -/
def ofYaml? (text : String) : Option Settings := do
  let d ← Document.ofText? text
  match d.root with
  | none => return {}
  | some root => readSection d (sections d) {} root

/-- The settings in a file; the standard ones if there is none or it cannot be read. -/
def ofFile (file : Option Bytes) : Settings :=
  (do ofYaml? (← Text.ofUtf8? (← file))).getD {}

/-! ## Environment variables -/

/-- A port in decimal; a plus sign and zeros may stand before it. -/
def port? (text : String) : Option UInt16 := do
  let cs := match text.toList with
    | '+' :: rest => rest
    | cs => cs
  let n ← Yaml.digits? 10 cs
  if n < UInt16.size then some (UInt16.ofNat n) else none

/-- The environment variables that count. -/
def variableNames : List String :=
  ["GUARD_HOST", "GUARD_PORT", "GUARD_API_PORT", "GUARD_ADMIN_USERNAME", "GUARD_ADMIN_PASSWORD"]

/-- Puts the values of environment variables over settings. The host is that of the client; a
port counts for both sides. -/
def override (lookup : String → Option String) (s : Settings) : Settings :=
  let { server, client } := s
  let port := lookup "GUARD_PORT" >>= port?
  let apiPort := lookup "GUARD_API_PORT" >>= port?
  { server := { server with
      port := port.getD server.port
      apiPort := apiPort.getD server.apiPort
      adminUsername := (lookup "GUARD_ADMIN_USERNAME").getD server.adminUsername
      adminPassword := (lookup "GUARD_ADMIN_PASSWORD").getD server.adminPassword }
    client := { client with
      host := (lookup "GUARD_HOST").getD client.host
      port := port.getD client.port
      apiPort := apiPort.getD client.apiPort } }

/-- The settings in effect. -/
def load (file : Option Bytes) (lookup : String → Option String) : Settings :=
  override lookup (ofFile file)

end Settings

/-! ## Addresses -/

/-- A host that is no IP address. -/
structure InvalidHost where
  host : String
deriving Repr, DecidableEq

/-- What is wrong, and why. -/
def InvalidHost.message (e : InvalidHost) : String × String :=
  (s!"invalid server host {Text.quote e.host}", "invalid IP address syntax")

/-- The endpoints for notifications and for exchanges at which a server listens. -/
def ServerSettings.endpoints (s : ServerSettings) :
    Except InvalidHost (Network.Endpoint × Network.Endpoint) :=
  match Network.Address.ofText? s.host with
  | some address => .ok ({ address, port := s.port }, { address, port := s.apiPort })
  | none => .error ⟨s.host⟩

end DeviceLink
