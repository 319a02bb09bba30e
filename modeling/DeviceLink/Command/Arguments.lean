-- The arguments of the program: some options, the name of a command, and the options of that
-- command. They are read from the front, and the first thing that is wrong decides.
import DeviceLink.Duration
import DeviceLink.Exchange.Fallback

namespace DeviceLink.Command

/-! ## Options -/

/-- What the value of an option has to be. -/
inductive Kind
  | text
  /-- A text that is not empty. -/
  | path
  | port
  | span
  /-- The option has no value. -/
  | switch
deriving Repr, DecidableEq

/-- An option. -/
structure Flag where
  name : String
  kind : Kind := .text
deriving Repr, DecidableEq

/-- A port: a whole number, maybe with a sign. -/
def port? (s : String) : Option UInt16 := do
  let (negative, cs) := match s.toList with
    | '-' :: cs => (true, cs)
    | '+' :: cs => (false, cs)
    | cs => (false, cs)
  if cs.isEmpty ∨ ¬ cs.all Char.isDigit then none
  let n := Duration.numberOf cs
  if n < UInt16.size ∧ ¬ (negative ∧ 0 < n) then some (UInt16.ofNat n) else none

/-- The options that were given, with their values. -/
abbrev Given := List (String × String)

/-! ## Reading -/

/-- Why the program stops before any command. -/
inductive Stop
  /-- The arguments cannot be understood. -/
  | usage
  | help
  | version
  /-- A span of time does not fit. -/
  | overflow
deriving Repr, DecidableEq

/-- Checks that a text may be the value of an option. -/
def Kind.check (kind : Kind) (value : String) : Except Stop Unit :=
  let require := fun (ok : Bool) => if ok then .ok () else .error .usage
  match kind with
  | .text | .switch => .ok ()
  | .path => require (value != "")
  | .port => require (port? value).isSome
  | .span =>
    match Duration.ofText value with
    | .ok _ => .ok ()
    | .error .malformed => .error .usage
    | .error .overflow => .error .overflow

/-- Where options are read: which ones there are, and what else may stand there. -/
structure Level where
  flags : List Flag
  /-- The names of the commands that may follow. -/
  commands : List String := []
  /-- The version may be asked for. -/
  versioned : Bool := false
deriving Repr, DecidableEq

/-- Takes an option with its value; each may be given once. -/
def give (flag : Flag) (value : String) (given : Given) : Except Stop Given := do
  if (given.lookup flag.name).isSome then throw .usage
  flag.kind.check value
  return (flag.name, value) :: given

/-- An argument that would be an option cannot be a value. -/
def looksLikeOption (arg : String) : Bool :=
  match arg.toList with
  | '-' :: _ :: _ => true
  | _ => false

/-- What an argument is: an option with its name and what follows an equals sign, a cluster of
letters, the mark after which there are no options, or a word. -/
inductive Shape
  | long (name : String) (value : Option String)
  | short (letters : List Char)
  | mark
  | word
deriving Repr, DecidableEq

def shapeOf (arg : String) : Shape :=
  match arg.toList with
  | ['-', '-'] => .mark
  | '-' :: '-' :: cs =>
    let name := String.ofList (cs.takeWhile (· != '='))
    match cs.dropWhile (· != '=') with
    | _ :: value => .long name (some (String.ofList value))
    | [] => .long name none
  | '-' :: c :: cs => .short (c :: cs)
  | _ => .word

/-- Reads the options of a level. If a command follows it is given back with the arguments after
it. -/
def readLevel (level : Level) (given : Given) :
    List String → Except Stop (Given × Option (String × List String))
  | [] => return (given, none)
  | arg :: rest =>
    match shapeOf arg with
    | .mark => if rest.isEmpty then return (given, none) else throw .usage
    | .short letters =>
      if letters.head? = some 'h' then throw .help
      else if level.versioned ∧ letters.head? = some 'V' then throw .version
      else throw .usage
    | .long name value? =>
      if name = "help" ∧ value?.isNone then throw .help
      else if level.versioned ∧ name = "version" ∧ value?.isNone then throw .version
      else
        match level.flags.find? (·.name == name), value?, rest with
        | none, _, _ => throw .usage
        | some flag, value?, rest =>
          if flag.kind = .switch then
            if value?.isSome then throw .usage
            else do readLevel level (← give flag "" given) rest
          else
            match value?, rest with
            | some value, rest => do readLevel level (← give flag value given) rest
            | none, value :: rest =>
              if looksLikeOption value then throw .usage
              else do readLevel level (← give flag value given) rest
            | none, [] => throw .usage
    | .word =>
      if level.commands.contains arg then return (given, some (arg, rest)) else throw .usage

/-! ## Commands -/

/-- What the program is asked to do. -/
inductive Task
  /-- Serve devices and admins. -/
  | serve (port apiPort : Option UInt16) (handshake : Option Duration) (replace : Bool)
  /-- Stay connected as a device and print what comes. -/
  | listen (device : String)
  | login (who : Credentials)
  /-- Print who is online. -/
  | users
  /-- Send one message as a device and print the reply. -/
  | send (device message : String) (wait : Duration)
deriving Repr, DecidableEq

/-- All that the arguments say. -/
structure Arguments where
  /-- The file with the settings. -/
  settings : String := "config.yaml"
  logLevel : String := "info"
  task : Task
deriving Repr, DecidableEq

/-- The options that may stand before and after the name of a command. -/
def commonFlags : List Flag := [⟨"config", .path⟩, ⟨"log-level", .text⟩]

/-- The options of each command. -/
def commands : List (String × List Flag) := [
  ("serve", [⟨"port", .port⟩, ⟨"api-port", .port⟩, ⟨"handshake-timeout", .span⟩,
    ⟨"replace-duplicates", .switch⟩]),
  ("listen", [⟨"device-id", .text⟩]),
  ("login", [⟨"username", .text⟩, ⟨"password", .text⟩]),
  ("users", []),
  ("send", [⟨"device-id", .text⟩, ⟨"message", .text⟩, ⟨"wait", .span⟩])]

/-- The value of an option that has to be given. -/
def needed (given : Given) (option : String) : Except Stop String :=
  match given.lookup option with
  | some value => .ok value
  | none => .error .usage

/-- The command of a name with the given options. -/
def taskOf (name : String) (given : Given) : Except Stop Task := do
  let port := fun option => given.lookup option >>= port?
  let span := fun option => given.lookup option >>= fun text => (Duration.ofText text).toOption
  match name with
  | "serve" =>
    return .serve (port "port") (port "api-port") (span "handshake-timeout")
      (given.lookup "replace-duplicates").isSome
  | "listen" => return .listen (← needed given "device-id")
  | "login" =>
    return .login ⟨(given.lookup "username").getD "admin", (given.lookup "password").getD "admin"⟩
  | "users" => return .users
  | "send" =>
    return .send (← needed given "device-id") (← needed given "message")
      ((span "wait").getD (.ofSeconds 10))
  | _ => throw .usage

/-- The words after a call for help name a command, or nothing. -/
def isHelpTopic (topic : List String) : Bool :=
  match topic with
  | [] => true
  | [name] => name == "help" || (commands.lookup name).isSome
  | _ => false

/-- Reads the arguments of the program. An option that stands before and after the name of the
command counts as it stands after. -/
def Arguments.read (args : List String) : Except Stop Arguments := do
  let outer : Level :=
    { flags := commonFlags, commands := "help" :: commands.map (·.1), versioned := true }
  match ← readLevel outer [] args with
  | (_, none) => throw .usage
  | (before, some (name, rest)) =>
    if name = "help" then throw (if isHelpTopic rest then .help else .usage)
    let flags := (commands.lookup name).getD [] ++ commonFlags
    let (given, _) ← readLevel { flags } [] rest
    let task ← taskOf name given
    let common := fun option default =>
      (given.lookup option <|> before.lookup option).getD default
    let settings := common "config" "config.yaml"
    return { settings, logLevel := common "log-level" "info", task }

/-! ## Texts -/

/-- The name and the version of the program. -/
def versionText : String := "guard 0.1.0\n"

def usageText : String := "Usage: guard [OPTIONS] <COMMAND>\n"

/-- What is printed of a span of time that does not fit. -/
def overflowText : String := "overflow in a span of time\n"

/-- What is printed on a call for help. -/
def helpText : String :=
  "Device-management server and client\n\n" ++ usageText ++ "\nCommands:\n" ++
  String.join (commands.map fun (name, flags) =>
    "  " ++ name ++ String.join (flags.map fun flag => " --" ++ flag.name) ++ "\n") ++
  "\nOptions:\n" ++
  String.join (commonFlags.map fun flag => "  --" ++ flag.name ++ "\n") ++
  "  --help\n  --version\n"

end DeviceLink.Command
