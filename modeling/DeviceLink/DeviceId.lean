-- Device identifiers: texts of one to 63 bytes. One that arrives in a frame ends at the first
-- NUL, loses its line ends and is cut to fit, between two characters.
import DeviceLink.Error
import DeviceLink.Json.Codec

namespace DeviceLink

/-- The number of bytes of a list of characters. -/
def Text.sizeOf (cs : List Char) : Nat := cs.foldr (fun c n => c.utf8Size + n) 0

/-- The longest part at the front of a list of characters that has at most `limit` bytes. -/
def Text.takeBytes (limit : Nat) : List Char → List Char
  | [] => []
  | c :: cs => if c.utf8Size ≤ limit then c :: takeBytes (limit - c.utf8Size) cs else []

/-- No character lies across byte `n`, and the text goes that far. -/
def Text.isBoundary : List Char → Nat → Bool
  | _, 0 => true
  | [], _ + 1 => false
  | c :: cs, n + 1 => c.utf8Size ≤ n + 1 && isBoundary cs (n + 1 - c.utf8Size)

/-- Goes back from byte `n` to where no character lies across. The search has no result if it would
go below zero. -/
def Text.boundaryBefore? (cs : List Char) : Nat → Option Nat
  | 0 => if isBoundary cs 0 then some 0 else none
  | n + 1 => if isBoundary cs (n + 1) then some (n + 1) else boundaryBefore? cs n

/-- The most bytes that an identifier has. -/
def DeviceId.limit : Nat := 63

/-- The name of a device. -/
structure DeviceId where
  text : String
  fits : text.toList ≠ [] ∧ Text.sizeOf text.toList ≤ DeviceId.limit
deriving DecidableEq

namespace DeviceId

instance : Repr DeviceId := ⟨fun d _ => repr d.text⟩

/-- Takes a text as it is, if it is an identifier. -/
def ofText? (s : String) : Option DeviceId :=
  if h : s.toList ≠ [] ∧ Text.sizeOf s.toList ≤ limit then some ⟨s, h⟩ else none

/-- Takes a text as it is, or says why not. -/
def ofText (s : String) : Except LinkError DeviceId :=
  match ofText? s with
  | some id => .ok id
  | none => .error (.invalidDeviceId s)

/-- The character ends a line. -/
def isLineEnd (c : Char) : Bool := c = '\r' || c = '\n'

/-- The text that a frame names a device by, before it is cut. -/
def wireText (payload : Bytes) : List Char :=
  ((Text.lossy (payload.takeWhile (· ≠ 0))).toList.reverse.dropWhile isLineEnd).reverse

/-- Where the text that a frame names a device by is cut. -/
def cutoff? (cs : List Char) : Option Nat := Text.boundaryBefore? cs (min (Text.sizeOf cs) limit)

/-- The identifier in the payload of a frame, if it leaves any text. -/
def ofWire? (payload : Bytes) : Option DeviceId := do
  let stop ← cutoff? (wireText payload)
  ofText? (String.ofList (Text.takeBytes stop (wireText payload)))

/-- The identifier of the admin console, the one that hears who comes and goes. -/
def adminConsole : DeviceId := ⟨"ADMIN_CONSOLE", by decide⟩

def isAdminConsole (d : DeviceId) : Bool := d.text == adminConsole.text

/-- An identifier as a JSON string. -/
def codec : Json.Codec DeviceId where
  read := fun bs => do
    let (s, rest) ← Json.readString bs
    match ofText? s with
    | some id => return (id, rest)
    | none => throw (.refused (.invalidDeviceId s))
  write d := Json.printString d.text

end DeviceId

end DeviceLink
