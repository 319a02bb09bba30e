-- Records: JSON objects with fixed fields. A record is read from an object, in which the fields
-- may come in any order, each at most once, and members with other names are skipped; or from an
-- array of the fields' values in order. It is written as an object with the fields in order.
import DeviceLink.Json.Codec

namespace DeviceLink.Json

/-- A field: its name, its type, and the value that stands for a field left out. -/
structure Field where
  name : String
  Carrier : Type
  codec : Codec Carrier
  default? : Option Carrier := none

/-- A field that has to be there. -/
def required (name : String) {α : Type} (codec : Codec α) : Field := ⟨name, α, codec, none⟩

/-- A field that may be left out. -/
def optional (name : String) {α : Type} (codec : Codec α) (value : α) : Field :=
  ⟨name, α, codec, some value⟩

/-- The values of all fields, in order. -/
def Record : List Field → Type
  | [] => Unit
  | f :: fs => f.Carrier × Record fs

/-- The values of the fields read so far. -/
def Draft : List Field → Type
  | [] => Unit
  | f :: fs => Option f.Carrier × Draft fs

namespace Draft

/-- No field is read. -/
def empty : (fs : List Field) → Draft fs
  | [] => ()
  | _ :: fs => (none, empty fs)

/-- Reads the colon and the value of the member called `name`, if a field has that name. -/
def readMember? : (fs : List Field) → Draft fs → String → Option (Read (Draft fs))
  | [], _, _ => none
  | f :: fs, (slot, rest), name =>
    if f.name = name then
      some do
        if slot.isSome then throw (.refused (.duplicateField f.name))
        colon
        let x ← f.codec.read
        return (some x, rest)
    else (readMember? fs rest name).map fun read => do return (slot, ← read)

/-- The record, with defaults for the fields left out. The first field that is missing and has
none is reported. -/
def finish : (fs : List Field) → Draft fs → Except Error (Record fs)
  | [], _ => .ok ()
  | f :: fs, (slot, rest) => do
    let x ← match slot <|> f.default? with
      | some x => pure x
      | none => throw (.refused (.missingField f.name))
    return (x, ← finish fs rest)

end Draft

namespace Record

/-! ## Reading -/

/-- Reads members into a draft up to the bracket that ends the object. -/
def readMembers (fs : List Field) : Nat → Bool → Draft fs → Read (Draft fs)
  | 0, _, _ => throw .malformed
  | fuel + 1, first, draft => do
    match ← nextName? first with
    | none => return draft
    | some name =>
      match draft.readMember? fs name with
      | some read => readMembers fs fuel false (← read)
      | none =>
        colon
        skipValue
        readMembers fs fuel false draft

/-- Reads the values of an array from the field at `index` on, up to the bracket that ends it.
A field beyond the last value takes its default; `wanted` says what was expected of an array
that is too short for that. -/
def readElements (wanted : String) (index : Nat) : (fs : List Field) → Read (Record fs)
  | [] => return ()
  | f :: fs => do
    let x ←
      if ← hasElement (index = 0) then f.codec.read
      else
        match f.default? with
        | some x => pure x
        | none => throw (.refused (.wrongLength index wanted))
    return (x, ← readElements wanted (index + 1) fs)

/-- What an array has to hold. -/
def wantedElements (title : String) (fs : List Field) : String :=
  let plural := if fs.length = 1 then "" else "s"
  s!"struct {title} with {fs.length} element{plural}"

/-- Reads a record called `title`. -/
def read (title : String) (fs : List Field) : Read (Record fs) := fun bs => do
  let (b, rest) ← nextByte bs
  if b = 0x5B then
    let (r, rest) ← readElements (wantedElements title fs) 0 fs rest
    let ((), rest) ← endArray rest
    return (r, rest)
  else if b = 0x7B then
    let (draft, rest) ← readMembers fs (rest.length + 1) true (Draft.empty fs) rest
    let r ← draft.finish fs
    let ((), rest) ← endObject rest
    return (r, rest)
  else wrongType s!"struct {title}" bs

/-! ## Writing -/

/-- The members of a record in order. -/
def writeMembers : (fs : List Field) → Record fs → List Bytes
  | [], _ => []
  | f :: fs, (x, rest) =>
    (printString f.name ++ 0x3A :: f.codec.write x) :: writeMembers fs rest

/-- The text of a record. -/
def write (fs : List Field) (r : Record fs) : Bytes :=
  0x7B :: commaSeparated (writeMembers fs r) ++ [0x7D]

end Record

/-- A type that is read and written as a record. -/
class Payload (α : Type) where
  title : String
  fields : List Field
  toRecord : α → Record fields
  ofRecord : Record fields → α

namespace Payload

variable {α : Type} [Payload α]

/-- Reads a payload at the front of a text. -/
def read : Read α := ofRecord <$> Record.read (title α) (fields α)

/-- The payload that a whole text spells. -/
def parse (bs : Bytes) : Except Error α := readAll read bs

/-- The text of a payload. -/
def print (x : α) : Bytes := Record.write (fields α) (toRecord x)

end Payload

end DeviceLink.Json
