-- Reading any JSON value. Arrays and objects may be nested 127 deep.
import DeviceLink.Json.Lexical
import DeviceLink.Json.Value

namespace DeviceLink.Json

/-! ## Sequences of values -/

/-- Looks whether another element follows in an array, and takes the comma before it. The
closing bracket is left in place. -/
def hasElement (first : Bool) : Read Bool := fun bs => do
  let (b, rest) ← nextByte bs
  if b = 0x5D then return (false, b :: rest)
  else if first then return (true, b :: rest)
  else if b = 0x2C then
    let (c, after) ← nextByte rest
    if c = 0x5D then throw .malformed
    return (true, c :: after)
  else throw .malformed

/-- Reads the name of the next member of an object and takes the comma before it; the closing
bracket is left in place. -/
def nextName? (first : Bool) : Read (Option String) := fun bs => do
  let (b, rest) ← nextByte bs
  if b = 0x7D then return (none, b :: rest)
  else
    let (quote, after) ←
      if first then pure (b, rest)
      else if b = 0x2C then nextByte rest
      else throw .malformed
    if quote ≠ 0x22 then throw .malformed
    let (name, after) ← literal after
    return (some name, after)

/-- Takes the bracket that ends an array; anything else is malformed or unfinished. -/
def endArray : Read Unit := expectByte 0x5D

/-- Takes the bracket that ends an object; anything else is malformed or unfinished. -/
def endObject : Read Unit := expectByte 0x7D

/-- Takes the colon between a name and its value. -/
def colon : Read Unit := expectByte 0x3A

/-- Reads elements with `item` up to the end of the array; `done` holds them, last first. -/
def elementsFrom {α : Type} (item : Read α) : Nat → List α → Read (List α)
  | 0, _ => throw .malformed
  | fuel + 1, done => do
    if ← hasElement done.isEmpty then
      let x ← item
      elementsFrom item fuel (x :: done)
    else
      endArray
      return done.reverse

/-- Reads the elements of an array whose opening bracket is taken. -/
def elements {α : Type} (item : Read α) : Read (List α) := fun bs =>
  elementsFrom item (bs.length + 1) [] bs

/-- Reads members with `item` up to the end of the object; `done` holds them, last first. -/
def membersFrom {α : Type} (item : Read α) : Nat → List (String × α) → Read (List (String × α))
  | 0, _ => throw .malformed
  | fuel + 1, done => do
    match ← nextName? done.isEmpty with
    | some name =>
      colon
      let x ← item
      membersFrom item fuel ((name, x) :: done)
    | none =>
      endObject
      return done.reverse

/-- Reads the members of an object whose opening bracket is taken. -/
def members {α : Type} (item : Read α) : Read (List (String × α)) := fun bs =>
  membersFrom item (bs.length + 1) [] bs

/-! ## Values -/

/-- Reads a value that is no array and no object, its first byte being taken. -/
def scalar (b : UInt8) : Read Json := fun rest => do
  if b = 0x22 then
    let (s, rest) ← literal rest
    return (.string s, rest)
  else if b = 0x6E then
    let ((), rest) ← expectRest (ascii "ull") rest
    return (.null, rest)
  else if b = 0x74 then
    let ((), rest) ← expectRest (ascii "rue") rest
    return (.bool true, rest)
  else if b = 0x66 then
    let ((), rest) ← expectRest (ascii "alse") rest
    return (.bool false, rest)
  else if opensNumber b then
    match ← number (b :: rest) with
    | (.whole i, rest) => return (.whole i, rest)
    | (.float x, rest) => return (.float x, rest)
  else throw .malformed

/-- Reads a value in which at most `depth` brackets are open at once. -/
def value : Nat → Read Json
  | 0 => fun bs => do
    let (b, rest) ← nextByte bs
    scalar b rest
  | depth + 1 => fun bs => do
    let (b, rest) ← nextByte bs
    if b = 0x5B then
      let (items, rest) ← elements (value depth) rest
      return (.array items, rest)
    else if b = 0x7B then
      let (ms, rest) ← members (value depth) rest
      return (ofMembers ms, rest)
    else scalar b rest

/-- The number of brackets that may be open at once. -/
def depthLimit : Nat := 127

/-- Reads a whole text with `item`: blanks may follow, and nothing else. -/
def readAll {α : Type} (item : Read α) (bs : Bytes) : Except Error α := do
  let (x, rest) ← item bs
  if (rest.dropWhile isBlank).isEmpty then return x else throw .malformed

/-- The value that a text spells. -/
def parse (bs : Bytes) : Except Error Json := readAll (value depthLimit) bs

end DeviceLink.Json
