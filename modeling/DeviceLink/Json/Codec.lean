-- Reading and writing JSON values of one given type.
import DeviceLink.Json.Printer
import DeviceLink.Json.Reader
import DeviceLink.Json.Skip

namespace DeviceLink.Json

/-- How a type is read and written. -/
structure Codec (α : Type) where
  read : Read α
  write : α → Bytes

/-- Refuses the value at the front of a text where something else was wanted. The value is read
as far as it takes to name it. -/
def wrongType {α : Type} (wanted : String) : Read α := fun bs => do
  let (b, rest) ← nextByte bs
  let found : Found ←
    if b = 0x5B then pure .array
    else if b = 0x7B then pure .object
    else do
      match ← scalar b rest with
      | (.null, _) => pure .null
      | (.bool b, _) => pure (.bool b)
      | (.whole i, _) => pure (.whole i)
      | (.float x, _) => pure (.float x)
      | (.string s, _) => pure (.string s)
      | (.array _, _) => pure .array
      | (.object _, _) => pure .object
  throw (.refused (.wrongType found wanted))

/-! ## Texts -/

/-- Reads a string. -/
def readString : Read String := fun bs => do
  let (b, rest) ← nextByte bs
  if b = 0x22 then literal rest else wrongType "a string" bs

def text : Codec String := ⟨readString, printString⟩

/-- Reads a list of strings. -/
def readStrings : Read (List String) := fun bs => do
  let (b, rest) ← nextByte bs
  if b = 0x5B then elements readString rest else wrongType "a sequence" bs

def texts : Codec (List String) :=
  ⟨readStrings, fun ss => 0x5B :: commaSeparated (ss.map printString) ++ [0x5D]⟩

/-! ## Whole numbers of a fixed width -/

/-- Reads a whole number between two bounds. -/
def readWhole (low high : Int) (wanted : String) : Read Int := fun bs => do
  let (b, rest) ← nextByte bs
  if opensNumber b then
    match ← number (b :: rest) with
    | (.whole i, rest) =>
      if low ≤ i ∧ i ≤ high then return (i, rest)
      else throw (.refused (.outOfRange i wanted))
    | (.float x, _) => throw (.refused (.wrongType (.float x) wanted))
  else wrongType wanted bs

def int32 : Codec Int32 :=
  ⟨Int32.ofInt <$> readWhole (-0x80000000) 0x7FFFFFFF "i32", fun i => printInt i.toInt⟩

def int64 : Codec Int64 :=
  ⟨Int64.ofInt <$> readWhole (-0x8000000000000000) 0x7FFFFFFFFFFFFFFF "i64",
    fun i => printInt i.toInt⟩

/-! ## Variants -/

/-- Reads the name of a variant, which has to be a string. -/
def readVariant {α : Type} (variants : List (String × α)) : Read α := fun bs => do
  let (b, rest) ← nextByte bs
  if b = 0x22 then
    let (given, rest) ← literal rest
    match variants.lookup given with
    | some x => return (x, rest)
    | none => throw (.refused (.unknownVariant given (variants.map (·.1))))
  else throw .malformed

/-- Reads a variant without contents: its name, or an object with its name and a null. -/
def readUnitVariant {α : Type} (variants : List (String × α)) : Read α := fun bs => do
  let (b, rest) ← nextByte bs
  if b = 0x22 then readVariant variants bs
  else if b = 0x7B then
    let (x, rest) ← readVariant variants rest
    let ((), rest) ← colon rest
    let (c, after) ← nextByte rest
    if c = 0x6E then
      let ((), rest) ← expectRest (ascii "ull") after
      let ((), rest) ← endObject rest
      return (x, rest)
    else wrongType "unit" rest
  else throw .malformed

/-- A type whose values are written as names. -/
def variants {α : Type} (all : List α) (name : α → String) : Codec α :=
  ⟨readUnitVariant (all.map fun x => (name x, x)), fun x => printString (name x)⟩

end DeviceLink.Json
