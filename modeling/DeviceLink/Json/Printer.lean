-- Writing JSON: no blanks, and escapes only where the grammar asks for them.
import DeviceLink.Json.Lexical
import DeviceLink.Json.Value

namespace DeviceLink.Json

/-- A byte inside a string literal. -/
def escapeByte (b : UInt8) : Bytes :=
  if b = 0x22 ∨ b = 0x5C then [0x5C, b]
  else if b = 0x08 then [0x5C, 0x62]
  else if b = 0x0C then [0x5C, 0x66]
  else if b = 0x0A then [0x5C, 0x6E]
  else if b = 0x0D then [0x5C, 0x72]
  else if b = 0x09 then [0x5C, 0x74]
  else if b < 0x20 then ascii "\\u00" ++ Text.encodeChars (Text.Hex.pair b)
  else [b]

/-- A text as a string literal. -/
def printString (s : String) : Bytes := 0x22 :: (Text.utf8 s).flatMap escapeByte ++ [0x22]

/-- The digits of a whole number that is not negative. -/
def printNat (n : Nat) : Bytes := Text.encodeChars (Nat.toDigits 10 n)

/-- A whole number. -/
def printInt (i : Int) : Bytes :=
  if i < 0 then 0x2D :: printNat i.natAbs else printNat i.natAbs

/-- Texts with commas between them. -/
def commaSeparated : List Bytes → Bytes
  | [] => []
  | [x] => x
  | x :: rest => x ++ 0x2C :: commaSeparated rest

mutual

/-- The text of a value. -/
def print : Json → Bytes
  | .null => ascii "null"
  | .bool true => ascii "true"
  | .bool false => ascii "false"
  | .whole i => printInt i
  | .float x => ascii (floatText x)
  | .string s => printString s
  | .array items => 0x5B :: commaSeparated (printItems items) ++ [0x5D]
  | .object ms => 0x7B :: commaSeparated (printMembers ms) ++ [0x7D]

/-- The texts of the elements of an array. -/
def printItems : List Json → List Bytes
  | [] => []
  | x :: rest => print x :: printItems rest

/-- The texts of the members of an object. -/
def printMembers : List (String × Json) → List Bytes
  | [] => []
  | (name, x) :: rest => (printString name ++ 0x3A :: print x) :: printMembers rest

end

/-- The text of an object whose members are written in the order given. -/
def printObject (members : List (String × Json)) : Bytes :=
  0x7B :: commaSeparated (printMembers members) ++ [0x7D]

end DeviceLink.Json
