-- Bytes as hexadecimal text: two lower-case digits a byte when written, either case when read.
import DeviceLink.Bytes
import DeviceLink.Text.Quoted
import DeviceLink.Text.Utf8

namespace DeviceLink.Text.Hex

/-- Why a text is no hexadecimal text. A digit is looked for byte by byte, so a character
beyond ASCII is reported by its first byte. -/
inductive Error
  | oddLength
  | badDigit (byte : UInt8) (index : Nat)
deriving Repr, DecidableEq

/-- The wording of an error. -/
def Error.message : Error → String
  | .oddLength => "Odd number of digits"
  | .badDigit b i => s!"Invalid character {quoteChar (Char.ofNat b.toNat)} at position {i}"

/-! ## Writing -/

/-- The digit of a number below sixteen. -/
def digit (n : Nat) : Char := Nat.digitChar n

/-- The two digits of a byte. -/
def pair (b : UInt8) : List Char := [digit (b.toNat / 16), digit (b.toNat % 16)]

/-- The digits of a byte string. -/
def encode (bs : Bytes) : String := String.ofList (bs.flatMap pair)

/-! ## Reading -/

/-- The value of a digit. -/
def value? (b : UInt8) : Option Nat :=
  let n := b.toNat
  if 0x30 ≤ n ∧ n ≤ 0x39 then some (n - 0x30)
  else if 0x61 ≤ n ∧ n ≤ 0x66 then some (n - 0x61 + 10)
  else if 0x41 ≤ n ∧ n ≤ 0x46 then some (n - 0x41 + 10)
  else none

/-- The value of the digit at `index`. -/
def valueAt (index : Nat) (b : UInt8) : Except Error Nat :=
  match value? b with
  | some n => .ok n
  | none => .error (.badDigit b index)

/-- Reads pairs of digits from `index` on; `done` holds the bytes read, last first. -/
def decodePairs (index : Nat) (done : Bytes) : Bytes → Except Error Bytes
  | high :: low :: rest => do
    let h ← valueAt index high
    let l ← valueAt (index + 1) low
    decodePairs (index + 2) (UInt8.ofNat (h * 16 + l) :: done) rest
  | _ => .ok done.reverse

/-- The bytes that a hexadecimal text spells. An odd number of bytes is refused before any
digit is looked at. -/
def decode (s : String) : Except Error Bytes :=
  let bs := utf8 s
  if bs.length % 2 = 1 then .error .oddLength else decodePairs 0 [] bs

end DeviceLink.Text.Hex
