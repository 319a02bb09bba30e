-- Text as UTF-8 bytes. Decoding goes byte by byte and keeps what it has read of the character
-- at hand, so that it can say where each invalid part ends: an invalid part is the longest
-- beginning of a character that the next byte does not continue, or one byte that begins none.
import DeviceLink.Bytes

namespace DeviceLink.Text

/-! ## Encoding -/

/-- The UTF-8 bytes of a list of characters. -/
def encodeChars (cs : List Char) : Bytes := cs.flatMap String.utf8EncodeChar

/-- The UTF-8 bytes of a text. -/
def utf8 (s : String) : Bytes := encodeChars s.toList

/-! ## Decoding -/

/-- A character of which some bytes are read and `left + 1` are not. The next byte must lie
between `low` and `high`; every later one lies between 0x80 and 0xBF. -/
structure Begun where
  left : Nat
  code : Nat
  low : UInt8
  high : UInt8
deriving Repr, DecidableEq

/-- What has been decoded, last first, with `none` for an invalid part. -/
structure Decoding where
  done : List (Option Char) := []
  begun : Option Begun := none
deriving Repr, DecidableEq

/-- Takes a byte at which a character has to begin. -/
def Decoding.lead (done : List (Option Char)) (b : UInt8) : Decoding :=
  let n := b.toNat
  if b < 0x80 then ⟨some (Char.ofNat n) :: done, none⟩
  else if b < 0xC2 then ⟨none :: done, none⟩
  else if b < 0xE0 then ⟨done, some ⟨0, n % 32, 0x80, 0xBF⟩⟩
  else if b = 0xE0 then ⟨done, some ⟨1, n % 16, 0xA0, 0xBF⟩⟩
  else if b = 0xED then ⟨done, some ⟨1, n % 16, 0x80, 0x9F⟩⟩
  else if b < 0xF0 then ⟨done, some ⟨1, n % 16, 0x80, 0xBF⟩⟩
  else if b = 0xF0 then ⟨done, some ⟨2, n % 8, 0x90, 0xBF⟩⟩
  else if b < 0xF4 then ⟨done, some ⟨2, n % 8, 0x80, 0xBF⟩⟩
  else if b = 0xF4 then ⟨done, some ⟨2, n % 8, 0x80, 0x8F⟩⟩
  else ⟨none :: done, none⟩

/-- Takes one byte. -/
def Decoding.take (d : Decoding) (b : UInt8) : Decoding :=
  match d.begun with
  | none => lead d.done b
  | some p =>
    if p.low ≤ b ∧ b ≤ p.high then
      let code := p.code * 64 + b.toNat % 64
      match p.left with
      | 0 => ⟨some (Char.ofNat code) :: d.done, none⟩
      | left + 1 => ⟨d.done, some ⟨left, code, 0x80, 0xBF⟩⟩
    else lead (none :: d.done) b

/-- The parts in reading order; a character that the end cuts off is an invalid part. -/
def Decoding.parts (d : Decoding) : List (Option Char) :=
  match d.begun with
  | none => d.done.reverse
  | some _ => (none :: d.done).reverse

/-- The characters and invalid parts of a byte string. -/
def decode (bs : Bytes) : List (Option Char) := (bs.foldl Decoding.take {}).parts

/-- The character that stands for an invalid part. -/
def replacement : Char := '\uFFFD'

/-- The text of the bytes, with each invalid part replaced. -/
def lossy (bs : Bytes) : String := String.ofList ((decode bs).map (·.getD replacement))

/-- The text of the bytes, if they are valid. -/
def ofUtf8? (bs : Bytes) : Option String := ((decode bs).mapM id).map String.ofList

end DeviceLink.Text
