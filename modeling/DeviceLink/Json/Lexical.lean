-- The words of JSON: blanks, literals, numbers and string literals. Reading takes bytes from
-- the front of a text and gives back the rest.
import DeviceLink.Bytes
import DeviceLink.Json.Error
import DeviceLink.Text.Hex

namespace DeviceLink.Json

/-- Reads a value from the front of a text. -/
abbrev Read (α : Type) := StateT Bytes (Except Error) α

/-- A text of ASCII characters as bytes. -/
abbrev ascii (s : String) : Bytes := Text.utf8 s

/-! ## Blanks and single bytes -/

def isBlank (b : UInt8) : Bool := b = 0x20 || b = 0x0A || b = 0x09 || b = 0x0D

/-- The first byte that is no blank, with what follows it, or `unfinished`. -/
def nextByte (bs : Bytes) : Except Error (UInt8 × Bytes) :=
  match bs.dropWhile isBlank with
  | [] => .error .unfinished
  | b :: rest => .ok (b, rest)

/-- Takes the byte `wanted` after any blanks. -/
def expectByte (wanted : UInt8) : Read Unit := fun bs => do
  let (b, rest) ← nextByte bs
  if b = wanted then .ok ((), rest) else .error .malformed

/-- Takes the rest of a literal such as `null`, byte by byte. -/
def expectRest : Bytes → Read Unit
  | [], bs => .ok ((), bs)
  | _ :: _, [] => .error .unfinished
  | w :: ws, b :: bs => if w = b then expectRest ws bs else .error .malformed

/-! ## Numbers -/

def isDigit (b : UInt8) : Bool := 0x30 ≤ b && b ≤ 0x39

def digitValue (b : UInt8) : Nat := b.toNat - 0x30

/-- Takes digits onto the significand `n` while it fits 64 bits, and counts them. -/
def gather (n count : Nat) : Bytes → Nat × Nat × Bytes
  | [] => (n, count, [])
  | b :: rest =>
    if isDigit b then
      let n' := n * 10 + digitValue b
      if n' < UInt64.size then gather n' (count + 1) rest else (n, count, b :: rest)
    else (n, count, b :: rest)

/-- The digits at the front and what follows them. -/
def spanDigits (bs : Bytes) : Bytes × Bytes := (bs.takeWhile isDigit, bs.dropWhile isDigit)

/-- A number read from a text. -/
inductive Number
  | whole (i : Int)
  | float (x : Decimal.Binary64)
deriving Repr, DecidableEq

/-- Multiplies or divides by a power of ten, at most `10 ^ 308` at a time, rounding each time.
Fails beyond the range of the format. -/
def scale (x : Decimal.Binary64) (exponent : Int) : Option Decimal.Binary64 :=
  let power := fun (k : Nat) => Decimal.Binary64.ofNat? (Nat.pow 10 k)
  if exponent.natAbs ≤ 308 then do
    let p ← power exponent.natAbs
    if 0 ≤ exponent then x.mul? p else x.div? p
  else if x.isZero then some x
  else if _h : 0 ≤ exponent then none
  else do
    let p ← power 308
    scale (← x.div? p) (exponent + 308)
termination_by exponent.natAbs
decreasing_by omega

/-- The number with the given sign, significand and power of ten. -/
def floatOf (negative : Bool) (significand : Nat) (exponent : Int) : Except Error Number :=
  match Decimal.Binary64.ofNat? significand >>= (scale · exponent) with
  | some x => .ok (.float (if negative then x.negate else x))
  | none => .error .malformed

/-- Reads the exponent, the letter being taken, and finishes the number. -/
def exponentPart (negative : Bool) (significand : Nat) (exponent : Int) (bs : Bytes) :
    Except Error (Number × Bytes) := do
  let (below, bs) := match bs with
    | 0x2B :: rest => (false, rest)
    | 0x2D :: rest => (true, rest)
    | _ => (false, bs)
  let (digits, rest) := spanDigits bs
  if digits.isEmpty then throw (if bs.isEmpty then .unfinished else .malformed)
  let power : Nat := digits.foldl (fun n b => n * 10 + digitValue b) 0
  if power < 0x80000000 then
    let x ← floatOf negative significand (if below then exponent - power else exponent + power)
    return (x, rest)
  else if significand ≠ 0 ∧ ¬ below then throw .malformed
  else return (← floatOf negative 0 0, rest)

/-- Reads the fraction and the exponent, if there are any, and finishes a number that is not
whole. -/
def fractionPart (negative : Bool) (significand : Nat) (exponent : Int) (bs : Bytes) :
    Except Error (Number × Bytes) := do
  let (significand, exponent, bs) ← match bs with
    | 0x2E :: rest =>
      let (n, count, after) := gather significand 0 rest
      let (beyond, after) := spanDigits after
      if count = 0 ∧ beyond.isEmpty then
        throw (if rest.isEmpty then .unfinished else .malformed)
      pure (n, exponent - count, after)
    | _ => pure (significand, exponent, bs)
  match bs with
  | 0x65 :: rest | 0x45 :: rest => exponentPart negative significand exponent rest
  | _ => return (← floatOf negative significand exponent, bs)

/-- The byte begins a fraction or an exponent. -/
def opensFraction (b : UInt8) : Bool := b = 0x2E || b = 0x65 || b = 0x45

/-- Reads a number whose sign is taken. The whole part has no needless zero in front. A number
with a fraction or an exponent, one of more than 64 bits and a negative zero are not whole. -/
def unsignedNumber (negative : Bool) (bs : Bytes) : Except Error (Number × Bytes) :=
  match bs with
  | [] => .error .unfinished
  | b :: rest =>
    if ¬ isDigit b then .error .malformed
    else if b = 0x30 ∧ (rest.head?.any isDigit) then .error .malformed
    else
      let (n, _, after) := gather 0 0 bs
      let (beyond, after) := spanDigits after
      if ¬ beyond.isEmpty ∨ after.head?.any opensFraction then
        fractionPart negative n beyond.length after
      else if ¬ negative then .ok (.whole n, after)
      else if n = 0 ∨ 0x8000000000000000 < n then do .ok (← floatOf true n 0, after)
      else .ok (.whole (-n), after)

/-- The byte begins a number. -/
def opensNumber (b : UInt8) : Bool := b = 0x2D || isDigit b

/-- Reads a number. -/
def number : Read Number
  | 0x2D :: rest => unsignedNumber true rest
  | bs => unsignedNumber false bs

/-! ## String literals -/

/-- The byte that a short escape stands for. -/
def shortEscape? (b : UInt8) : Option UInt8 :=
  if b = 0x22 ∨ b = 0x5C ∨ b = 0x2F then some b
  else if b = 0x62 then some 0x08
  else if b = 0x66 then some 0x0C
  else if b = 0x6E then some 0x0A
  else if b = 0x72 then some 0x0D
  else if b = 0x74 then some 0x09
  else none

/-- The number that four hexadecimal digits spell. -/
def unit? (a b c d : UInt8) : Option Nat := do
  let a ← Text.Hex.value? a
  let b ← Text.Hex.value? b
  let c ← Text.Hex.value? c
  let d ← Text.Hex.value? d
  return ((a * 16 + b) * 16 + c) * 16 + d

/-- The bytes of a code point, last first. -/
def codePointReversed (n : Nat) : Bytes := (String.utf8EncodeChar (Char.ofNat n)).reverse

def isHighSurrogate (n : Nat) : Bool := 0xD800 ≤ n && n ≤ 0xDBFF

def isLowSurrogate (n : Nat) : Bool := 0xDC00 ≤ n && n ≤ 0xDFFF

/-- The code point of two surrogates. -/
def joinSurrogates (high low : Nat) : Nat := 0x10000 + (high - 0xD800) * 0x400 + (low - 0xDC00)

/-- Reads a string literal whose opening quote is taken, up to and with its closing quote. The
bytes read so far are `done`, last first. A code unit between surrogates must be the half of a
pair. -/
def literalBytes (done : Bytes) : Bytes → Except Error (Bytes × Bytes)
  | [] => .error .unfinished
  | 0x22 :: rest => .ok (done.reverse, rest)
  | 0x5C :: 0x75 :: a :: b :: c :: d :: rest =>
    match unit? a b c d with
    | none => .error .malformed
    | some n =>
      if isLowSurrogate n then .error .malformed
      else if ¬ isHighSurrogate n then literalBytes (codePointReversed n ++ done) rest
      else
        match rest with
        | 0x5C :: 0x75 :: e :: f :: g :: h :: rest' =>
          match unit? e f g h with
          | none => .error .malformed
          | some m =>
            if isLowSurrogate m then
              literalBytes (codePointReversed (joinSurrogates n m) ++ done) rest'
            else .error .malformed
        | 0x5C :: 0x75 :: _ => .error .unfinished
        | 0x5C :: _ :: _ => .error .malformed
        | 0x5C :: _ => .error .unfinished
        | [] => .error .unfinished
        | _ => .error .malformed
  | 0x5C :: 0x75 :: _ => .error .unfinished
  | 0x5C :: e :: rest =>
    match shortEscape? e with
    | some b => literalBytes (b :: done) rest
    | none => .error .malformed
  | 0x5C :: [] => .error .unfinished
  | b :: rest => if b < 0x20 then .error .malformed else literalBytes (b :: done) rest

/-- Reads a string literal whose opening quote is taken. -/
def literal : Read String := fun bs => do
  let (text, rest) ← literalBytes [] bs
  match Text.ofUtf8? text with
  | some s => .ok (s, rest)
  | none => .error .malformed

/-- Skips a string literal whose opening quote is taken. Its bytes need not be valid text, and
its surrogates need not be in pairs. -/
def skipLiteral : Bytes → Except Error Bytes
  | [] => .error .unfinished
  | 0x22 :: rest => .ok rest
  | 0x5C :: 0x75 :: a :: b :: c :: d :: rest =>
    if (unit? a b c d).isSome then skipLiteral rest else .error .malformed
  | 0x5C :: 0x75 :: _ => .error .unfinished
  | 0x5C :: e :: rest => if (shortEscape? e).isSome then skipLiteral rest else .error .malformed
  | 0x5C :: [] => .error .unfinished
  | b :: rest => if b < 0x20 then .error .malformed else skipLiteral rest

end DeviceLink.Json
