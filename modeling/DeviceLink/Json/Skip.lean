-- Skipping a JSON value that nobody asked for. Only its grammar is checked: numbers may be out
-- of range, strings need not be valid text, and brackets may be nested to any depth.
import DeviceLink.Json.Lexical

namespace DeviceLink.Json

/-! ## Numbers -/

/-- Skips digits, one at least. -/
def skipDigits (bs : Bytes) : Except Error Bytes :=
  let (digits, rest) := spanDigits bs
  if digits.isEmpty then .error .malformed else .ok rest

/-- Skips the digits of a whole number, which has no needless zero in front. -/
def skipWhole (bs : Bytes) : Except Error Bytes :=
  match spanDigits bs with
  | ([], _) => .error .malformed
  | (d :: ds, rest) => if d = 0x30 ∧ ¬ ds.isEmpty then .error .malformed else .ok rest

/-- Skips a fraction, if there is one. -/
def skipFraction : Bytes → Except Error Bytes
  | 0x2E :: rest => skipDigits rest
  | bs => .ok bs

def skipSign : Bytes → Bytes
  | 0x2B :: rest | 0x2D :: rest => rest
  | bs => bs

/-- Skips an exponent, if there is one. -/
def skipExponent : Bytes → Except Error Bytes
  | 0x65 :: rest | 0x45 :: rest => skipDigits (skipSign rest)
  | bs => .ok bs

/-- Skips the digits of a number whose sign is taken. A number without a digit where one has to
stand is malformed, also at the end of the text. -/
def skipNumber (bs : Bytes) : Except Error Bytes := do
  skipExponent (← skipFraction (← skipWhole bs))

/-! ## Values -/

/-- Skips a value that is no array and no object, its first byte being taken. -/
def skipScalar (b : UInt8) (rest : Bytes) : Except Error Bytes :=
  if b = 0x22 then skipLiteral rest
  else if b = 0x2D then skipNumber rest
  else if isDigit b then skipNumber (b :: rest)
  else if b = 0x6E then (·.2) <$> expectRest (ascii "ull") rest
  else if b = 0x74 then (·.2) <$> expectRest (ascii "rue") rest
  else if b = 0x66 then (·.2) <$> expectRest (ascii "alse") rest
  else .error .malformed

/-- Skips the name of a member and the colon. -/
def skipName (bs : Bytes) : Except Error Bytes := do
  let (quote, rest) ← nextByte bs
  if quote ≠ 0x22 then throw .malformed
  let ((), rest) ← expectByte 0x3A (← skipLiteral rest)
  return rest

/-- A bracket that is open. -/
inductive Bracket
  | array
  | object
deriving Repr, DecidableEq

namespace Bracket

def opening : Bracket → UInt8
  | .array => 0x5B
  | .object => 0x7B

def closing : Bracket → UInt8
  | .array => 0x5D
  | .object => 0x7D

/-- The bracket that a byte opens. -/
def ofOpening? (b : UInt8) : Option Bracket :=
  if b = array.opening then some array else if b = object.opening then some object else none

/-- Skips what stands before a value in a bracket. -/
def enter : Bracket → Bytes → Except Error Bytes
  | .array, bs => .ok bs
  | .object, bs => skipName bs

end Bracket

/-- Where the reader stands after a value. -/
inductive Next
  | done (rest : Bytes)
  | value (stack : List Bracket) (rest : Bytes)

/-- Closes the brackets that end after a value, up to the next value. -/
def afterValue : List Bracket → Bytes → Except Error Next
  | [], bs => .ok (.done bs)
  | bracket :: outer, bs => do
    let (b, rest) ← nextByte bs
    if b = 0x2C then return .value (bracket :: outer) (← bracket.enter rest)
    else if b = bracket.closing then afterValue outer rest
    else throw .malformed

/-- Skips a value inside the open brackets `stack`, its first byte being taken. In a bracket that
is not empty it goes as far as the first value. -/
def skipFirst (stack : List Bracket) (b : UInt8) (rest : Bytes) : Except Error Next :=
  match Bracket.ofOpening? b with
  | some bracket => do
    let (c, inner) ← nextByte rest
    if c = bracket.closing then afterValue stack inner
    else return .value (bracket :: stack) (← bracket.enter rest)
  | none => do afterValue stack (← skipScalar b rest)

/-- Skips a value inside the open brackets `stack` and whatever follows up to their end. -/
def skipInside : Nat → List Bracket → Bytes → Except Error Bytes
  | 0, _, _ => .error .malformed
  | fuel + 1, stack, bs => do
    let (b, rest) ← nextByte bs
    match ← skipFirst stack b rest with
    | .done rest => return rest
    | .value stack rest => skipInside fuel stack rest

/-- Skips a value. Every turn of the loop takes a byte, so the length of the text is enough
fuel. -/
def skipValue : Read Unit := fun bs => do
  let rest ← skipInside (bs.length + 1) [] bs
  return ((), rest)

end DeviceLink.Json
