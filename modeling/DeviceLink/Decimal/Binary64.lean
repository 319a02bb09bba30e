-- Binary floating-point numbers of 64 bits, by exact arithmetic: a result is the exact value
-- rounded to the nearest number of the format, and to the even one of two that are as near.
namespace DeviceLink.Decimal

/-- A finite number of the format, given by its bits. -/
structure Binary64 where
  bits : UInt64
deriving Repr, DecidableEq

namespace Binary64

/-! ## Parts -/

/-- The least significand that is not short of any of its bits. -/
def leadingBit : Nat := 0x10000000000000

/-- The sign bit is set. -/
def isNegative (x : Binary64) : Bool := x.bits >>> 63 == 1

/-- The bits without the sign. -/
def magnitude (x : Binary64) : Nat := x.bits.toNat % 0x8000000000000000

def isZero (x : Binary64) : Bool := x.magnitude == 0

/-- The whole number `m` and the exponent `q` for which the magnitude is `m * 2 ^ q`. -/
def parts (x : Binary64) : Nat × Int :=
  let e : Nat := x.magnitude / leadingBit
  let f : Nat := x.magnitude % leadingBit
  if e = 0 then (f, -1074) else (f + leadingBit, (e : Int) - 1075)

/-- The magnitude as a fraction. -/
def fraction (x : Binary64) : Nat × Nat :=
  let (m, q) := x.parts
  if q < 0 then (m, Nat.pow 2 q.natAbs) else (m * Nat.pow 2 q.natAbs, 1)

def negate (x : Binary64) : Binary64 := ⟨x.bits ^^^ 0x8000000000000000⟩

/-! ## Rounding -/

/-- The bits at which the numbers of the format end. -/
def infinite : Nat := 0x7FF0000000000000

/-- `num / den` to a whole number, the even one of two that are as near. -/
def nearest (num den : Nat) : Nat :=
  let n := num / den
  let r := num % den
  if 2 * r < den then n
  else if den < 2 * r then n + 1
  else if n % 2 = 0 then n else n + 1

/-- `num / den` in units of `2 ^ q`, as a fraction. -/
def inUnits (num den : Nat) (q : Int) : Nat × Nat :=
  if q < 0 then (num * Nat.pow 2 q.natAbs, den) else (num, den * Nat.pow 2 q.natAbs)

/-- The number of the format that is nearest to `num / den`; none beyond its range. -/
def ofFraction? (num den : Nat) : Option Binary64 :=
  if num = 0 then some ⟨0⟩
  else
    let q := max ((num.log2 : Int) - (den.log2 : Int) - 53) (-1074)
    let (n, d) := inUnits num den q
    let q := if n / d < 2 * leadingBit then q else q + 1
    let (n, d) := inUnits num den q
    let bits := (q + 1074).toNat * leadingBit + nearest n d
    if bits < infinite then some ⟨UInt64.ofNat bits⟩ else none

/-! ## Arithmetic on magnitudes -/

def ofNat? (n : Nat) : Option Binary64 := ofFraction? n 1

def mul? (x y : Binary64) : Option Binary64 :=
  let (a, b) := x.fraction
  let (c, d) := y.fraction
  ofFraction? (a * c) (b * d)

def div? (x y : Binary64) : Option Binary64 :=
  let (a, b) := x.fraction
  let (c, d) := y.fraction
  ofFraction? (a * d) (b * c)

end Binary64

end DeviceLink.Decimal
