-- The shortest decimal digits that read back as a given number: of all decimals that round to
-- it, one with the fewest digits, and of those the one nearest to it.
import DeviceLink.Decimal.Binary64

namespace DeviceLink.Decimal

/-- A decimal: `digits`, read as a whole number, times `10 ^ (exponent + 1 - count)`, so that
`exponent` is the power of ten of its first digit. -/
structure Digits where
  digits : List Nat
  exponent : Int
deriving Repr, DecidableEq

/-- The digits of a whole number. -/
def digitsOf (n : Nat) : List Nat := (Nat.toDigits 10 n).map fun c => c.toNat - 0x30

/-- The least `k` from `start` on, within `fuel` tries, for which `p` holds. -/
def firstFrom (p : Nat → Bool) (start : Nat) : Nat → Nat
  | 0 => start
  | fuel + 1 => if p start then start else firstFrom p (start + 1) fuel

/-- The power of ten of the first digit of `num / den`. -/
def leadingExponent (num den : Nat) : Int :=
  if den ≤ num then ((digitsOf (num / den)).length : Int) - 1
  else -(firstFrom (fun k => den ≤ num * Nat.pow 10 k) 1 400 : Int)

/-- The values that round to a number: the fractions `low / scale` and `high / scale` bound
them, and belong to them if `closed`. -/
structure Basin where
  low : Nat
  high : Nat
  scale : Nat
  closed : Bool

/-- The basin of a number of the format, with its own value in the same scale. -/
def basin (x : Binary64) : Nat × Basin :=
  let (m, q) := x.parts
  let below := if m = Binary64.leadingBit ∧ -1074 < q then 1 else 2
  let (unit, scale) := if q < 0 then (1, 4 * Nat.pow 2 q.natAbs) else (Nat.pow 2 q.natAbs, 4)
  (4 * m * unit, ⟨(4 * m - below) * unit, (4 * m + 2) * unit, scale, m % 2 == 0⟩)

/-- Whether `n / d` lies in a basin. -/
def Basin.holds (b : Basin) (n d : Nat) : Bool :=
  if b.closed then b.low * d ≤ n * b.scale && n * b.scale ≤ b.high * d
  else b.low * d < n * b.scale && n * b.scale < b.high * d

/-- The decimal `count * 10 ^ power` as a fraction. -/
def decimalFraction (count : Nat) (power : Int) : Nat × Nat :=
  if power < 0 then (count, Nat.pow 10 power.natAbs) else (count * Nat.pow 10 power.natAbs, 1)

/-- Of the two decimals of the grid `10 ^ power` around `value / scale`, the nearest in the
basin, the even one of two that are as near. -/
def onGrid? (value : Nat) (b : Basin) (power : Int) : Option Nat :=
  let (n, d) := if power < 0 then (value * Nat.pow 10 power.natAbs, b.scale)
    else (value, b.scale * Nat.pow 10 power.natAbs)
  let down := n / d
  let fits := fun count => let (a, c) := decimalFraction count power; b.holds a c
  let near := Binary64.nearest n d
  let far := if near = down then down + 1 else down
  if fits near then some near else if fits far then some far else none

/-- The shortest digits of a number that is not zero, searched from one digit up. -/
def shortestFrom (value : Nat) (b : Basin) (exponent : Int) (count : Nat) : Nat → Digits
  | 0 => ⟨[], exponent⟩
  | fuel + 1 =>
    match onGrid? value b (exponent + 1 - count) with
    | some n =>
      let ds := digitsOf n
      ⟨ds, exponent + ((ds.length : Int) - count)⟩
    | none => shortestFrom value b exponent (count + 1) fuel

/-- The shortest digits that read back as the number; a single zero for zero. -/
def shortest (x : Binary64) : Digits :=
  if x.isZero then ⟨[0], 0⟩
  else
    let (num, den) := x.fraction
    let (value, b) := basin x
    let d := shortestFrom value b (leadingExponent num den) 1 17
    -- a count that rounds up to a power of ten ends in zeros that say nothing
    ⟨(d.digits.reverse.dropWhile (· == 0)).reverse, d.exponent⟩

end DeviceLink.Decimal
