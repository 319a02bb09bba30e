-- Spans of time: their text in the largest unit that fits, and the spans that people write as
-- numbers with units, such as `1m 30s`.
import DeviceLink.Text.Blank

namespace DeviceLink

/-- A span of time. -/
structure Duration where
  nanoseconds : Nat
deriving Repr, DecidableEq

namespace Duration

/-! ## Units -/

def microsecond : Nat := 1000

def millisecond : Nat := 1000000

def second : Nat := 1000000000

def ofMilliseconds (n : Nat) : Duration := ⟨n * millisecond⟩

def ofSeconds (n : Nat) : Duration := ⟨n * second⟩

/-- The whole milliseconds in a span. -/
def milliseconds (d : Duration) : Nat := d.nanoseconds / millisecond

/-! ## Writing -/

/-- A number given in units of `10 ^ -places`, without zeros at the end of its fraction. -/
def decimal (places n : Nat) : String :=
  let digits := Nat.toDigits 10 (n % Nat.pow 10 places)
  let padded := List.replicate (places - digits.length) '0' ++ digits
  let fraction := (padded.reverse.dropWhile (· = '0')).reverse
  let fraction := if fraction.isEmpty then [] else '.' :: fraction
  toString (n / Nat.pow 10 places) ++ String.ofList fraction

/-- The text of a span of time. -/
def text (d : Duration) : String :=
  let n := d.nanoseconds
  if second ≤ n then decimal 9 n ++ "s"
  else if millisecond ≤ n then decimal 6 n ++ "ms"
  else if microsecond ≤ n then decimal 3 n ++ "µs"
  else decimal 0 n ++ "ns"

/-! ## Reading -/

def minute : Nat := 60 * second

/-- The nanoseconds in a unit. -/
def unit? : String → Option Nat
  | "nanos" | "nsec" | "ns" => some 1
  | "usec" | "us" | "µs" => some microsecond
  | "millis" | "msec" | "ms" => some millisecond
  | "seconds" | "second" | "secs" | "sec" | "s" => some second
  | "minutes" | "minute" | "min" | "mins" | "m" => some minute
  | "hours" | "hour" | "hr" | "hrs" | "h" => some (60 * minute)
  | "days" | "day" | "d" => some (1440 * minute)
  | "weeks" | "week" | "wk" | "wks" | "w" => some (10080 * minute)
  | "months" | "month" | "M" => some (2630016 * second)
  | "years" | "year" | "yr" | "yrs" | "y" => some (31557600 * second)
  | _ => none

/-- Numbers are below this, and so are the counts of seconds and of nanoseconds in a span. -/
def bound : Nat := UInt64.size

/-- Why a text gives no span. -/
inductive ReadError
  /-- It is not of the form of a span, or a number in it is too large or too fine. -/
  | malformed
  /-- The nanoseconds make up one more second, for which there is no room. -/
  | overflow
deriving Repr, DecidableEq

/-- A number with a unit. -/
structure Term where
  count : Nat
  /-- The numerator and the denominator of a fraction after the point. -/
  fraction : Option (Nat × Nat)
  /-- The nanoseconds in the unit. -/
  unit : Nat
deriving Repr, DecidableEq

def isUnitChar (c : Char) : Bool := c.isAlpha || c = 'µ'

/-- The digits at the front, with white space anywhere between them, and what follows. -/
def takeDigits (cs : List Char) : List Char × List Char :=
  let inNumber := fun c => c.isDigit || Text.isSpace c
  ((cs.takeWhile inNumber).filter Char.isDigit, cs.dropWhile inNumber)

def numberOf (digits : List Char) : Nat :=
  digits.foldl (fun n c => n * 10 + (c.toNat - '0'.toNat)) 0

/-- The fraction after a number, if there is a point; there is at least one digit after it. -/
def takeFraction : List Char → Option (Option (Nat × Nat) × List Char)
  | '.' :: cs =>
    let (digits, rest) := takeDigits cs
    let denominator := Nat.pow 10 digits.length
    if digits.isEmpty ∨ bound ≤ denominator then none
    else some (some (numberOf digits, denominator), rest)
  | cs => some (none, cs)

/-- Reads a number and its unit, and gives what follows. -/
def takeTerm (cs : List Char) : Option (Term × List Char) := do
  let (digits, cs) := takeDigits cs
  let count := numberOf digits
  if digits.isEmpty ∨ bound ≤ count then none
  let (fraction, cs) ← takeFraction cs
  let unit ← unit? (String.ofList (cs.takeWhile isUnitChar))
  let rest := cs.dropWhile isUnitChar
  if rest.head?.any fun c => ¬ c.isDigit ∧ ¬ Text.isSpace c then none
  return ({ count, fraction, unit }, rest)

/-- The nanoseconds in `n / parts` units. They are counted in grains: the grains in `n` units have
to be below the bound, and a whole number of them is in each part. -/
def share (grain unit n parts : Nat) : Except ReadError Nat :=
  let grains := n * (unit / grain)
  if grains < bound ∧ grains % parts = 0 then .ok (grains / parts * grain) else .error .malformed

/-- Adds a share to a sum, both in nanoseconds. If it was counted in nanoseconds, these must be
below the bound together with those that the sum has beyond its last whole second. -/
def plus (grain sum share : Nat) : Except ReadError Nat :=
  let beyond := sum % second + (if grain = 1 then share else 0)
  if bound ≤ beyond then .error .malformed
  else if (sum + share) / second < bound then .ok (sum + share)
  else .error (if beyond = second then .overflow else .malformed)

/-- Adds a term to a sum. Units from a second on are counted in seconds; fractions of units up to a
minute are counted in nanoseconds, and a nanosecond has none. -/
def Term.addTo (t : Term) (sum : Nat) : Except ReadError Nat := do
  let grain := if t.unit < second then 1 else second
  let sum ← plus grain sum (← share grain t.unit t.count 1)
  match t.fraction with
  | none => return sum
  | some (n, parts) =>
    if t.unit = 1 then throw .malformed
    let grain := if t.unit ≤ minute then 1 else second
    plus grain sum (← share grain t.unit n parts)

/-- Reads terms to the end of the text and adds them up. Between one and the next there may be
white space. -/
def sumTerms : Nat → Nat → List Char → Except ReadError Nat
  | 0, _, _ => throw .malformed
  | fuel + 1, sum, cs => do
    match takeTerm cs with
    | none => throw .malformed
    | some (term, rest) =>
      let sum ← term.addTo sum
      let rest := rest.dropWhile Text.isSpace
      if rest.isEmpty then return sum else sumTerms fuel sum rest

/-- The span that a text gives. A lone zero needs no unit. -/
def ofText (s : String) : Except ReadError Duration :=
  if s = "0" then .ok ⟨0⟩ else Duration.mk <$> sumTerms (s.length + 1) 0 s.toList

end Duration

end DeviceLink
