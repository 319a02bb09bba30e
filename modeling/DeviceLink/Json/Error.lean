-- Why a text is not the JSON that was wanted. A text that breaks the grammar is malformed, one
-- that ends too early is unfinished, and one that is well-formed so far but holds something
-- else than was wanted is refused for a cause.
import DeviceLink.Decimal.Shortest
import DeviceLink.Text.Quoted

namespace DeviceLink.Json

/-! ## The text of a number with a fraction -/

/-- Numbers with a leading digit at a power of ten from -5 to 15 are written without an
exponent; beyond that the exponent always has a sign. -/
def floatText (x : Decimal.Binary64) : String :=
  let sign := if x.isNegative then "-" else ""
  let d := Decimal.shortest x
  let text := fun (ds : List Nat) => String.ofList (ds.map Nat.digitChar)
  let zeros := fun (n : Nat) => List.replicate n 0
  let count := d.digits.length
  let body :=
    if -5 ≤ d.exponent ∧ d.exponent < 0 then
      "0." ++ text (zeros (d.exponent.natAbs - 1) ++ d.digits)
    else if 0 ≤ d.exponent ∧ d.exponent ≤ 15 then
      let n := d.exponent.toNat + 1
      let whole := d.digits.take n ++ zeros (n - count)
      let rest := if count ≤ n then [0] else d.digits.drop n
      text whole ++ "." ++ text rest
    else
      let fraction := if count ≤ 1 then "" else "." ++ text (d.digits.drop 1)
      let exponent := Decimal.digitsOf d.exponent.natAbs
      let sign := if d.exponent < 0 then "e-" else "e+"
      text (d.digits.take 1) ++ fraction ++ sign ++ text exponent
  sign ++ body

/-! ## Causes -/

/-- What a value turned out to be. -/
inductive Found
  | null
  | bool (b : Bool)
  | whole (i : Int)
  | float (x : Decimal.Binary64)
  | string (s : String)
  | array
  | object
deriving Repr, DecidableEq

/-- A value in words. -/
def Found.message : Found → String
  | .null => "null"
  | .bool b => s!"boolean `{b}`"
  | .whole i => s!"integer `{i}`"
  | .float x => s!"floating point `{floatText x}`"
  | .string s => s!"string {Text.quote s}"
  | .array => "sequence"
  | .object => "map"

/-- Why a well-formed value is refused. -/
inductive Refusal
  | wrongType (found : Found) (wanted : String)
  | outOfRange (i : Int) (wanted : String)
  | wrongLength (count : Nat) (wanted : String)
  | missingField (name : String)
  | duplicateField (name : String)
  | unknownVariant (given : String) (known : List String)
  | invalidDeviceId (id : String)
deriving Repr, DecidableEq

/-- The names that a variant may have, as a list in words. -/
def oneOf (names : List String) : String :=
  let quoted := names.map fun n => s!"`{n}`"
  match quoted with
  | [] => "there are no variants"
  | [a] => s!"expected {a}"
  | [a, b] => s!"expected {a} or {b}"
  | _ =>
    let listed := String.intercalate ", " quoted
    s!"expected one of {listed}"

/-- The wording of a refusal. -/
def Refusal.message : Refusal → String
  | .wrongType found wanted => s!"invalid type: {found.message}, expected {wanted}"
  | .outOfRange i wanted => s!"invalid value: integer `{i}`, expected {wanted}"
  | .wrongLength count wanted => s!"invalid length {count}, expected {wanted}"
  | .missingField name => s!"missing field `{name}`"
  | .duplicateField name => s!"duplicate field `{name}`"
  | .unknownVariant given known => s!"unknown variant `{given}`, {oneOf known}"
  | .invalidDeviceId id => s!"invalid device id: {id}"

/-- Why reading failed. -/
inductive Error
  | malformed
  | unfinished
  | refused (cause : Refusal)
deriving Repr, DecidableEq

end DeviceLink.Json
