-- Addresses of endpoints: IPv4 and IPv6 addresses, and such an address with a port. Reading is
-- strict. Writing gives the canonical form, in which `::` stands for the longest run of zeros.
namespace DeviceLink.Network

/-- An IP address: four bytes, or eight groups of sixteen bits. -/
inductive Address
  | v4 (a b c d : UInt8)
  | v6 (groups : List UInt16)
deriving Repr, DecidableEq

/-- An address with a port. An address of eight groups may belong to a scope, whose number is not
zero. -/
structure Endpoint where
  address : Address
  port : UInt16
  scope : UInt32 := 0
deriving Repr, DecidableEq

/-- Reads a part of a text: what it is and what follows it. -/
abbrev Scan (α : Type) := List Char → Option (α × List Char)

/-! ## Reading -/

/-- Reads a given character. -/
def scanChar (c : Char) : Scan Unit
  | d :: rest => if d = c then some ((), rest) else none
  | [] => none

/-- The value of a digit in the given base. -/
def digitValue? (base : Nat) (c : Char) : Option Nat :=
  let n :=
    if '0' ≤ c ∧ c ≤ '9' then c.toNat - '0'.toNat
    else if 'a' ≤ c ∧ c ≤ 'f' then c.toNat - 'a'.toNat + 10
    else if 'A' ≤ c ∧ c ≤ 'F' then c.toNat - 'A'.toNat + 10
    else base
  if n < base then some n else none

/-- Reads a number in the given base with at least one digit. It is below `bound` and, where the
number of digits has a limit, within that. -/
def scanNumber (base bound : Nat) (digits? : Option Nat) : Scan Nat := fun cs =>
  let digits := cs.takeWhile fun c => (digitValue? base c).isSome
  let n := digits.foldl (fun n c => n * base + (digitValue? base c).getD 0) 0
  if digits.isEmpty ∨ bound ≤ n ∨ (digits?.any (· < digits.length)) then none
  else some (n, cs.drop digits.length)

/-- Reads a byte in decimal, without needless zeros in front. -/
def scanOctet : Scan UInt8 := fun cs => do
  let (n, rest) ← scanNumber 10 256 (some 3) cs
  if cs.head? = some '0' ∧ rest.length + 1 < cs.length then none
  return (UInt8.ofNat n, rest)

/-- Reads four bytes with dots between them. -/
def scanV4 : Scan Address := fun cs => do
  let (a, cs) ← scanOctet cs
  let ((), cs) ← scanChar '.' cs
  let (b, cs) ← scanOctet cs
  let ((), cs) ← scanChar '.' cs
  let (c, cs) ← scanOctet cs
  let ((), cs) ← scanChar '.' cs
  let (d, cs) ← scanOctet cs
  return (.v4 a b c d, cs)

/-- The two groups that four bytes make. -/
def groupsOf : Address → List UInt16
  | .v4 a b c d =>
    [UInt16.ofNat (a.toNat * 256 + b.toNat), UInt16.ofNat (c.toNat * 256 + d.toNat)]
  | .v6 groups => groups

/-- Takes a colon, except in front of the first group. -/
def scanSeparator (first : Bool) : Scan Unit := fun cs =>
  if first then some ((), cs) else scanChar ':' cs

/-- The address of four bytes at the front, after a colon unless it comes first. -/
def scanTail (first : Bool) : Scan Address := fun cs => do
  let ((), cs) ← scanSeparator first cs
  scanV4 cs

/-- The group at the front, after a colon unless it comes first. -/
def scanGroup (first : Bool) : Scan UInt16 := fun cs => do
  let ((), cs) ← scanSeparator first cs
  let (n, cs) ← scanNumber 16 65536 (some 4) cs
  return (UInt16.ofNat n, cs)

/-- Reads at most `room` groups, as many as there are. Where two or more may still come, an
address of four bytes may stand for the last two; the flag tells that one did. -/
def scanGroups (first : Bool) : Nat → List Char → List UInt16 × Bool × List Char
  | 0, cs => ([], false, cs)
  | room + 1, cs =>
    match if room = 0 then none else scanTail first cs with
    | some (a, rest) => (groupsOf a, true, rest)
    | none =>
      match scanGroup first cs with
      | none => ([], false, cs)
      | some (g, rest) =>
        let (gs, v4, rest) := scanGroups false room rest
        (g :: gs, v4, rest)

/-- Reads eight groups, or fewer with `::` for at least one group of zeros. -/
def scanV6 : Scan Address := fun cs =>
  let (front, v4, rest) := scanGroups true 8 cs
  if front.length = 8 then some (.v6 front, rest)
  else if v4 then none
  else do
    let ((), rest) ← scanChar ':' rest
    let ((), rest) ← scanChar ':' rest
    let (back, _, rest) := scanGroups true (7 - front.length) rest
    return (.v6 (front ++ List.replicate (8 - front.length - back.length) 0 ++ back), rest)

/-- Reads an address at the front. -/
def scanAddress : Scan Address := fun cs => scanV4 cs <|> scanV6 cs

/-- Reads a colon and a port. -/
def scanPort : Scan UInt16 := fun cs => do
  let ((), cs) ← scanChar ':' cs
  let (n, cs) ← scanNumber 10 65536 none cs
  return (UInt16.ofNat n, cs)

/-- Reads a percent sign and the number of a scope. Where there is none the number is zero. -/
def scanScope : Scan UInt32 := fun cs =>
  match scanChar '%' cs >>= fun ((), cs) => scanNumber 10 UInt32.size none cs with
  | some (n, rest) => some (UInt32.ofNat n, rest)
  | none => some (0, cs)

/-- The address that a whole text spells. -/
def Address.ofText? (s : String) : Option Address :=
  match scanAddress s.toList with
  | some (a, []) => some a
  | _ => none

/-- Reads an address with a port; one of eight groups stands in brackets, with its scope. -/
def scanEndpoint : Scan Endpoint := fun cs =>
  match scanV4 cs with
  | some (address, cs) => do
    let (port, cs) ← scanPort cs
    return ({ address, port }, cs)
  | none => do
    let ((), cs) ← scanChar '[' cs
    let (address, cs) ← scanV6 cs
    let (scope, cs) ← scanScope cs
    let ((), cs) ← scanChar ']' cs
    let (port, cs) ← scanPort cs
    return ({ address, port, scope }, cs)

/-- The address and port that a whole text spells. -/
def Endpoint.ofText? (s : String) : Option Endpoint :=
  match scanEndpoint s.toList with
  | some (e, []) => some e
  | _ => none

/-! ## Writing -/

/-- Four bytes with dots between them. -/
def dotted (a b c d : UInt8) : String :=
  String.intercalate "." ([a, b, c, d].map fun n => toString n.toNat)

/-- A group in lower-case hexadecimal. -/
def groupText (g : UInt16) : String := String.ofList (Nat.toDigits 16 g.toNat)

/-- Groups with colons between them. -/
def groupsText (gs : List UInt16) : String := String.intercalate ":" (gs.map groupText)

/-- The start and the length of the first of the longest runs of zeros. The run that ends at the
place `place` has the length `run`. -/
def longestZeros (place run : Nat) (best : Nat × Nat) : List UInt16 → Nat × Nat
  | [] => best
  | g :: gs =>
    if g = 0 then
      let run := run + 1
      longestZeros (place + 1) run (if best.2 < run then (place + 1 - run, run) else best) gs
    else longestZeros (place + 1) 0 best gs

/-- The text of an address. -/
def Address.text : Address → String
  | .v4 a b c d => dotted a b c d
  | .v6 [0, 0, 0, 0, 0, 0xFFFF, x, y] =>
    "::ffff:" ++ dotted (UInt8.ofNat (x.toNat / 256)) (UInt8.ofNat x.toNat)
      (UInt8.ofNat (y.toNat / 256)) (UInt8.ofNat y.toNat)
  | .v6 gs =>
    let (start, run) := longestZeros 0 0 (0, 0) gs
    if 1 < run then groupsText (gs.take start) ++ "::" ++ groupsText (gs.drop (start + run))
    else groupsText gs

/-- The text of an address with a port, and with its scope if it has one. -/
def Endpoint.text (e : Endpoint) : String :=
  match e.address with
  | .v4 .. => s!"{e.address.text}:{e.port.toNat}"
  | .v6 _ =>
    let scope := if e.scope = 0 then "" else s!"%{e.scope.toNat}"
    s!"[{e.address.text}{scope}]:{e.port.toNat}"

end DeviceLink.Network
