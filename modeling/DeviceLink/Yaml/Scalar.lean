-- Scalars of a YAML text: plain ones, quoted ones, and blocks of lines. Lines are folded: a
-- single break counts as a blank, and of more breaks the first is dropped.
import DeviceLink.Yaml.Cursor

namespace DeviceLink.Yaml

/-- The ways to write a scalar. -/
inductive Style
  | plain
  | single
  | double
  | literal
  | folded
deriving Repr, DecidableEq

/-! ## Gaps -/

/-- What stands between two words: blanks on one line, or line breaks. -/
structure Gap where
  blanks : List Char := []
  /-- The first break; it is empty where an escape took it away. -/
  first : Option (List Char) := none
  /-- The breaks after the first. -/
  more : List Char := []
deriving Repr, DecidableEq

/-- The text that a gap amounts to. -/
def Gap.text (g : Gap) : List Char :=
  match g.first with
  | none => g.blanks
  | some ['\n'] => if g.more.isEmpty then [' '] else g.more
  | some b => b ++ g.more

/-- Reads blanks and breaks. A tab left of the column `margin` on a later line is refused. -/
def Gap.scan (margin : Nat) : Nat → Gap → Cursor → Option (Gap × Cursor)
  | 0, _, _ => none
  | fuel + 1, g, c =>
    match c.takeBreak? with
    | some (b, c) =>
      let g := match g.first with
        | none => { g with blanks := [], first := some [b] }
        | some _ => { g with more := g.more ++ [b] }
      Gap.scan margin fuel g c
    | none =>
      match c.head? with
      | some x =>
        if ¬ isBlank x then some (g, c)
        else if g.first.isSome then
          if x = '\t' ∧ c.column < margin then none else Gap.scan margin fuel g (c.skip 1)
        else Gap.scan margin fuel { g with blanks := g.blanks ++ [x] } (c.skip 1)
      | none => some (g, c)

/-! ## Plain scalars -/

def isFlowIndicator (c : Char) : Bool :=
  c = ',' || c = '[' || c = ']' || c = '\x7b' || c = '\x7d'

/-- The characters of a plain scalar up to a gap or to an indicator that ends it. Inside
brackets a colon must not come right before another indicator. -/
def plainWord (flow : Bool) : Nat → List Char → Cursor → Option (List Char × Cursor)
  | 0, _, _ => none
  | fuel + 1, done, c =>
    match c.head? with
    | none => some (done.reverse, c)
    | some x =>
      if isGap (some x) then some (done.reverse, c)
      else if flow ∧ x = ':' ∧ (c.peek 1).any fun y => isFlowIndicator y || y = '?' then none
      else if (x = ':' ∧ isGap (c.peek 1)) ∨ (flow ∧ isFlowIndicator x) then some (done.reverse, c)
      else plainWord flow fuel (x :: done) (c.skip 1)

/-- Reads a plain scalar whose lines stand right of the column `indent - 1`. The flag tells
whether line breaks follow its last word. -/
def plainScalar (flow : Bool) (indent : Nat) :
    Nat → List Char → Gap → Cursor → Option (List Char × Bool × Cursor)
  | 0, _, _, _ => none
  | fuel + 1, done, gap, c =>
    let finished := some (done, gap.first.isSome, c)
    if c.atDocument ∨ c.at? '#' then finished
    else do
      let (word, after) ← plainWord flow c.fuel [] c
      if word.isEmpty then finished
      else
        let done := done ++ gap.text ++ word
        if after.head?.isNone ∨ ¬ isGap after.head? then some (done, false, after)
        else
          let (gap, c) ← Gap.scan indent after.fuel {} after
          if ¬ flow ∧ c.column < indent then some (done, gap.first.isSome, c)
          else plainScalar flow indent fuel done gap c

/-! ## Quoted scalars -/

def hexValue? (c : Char) : Option Nat :=
  if c.isDigit then some (c.toNat - '0'.toNat)
  else if 'a' ≤ c ∧ c ≤ 'f' then some (c.toNat - 'a'.toNat + 10)
  else if 'A' ≤ c ∧ c ≤ 'F' then some (c.toNat - 'A'.toNat + 10)
  else none

/-- The character whose code some hexadecimal digits spell. -/
def codePoint? (digits : List Char) : Option Char := do
  let values ← digits.mapM hexValue?
  let n := values.foldl (fun n d => n * 16 + d) 0
  if n.isValidChar then some (Char.ofNat n) else none

/-- The number of digits that an escape by code has. -/
def codeDigits? (c : Char) : Option Nat :=
  if c = 'x' then some 2 else if c = 'u' then some 4 else if c = 'U' then some 8 else none

/-- The character that a letter after a backslash stands for. -/
def escaped? (c : Char) : Option Char :=
  match c with
  | '0' => some '\x00'
  | 'a' => some '\x07'
  | 'b' => some '\x08'
  | 't' | '\t' => some '\t'
  | 'n' => some '\n'
  | 'v' => some '\x0b'
  | 'f' => some '\x0c'
  | 'r' => some '\r'
  | 'e' => some '\x1b'
  | ' ' | '"' | '/' | '\\' => some c
  | 'N' => some '\u0085'
  | '_' => some '\u00a0'
  | 'L' => some '\u2028'
  | 'P' => some '\u2029'
  | _ => none

/-- Reads an escape that is no escaped break; its backslash is taken. -/
def escape? (c : Cursor) : Option (Char × Cursor) := do
  let x ← c.head?
  match codeDigits? x with
  | some n =>
    let digits := (c.rest.drop 1).take n
    if digits.length < n then none
    return (← codePoint? digits, c.skip (n + 1))
  | none => return (← escaped? x, c.skip 1)

/-- The quote of a quoted scalar. -/
def quoteOf (double : Bool) : Char := if double then '"' else '\''

/-- The characters of a quoted scalar up to a gap or to the closing quote. The flag tells that
an escaped break ended them, which is taken. -/
def quotedWord (double : Bool) : Nat → List Char → Cursor → Option (List Char × Bool × Cursor)
  | 0, _, _ => none
  | fuel + 1, done, c =>
    match c.head? with
    | none => some (done.reverse, false, c)
    | some x =>
      if isGap (some x) then some (done.reverse, false, c)
      else if ¬ double ∧ x = '\'' ∧ c.peek 1 = some '\'' then
        quotedWord double fuel ('\'' :: done) (c.skip 2)
      else if x = quoteOf double then some (done.reverse, false, c)
      else if double ∧ x = '\\' then
        match (c.skip 1).takeBreak? with
        | some (_, c) => some (done.reverse, true, c)
        | none => do
          let (y, c) ← escape? (c.skip 1)
          quotedWord double fuel (y :: done) c
      else quotedWord double fuel (x :: done) (c.skip 1)

/-- Reads a quoted scalar whose opening quote is taken, up to and with its closing quote. -/
def quotedScalar (double : Bool) : Nat → List Char → Cursor → Option (List Char × Cursor)
  | 0, _, _ => none
  | fuel + 1, done, c =>
    if c.atDocument ∨ c.head?.isNone then none
    else do
      let (word, broken, c) ← quotedWord double c.fuel [] c
      let done := done ++ word
      if c.at? (quoteOf double) ∧ ¬ broken then some (done, c.skip 1)
      else
        let start : Gap := if broken then { first := some [] } else {}
        let (gap, c) ← Gap.scan 0 c.fuel start c
        quotedScalar double fuel (done ++ gap.text) c

/-! ## Block scalars -/

/-- What becomes of the line breaks at the end of a block. -/
inductive Chomping
  | strip
  | clip
  | keep
deriving Repr, DecidableEq

/-- Reads the sign in the header of a block. -/
def chomping? (c : Cursor) : Option Chomping × Cursor :=
  if c.at? '+' then (some .keep, c.skip 1)
  else if c.at? '-' then (some .strip, c.skip 1)
  else (none, c)

/-- Reads the digit in the header of a block, which must not be a zero. -/
def increment? (c : Cursor) : Option (Nat × Cursor) :=
  match c.head? with
  | some x =>
    if x = '0' then none
    else if x.isDigit then some (x.toNat - '0'.toNat, c.skip 1)
    else some (0, c)
  | none => some (0, c)

/-- Reads the header of a block: a sign and a digit in either order, and a comment. -/
def blockHeader (c : Cursor) : Option (Chomping × Nat × Cursor) := do
  let (sign, c) := chomping? c
  let (increment, c) ← increment? c
  let (sign, c) := if sign.isNone ∧ increment ≠ 0 then chomping? c else (sign, c)
  let c := c.skipWhile isBlank
  let c := if c.at? '#' then c.skipWhile (¬ isBreak ·) else c
  match c.takeBreak? with
  | some (_, c) => some (sign.getD .clip, increment, c)
  | none => if c.head?.isNone then some (sign.getD .clip, increment, c) else none

/-- Reads the indentation of a line of a block and any empty lines before it. While the
indentation is not known (`none`), all blanks belong to it, and the widest is reported. -/
def blockBreaks (indent : Option Nat) :
    Nat → Nat → List Char → Cursor → Option (List Char × Nat × Cursor)
  | 0, _, _, _ => none
  | fuel + 1, widest, breaks, c =>
    let spaces := (c.rest.takeWhile (· = ' ')).length
    let c := c.skip (match indent with
      | none => spaces
      | some n => min spaces (n - c.column))
    let widest := max widest c.column
    if c.at? '\t' ∧ (indent.all fun n => c.column < n) then none
    else
      match c.takeBreak? with
      | some (b, c) => blockBreaks indent fuel widest (breaks ++ [b]) c
      | none => some (breaks, widest, c)

/-- A block while it is read: its text, the break after its last line, and the breaks of the
empty lines after that. -/
structure Block where
  text : List Char := []
  last : List Char := []
  empties : List Char := []
  /-- The last line begins with a blank. -/
  blank : Bool := false
deriving Repr, DecidableEq

/-- The text up to the beginning of a further line. -/
def Block.joined (b : Block) (folded blank : Bool) : List Char :=
  if folded ∧ b.last = ['\n'] ∧ ¬ b.blank ∧ ¬ blank then
    b.text ++ (if b.empties.isEmpty then [' '] else []) ++ b.empties
  else b.text ++ b.last ++ b.empties

/-- Reads the lines of a block that stand at the column `indent`. -/
def blockLines (folded : Bool) (indent : Nat) : Nat → Block → Cursor → Option (Block × Cursor)
  | 0, _, _ => none
  | fuel + 1, b, c =>
    if c.column = indent ∧ c.head?.isSome then do
      let blank := c.head?.any isBlank
      let text := b.joined folded blank
      let (line, c) := c.span (¬ isBreak ·)
      let (last, c) := match c.takeBreak? with
        | some (x, c) => ([x], c)
        | none => ([], c)
      let (empties, _, c) ← blockBreaks (some indent) c.fuel 0 [] c
      blockLines folded indent fuel ⟨text ++ line, last, empties, blank⟩ c
    else some (b, c)

/-- Reads a block whose indicator is taken, inside a collection at the column `outer` (-1 where
there is none). -/
def blockScalar (folded : Bool) (outer : Int) (c : Cursor) : Option (List Char × Cursor) := do
  let (chomping, increment, c) ← blockHeader c
  let given := if increment = 0 then none else some (outer.toNat + increment)
  let (empties, widest, c) ← blockBreaks given c.fuel 0 [] c
  let indent := given.getD (max widest (max (outer + 1).toNat 1))
  let (b, c) ← blockLines folded indent c.fuel { empties } c
  let text := match chomping with
    | .strip => b.text
    | .clip => b.text ++ b.last
    | .keep => b.text ++ b.last ++ b.empties
  return (text, c)

end DeviceLink.Yaml
