-- The tokens of a whole YAML text. Indentation opens and closes collections, and a value may
-- turn what stands before it on its line into a key after the fact.
import DeviceLink.Yaml.Token

namespace DeviceLink.Yaml

/-- Something that may turn out to be a key. -/
structure KeyStart where
  /-- The number of tokens before it. -/
  tokens : Nat
  place : Place
  /-- Nothing but a key may stand there. -/
  required : Bool
deriving Repr, DecidableEq

/-- A text that is being cut into tokens. -/
structure Lexing where
  cursor : Cursor
  /-- The tokens so far, last first. -/
  done : List Token := []
  count : Nat := 0
  /-- The column of the innermost block collection, -1 outside of all. -/
  indent : Int := -1
  /-- The columns of the block collections around it. -/
  indents : List Int := []
  /-- What may be a key, in the innermost brackets first; one more than there are brackets. -/
  keys : List (Option KeyStart) := [none]
  /-- A key may begin here. -/
  keyAllowed : Bool := true
deriving Repr, DecidableEq

namespace Lexing

/-- Some brackets are open. -/
def inFlow (s : Lexing) : Bool := 1 < s.keys.length

def column (s : Lexing) : Nat := s.cursor.column

/-- Adds a token. -/
def push (s : Lexing) (t : Token) : Lexing :=
  { s with done := t :: s.done, count := s.count + 1 }

/-- Adds a token behind the first `n`. -/
def insert (s : Lexing) (n : Nat) (t : Token) : Lexing :=
  let after := s.count - n
  { s with done := s.done.take after ++ t :: s.done.drop after, count := s.count + 1 }

def goTo (s : Lexing) (c : Cursor) : Lexing := { s with cursor := c }

def skip (s : Lexing) (n : Nat) : Lexing := s.goTo (s.cursor.skip n)

def allowKey (s : Lexing) (allowed : Bool) : Lexing := { s with keyAllowed := allowed }

/-! ## Keys -/

/-- Gives up what may be a key. Fails if it had to be one. -/
def dropKey (s : Lexing) : Option Lexing :=
  match s.keys with
  | some k :: rest => if k.required then none else some { s with keys := none :: rest }
  | _ => some s

/-- Notes that what begins here may be a key. -/
def saveKey (s : Lexing) : Option Lexing :=
  if ¬ s.keyAllowed then some s
  else do
    let required := ¬ s.inFlow ∧ s.indent = s.column
    let s ← s.dropKey
    return { s with keys := some ⟨s.count, s.cursor.place, required⟩ :: s.keys.drop 1 }

/-- A key has to end on its line and within 1024 bytes. -/
def isStale (here : Place) (k : KeyStart) : Bool :=
  k.place.line < here.line || k.place.bytes + 1024 < here.bytes

/-- Gives up whatever has become too long for a key. Fails if one of them had to be a key. -/
def dropStale (s : Lexing) : Option Lexing := do
  let keys ← s.keys.mapM fun k => match k with
    | none => some none
    | some k =>
      if ¬ isStale s.cursor.place k then some (some k) else if k.required then none else some none
  return { s with keys }

/-! ## Indentation -/

/-- Opens a block collection at a column, unless one is open there or brackets are. Its token
goes behind the first `behind` tokens. -/
def openBlock (s : Lexing) (column behind : Nat) (t : Token) : Lexing :=
  if s.inFlow ∨ (column : Int) ≤ s.indent then s
  else { s.insert behind t with indent := column, indents := s.indent :: s.indents }

/-- Closes the block collections right of a column, innermost first. -/
def closeBlocks (s : Lexing) (column : Int) : Lexing :=
  if s.inFlow then s
  else go s s.indents
where
  /-- Closes while there are columns to go back to. -/
  go (s : Lexing) : List Int → Lexing
    | [] => s
    | outer :: rest =>
      if column < s.indent then go { s.push .blockEnd with indent := outer, indents := rest } rest
      else s

/-! ## Steps -/

/-- Goes past blanks, comments and line breaks. Tabs count as blanks only where no key may
begin, and the mark of a byte order only at the beginning of a line. -/
def skipGaps : Nat → Lexing → Option Lexing
  | 0, _ => none
  | fuel + 1, s =>
    let c := s.cursor
    let c := if c.column = 0 ∧ c.at? byteOrderMark then c.skip 1 else c
    let tabs := s.inFlow || !s.keyAllowed
    let c := c.skipWhile fun x => x = ' ' || (tabs && x = '\t')
    let c := if c.at? '#' then c.skipWhile (¬ isBreak ·) else c
    match c.takeBreak? with
    | some (_, c) => skipGaps fuel ({ s with keyAllowed := s.keyAllowed || !s.inFlow }.goTo c)
    | none => some (s.goTo c)

/-- Takes the end of the text. -/
def takeEnd (s : Lexing) : Option Lexing := do
  let s ← (s.closeBlocks (-1)).dropKey
  return (s.allowKey false).push .streamEnd

/-- Takes a directive. -/
def takeDirective (s : Lexing) : Option Lexing := do
  let s ← (s.closeBlocks (-1)).dropKey
  let (t, c) ← directive? (s.cursor.skip 1)
  return ((s.allowKey false).push t).goTo c

/-- Takes the mark at which a document begins or ends. -/
def takeDocumentMark (s : Lexing) (t : Token) : Option Lexing := do
  let s ← (s.closeBlocks (-1)).dropKey
  return ((s.allowKey false).push t).skip 3

/-- Takes a bracket that opens a collection. -/
def takeOpening (s : Lexing) (t : Token) : Option Lexing := do
  let s ← s.saveKey
  return ({ s with keys := none :: s.keys, keyAllowed := true }.push t).skip 1

/-- Takes a bracket that closes a collection. -/
def takeClosing (s : Lexing) (t : Token) : Option Lexing := do
  let s ← s.dropKey
  let keys := if s.inFlow then s.keys.drop 1 else s.keys
  return ({ s with keys, keyAllowed := false }.push t).skip 1

/-- Takes a comma. -/
def takeComma (s : Lexing) : Option Lexing := do
  return (((← s.dropKey).allowKey true).push .flowEntry).skip 1

/-- Takes the dash of an entry. -/
def takeDash (s : Lexing) : Option Lexing := do
  if ¬ s.inFlow ∧ ¬ s.keyAllowed then none
  let s ← (s.openBlock s.column s.count .blockSequenceStart).dropKey
  return ((s.allowKey true).push .blockEntry).skip 1

/-- Takes the question mark of a key. -/
def takeQuestion (s : Lexing) : Option Lexing := do
  if ¬ s.inFlow ∧ ¬ s.keyAllowed then none
  let s ← (s.openBlock s.column s.count .blockMappingStart).dropKey
  return ((s.allowKey (!s.inFlow)).push .key).skip 1

/-- Takes the colon of a value. What was noted before it on the line is the key. -/
def takeColon (s : Lexing) : Option Lexing :=
  match s.keys with
  | some k :: rest =>
    let s := { s with keys := none :: rest }.insert k.tokens .key
    let s := s.openBlock k.place.column k.tokens .blockMappingStart
    some (((s.allowKey false).push .value).skip 1)
  | _ =>
    if ¬ s.inFlow ∧ ¬ s.keyAllowed then none
    else
      let s := s.openBlock s.column s.count .blockMappingStart
      some (((s.allowKey (!s.inFlow)).push .value).skip 1)

/-- Takes a token that may be a key, or belong to one. -/
def takeWord (s : Lexing) (read : Cursor → Option (Token × Cursor)) : Option Lexing := do
  let s ← s.saveKey
  let (t, c) ← read s.cursor
  return ((s.allowKey false).push t).goTo c

/-- Takes a block scalar. -/
def takeBlock (s : Lexing) (style : Style) : Option Lexing := do
  let s ← s.dropKey
  let (text, c) ← blockScalar (style = .folded) s.indent (s.cursor.skip 1)
  return ((s.allowKey true).push (.scalar style (String.ofList text))).goTo c

/-- Takes a quoted scalar. -/
def takeQuoted (s : Lexing) (double : Bool) : Option Lexing :=
  s.takeWord fun c => do
    let (text, c) ← quotedScalar double c.fuel [] (c.skip 1)
    return (.scalar (if double then .double else .single) (String.ofList text), c)

/-- Takes a plain scalar. If line breaks follow it, a key may begin after them. -/
def takePlain (s : Lexing) : Option Lexing := do
  let s ← s.saveKey
  let c := s.cursor
  let (text, broken, c) ← plainScalar s.inFlow (s.indent + 1).toNat c.fuel [] {} c
  return ((s.allowKey broken).push (.scalar .plain (String.ofList text))).goTo c

/-- A plain scalar may begin here. -/
def beginsPlain (flow : Bool) (c : Cursor) : Bool :=
  match c.head? with
  | none => false
  | some x =>
    if x = '-' then ¬ (c.peek 1).any isBlank
    else if x = '?' ∨ x = ':' then ¬ flow ∧ ¬ isGap (c.peek 1)
    else ¬ isGap (some x) ∧ ¬ ",[]\x7b\x7d#&*!|>'\"%@`".toList.contains x

/-- Takes the next token. -/
def next (s : Lexing) : Option Lexing := do
  let s ← s.skipGaps s.cursor.fuel
  let s ← s.dropStale
  let s := s.closeBlocks s.column
  let c := s.cursor
  let marksValue := s.inFlow || isGap (c.peek 1)
  match c.head? with
  | none => s.takeEnd
  | some x =>
    if c.column = 0 ∧ x = '%' then s.takeDirective
    else if c.atIndicator '-' then s.takeDocumentMark .documentStart
    else if c.atIndicator '.' then s.takeDocumentMark .documentEnd
    else if x = '[' then s.takeOpening .flowSequenceStart
    else if x = '\x7b' then s.takeOpening .flowMappingStart
    else if x = ']' then s.takeClosing .flowSequenceEnd
    else if x = '\x7d' then s.takeClosing .flowMappingEnd
    else if x = ',' then s.takeComma
    else if x = '-' ∧ isGap (c.peek 1) then s.takeDash
    else if x = '?' ∧ marksValue then s.takeQuestion
    else if x = ':' ∧ marksValue then s.takeColon
    else if x = '*' then s.takeWord fun c => do
      let (name, c) ← anchorName? (c.skip 1)
      return (.alias name, c)
    else if x = '&' then s.takeWord fun c => do
      let (name, c) ← anchorName? (c.skip 1)
      return (.anchor name, c)
    else if x = '!' then s.takeWord (tag? s.inFlow)
    else if x = '|' ∧ ¬ s.inFlow then s.takeBlock .literal
    else if x = '>' ∧ ¬ s.inFlow then s.takeBlock .folded
    else if x = '\'' then s.takeQuoted false
    else if x = '"' then s.takeQuoted true
    else if beginsPlain s.inFlow c then s.takePlain
    else none

/-- Takes tokens until the end of the text. -/
def run : Nat → Lexing → Option (List Token)
  | 0, _ => none
  | fuel + 1, s => do
    let s ← s.next
    if s.done.head? = some .streamEnd then return s.done.reverse
    run fuel s

end Lexing

/-- The tokens of a text, if it can be cut into tokens. -/
def tokens? (text : List Char) : Option (List Token) :=
  if text.all isAllowed then Lexing.run (text.length + 1) { cursor := { rest := text } } else none

end DeviceLink.Yaml
