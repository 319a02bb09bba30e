-- The tokens of a YAML text, and the reading of those that are names: anchors, tags and
-- directives.
import DeviceLink.Text.Utf8
import DeviceLink.Yaml.Scalar

namespace DeviceLink.Yaml

/-- The tokens. Those with `block` in their name come from indentation. -/
inductive Token
  | streamEnd
  | version (major minor : Nat)
  /-- Says what a tag handle stands for. -/
  | handle (name : String) (expansion : Bytes)
  | documentStart
  | documentEnd
  | blockSequenceStart
  | blockMappingStart
  | blockEnd
  | flowSequenceStart
  | flowSequenceEnd
  | flowMappingStart
  | flowMappingEnd
  | blockEntry
  | flowEntry
  | key
  | value
  | alias (name : String)
  | anchor (name : String)
  /-- A tag; its handle is empty where the rest is all of it. -/
  | tag (handle : String) (rest : Bytes)
  | scalar (style : Style) (text : String)
deriving Repr, DecidableEq

/-! ## Anchors and aliases -/

/-- The character may follow the name of an anchor. -/
def endsName (x : Option Char) : Bool :=
  isGap x || x.any fun c => "?:,]\x7d%@`".toList.contains c

/-- Reads the name of an anchor or an alias, its sign being taken. -/
def anchorName? (c : Cursor) : Option (String × Cursor) :=
  let (name, c) := c.span isWord
  if name.isEmpty ∨ ¬ endsName c.head? then none else some (String.ofList name, c)

/-! ## Tags -/

/-- The character may stand in a tag. -/
def isTagChar (verbatim : Bool) (c : Char) : Bool :=
  isWord c || ";/?:@&=+$.%!~*'()".toList.contains c ||
    (verbatim && (c = ',' || c = '[' || c = ']'))

/-- Reads a byte that is spelt with a percent sign and two digits. -/
def percentByte? (c : Cursor) : Option (UInt8 × Cursor) := do
  if ¬ c.at? '%' then none
  let high ← hexValue? (← c.peek 1)
  let low ← hexValue? (← c.peek 2)
  return (UInt8.ofNat (high * 16 + low), c.skip 3)

/-- How many bytes come after a byte that begins a character. -/
def trailing? (b : UInt8) : Option Nat :=
  if b < 0x80 then some 0
  else if b < 0xC0 then none
  else if b < 0xE0 then some 1
  else if b < 0xF0 then some 2
  else if b < 0xF8 then some 3
  else none

/-- Reads `n` spelt bytes, each of which goes on with a character. -/
def trailingBytes? : Nat → Cursor → Option (Bytes × Cursor)
  | 0, c => some ([], c)
  | n + 1, c => do
    let (b, c) ← percentByte? c
    if b < 0x80 ∨ 0xC0 ≤ b then none
    let (bs, c) ← trailingBytes? n c
    return (b :: bs, c)

/-- Reads a character whose bytes are spelt. It need not be one that text may hold: only the form
of its bytes counts. -/
def percentBytes? (c : Cursor) : Option (Bytes × Cursor) := do
  let (b, c) ← percentByte? c
  let (bs, c) ← trailingBytes? (← trailing? b) c
  return (b :: bs, c)

/-- Reads the characters of a tag, after some that are read. -/
def tagChars (verbatim : Bool) : Nat → Bytes → Cursor → Option (Bytes × Cursor)
  | 0, _, _ => none
  | fuel + 1, done, c =>
    match c.head? with
    | none => some (done, c)
    | some x =>
      if ¬ isTagChar verbatim x then some (done, c)
      else if x = '%' then do
        let (bs, c) ← percentBytes? c
        tagChars verbatim fuel (done ++ bs) c
      else tagChars verbatim fuel (done ++ String.utf8EncodeChar x) (c.skip 1)

/-- What counts of the characters of a tag: those before the first zero byte. -/
def tagText (bs : Bytes) : Bytes := bs.takeWhile (· ≠ 0)

/-- Reads a handle: an exclamation mark, or two of them with a name or nothing between. -/
def tagHandle? (c : Cursor) : Option (List Char × Cursor) :=
  if ¬ c.at? '!' then none
  else
    let (name, c) := (c.skip 1).span isWord
    if c.at? '!' then some ('!' :: name ++ ['!'], c.skip 1) else some ('!' :: name, c)

/-- The tag that is only an exclamation mark. -/
def bareTag : Bytes := Text.utf8 "!"

/-- A tag must end where something else may begin. -/
def tagEnds (flow : Bool) (c : Cursor) : Bool := isGap c.head? || (flow && c.at? ',')

/-- Reads a tag. -/
def tag? (flow : Bool) (c : Cursor) : Option (Token × Cursor) := do
  let (token, c) ←
    if c.peek 1 = some '<' then do
      let start := c.skip 2
      let (text, c) ← tagChars true start.fuel [] start
      if text.isEmpty ∨ ¬ c.at? '>' then none
      pure (Token.tag "" (tagText text), c.skip 1)
    else do
      let (handle, c) ← tagHandle? c
      if 1 < handle.length ∧ handle.getLast? = some '!' then
        let (text, c) ← tagChars false c.fuel [] c
        if text.isEmpty then none
        pure (Token.tag (String.ofList handle) (tagText text), c)
      else
        let (text, c) ← tagChars false c.fuel (Text.encodeChars (handle.drop 1)) c
        let text := tagText text
        pure (if text.isEmpty then Token.tag "" bareTag else Token.tag "!" text, c)
  if tagEnds flow c then some (token, c) else none

/-! ## Directives -/

/-- Reads a number of at most nine digits. -/
def versionNumber? (c : Cursor) : Option (Nat × Cursor) :=
  let (digits, c) := c.span Char.isDigit
  if digits.isEmpty ∨ 9 < digits.length then none
  else some (digits.foldl (fun n d => n * 10 + (d.toNat - '0'.toNat)) 0, c)

/-- Reads a version after blanks. -/
def version? (c : Cursor) : Option (Token × Cursor) := do
  let (major, c) ← versionNumber? (c.skipWhile isBlank)
  if ¬ c.at? '.' then none
  let (minor, c) ← versionNumber? (c.skip 1)
  return (.version major minor, c)

/-- Reads a handle and what it stands for, after blanks. -/
def handleDirective? (c : Cursor) : Option (Token × Cursor) := do
  let (handle, c) ← tagHandle? (c.skipWhile isBlank)
  if handle ≠ ['!'] ∧ handle.getLast? ≠ some '!' then none
  if ¬ c.head?.any isBlank then none
  let c := c.skipWhile isBlank
  let (text, c) ← tagChars true c.fuel [] c
  if text.isEmpty ∨ ¬ isGap c.head? then none
  return (.handle (String.ofList handle) (tagText text), c)

/-- Reads a directive with the rest of its line, its percent sign being taken. -/
def directive? (c : Cursor) : Option (Token × Cursor) := do
  let (name, c) := c.span isWord
  if ¬ isGap c.head? then none
  let (token, c) ←
    if name = "YAML".toList then version? c
    else if name = "TAG".toList then handleDirective? c
    else none
  let c := c.skipWhile isBlank
  let c := if c.at? '#' then c.skipWhile (¬ isBreak ·) else c
  match c.takeBreak? with
  | some (_, c) => some (token, c)
  | none => if c.head?.isNone then some (token, c) else none

end DeviceLink.Yaml
