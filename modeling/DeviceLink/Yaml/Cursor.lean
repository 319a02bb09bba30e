-- Places in a YAML text, and the sorts of characters that its grammar tells apart.
namespace DeviceLink.Yaml

/-- A place in a text: how many bytes and lines are before it, and how many characters are before
it on its line. -/
structure Place where
  bytes : Nat := 0
  line : Nat := 0
  column : Nat := 0
deriving Repr, DecidableEq

/-- The rest of a text and the place where it begins. -/
structure Cursor where
  place : Place := {}
  rest : List Char
deriving Repr, DecidableEq

/-! ## Characters -/

/-- The character may stand in a text at all. -/
def isAllowed (c : Char) : Bool :=
  c = '\t' || c = '\n' || c = '\r' || (' ' ≤ c && c ≤ '~') || c = '\u0085' ||
    ('\u00a0' ≤ c && c ≤ '\ufffd') || '\uffff' < c

def isBreak (c : Char) : Bool :=
  c = '\r' || c = '\n' || c = '\u0085' || c = '\u2028' || c = '\u2029'

def isBlank (c : Char) : Bool := c = ' ' || c = '\t'

/-- The length of some characters in bytes. -/
def byteLength (cs : List Char) : Nat := cs.foldl (fun n c => n + c.utf8Size) 0

/-- The character may stand in a name. -/
def isWord (c : Char) : Bool := c.isAlphanum || c = '_' || c = '-'

/-- A blank, a line break or the end of the text. -/
def isGap : Option Char → Bool
  | none => true
  | some c => isBlank c || isBreak c

/-- The mark of a byte order. At the beginning of a line it is passed over, but takes a column. -/
def byteOrderMark : Char := '\ufeff'

namespace Cursor

/-- The character after the next `n`. -/
def peek (c : Cursor) (n : Nat) : Option Char := c.rest[n]?

/-- The next character. -/
def head? (c : Cursor) : Option Char := c.rest.head?

/-- The next character is a given one. -/
def at? (c : Cursor) (x : Char) : Bool := c.head? == some x

def column (c : Cursor) : Nat := c.place.column

/-- Goes past `n` characters of the same line. -/
def skip (c : Cursor) (n : Nat) : Cursor :=
  let bytes := c.place.bytes + byteLength (c.rest.take n)
  ⟨{ c.place with bytes, column := c.place.column + n }, c.rest.drop n⟩

/-- The characters up to the first one that is not of a sort, and the cursor there. They must
not be line breaks. -/
def span (c : Cursor) (p : Char → Bool) : List Char × Cursor :=
  let cs := c.rest.takeWhile p
  (cs, c.skip cs.length)

def skipWhile (c : Cursor) (p : Char → Bool) : Cursor := (c.span p).2

/-- Goes past a line break, if there is one. It counts as a newline unless it is a separator of
lines or paragraphs; a return and a newline count as one. -/
def takeBreak? (c : Cursor) : Option (Char × Cursor) :=
  let next := fun (n : Nat) (rest : List Char) =>
    (⟨⟨c.place.bytes + n, c.place.line + 1, 0⟩, rest⟩ : Cursor)
  match c.rest with
  | '\r' :: '\n' :: rest => some ('\n', next 2 rest)
  | x :: rest =>
    if x = '\u2028' ∨ x = '\u2029' then some (x, next x.utf8Size rest)
    else if isBreak x then some ('\n', next x.utf8Size rest)
    else none
  | [] => none

/-- A line of three dashes or dots, or one that goes on after them, begins here. -/
def atIndicator (c : Cursor) (x : Char) : Bool :=
  c.column = 0 && c.rest.take 3 == [x, x, x] && isGap (c.peek 3)

/-- A document begins or ends here. -/
def atDocument (c : Cursor) : Bool := c.atIndicator '-' || c.atIndicator '.'

/-- Fuel enough for loops that take a character each time. -/
def fuel (c : Cursor) : Nat := c.rest.length + 1

end Cursor

end DeviceLink.Yaml
