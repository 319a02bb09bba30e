-- The nodes of a YAML document, read from its tokens. An anchor takes a slot: the one whose number
-- is the count of different names before it. An alias stands for the slot that its name has there,
-- and so for the last node of the whole document whose anchor takes that slot.
import DeviceLink.Yaml.TokenStream

namespace DeviceLink.Yaml

/-- A part of a document. -/
inductive Node
  | scalar (tag : Option Bytes) (style : Style) (text : String)
  | sequence (items : List Node)
  | mapping (entries : List (Node × Node))
  /-- The node in a slot. -/
  | alias (slot : Nat)
deriving Repr, Inhabited

/-- A document: its root, unless it is empty, and its nodes with anchors. These are counted in the
order in which they begin. -/
structure Document where
  root : Option Node
  /-- The nodes with anchors by their numbers. -/
  anchored : List (Nat × Node) := []
  /-- The slots that the anchors took and the numbers of their nodes, the last anchor first. -/
  slots : List (Nat × Nat) := []
deriving Repr

/-- The node in a slot: that of the last anchor that took it. -/
def Document.atSlot (d : Document) (slot : Nat) : Option Node :=
  d.slots.lookup slot >>= fun number => d.anchored.lookup number

/-- A scalar that is not there. -/
def Node.empty : Node := .scalar none .plain ""

/-! ## Reading tokens -/

/-- What is left of the tokens of a document, and what was learnt on the way. -/
structure Reading where
  tokens : List Token
  /-- The slots of the names seen so far, each name once. -/
  names : List (String × Nat) := []
  anchored : List (Nat × Node) := []
  /-- The slots that the anchors took and the numbers of their nodes, the last anchor first. -/
  slots : List (Nat × Nat) := []
  /-- What the tag handles stand for. -/
  handles : List (String × Bytes) := []

/-- Reads a part of a document. -/
abbrev Parse (α : Type) := StateT Reading Option α

namespace Parse

/-- The next token, which stays. -/
def peek : Parse Token := do
  match (← get).tokens with
  | t :: _ => return t
  | [] => failure

def drop : Parse Unit := modify fun r => { r with tokens := r.tokens.drop 1 }

/-- The next token is one of these. -/
def among (ts : List Token) : Parse Bool := do return ts.contains (← peek)

/-- Takes a given token; anything else is an error. -/
def expect (t : Token) : Parse Unit := do
  if (← peek) = t then drop else failure

/-- Takes a given token, if it is the next. -/
def accept (t : Token) : Parse Bool := do
  if (← peek) = t then
    drop
    return true
  else return false

/-- Reads anchors and tags in front of a node, at most one of each. -/
def properties : Parse (Option String × Option (String × Bytes)) := do
  let first ← peek
  match first with
  | .anchor name =>
    drop
    match ← peek with
    | .tag handle rest =>
      drop
      return (some name, some (handle, rest))
    | _ => return (some name, none)
  | .tag handle rest =>
    drop
    match ← peek with
    | .anchor name =>
      drop
      return (some name, some (handle, rest))
    | _ => return (none, some (handle, rest))
  | _ => return (none, none)

/-- The full text of a tag. A handle must be known. -/
def expand : Option (String × Bytes) → Parse (Option Bytes)
  | none => return none
  | some ("", rest) => return some rest
  | some (handle, rest) => do
    match (← get).handles.lookup handle with
    | some expansion => return some (expansion ++ rest)
    | none => failure

/-- Gives an anchor its slot. The result is the number of its node. -/
def declare (name : String) : Parse Nat := do
  let r ← get
  let slot := r.names.length
  let number := r.slots.length
  let others := r.names.filter (·.1 ≠ name)
  set { r with names := (name, slot) :: others, slots := (slot, number) :: r.slots }
  return number

/-- Keeps a node that has an anchor. -/
def keep (number : Option Nat) (node : Node) : Parse Node := do
  match number with
  | none => return node
  | some n =>
    modify fun r => { r with anchored := (n, node) :: r.anchored }
    return node

/-- The tokens that end a part of a block mapping. -/
def blockStops : List Token := [.key, .value, .blockEnd]

mutual

/-- Reads a node. Block collections are allowed only where `block` says so, and entries without
indentation of their own only where `indentless` does. -/
def node : Nat → Bool → Bool → Parse Node
  | 0, _, _ => failure
  | fuel + 1, block, indentless => do
    match ← peek with
    | .alias name =>
      drop
      match (← get).names.lookup name with
      | some n => return .alias n
      | none => failure
    | _ =>
      let (anchor, tag) ← properties
      let full ← expand tag
      let number ← match anchor with
        | some name => some <$> declare name
        | none => pure none
      match ← peek with
      | .scalar style text =>
        drop
        keep number (.scalar (full.filter (· ≠ bareTag)) style text)
      | .blockEntry =>
        if indentless then keep number (.sequence (← entries fuel true []))
        else if anchor.isSome ∨ tag.isSome then keep number (.scalar full .plain "")
        else failure
      | .flowSequenceStart =>
        drop
        keep number (.sequence (← flowItems fuel []))
      | .flowMappingStart =>
        drop
        keep number (.mapping (← flowMembers fuel []))
      | .blockSequenceStart =>
        if block then
          drop
          keep number (.sequence (← entries fuel false []))
        else if anchor.isSome ∨ tag.isSome then keep number (.scalar full .plain "")
        else failure
      | .blockMappingStart =>
        if block then
          drop
          keep number (.mapping (← members fuel []))
        else if anchor.isSome ∨ tag.isSome then keep number (.scalar full .plain "")
        else failure
      | _ =>
        if anchor.isSome ∨ tag.isSome then keep number (.scalar full .plain "") else failure

/-- Reads a node, unless one of the given tokens shows that it is left out. -/
def nodeUnless : Nat → Bool → Bool → List Token → Parse Node
  | 0, _, _, _ => failure
  | fuel + 1, block, indentless, stops => do
    if ← among stops then return .empty else node fuel block indentless

/-- Reads the entries of a block sequence; without indentation, what is no entry ends it. -/
def entries : Nat → Bool → List Node → Parse (List Node)
  | 0, _, _ => failure
  | fuel + 1, indentless, done => do
    if ← accept .blockEntry then
      let stops := if indentless then .blockEntry :: blockStops else [.blockEntry, .blockEnd]
      let x ← nodeUnless fuel true false stops
      entries fuel indentless (x :: done)
    else
      if ¬ indentless then expect .blockEnd
      return done.reverse

/-- Reads the members of a block mapping. -/
def members : Nat → List (Node × Node) → Parse (List (Node × Node))
  | 0, _ => failure
  | fuel + 1, done => do
    if ← accept .key then
      let k ← nodeUnless fuel true true blockStops
      let v ← if ← accept .value then nodeUnless fuel true true blockStops else pure .empty
      members fuel ((k, v) :: done)
    else
      expect .blockEnd
      return done.reverse

/-- Reads the items of a sequence in brackets. A key makes an item a mapping of one member; where
the key is left out, the token that shows it goes with it. -/
def flowItems : Nat → List Node → Parse (List Node)
  | 0, _ => failure
  | fuel + 1, done => do
    if ← accept .flowSequenceEnd then return done.reverse
    if ¬ done.isEmpty then expect .flowEntry
    if ← accept .flowSequenceEnd then return done.reverse
    let x ←
      if ← accept .key then
        let k ←
          if ← among [.value, .flowEntry, .flowSequenceEnd] then do
            drop
            pure .empty
          else node fuel false false
        let v ←
          if ← accept .value then nodeUnless fuel false false [.flowEntry, .flowSequenceEnd]
          else pure .empty
        pure (.mapping [(k, v)])
      else node fuel false false
    flowItems fuel (x :: done)

/-- Reads the members of a mapping in brackets. A member without a key mark has no value. -/
def flowMembers : Nat → List (Node × Node) → Parse (List (Node × Node))
  | 0, _ => failure
  | fuel + 1, done => do
    if ← accept .flowMappingEnd then return done.reverse
    if ¬ done.isEmpty then expect .flowEntry
    if ← accept .flowMappingEnd then return done.reverse
    let member ←
      if ← accept .key then
        let k ← nodeUnless fuel false false [.value, .flowEntry, .flowMappingEnd]
        let v ←
          if ← accept .value then nodeUnless fuel false false [.flowEntry, .flowMappingEnd]
          else pure .empty
        pure (k, v)
      else
        let k ← node fuel false false
        pure (k, .empty)
    flowMembers fuel (member :: done)

end

/-- The handles that are always known. -/
def standardHandles : List (String × Bytes) :=
  [("!", bareTag), ("!!", Text.utf8 "tag:yaml.org,2002:")]

/-- Reads the directives in front of a document. A handle may be given a meaning once. -/
def directives : Nat → Bool → List (String × Bytes) → Parse (List (String × Bytes))
  | 0, _, _ => failure
  | fuel + 1, versioned, handles => do
    match ← peek with
    | .version major minor =>
      if versioned ∨ major ≠ 1 ∨ ¬ (minor = 1 ∨ minor = 2) then failure
      drop
      directives fuel true handles
    | .handle name expansion =>
      if (handles.lookup name).isSome then failure
      drop
      directives fuel versioned ((name, expansion) :: handles)
    | _ => return handles

/-- The next token begins a directive. -/
def atDirective : Parse Bool := do
  match ← peek with
  | .version .. | .handle .. => return true
  | _ => return false

/-- Reads a whole stream of one document, or none. Without a mark at its beginning a document has
no directives; after its end only the end of the stream may come. -/
def document (fuel : Nat) : Parse Document := do
  if (← peek) = .streamEnd then return { root := none }
  let directed ← atDirective
  let given ← directives fuel false []
  modify fun r => { r with handles := given ++ standardHandles }
  let marked ← accept .documentStart
  if directed ∧ ¬ marked then failure
  let stops : List Token := [.documentStart, .documentEnd, .streamEnd]
  let root ←
    if marked ∧ ((← among stops) ∨ (← atDirective)) then pure .empty
    else node fuel true false
  let r ← get
  let rest := r.tokens.dropWhile (· = .documentEnd)
  if rest = [.streamEnd] then return ⟨some root, r.anchored, r.slots⟩ else failure

end Parse

/-- The only document of a text. -/
def Document.ofText? (text : String) : Option Document := do
  let tokens ← tokens? text.toList
  let (document, _) ← (Parse.document (4 * tokens.length + 4)).run { tokens }
  return document

end DeviceLink.Yaml
