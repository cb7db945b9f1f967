import Northbound.Yaml.Token

/-!
# Nodes

Tokens make a document: a tree of scalars, sequences and mappings. An anchor names a node and an
alias stands for a node named before. A text with more than one document is refused.
-/

namespace Northbound.Yaml

/-- A node of a document. -/
inductive Node where
  | scalar (s : Scalar) (tag? : Option Bytes)
  | sequence (items : List Node)
  | mapping (entries : List (Node × Node))
  /-- Stands for the node with a number. -/
  | alias (number : Nat)
deriving Repr

/-- A scalar with its tag. -/
abbrev TaggedScalar := Scalar × Option Bytes

/-- A document. -/
structure Document where
  root : Node
  /-- The scalars that aliases may stand for, by number, latest first. Other nodes that have a
  number are listed without content. -/
  anchored : List (Nat × Option TaggedScalar)

namespace Document

/-- The scalar that a node is or stands for. -/
def scalar? (d : Document) : Node → Option TaggedScalar
  | .scalar s tag? => some (s, tag?)
  | .alias number => (d.anchored.lookup number).join
  | _ => none

end Document

/-- What is known while a document is made of tokens. -/
structure Composer where
  tokens : List Token
  /-- What the handles of tags stand for. -/
  handles : List (String × Bytes) := []
  /-- The numbers of the anchors named so far. -/
  anchors : List (String × Nat) := []
  anchored : List (Nat × Option TaggedScalar) := []

/-- A step of making a document. -/
abbrev Compose (α : Type) := StateT Composer Option α

namespace Compose

/-- Making a document that fails. -/
def refuse {α : Type} : Compose α := fun _ => none

/-- The next token. -/
def peek : Compose (Option Token) := fun c => some (c.tokens.head?, c)

/-- Moves over the next token. -/
def drop : Compose Unit := modify fun c => { c with tokens := c.tokens.drop 1 }

/-- Whether the next token is one of some. -/
def sees (ts : List Token) : Compose Bool := fun c => some (c.tokens.head?.any ts.contains, c)

/-- Moves over a token if it comes next. -/
def skipIf (t : Token) : Compose Bool := do
  if ← sees [t] then
    drop
    return true
  else return false

/-- Moves over a token that has to come next. -/
def expect (t : Token) : Compose Unit := do
  if ← skipIf t then return () else refuse

/-- A node that is not there. -/
def nothing : Node := .scalar { text := "", style := .plain } none

/-- What may stand in front of a node. -/
structure Properties where
  anchor? : Option String := none
  tag? : Option Bytes := none

/-- The tag in full. Its handle has to have a meaning. -/
def fullTag (t : Tag) : Compose Bytes := do
  if t.handle.isEmpty then return t.suffix
  else
    match (← get).handles.lookup t.handle with
    | some start => return start ++ t.suffix
    | none => refuse

/-- Reads an anchor. -/
def anchor? : Compose (Option String) := do
  match ← peek with
  | some (.anchor name) =>
    drop
    return some name
  | _ => return none

/-- Reads a tag. -/
def tag? : Compose (Option Tag) := do
  match ← peek with
  | some (.tag t) =>
    drop
    return some t
  | _ => return none

/-- Reads the properties of a node, in either order. -/
def properties : Compose Properties := do
  match ← anchor? with
  | some name =>
    let t? ← tag?
    return { anchor? := some name, tag? := ← t?.mapM fullTag }
  | none =>
    match ← tag? with
    | none => return {}
    | some t =>
      let name? ← anchor?
      return { anchor? := name?, tag? := some (← fullTag t) }

/-- Names a node. Its number is the number of names there were; a name that is used again moves on
to the new node. -/
def name (anchor? : Option String) (content : Option TaggedScalar) : Compose Unit :=
  match anchor? with
  | none => pure ()
  | some a => modify fun c =>
    let number := c.anchors.length
    { c with
      anchors := (a, number) :: c.anchors.filter (·.1 != a)
      anchored := (number, content) :: c.anchored }

/-- Names a scalar and makes a node of it. -/
def scalarNode (p : Properties) (s : Scalar) : Compose Node := do
  name p.anchor? (some (s, p.tag?))
  return .scalar s p.tag?

mutual

/-- Reads a node. Blocks may not stand inside brackets; the entries of a sequence that is a value
may stand without a block of their own. -/
def node : Nat → Bool → Bool → Compose Node
  | 0, _, _ => refuse
  | fuel + 1, block, dashes => do
    match ← peek with
    | some (.alias a) =>
      drop
      match (← get).anchors.lookup a with
      | some number => return .alias number
      | none => refuse
    | _ => content fuel block dashes (← properties)

/-- Reads a node behind its properties. -/
def content : Nat → Bool → Bool → Properties → Compose Node
  | 0, _, _, _ => refuse
  | fuel + 1, block, dashes, p => do
    match ← peek with
    | some .blockEntry =>
      if dashes then
        name p.anchor? none
        return .sequence (← dashItems fuel)
      else bare p
    | some (.scalar s) =>
      drop
      scalarNode p s
    | some .flowSequenceStart =>
      drop
      name p.anchor? none
      return .sequence (← flowItems fuel true)
    | some .flowMappingStart =>
      drop
      name p.anchor? none
      return .mapping (← flowPairs fuel true)
    | some .blockSequenceStart =>
      if block then
        drop
        name p.anchor? none
        return .sequence (← blockItems fuel)
      else bare p
    | some .blockMappingStart =>
      if block then
        drop
        name p.anchor? none
        return .mapping (← blockPairs fuel)
      else bare p
    | _ => bare p

/-- A node that consists of properties only. -/
def bare (p : Properties) : Compose Node :=
  if p.anchor?.isNone && p.tag?.isNone then refuse
  else scalarNode p { text := "", style := .plain }

/-- Reads a node unless one of some tokens comes next. -/
def nodeUnless : Nat → Bool → Bool → List Token → Compose Node
  | 0, _, _, _ => refuse
  | fuel + 1, block, dashes, ends => do
    if ← sees ends then return nothing else node fuel block dashes

/-- Reads the entries of a block sequence. -/
def blockItems : Nat → Compose (List Node)
  | 0 => refuse
  | fuel + 1 => do
    if ← skipIf .blockEntry then
      let item ← nodeUnless fuel true false [.blockEntry, .blockEnd]
      return item :: (← blockItems fuel)
    else
      expect .blockEnd
      return []

/-- Reads the entries of a sequence without a block of its own. -/
def dashItems : Nat → Compose (List Node)
  | 0 => refuse
  | fuel + 1 => do
    if ← skipIf .blockEntry then
      let item ← nodeUnless fuel true false [.blockEntry, .key, .value, .blockEnd]
      return item :: (← dashItems fuel)
    else return []

/-- Reads the entries of a block mapping. -/
def blockPairs : Nat → Compose (List (Node × Node))
  | 0 => refuse
  | fuel + 1 => do
    if ← skipIf .key then
      let k ← nodeUnless fuel true true [.key, .value, .blockEnd]
      let v ← valueUnless fuel true [.key, .value, .blockEnd]
      return (k, v) :: (← blockPairs fuel)
    else
      expect .blockEnd
      return []

/-- Reads a value behind its colon, if there is one, unless one of some tokens comes next. -/
def valueUnless : Nat → Bool → List Token → Compose Node
  | 0, _, _ => refuse
  | fuel + 1, block, ends => do
    if ← skipIf .value then nodeUnless fuel block block ends else return nothing

/-- Reads the entries of a sequence in brackets. -/
def flowItems : Nat → Bool → Compose (List Node)
  | 0, _ => refuse
  | fuel + 1, first => do
    if ← skipIf .flowSequenceEnd then return []
    else
      if !first then expect .flowEntry
      if ← skipIf .key then
        let pair ← flowPair fuel
        return .mapping [pair] :: (← flowItems fuel false)
      else if ← skipIf .flowSequenceEnd then return []
      else
        let item ← node fuel false false
        return item :: (← flowItems fuel false)

/-- Reads a pair that is an entry of a sequence in brackets. Without a key, the token behind the
question mark is passed over. -/
def flowPair : Nat → Compose (Node × Node)
  | 0 => refuse
  | fuel + 1 => do
    let k ← if ← sees [.value, .flowEntry, .flowSequenceEnd] then
        drop
        pure nothing
      else node fuel false false
    return (k, ← valueUnless fuel false [.flowEntry, .flowSequenceEnd])

/-- Reads the entries of a mapping in braces. An entry without a question mark or colon is a key. -/
def flowPairs : Nat → Bool → Compose (List (Node × Node))
  | 0, _ => refuse
  | fuel + 1, first => do
    if ← skipIf .flowMappingEnd then return []
    else
      if !first then expect .flowEntry
      if ← skipIf .key then
        let k ← nodeUnless fuel false false [.value, .flowEntry, .flowMappingEnd]
        let v ← valueUnless fuel false [.flowEntry, .flowMappingEnd]
        return (k, v) :: (← flowPairs fuel false)
      else if ← skipIf .flowMappingEnd then return []
      else
        let k ← node fuel false false
        return (k, nothing) :: (← flowPairs fuel false)

end

/-- What handles stand for unless a directive says otherwise. -/
def defaultHandles : List (String × Bytes) :=
  [("!", utf8 "!"), ("!!", utf8 "tag:yaml.org,2002:")]

/-- Whether a version can be read. -/
def isKnownVersion (major minor : Nat) : Bool := major == 1 && (minor == 1 || minor == 2)

/-- Reads directives. A version and the meaning of a handle may be given once. Every round drops a
token, so `fuel` is never used up. -/
def directives : Nat → Bool → List (String × Bytes) → Compose (List (String × Bytes))
  | 0, _, handles => return handles
  | fuel + 1, versioned, handles => do
    match ← peek with
    | some (.directive (.version major minor)) =>
      if versioned || !isKnownVersion major minor then refuse
      else
        drop
        directives fuel true handles
    | some (.directive (.tag handle start)) =>
      if (handles.lookup handle).isSome then refuse
      else
        drop
        directives fuel versioned (handles ++ [(handle, start)])
    | _ => return handles

/-- Whether a token is a directive or starts a document. -/
def opensDocument : Token → Bool
  | .directive _ => true
  | .documentStart => true
  | _ => false

/-- The number of steps that suffice for tokens. -/
def bound : Compose Nat := fun c => some (4 * c.tokens.length + 8, c)

/-- Reads a document that is opened by a mark. -/
def openedDocument : Compose Node := do
  let handles ← directives (← bound) false []
  modify fun c => { c with handles := handles ++ defaultHandles }
  expect .documentStart
  match ← peek with
  | none => return nothing
  | some t =>
    if opensDocument t || t == .documentEnd then return nothing
    else node (← bound) true false

/-- Reads the only document of a text. -/
def document : Compose Document := do
  let root ← if (← peek).any opensDocument then openedDocument
    else
      modify fun c => { c with handles := defaultHandles }
      node (← bound) true false
  modify fun c => { c with tokens := c.tokens.dropWhile (· == .documentEnd) }
  if (← peek).isSome then refuse
  return { root, anchored := (← get).anchored }

end Compose

/-- The document that a text holds. -/
def Document.ofText? (text : String) : Option Document := do
  let tokens ← Token.ofText? text
  return (← Compose.document { tokens }).1

end Northbound.Yaml
