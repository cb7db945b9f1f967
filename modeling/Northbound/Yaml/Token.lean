import Northbound.Yaml.Property
import Northbound.Yaml.Scalar

/-!
# Tokens

A text is cut into tokens. Indentation becomes tokens that open and close blocks, and a text in
front of a colon becomes a key: where one might start, its place is remembered, and the key token is
put in there when the colon is found, on the same line and not too far away.
-/

namespace Northbound.Yaml

/-- A token. -/
inductive Token where
  | directive (d : Directive)
  | documentStart
  | documentEnd
  | blockSequenceStart
  | blockMappingStart
  | blockEnd
  | flowSequenceStart
  | flowSequenceEnd
  | flowMappingStart
  | flowMappingEnd
  | blockEntry
  | flowEntry
  | key
  | value
  | alias (name : String)
  | anchor (name : String)
  | tag (t : Tag)
  | scalar (s : Scalar)
deriving DecidableEq, Repr

/-- A place where a key may have started. -/
structure KeyStart where
  /-- The number of tokens in front of it. -/
  position : Nat
  index : Nat
  line : Nat
  column : Nat
  /-- Whether nothing but a key may start here. -/
  required : Bool

/-- What is known while a text is cut into tokens. -/
structure Lexer where
  cursor : Cursor
  tokens : List Token := []
  /-- The columns of the open blocks, innermost first. -/
  blocks : List Nat := []
  /-- The key that may have started outside of brackets. -/
  outerKey? : Option KeyStart := none
  /-- For each open bracket, innermost first, the key that may have started in it. -/
  flowKeys : List (Option KeyStart) := []
  /-- Whether a key may start here. -/
  keyAllowed : Bool := true

namespace Lexer

/-- Whether the text read is inside brackets. -/
def inFlow (l : Lexer) : Bool := !l.flowKeys.isEmpty

/-- The key that may have started in the innermost brackets. -/
def keyStart? (l : Lexer) : Option KeyStart :=
  match l.flowKeys with
  | [] => l.outerKey?
  | k :: _ => k

/-- Remembers or forgets a key that may have started. -/
def setKeyStart (l : Lexer) (k : Option KeyStart) : Lexer :=
  match l.flowKeys with
  | [] => { l with outerKey? := k }
  | _ :: rest => { l with flowKeys := k :: rest }

def push (l : Lexer) (t : Token) : Lexer := { l with tokens := l.tokens ++ [t] }

/-- Puts a token behind the first `n`. -/
def insert (l : Lexer) (n : Nat) (t : Token) : Lexer :=
  { l with tokens := l.tokens.take n ++ t :: l.tokens.drop n }

/-- The lexer with its cursor moved over `n` characters. -/
def skip (l : Lexer) (n : Nat := 1) : Lexer := { l with cursor := l.cursor.skip n }

/-- The farthest that a key may be from its colon, in bytes. -/
def maxKey : Nat := 1024

/-- Whether a key that may have started at `k` cannot be one any more. -/
def isStale (c : Cursor) (k : KeyStart) : Bool := k.line < c.line || k.index + maxKey < c.index

/-- Forgets a key that cannot be one any more, which must not have been required. -/
def dropStale? (c : Cursor) (k : Option KeyStart) : Option (Option KeyStart) :=
  match k with
  | none => some none
  | some k =>
    if !isStale c k then some (some k) else if k.required then none else some none

/-- Forgets all keys that cannot be keys any more. -/
def dropStaleKeys (l : Lexer) : Option Lexer := do
  let outerKey? ← dropStale? l.cursor l.outerKey?
  let flowKeys ← l.flowKeys.mapM (dropStale? l.cursor)
  return { l with outerKey?, flowKeys }

/-- Forgets the key that may have started in the innermost brackets. -/
def dropKey (l : Lexer) : Option Lexer :=
  if l.keyStart?.any (·.required) then none else some (l.setKeyStart none)

/-- Whether a column is deeper than the innermost block. -/
def isDeeper (l : Lexer) (column : Nat) : Bool := l.blocks.head?.all (· < column)

/-- Remembers that a key may start here. -/
def saveKey (l : Lexer) : Option Lexer :=
  if l.keyAllowed then do
    let l ← l.dropKey
    let c := l.cursor
    return l.setKeyStart (some
      { position := l.tokens.length, index := c.index, line := c.line, column := c.column
        required := !l.inFlow && l.blocks.head? == some c.column })
  else some l

/-- Opens a block at a column behind the first `n` tokens, if it is deeper. -/
def openBlock (l : Lexer) (column n : Nat) (t : Token) : Lexer :=
  if !l.inFlow && l.isDeeper column then { l.insert n t with blocks := column :: l.blocks } else l

/-- Opens a block here, if it is deeper. -/
def openBlockHere (l : Lexer) (t : Token) : Lexer :=
  l.openBlock l.cursor.column l.tokens.length t

/-- Closes the blocks of which `deeper` holds. -/
def closeBlocks (l : Lexer) (deeper : Nat → Bool) : Lexer :=
  if l.inFlow then l
  else
    let closed := l.blocks.takeWhile deeper
    { l with
      tokens := l.tokens ++ closed.map fun _ => .blockEnd
      blocks := l.blocks.dropWhile deeper }

/-- Closes all blocks, and forgets the key that may have started. -/
def closeAll (l : Lexer) : Option Lexer := do
  let l ← (l.closeBlocks fun _ => true).dropKey
  return { l with keyAllowed := false }

/-- Moves to the next token, over blanks, comments and breaks. Tabs may not indent a block. -/
def toNextToken : Nat → Lexer → Lexer
  | 0, l => l
  | fuel + 1, l =>
    let c := l.cursor
    let c := if c.column == 0 && c.sees (· == '\uFEFF') then c.skip else c
    let c :=
      (c.skipWhile fun x => x == ' ' || ((l.inFlow || !l.keyAllowed) && x == '\t')).skipComment
    if c.sees isBreak then
      toNextToken fuel
        { l with cursor := c.nextLine.2, keyAllowed := l.keyAllowed || !l.inFlow }
    else { l with cursor := c }

/-- Appends what a scan reads as a token. -/
def read {α : Type} (l : Lexer) (scan : Scan α) (token : α → Token) : Option Lexer := do
  let (a, cursor) ← scan l.cursor
  return { l with cursor }.push (token a)

/-- Appends a token that may start a key and cannot be followed by one. -/
def readKeyPart {α : Type} (l : Lexer) (scan : Scan α) (token : α → Token) : Option Lexer := do
  let l ← l.saveKey
  { l with keyAllowed := false }.read scan token

/-- Reads a mark at the start or the end of a document. -/
def readMarker (l : Lexer) (t : Token) : Option Lexer := do
  let l ← l.closeAll
  return (l.skip 3).push t

/-- Reads a directive. -/
def readDirective (l : Lexer) : Option Lexer := do
  (← l.closeAll).read Property.directive .directive

/-- Reads an opening bracket. -/
def readOpening (l : Lexer) (t : Token) : Option Lexer := do
  let l ← l.saveKey
  return { l.skip.push t with flowKeys := none :: l.flowKeys, keyAllowed := true }

/-- Reads a closing bracket. -/
def readClosing (l : Lexer) (t : Token) : Option Lexer := do
  let l ← l.dropKey
  return { l.skip.push t with flowKeys := l.flowKeys.drop 1, keyAllowed := false }

/-- Reads a comma. -/
def readComma (l : Lexer) : Option Lexer := do
  let l ← l.dropKey
  return { l.skip.push .flowEntry with keyAllowed := true }

/-- Opens a block for an indicator outside of brackets, where a key has to be allowed. -/
def openFor (l : Lexer) (t : Token) : Option Lexer :=
  if l.inFlow then some l else if l.keyAllowed then some (l.openBlockHere t) else none

/-- Reads the dash in front of an entry. -/
def readDash (l : Lexer) : Option Lexer := do
  let l ← (← l.openFor .blockSequenceStart).dropKey
  return { l.skip.push .blockEntry with keyAllowed := true }

/-- Reads the question mark in front of a key. -/
def readQuestion (l : Lexer) : Option Lexer := do
  let l ← (← l.openFor .blockMappingStart).dropKey
  return { l.skip.push .key with keyAllowed := !l.inFlow }

/-- Reads the colon in front of a value. -/
def readColon (l : Lexer) : Option Lexer :=
  match l.keyStart? with
  | some k =>
    let l := (l.insert k.position .key).openBlock k.column k.position .blockMappingStart
    some { (l.setKeyStart none).skip.push .value with keyAllowed := false }
  | none => do
    let l ← l.openFor .blockMappingStart
    return { l.skip.push .value with keyAllowed := !l.inFlow }

/-- Reads a block scalar. -/
def readBlock (l : Lexer) (fold : Bool) : Option Lexer := do
  let l ← l.dropKey
  { l with keyAllowed := true }.read (Scalar.block fold l.blocks.head?) .scalar

/-- Reads a plain scalar. A key may start behind it if a line break does. -/
def readPlain (l : Lexer) : Option Lexer := do
  let l ← l.saveKey
  let indent := (l.blocks.head?.map (· + 1)).getD 0
  let ((s, broken), cursor) ← Scalar.plain l.inFlow indent l.cursor
  return { l with cursor, keyAllowed := broken }.push (.scalar s)

/-- Whether a character never starts a plain scalar by itself. -/
def isIndicator (c : Char) : Bool := "-?:,[]\x7b\x7d#&*!|>'\"%@`".toList.contains c

/-- Whether a plain scalar starts here. -/
def startsPlain (l : Lexer) (x : Char) : Bool :=
  (!isGap x && !isIndicator x) ||
    (x == '-' && !(l.cursor.peek 1).any isGap) ||
    (!l.inFlow && (x == '?' || x == ':') && !l.cursor.endsWord 1)

/-- Reads the token that starts with a character. -/
def readAt (l : Lexer) (x : Char) : Option Lexer :=
  let c := l.cursor
  if c.column == 0 && x == '%' then l.readDirective
  else if c.atMarker '-' then l.readMarker .documentStart
  else if c.atMarker '.' then l.readMarker .documentEnd
  else if x == '[' then l.readOpening .flowSequenceStart
  else if x == '{' then l.readOpening .flowMappingStart
  else if x == ']' then l.readClosing .flowSequenceEnd
  else if x == '}' then l.readClosing .flowMappingEnd
  else if x == ',' then l.readComma
  else if x == '-' && c.endsWord 1 then l.readDash
  else if x == '?' && (!l.inFlow || c.endsWord 1) then l.readQuestion
  else if x == ':' && (l.inFlow || c.endsWord 1) then l.readColon
  else if x == '*' then l.readKeyPart Property.anchor .alias
  else if x == '&' then l.readKeyPart Property.anchor .anchor
  else if x == '!' then l.readKeyPart (Property.nodeTag l.inFlow) .tag
  else if x == '|' && !l.inFlow then l.readBlock false
  else if x == '>' && !l.inFlow then l.readBlock true
  else if x == '\'' then l.readKeyPart (Scalar.quoted true) .scalar
  else if x == '"' then l.readKeyPart (Scalar.quoted false) .scalar
  else if l.startsPlain x then l.readPlain
  else none

/-- Reads all tokens. Every token takes a character at least. -/
def readAll : Nat → Lexer → Option (List Token)
  | 0, _ => none
  | fuel + 1, l => do
    let l ← (toNextToken (l.cursor.rest.length + 1) l).dropStaleKeys
    let l := l.closeBlocks (l.cursor.column < ·)
    match l.cursor.peek 0 with
    | none => return (← l.closeAll).tokens
    | some x => readAll fuel (← l.readAt x)

end Lexer

/-- The tokens of a text. -/
def Token.ofText? (text : String) : Option (List Token) :=
  let cs := text.toList
  if cs.all isAllowed then Lexer.readAll (cs.length + 1) { cursor := { rest := cs } } else none

end Northbound.Yaml
