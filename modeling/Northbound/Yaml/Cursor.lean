/-!
# Reading YAML texts

A cursor stands in a text: it knows what is left, how many bytes were read, and the line and column
reached. Columns count characters. Reading a text either gives a value and moves the cursor, or
fails; why it fails is not told.
-/

namespace Northbound.Yaml

/-- Whether a character may stand in a text. -/
def isAllowed (c : Char) : Bool :=
  c == '\t' || c == '\n' || c == '\r' || (' ' ≤ c && c ≤ '~') || c == '\u0085' ||
    ('\u00A0' ≤ c && c.toNat ≤ 0xFFFD) || 0x10000 ≤ c.toNat

/-- Whether a character ends a line. -/
def isBreak (c : Char) : Bool :=
  c == '\n' || c == '\r' || c == '\u0085' || c == '\u2028' || c == '\u2029'

/-- Whether a character is a space or a tab. -/
def isGap (c : Char) : Bool := c == ' ' || c == '\t'

/-- Whether a character may stand in a name. -/
def isWordChar (c : Char) : Bool := c.isAlphanum || c == '_' || c == '-'

/-- The number of bytes that characters take. -/
def byteCount (cs : List Char) : Nat := cs.foldl (fun n c => n + c.utf8Size) 0

/-- A place in a text. -/
structure Cursor where
  rest : List Char
  /-- The number of bytes in front of the place. -/
  index : Nat := 0
  line : Nat := 0
  column : Nat := 0

namespace Cursor

/-- The character that comes after `n` others, if the text is that long. -/
def peek (c : Cursor) (n : Nat) : Option Char := c.rest[n]?

/-- Whether `p` holds of the next character. -/
def sees (c : Cursor) (p : Char → Bool) : Bool := c.rest.head?.any p

/-- Whether after `n` characters there is a break, a space, a tab or the end of the text. -/
def endsWord (c : Cursor) (n : Nat := 0) : Bool := (c.peek n).all fun x => isGap x || isBreak x

/-- Whether after `n` characters there is a break or the end of the text. -/
def endsLine (c : Cursor) : Bool := (c.peek 0).all isBreak

/-- Whether the text has been read to its end. -/
def atEnd (c : Cursor) : Bool := c.rest.isEmpty

/-- The cursor behind `n` more characters of the line. -/
def skip (c : Cursor) (n : Nat := 1) : Cursor :=
  { c with rest := c.rest.drop n, index := c.index + byteCount (c.rest.take n),
           column := c.column + n }

/-- The cursor behind all characters of which `p` holds. -/
def skipWhile (c : Cursor) (p : Char → Bool) : Cursor := c.skip (c.rest.takeWhile p).length

/-- Whether a document is marked to start or end here. -/
def atMarker (c : Cursor) (mark : Char) : Bool :=
  c.column == 0 && c.rest.take 3 == [mark, mark, mark] && c.endsWord 3

/-- Whether a document is marked to start or to end here. -/
def atAnyMarker (c : Cursor) : Bool := c.atMarker '-' || c.atMarker '.'

/-- The break at a cursor, as it counts in a scalar, and the cursor at the start of the next line.
Most breaks count as line feeds. -/
def nextLine (c : Cursor) : List Char × Cursor :=
  let moved (n : Nat) : Cursor := { c.skip n with line := c.line + 1, column := 0 }
  match c.rest with
  | '\r' :: '\n' :: _ => (['\n'], moved 2)
  | x :: _ =>
    if x == '\u2028' || x == '\u2029' then ([x], moved 1)
    else if isBreak x then (['\n'], moved 1)
    else ([], c)
  | [] => ([], c)

/-- The cursor behind a comment, if there is one. -/
def skipComment (c : Cursor) : Cursor :=
  if c.sees (· == '#') then c.skipWhile fun x => !isBreak x else c

end Cursor

/-- A step of reading a text. -/
abbrev Scan (α : Type) := StateT Cursor Option α

namespace Scan

/-- Reading that fails. -/
def refuse {α : Type} : Scan α := fun _ => none

/-- Fails unless a condition holds. -/
def require (b : Bool) : Scan Unit := if b then pure () else refuse

/-- Moves over `n` characters. -/
def advance (n : Nat := 1) : Scan Unit := modify fun c => c.skip n

/-- Reads all characters of which `p` holds. -/
def takeWhile (p : Char → Bool) : Scan (List Char) := fun c =>
  some (c.rest.takeWhile p, c.skipWhile p)

/-- Reads a break, as it counts in a scalar. -/
def lineBreak : Scan (List Char) := fun c => some c.nextLine

/-- A bound on the number of steps that reading on can take. -/
def bound : Scan Nat := fun c => some (c.rest.length + 1, c)

/-- Moves over blanks and a comment to the end of the line, and over the break there. Nothing else
may stand in between. -/
def restOfLine : Scan Unit := do
  modify fun c => (c.skipWhile isGap).skipComment
  require (← get).endsLine
  let _ ← lineBreak

end Scan

end Northbound.Yaml
