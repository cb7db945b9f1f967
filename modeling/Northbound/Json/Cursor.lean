import Northbound.Bytes
import Northbound.Json.Error

/-!
# Reading a document byte by byte

A cursor is the unread rest of a document together with the place reached. A reader consumes bytes
from the cursor and yields a value or an error; the cursor it leaves is kept in both cases.
-/

namespace Northbound.Json

/-- The unread bytes of a document and the place of the first of them. -/
structure Cursor where
  rest : Bytes
  line : Nat := 1
  column : Nat := 0

namespace Cursor

/-- The place reached. -/
def place (c : Cursor) : Place := ⟨c.line, c.column⟩

/-- Past the next byte, or the cursor itself at the end. -/
def advance (c : Cursor) : Cursor :=
  match c.rest with
  | [] => c
  | b :: rest =>
    if b == 10 then ⟨rest, c.line + 1, 0⟩ else ⟨rest, c.line, c.column + 1⟩

/-- Past the next `n` bytes. -/
def advanceBy : Nat → Cursor → Cursor
  | 0, c => c
  | n + 1, c => advanceBy n c.advance

/-- Past the longest run of bytes that satisfy `p`. -/
def skipWhile (p : UInt8 → Bool) (c : Cursor) : Cursor := c.advanceBy (c.rest.takeWhile p).length

end Cursor

/-- Consumes bytes and yields a value or an error. -/
abbrev Reader (α : Type) := ExceptT Error (StateM Cursor) α

namespace Reader

variable {α : Type}

/-- Fails at the place reached. -/
def fail (fault : Fault) : Reader α := do throw ⟨fault, some (← get).place⟩

/-- Fails at the place just past the next byte, which is the one at fault. -/
def failNext (fault : Fault) : Reader α := do throw ⟨fault, some (← get).advance.place⟩

/-- The next byte, left unread. -/
def peek : Reader (Option UInt8) := do return (← get).rest.head?

/-- Skips the next byte. -/
def eat : Reader Unit := modify Cursor.advance

/-- Reads the next byte. -/
def next : Reader (Option UInt8) := do
  let b? ← peek
  eat
  return b?

/-- The bytes that may stand between the parts of a document. -/
def isBlankByte (b : UInt8) : Bool := b == 32 || b == 10 || b == 9 || b == 13

/-- The next byte that is not blank, left unread. -/
def peekPastBlanks : Reader (Option UInt8) := do
  modify (Cursor.skipWhile isBlankByte)
  peek

/-- Whether a byte is a decimal digit. -/
def isDigitByte (b : UInt8) : Bool := 48 ≤ b && b ≤ 57

/-- Reads the longest run of digits and yields their values. -/
def digits : Reader (List Nat) := do
  let ds := (← get).rest.takeWhile isDigitByte
  modify (Cursor.advanceBy ds.length)
  return ds.map fun b => b.toNat - 48

/-- Gives an error without a place the place reached once `close` has run. The closing bracket of
a record is read even when the record is refused. -/
def closedBy (body : Reader α) (close : Reader Unit) : Reader α := fun c =>
  match body c with
  | (.ok a, c₁) =>
    match close c₁ with
    | (.ok (), c₂) => (.ok a, c₂)
    | (.error e, c₂) => (.error e, c₂)
  | (.error e, c₁) =>
    let c₂ := (close c₁).2
    (.error { e with place? := e.place? <|> some c₂.place }, c₂)

/-- Runs a reader on a whole document: after the value only blanks may follow. -/
def readAll (r : Reader α) (document : Bytes) : Except Error α :=
  let whole : Reader α := do
    let a ← r
    match ← peekPastBlanks with
    | none => return a
    | some _ => failNext .trailingCharacters
  (whole ⟨document, 1, 0⟩).1

end Reader

end Northbound.Json
