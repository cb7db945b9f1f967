import Northbound.Json.Cursor
import Northbound.Text.Utf8

/-!
# Text literals

A text literal is read up to its closing quote. Escapes may denote any character; characters
beyond U+FFFF are written as a pair of surrogates.
-/

namespace Northbound.Json.Reader

/-- The number four hexadecimal digits denote. -/
def hexValues? (bs : List UInt8) : Option Nat :=
  bs.foldlM (fun acc b => (Bytes.hexValue? b).map (acc * 16 + ·)) 0

/-- Reads four hexadecimal digits. -/
def hexEscape : Reader Nat := do
  let four := (← get).rest.take 4
  modify (Cursor.advanceBy 4)
  if four.length < 4 then fail .endInText
  else match hexValues? four with
    | some n => return n
    | none => fail .badEscape

/-- Reads the byte that a surrogate pair needs next. -/
def surrogateByte (b : UInt8) : Reader Unit := do
  match ← peek with
  | none => fail .endInText
  | some found =>
    eat
    if found == b then return () else fail .brokenSurrogatePair

/-- Reads what follows `\u` and yields the character denoted. -/
def codePoint : Reader Char := do
  let n ← hexEscape
  if 0xDC00 ≤ n ∧ n ≤ 0xDFFF then fail .loneSurrogate
  else if n < 0xD800 ∨ 0xDBFF < n then return Char.ofNat n
  else
    surrogateByte 92
    surrogateByte 117
    let low ← hexEscape
    if low < 0xDC00 ∨ 0xDFFF < low then fail .loneSurrogate
    else return Char.ofNat ((n - 0xD800) * 1024 + (low - 0xDC00) + 0x10000)

/-- The byte that a one-letter escape stands for. -/
def simpleEscape? (b : UInt8) : Option UInt8 :=
  if b == 34 || b == 92 || b == 47 then some b
  else if b == 98 then some 8
  else if b == 102 then some 12
  else if b == 110 then some 10
  else if b == 114 then some 13
  else if b == 116 then some 9
  else none

/-- Reads what follows a backslash and yields the bytes denoted. -/
def escape : Reader Bytes := do
  match ← next with
  | none => fail .endInText
  | some b =>
    if b == 117 then return utf8 (String.singleton (← codePoint))
    else match simpleEscape? b with
      | some e => return [e]
      | none => fail .badEscape

/-- The bytes that stand for themselves in a text literal. -/
def isPlainByte (b : UInt8) : Bool := b != 34 && b != 92 && 32 ≤ b

/-- Reads up to and with the closing quote; `acc` holds the pieces read so far, last first. Each
round but the last reads an escape, so `fuel` above the number of bytes left is never used up. -/
def literalPieces : Nat → List Bytes → Reader Bytes
  | 0, _ => fail .endInText
  | fuel + 1, acc => do
    let plain := (← get).rest.takeWhile isPlainByte
    modify (Cursor.advanceBy plain.length)
    match ← next with
    | none => fail .endInText
    | some b =>
      if b == 34 then return (plain :: acc).reverse.flatten
      else if b == 92 then
        let e ← escape
        literalPieces fuel (e :: plain :: acc)
      else fail .controlCharacter

/-- Reads a text literal whose opening quote has been read. Ill-formed bytes are reported as many
places before the end of the literal as there are bytes denoted from the first of them on. -/
def literal : Reader String := do
  let bytes ← literalPieces ((← get).rest.length + 1) []
  match utf8Decode? bytes with
  | some s => return s
  | none =>
    let stop := (← get).place
    let back := bytes.length - Text.wellFormedLength bytes
    throw ⟨.badCodePoint, some { stop with column := stop.column - back }⟩

/-- Skips a text literal whose opening quote has been read, without decoding it: any bytes and any
four hexadecimal digits will do. -/
def skipLiteral : Nat → Reader Unit
  | 0 => fail .endInText
  | fuel + 1 => do
    modify (Cursor.skipWhile isPlainByte)
    match ← peek with
    | none => fail .endInText
    | some b =>
      if b == 34 then eat
      else if b == 92 then
        eat
        match ← next with
        | none => fail .endInText
        | some e =>
          if e == 117 then let _ ← hexEscape
          else if (simpleEscape? e).isNone then fail .badEscape
        skipLiteral fuel
      else fail .controlCharacter

end Northbound.Json.Reader
