import Northbound.Bytes
import Northbound.Text.Number

/-!
# Extended records

Members of type `x` hold records that describe the next member, one a line: the length of the whole
line in decimal, a blank, a key, `=` and a value. `Record.line` writes a record. A reader takes the
lines apart at line feeds: it skips a line whose length does not agree, and stops at an empty line.
-/

namespace Northbound.Tar

/-- A key with its value. -/
structure Record where
  key : Bytes
  value : Bytes
deriving DecidableEq, Repr

namespace Record

/-- The least total length of a line, itself included in decimal, whose other bytes number
`rest`. -/
def lineLength (rest : Nat) : Nat :=
  let guess := rest + (Nat.toDigits 10 rest).length
  if (Nat.toDigits 10 guess).length + rest = guess then guess
  else rest + (Nat.toDigits 10 guess).length

/-- The line of a record. -/
def line (r : Record) : Bytes :=
  let rest := 32 :: r.key ++ 61 :: r.value ++ [10]
  utf8 (Text.decimal (lineLength rest.length)) ++ rest

/-- The record on a line, given without its line feed. -/
def ofLine? (line : Bytes) : Option Record := do
  let digits := line.takeWhile (· != 32)
  let rest := line.drop (digits.length + 1)
  if digits.length = line.length then none
  else
    let text ← utf8Decode? digits
    let n ← Text.readUnsigned 10 Text.maxWord text.toList
    let key := rest.takeWhile (· != 61)
    if line.length + 1 ≠ n ∨ key.length = rest.length then none
    else some ⟨key, rest.drop (key.length + 1)⟩

end Record

/-- The lines of a byte string: the pieces between line feeds. -/
def splitLines : Bytes → List Bytes
  | [] => [[]]
  | b :: rest =>
    match splitLines rest with
    | [] => [[b]]
    | l :: ls => if b == 10 then [] :: l :: ls else (b :: l) :: ls

/-- The records in the data of a member, `none` for a line that is no record. -/
def readRecords (data : Bytes) : List (Option Record) :=
  ((splitLines data).takeWhile (!·.isEmpty)).map Record.ofLine?

/-- The path that records give to the next member: that of the first well-formed record with one. -/
def recordedPath? (data : Bytes) : Option Bytes :=
  (((readRecords data).filterMap id).find? fun r => r.key == utf8 "path").map Record.value

/-- The size that records give to the next member. It is not looked for past a line that is no
record, and what is no number gives none. -/
def recordedSize? (data : Bytes) : Option Nat := do
  let records := ((readRecords data).takeWhile Option.isSome).filterMap id
  let r ← records.find? fun r => r.key == utf8 "size"
  let text ← utf8Decode? r.value
  Text.readUnsigned 10 Text.maxWord text.toList

end Northbound.Tar
