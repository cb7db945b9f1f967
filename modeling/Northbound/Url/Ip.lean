import Northbound.Text.Number

/-!
# Internet addresses

The strict forms of addresses: four decimal numbers without leading zeros, or eight groups of
hexadecimal digits of which a run of zeros may be left out. Also the lenient form of web addresses,
where one to four numbers may be decimal, octal or hexadecimal.
-/

namespace Northbound.Url

/-- The pieces of a text between separators. -/
def splitAtChar (sep : Char) : List Char → List (List Char)
  | [] => [[]]
  | c :: rest =>
    match splitAtChar sep rest with
    | [] => [[c]]
    | p :: ps => if c == sep then [] :: p :: ps else (c :: p) :: ps

/-- A number from 0 to 255 in decimal, without leading zeros. -/
def octet? (cs : List Char) : Option Nat := do
  if cs.isEmpty ∨ 3 < cs.length ∨ (cs.length ≠ 1 ∧ cs.head? = some '0') then none
  else
    let n ← Text.readDigits 10 0 cs
    if n ≤ 255 then some n else none

/-- An address of four numbers. -/
def readIpv4 (cs : List Char) : Option (List Nat) := do
  let parts ← (splitAtChar '.' cs).mapM octet?
  if parts.length = 4 then some parts else none

/-- A group of one to four hexadecimal digits. -/
def group? (cs : List Char) : Option Nat :=
  if cs.isEmpty ∨ 4 < cs.length then none else Text.readHexDigits 0 cs

/-- Groups with colons between them. If `mixed` is set, the last two may be given as four decimal
numbers. -/
def groups? (mixed : Bool) : List (List Char) → Option (List Nat)
  | [] => some []
  | [last] =>
    match group? last with
    | some g => some [g]
    | none =>
      if mixed then
        match readIpv4 last with
        | some [a, b, c, d] => some [256 * a + b, 256 * c + d]
        | _ => none
      else none
  | p :: rest => do
    let g ← group? p
    let gs ← groups? mixed rest
    return g :: gs

/-- The groups in a text, none if it is empty. -/
def groupsOf? (mixed : Bool) (cs : List Char) : Option (List Nat) :=
  if cs.isEmpty then some [] else groups? mixed (splitAtChar ':' cs)

/-- A text cut at the first double colon. -/
def cutAtDoubleColon : List Char → Option (List Char × List Char)
  | ':' :: ':' :: rest => some ([], rest)
  | c :: rest => (cutAtDoubleColon rest).map fun p => (c :: p.1, p.2)
  | [] => none

/-- An address of eight groups, a run of zero groups left out where a double colon stands. -/
def readIpv6 (cs : List Char) : Option (List Nat) :=
  match cutAtDoubleColon cs with
  | none => do
    let gs ← groupsOf? true cs
    if gs.length = 8 then some gs else none
  | some (front, back) => do
    let f ← groupsOf? false front
    let b ← groupsOf? true back
    if f.length + b.length ≤ 7 then
      some (f ++ List.replicate (8 - (f.length + b.length)) 0 ++ b)
    else none

/-- Whether a text is an address in a strict form. -/
def isIpAddress (cs : List Char) : Bool := (readIpv4 cs).isSome || (readIpv6 cs).isSome

/-- The text of an address of four numbers. -/
def ipv4Chars (parts : List Nat) : List Char :=
  ".".toList.intercalate (parts.map (Nat.toDigits 10))

/-- The longest run of zeros: where it starts and how long it is. Of several the first counts. -/
def longestZeros : Nat → List Nat → Nat × Nat
  | _, [] => (0, 0)
  | i, g :: gs =>
    let here := ((g :: gs).takeWhile (· == 0)).length
    let later := longestZeros (i + 1) gs
    if here ≠ 0 ∧ later.2 ≤ here then (i, here) else later

/-- The text of an address of eight groups. The longest run of at least two zeros is left out. -/
def ipv6Chars (groups : List Nat) : List Char :=
  let joined (gs : List Nat) := ":".toList.intercalate (gs.map (Nat.toDigits 16))
  let (start, length) := longestZeros 0 groups
  if length < 2 then joined groups
  else joined (groups.take start) ++ "::".toList ++ joined (groups.drop (start + length))

/-- A number in decimal, in octal after a zero, or in hexadecimal after `0x`, which alone is
zero. -/
def looseNumber? (cs : List Char) : Option Nat :=
  match cs with
  | [] => none
  | '0' :: 'x' :: digits => Text.readHexDigits 0 digits
  | '0' :: 'X' :: digits => Text.readHexDigits 0 digits
  | '0' :: d :: more => Text.readDigits 8 0 (d :: more)
  | digits => Text.readDigits 10 0 digits

/-- The parts of a dotted text, without an empty one at its end. -/
def dottedParts (cs : List Char) : List (List Char) :=
  let parts := splitAtChar '.' cs
  if parts.getLast? = some [] ∧ 1 < parts.length then parts.dropLast else parts

/-- Whether a host can only be an address of numbers, because its last part is one. -/
def endsInNumber (cs : List Char) : Bool :=
  match (dottedParts cs).getLast? with
  | none => false
  | some last =>
    (!last.isEmpty && last.all Char.isDigit) ||
      ((last.take 2 = ['0', 'x'] ∨ last.take 2 = ['0', 'X']) &&
        (Text.readHexDigits 0 (last.drop 2)).isSome)

/-- An address of one to four numbers, of which the last fills what the others leave. -/
def readLooseIpv4 (cs : List Char) : Option (List Nat) := do
  let numbers ← (dottedParts cs).mapM looseNumber?
  let last ← numbers.getLast?
  let front := numbers.dropLast
  if 4 < numbers.length ∨ front.any (255 < ·) ∨ Nat.pow 256 (5 - numbers.length) ≤ last then none
  else
    let tail := (List.range (5 - numbers.length)).map fun i => last / Nat.pow 256 i % 256
    some (front ++ tail.reverse)

end Northbound.Url
