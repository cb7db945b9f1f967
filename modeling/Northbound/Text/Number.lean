/-!
# Reading unsigned numbers

Unsigned numbers in a fixed base, as addresses, archive headers and extended records hold them:
an optional plus sign and at least one digit, with any number of leading zeros.
-/

namespace Northbound.Text

/-- The value of a digit in a base of at most ten. -/
def digitValue? (base : Nat) (c : Char) : Option Nat :=
  let d := c.toNat - 48
  if '0' ≤ c ∧ d < base then some d else none

/-- The number that digits denote after `acc`. -/
def readDigits (base : Nat) : Nat → List Char → Option Nat
  | acc, [] => some acc
  | acc, c :: cs => do
    let d ← digitValue? base c
    readDigits base (acc * base + d) cs

/-- A number of at most `bound`, written as an optional plus sign and one digit or more. -/
def readUnsigned (base bound : Nat) (cs : List Char) : Option Nat := do
  let digits := match cs with
    | '+' :: rest => rest
    | other => other
  if digits.isEmpty then none
  else
    let n ← readDigits base 0 digits
    if n ≤ bound then some n else none

/-- The value of a hexadecimal digit. -/
def hexValue? (c : Char) : Option Nat :=
  if '0' ≤ c ∧ c ≤ '9' then some (c.toNat - 48)
  else if 'a' ≤ c ∧ c ≤ 'f' then some (c.toNat - 87)
  else if 'A' ≤ c ∧ c ≤ 'F' then some (c.toNat - 55)
  else none

/-- The number that hexadecimal digits denote after `acc`. -/
def readHexDigits : Nat → List Char → Option Nat
  | acc, [] => some acc
  | acc, c :: cs => do
    let d ← hexValue? c
    readHexDigits (acc * 16 + d) cs

/-- The largest 64-bit word. -/
def maxWord : Nat := Nat.pow 2 64 - 1

/-- The decimal digits of a number. -/
def decimal (n : Nat) : String := String.ofList (Nat.toDigits 10 n)

/-- The octal digits of a number. -/
def octal (n : Nat) : String := String.ofList (Nat.toDigits 8 n)

/-- Digits filled up to `width` with zeros in front. -/
def padZeros (width : Nat) (digits : List Char) : List Char :=
  List.replicate (width - digits.length) '0' ++ digits

end Northbound.Text
