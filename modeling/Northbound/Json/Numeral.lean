import Northbound.Json.Cursor
import Northbound.Text.Number

/-!
# Numerals

A numeral is read as its first digits that fit in a 64-bit word and a power of ten. If it has a
point, an exponent or too many digits, the word is rounded to a floating-point number and
multiplied or divided by the power of ten, itself rounded: two roundings, so that the result may be
off by one in its last bit.
-/

namespace Northbound.Json.Reader

/-- Appends digits to a word as long as it fits. Yields the word and how many digits it took. -/
def accumulate : Nat → List Nat → Nat × Nat
  | acc, [] => (acc, 0)
  | acc, d :: ds =>
    if acc * 10 + d ≤ Text.maxWord then
      let (word, taken) := accumulate (acc * 10 + d) ds
      (word, taken + 1)
    else (acc, 0)

/-- `x * 10 ^ e` for a finite `x`, or nothing if that is too large. Powers beyond `10 ^ 308` are
applied in steps; three divisions bring any word to zero. -/
def applyPower : Nat → Binary64 → Int → Option Binary64
  | 0, x, _ => some x
  | fuel + 1, x, e =>
    if e.natAbs ≤ 308 then
      let p := Binary64.powerOfTen e.natAbs
      if 0 ≤ e then
        let product := x.mul p
        if product.isFinite then some product else none
      else some (x.div p)
    else if x.magnitude = 0 then some x
    else if 0 ≤ e then none
    else applyPower fuel (x.div (Binary64.powerOfTen 308)) (e + 308)

/-- The number with the given sign, word and power of ten. -/
def assemble (neg : Bool) (word : Nat) (e : Int) : Reader Binary64 := do
  match applyPower 6 (Binary64.ofInt word) e with
  | some x => return if neg then x.neg else x
  | none => fail .numberOutOfRange

/-- The largest exponent that is taken as it stands. -/
def maxExponent : Nat := Nat.pow 2 31 - 1

/-- Appends digits to an exponent. Yields `none`, with the number of digits read, at the first
digit that makes it too large. -/
def exponentValue : Nat → Nat → List Nat → Option Nat × Nat
  | acc, n, [] => (some acc, n)
  | acc, n, d :: ds =>
    if acc * 10 + d ≤ maxExponent then exponentValue (acc * 10 + d) (n + 1) ds
    else (none, n + 1)

/-- The sum of two exponents, kept between the bounds of a 32-bit integer. -/
def saturate (e : Int) : Int := max (-(maxExponent : Int) - 1) (min maxExponent e)

/-- Reads an exponent part, from the letter on. An exponent that is too large makes zero of a
numeral that is zero or has a negative exponent, and an error of any other. -/
def exponentPart (neg : Bool) (word : Nat) (start : Int) : Reader Binary64 := do
  eat
  let negativeExponent ← do
    match ← peek with
    | some 43 => do eat; pure false
    | some 45 => do eat; pure true
    | _ => pure false
  let before ← get
  match ← next with
  | none => fail .endInValue
  | some b =>
    if !isDigitByte b then fail .badNumber
    else
      let more ← digits
      match exponentValue 0 0 ((b.toNat - 48) :: more) with
      | (some e, _) =>
        assemble neg word (saturate (if negativeExponent then start - e else start + e))
      | (none, n) =>
        if word ≠ 0 ∧ !negativeExponent then
          throw ⟨.numberOutOfRange, some (before.advanceBy n).place⟩
        else return if neg then Binary64.zero.neg else Binary64.zero

/-- Whether the next byte starts an exponent part. -/
def atExponent : Reader Bool := do
  match ← peek with
  | some b => return b == 101 || b == 69
  | none => return false

/-- Reads a fraction part, from the point on. -/
def fractionPart (neg : Bool) (word : Nat) (start : Int) : Reader Binary64 := do
  eat
  let ds ← digits
  if ds.isEmpty then
    match ← peek with
    | some _ => failNext .badNumber
    | none => failNext .endInValue
  else
    let (word, taken) := accumulate word ds
    let e := start - taken
    if ← atExponent then exponentPart neg word e else assemble neg word e

/-- An integer without a fraction or an exponent part. What no 64-bit integer is, and minus zero,
becomes a floating-point number. -/
def integerValue (neg : Bool) (word : Nat) : Json :=
  if !neg then .int word
  else if 0 < word ∧ word ≤ Nat.pow 2 63 then .int (-(word : Int))
  else .float (Binary64.ofInt word).neg

/-- Reads what may follow the digits before the point, given the word they make and how many of
them did not fit. -/
def numeralTail (neg : Bool) (word dropped : Nat) : Reader Json := do
  match ← peek with
  | some 46 => return .float (← fractionPart neg word dropped)
  | _ =>
    if ← atExponent then return .float (← exponentPart neg word dropped)
    else if dropped = 0 then return integerValue neg word
    else return .float (← assemble neg word dropped)

/-- Reads a numeral without its sign. -/
def unsignedNumeral (neg : Bool) : Reader Json := do
  match ← next with
  | none => fail .endInValue
  | some b =>
    if b == 48 then
      match ← peek with
      | some d => if isDigitByte d then failNext .badNumber else numeralTail neg 0 0
      | none => numeralTail neg 0 0
    else if isDigitByte b then
      let more ← digits
      let ds := (b.toNat - 48) :: more
      let (word, taken) := accumulate 0 ds
      numeralTail neg word (ds.length - taken)
    else fail .badNumber

/-- Reads a numeral, from its sign or first digit on. -/
def numeral : Reader Json := do
  match ← peek with
  | some 45 => do eat; unsignedNumeral true
  | _ => unsignedNumeral false

/-- Skips an exponent part, from the letter on. -/
def skipExponent : Reader Unit := do
  eat
  match ← peek with
  | some 43 => eat
  | some 45 => eat
  | _ => pure ()
  match ← next with
  | some b => if isDigitByte b then let _ ← digits else fail .badNumber
  | none => fail .badNumber

/-- Skips a numeral, from its sign or first digit on; its size does not matter. -/
def skipNumeral : Reader Unit := do
  if (← peek) == some 45 then eat
  match ← next with
  | none => fail .badNumber
  | some b =>
    if b == 48 then
      match ← peek with
      | some d => if isDigitByte d then failNext .badNumber
      | none => pure ()
    else if isDigitByte b then let _ ← digits
    else fail .badNumber
  match ← peek with
  | some 46 =>
    eat
    let ds ← digits
    if ds.isEmpty then failNext .badNumber
    else if ← atExponent then skipExponent
  | _ => if ← atExponent then skipExponent

end Northbound.Json.Reader
