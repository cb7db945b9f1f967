import Northbound.Binary64
import Northbound.Text.Number

/-!
# Shortest decimal texts

A number is printed with the fewest decimal digits that read back as it, and of those the nearest
ones. `Layout` says how digits and exponent become text.
-/

namespace Northbound.Decimal

open Binary64

/-- A finite positive number's range: everything strictly between `low` and `high` is nearer to it
than to any other number, and the ends are too if `closed`. All three share one denominator. -/
structure Range where
  low : Nat
  value : Nat
  high : Nat
  den : Nat
  closed : Bool

/-- The range of `m * 2 ^ e`. Below a power of two the neighbour is at half the distance. -/
def Range.ofBinary (m : Nat) (e : Int) : Range :=
  let narrow := m = Nat.pow 2 52 ∧ -1074 < e
  let unit := scale 2 (e - 2) (1, 1)
  { low := (4 * m - (if narrow then 1 else 2)) * unit.1
    value := 4 * m * unit.1
    high := (4 * m + 2) * unit.1
    den := unit.2
    closed := m % 2 = 0 }

/-- Whether `d * 10 ^ p` lies in the range. -/
def Range.contains (r : Range) (d : Nat) (p : Int) : Bool :=
  let q := scale 10 p (d, 1)
  let at' := q.1 * r.den
  let low := r.low * q.2
  let high := r.high * q.2
  if r.closed then low ≤ at' && at' ≤ high else low < at' && at' < high

/-- The floor of the decimal logarithm of `num / den`. -/
def log10Floor (num den : Nat) : Int :=
  let guess : Int := (((Nat.log2 num : Int) - Nat.log2 den) * 30103).fdiv 100000
  let atMost (p : Int) : Bool :=
    let q := scale 10 p (1, 1)
    q.1 * den ≤ num * q.2
  if atMost (guess + 1) then guess + 1
  else if atMost guess then guess
  else guess - 1

/-- The nearer of the value's two neighbours on the grid of the multiples of `10 ^ p`, of those in
the range. -/
def Range.nearest? (r : Range) (p : Int) : Option Nat :=
  let q := scale 10 (-p) (r.value, r.den)
  let below := q.1 / q.2
  let twice := 2 * (q.1 % q.2)
  let first := if twice < q.2 ∨ (twice = q.2 ∧ below % 2 = 0) then below else below + 1
  let second := if first = below then below + 1 else below
  if r.contains first p then some first
  else if r.contains second p then some second
  else none

/-- Tries one digit, then two, and so on up to seventeen, which always suffice. -/
def Range.shortest (r : Range) (lead : Int) : Nat → Nat × Int
  | 0 => (0, 0)
  | fuel + 1 =>
    let p := lead - (16 - fuel : Nat)
    match r.nearest? p with
    | some d => (d, p)
    | none => r.shortest lead fuel

/-- Drops the zeros a number ends in, raising the exponent for each. -/
def stripZeros : Nat → Nat → Int → Nat × Int
  | 0, d, p => (d, p)
  | fuel + 1, d, p => if d % 10 = 0 then stripZeros fuel (d / 10) (p + 1) else (d, p)

/-- The digits of a finite positive number and the power of ten of the first of them. -/
def shortest (x : Binary64) : List Char × Int :=
  let r := Range.ofBinary x.decode.1 x.decode.2
  let found := r.shortest (log10Floor r.value r.den) 17
  let (d, p) := stripZeros 18 found.1 found.2
  let digits := Nat.toDigits 10 d
  (digits, p + (digits.length - 1 : Nat))

/-- How digits become text: numbers from `10 ^ least` up to below `10 ^ bound` are written
positionally with at least one digit after the point, all others with an exponent. -/
structure Layout where
  least : Int
  bound : Int
  plusInExponent : Bool

/-- The decimal text of an integer, with a minus sign where it is negative. -/
def signed (n : Int) : List Char :=
  (if n < 0 then ['-'] else []) ++ Nat.toDigits 10 n.natAbs

/-- A finite positive number in a layout. -/
def Layout.positive (l : Layout) (digits : List Char) (lead : Int) : List Char :=
  if l.least ≤ lead ∧ lead < l.bound then
    if lead < 0 then
      '0' :: '.' :: List.replicate (-lead - 1).toNat '0' ++ digits
    else
      let whole := lead.toNat + 1
      let rest := digits.drop whole
      digits.take whole ++ List.replicate (whole - digits.length) '0' ++ '.' ::
        (if rest.isEmpty then ['0'] else rest)
  else
    digits.take 1 ++ (if digits.length = 1 then [] else '.' :: digits.drop 1) ++ 'e' ::
      (if l.plusInExponent ∧ 0 ≤ lead then ['+'] else []) ++ signed lead

/-- A number in a layout. -/
def Layout.render (l : Layout) (x : Binary64) : String :=
  if x.isNaN then "NaN"
  else
    let sign := if x.negative then ['-'] else []
    let body :=
      if !x.isFinite then "inf".toList
      else if x.magnitude = 0 then "0.0".toList
      else l.positive (shortest x).1 (shortest x).2
    String.ofList (sign ++ body)

end Northbound.Decimal
