/-!
# Binary floating-point numbers

Sixty-four bits read as a sign, an exponent and a fraction (IEEE 754 binary64). Values are decoded
to `m * 2 ^ e` and encoded by rounding an exact quotient of natural numbers to the nearest value,
so that every operation here is arithmetic on `Nat` and `Int`.
-/

namespace Northbound

/-- A binary64 number, given by its bits. Two numbers are equal when their bits are: a NaN equals
itself and the two zeros differ. -/
structure Binary64 where
  bits : UInt64
deriving DecidableEq, Repr, Inhabited

namespace Binary64

/-- The sign bit. -/
def negative (x : Binary64) : Bool := Nat.pow 2 63 ≤ x.bits.toNat

/-- All bits but the sign. Among numbers of one sign that are not NaN, it orders them by size. -/
def magnitude (x : Binary64) : Nat := x.bits.toNat % Nat.pow 2 63

/-- The magnitude of an infinity: all exponent bits set and no fraction bit. -/
def infiniteMagnitude : Nat := 2047 * Nat.pow 2 52

/-- Whether the number is neither NaN nor infinite. -/
def isFinite (x : Binary64) : Bool := x.magnitude < infiniteMagnitude

/-- Whether the bits are no number. -/
def isNaN (x : Binary64) : Bool := infiniteMagnitude < x.magnitude

/-- The number with the given sign and magnitude. -/
def ofMagnitude (neg : Bool) (magnitude : Nat) : Binary64 :=
  ⟨UInt64.ofNat ((if neg then Nat.pow 2 63 else 0) + magnitude)⟩

def zero : Binary64 := ofMagnitude false 0

def infinity : Binary64 := ofMagnitude false infiniteMagnitude

def nan : Binary64 := ofMagnitude false (infiniteMagnitude + Nat.pow 2 51)

/-- The number with the other sign. -/
def neg (x : Binary64) : Binary64 := ofMagnitude (!x.negative) x.magnitude

/-- A finite magnitude as `(m, e)`, standing for `m * 2 ^ e`. -/
def decode (x : Binary64) : Nat × Int :=
  let exponent : Nat := x.magnitude / Nat.pow 2 52
  let fraction : Nat := x.magnitude % Nat.pow 2 52
  if exponent = 0 then (fraction, -1074) else (fraction + Nat.pow 2 52, (exponent : Int) - 1075)

/-- The quotient `num * base ^ e / den` as a pair of natural numbers. -/
def scale (base : Nat) (e : Int) (q : Nat × Nat) : Nat × Nat :=
  if 0 ≤ e then (q.1 * Nat.pow base e.toNat, q.2) else (q.1, q.2 * Nat.pow base (-e).toNat)

/-- A quotient rounded to the nearest natural number, a half to the even one. -/
def roundHalfEven (num den : Nat) : Nat :=
  let q := num / den
  let twice := 2 * (num % den)
  if twice < den then q else if den < twice then q + 1 else q + q % 2

/-- The magnitude nearest to `num / den`, for a positive `den`. -/
def roundMagnitude (num den : Nat) : Nat :=
  if num = 0 then 0
  else
    let guess : Int := (Nat.log2 num : Int) - Nat.log2 den - 53
    let floorAt (e : Int) : Nat := (scale 2 (-e) (num, den)).1 / (scale 2 (-e) (num, den)).2
    let exact := if Nat.pow 2 53 ≤ floorAt guess then guess + 1 else guess
    let e := max exact (-1074)
    let scaled := scale 2 (-e) (num, den)
    min infiniteMagnitude ((e + 1074).toNat * Nat.pow 2 52 + roundHalfEven scaled.1 scaled.2)

/-- The number nearest to `num / den` with the given sign; what is too large becomes infinite. -/
def ofRatio (neg : Bool) (num den : Nat) : Binary64 := ofMagnitude neg (roundMagnitude num den)

/-- The number nearest to an integer. -/
def ofInt (n : Int) : Binary64 := ofRatio (n < 0) n.natAbs 1

/-- The number nearest to a power of ten. -/
def powerOfTen (n : Nat) : Binary64 := ofRatio false (Nat.pow 10 n) 1

/-- A finite magnitude as a quotient. -/
def ratio (x : Binary64) : Nat × Nat := scale 2 x.decode.2 (x.decode.1, 1)

/-- The rounded product of two finite numbers that are not negative. -/
def mul (x y : Binary64) : Binary64 :=
  ofRatio false (x.ratio.1 * y.ratio.1) (x.ratio.2 * y.ratio.2)

/-- The rounded quotient of two finite numbers that are not negative, the second positive. -/
def div (x y : Binary64) : Binary64 :=
  ofRatio false (x.ratio.1 * y.ratio.2) (x.ratio.2 * y.ratio.1)

/-- The place of a number among all that are not NaN. -/
def rank (x : Binary64) : Int := if x.negative then -(x.magnitude : Int) else x.magnitude

/-- The order of the numbers: nothing is below or above a NaN, and the zeros are level. -/
def le (x y : Binary64) : Bool := !x.isNaN && !y.isNaN && x.rank ≤ y.rank

end Binary64

end Northbound
