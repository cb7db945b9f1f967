import Northbound.Text.Blank
import Northbound.Text.Number

/-!
# Durations

A duration is written as numbers with units, such as `1h 30m` or `2.5s`. Units up to minutes are
counted in nanoseconds, longer ones in seconds; a number with a decimal part has to come out whole
in these. Writing a duration takes the largest units first.
-/

namespace Northbound

/-- A span of time. -/
structure Duration where
  seconds : Nat
  /-- Below a thousand million. -/
  nanoseconds : Nat
deriving DecidableEq, Repr

namespace Duration

/-- The number of nanoseconds in a second. -/
def billion : Nat := 1000000000

/-- A unit is a number of nanoseconds or of seconds. -/
inductive Unit where
  | nanoseconds (count : Nat)
  | seconds (count : Nat)
deriving DecidableEq, Repr

/-- The lengths of a month and a year in seconds. -/
def monthSeconds : Nat := 2630016
def yearSeconds : Nat := 31557600

/-- The names of units. -/
def units : List (List String × Unit) := [
  (["nanos", "nsec", "ns"], .nanoseconds 1),
  (["usec", "us", "µs"], .nanoseconds 1000),
  (["millis", "msec", "ms"], .nanoseconds 1000000),
  (["seconds", "second", "secs", "sec", "s"], .seconds 1),
  (["minutes", "minute", "min", "mins", "m"], .seconds 60),
  (["hours", "hour", "hr", "hrs", "h"], .seconds 3600),
  (["days", "day", "d"], .seconds 86400),
  (["weeks", "week", "wk", "wks", "w"], .seconds 604800),
  (["months", "month", "M"], .seconds monthSeconds),
  (["years", "year", "yr", "yrs", "y"], .seconds yearSeconds)]

/-- The unit of a name. -/
def unitOf? (name : String) : Option Unit :=
  (units.find? fun u => u.1.contains name).map Prod.snd

/-- A number that fits in a 64-bit word. -/
def word? (n : Nat) : Option Nat := if n ≤ Text.maxWord then some n else none

/-- A quotient that comes out whole. -/
def whole? (n d : Nat) : Option Nat := if n % d = 0 then word? (n / d) else none

/-- The decimal part of a number, as a fraction below one. -/
structure Fraction where
  numerator : Nat
  denominator : Nat

/-- The seconds and nanoseconds of a whole number of units. -/
def wholePart (n : Nat) : Unit → Option (Nat × Nat)
  | .nanoseconds c => do
    let n ← word? (n * c)
    return (0, n)
  | .seconds c => do
    let n ← word? (n * c)
    return (n, 0)

/-- The seconds and nanoseconds of a fraction of a unit. There is none of a nanosecond. -/
def fractionPart (f : Fraction) : Unit → Option (Nat × Nat)
  | .nanoseconds c => do
    if c = 1 then none
    else
      let n ← word? (f.numerator * c)
      return (0, ← whole? n f.denominator)
  | .seconds c => do
    if c ≤ 60 then
      let n ← word? (f.numerator * (c * billion))
      return (0, ← whole? n f.denominator)
    else
      let n ← word? (f.numerator * c)
      return (← whole? n f.denominator, 0)

/-- Adds seconds and nanoseconds, each of which has to fit in a word together with what it is added
to. -/
def add (d : Duration) (part : Nat × Nat) : Option Duration := do
  let nanos ← word? (d.nanoseconds + part.2)
  let seconds ← word? (d.seconds + part.1 + nanos / billion)
  return { seconds, nanoseconds := nanos % billion }

/-- The letters of units. -/
def isUnitLetter (c : Char) : Bool := c.isAlpha || c == 'µ'

/-- Reads digits, blanks between them left out, onto a number. -/
def readDigits : List Char → Nat → Option (Nat × List Char)
  | [], n => some (n, [])
  | c :: rest, n =>
    if Text.isBlank c then readDigits rest n
    else if c.isDigit then do
      let n ← word? (n * 10 + (c.toNat - 48))
      readDigits rest n
    else some (n, c :: rest)

/-- Reads the digits of a decimal part onto a fraction. -/
def readFraction : List Char → Fraction → Option (Fraction × List Char)
  | [], f => some (f, [])
  | c :: rest, f =>
    if Text.isBlank c then readFraction rest f
    else if c.isDigit then do
      let numerator ← word? (f.numerator * 10 + (c.toNat - 48))
      let denominator ← word? (f.denominator * 10)
      readFraction rest { numerator, denominator }
    else some (f, c :: rest)

/-- Reads a number and its unit, the first digit being at hand, and adds what they denote. A unit
ends before a blank or the next number. -/
def readPart (cs : List Char) (d : Duration) : Option (Duration × List Char) := do
  let (n, rest) ← readDigits cs 0
  let (fraction?, rest) ← match rest with
    | '.' :: rest => do
      let (f, rest) ← readFraction rest ⟨0, 1⟩
      if f.denominator = 1 then none else some (some f, rest)
    | rest => some (none, rest)
  let name := rest.takeWhile isUnitLetter
  let rest := rest.drop name.length
  let unit ← unitOf? (String.ofList name)
  match rest.head? with
  | some c => if !(Text.isBlank c || c.isDigit) then none
  | none => pure ()
  let d ← d.add (← wholePart n unit)
  match fraction? with
  | none => return (d, rest)
  | some f => return (← d.add (← fractionPart f unit), rest)

/-- Reads parts up to the end. Every part takes a character at least, so `fuel` above their number
is never used up. -/
def readParts : Nat → List Char → Duration → Option Duration
  | 0, _, _ => none
  | fuel + 1, cs, d =>
    match cs.dropWhile Text.isBlank with
    | [] => some d
    | c :: rest =>
      if c.isDigit then do
        let (d, rest) ← readPart (c :: rest) d
        readParts fuel rest d
      else none

/-- The duration that a text denotes. There is none without a part, but a lone zero needs no
unit. -/
def parse? (text : String) : Option Duration :=
  if text = "0" then some ⟨0, 0⟩
  else if text.toList.all Text.isBlank then none
  else readParts (text.length + 1) text.toList ⟨0, 0⟩

/-- A number with its unit, left out if it is zero. From two on the unit may end in `s`. -/
def renderPart (n : Nat) (unit : String) (plural : Bool) : List String :=
  if n = 0 then []
  else [Text.decimal n ++ unit ++ (if plural && 1 < n then "s" else "")]

/-- A duration as text. -/
def render (d : Duration) : String :=
  if d.seconds = 0 ∧ d.nanoseconds = 0 then "0s"
  else
    let years := d.seconds / yearSeconds
    let yearRest := d.seconds % yearSeconds
    let months := yearRest / monthSeconds
    let monthRest := yearRest % monthSeconds
    let dayRest := monthRest % 86400
    String.intercalate " " <|
      renderPart years "year" true ++ renderPart months "month" true ++
      renderPart (monthRest / 86400) "day" true ++ renderPart (dayRest / 3600) "h" false ++
      renderPart (dayRest % 3600 / 60) "m" false ++ renderPart (dayRest % 60) "s" false ++
      renderPart (d.nanoseconds / 1000000) "ms" false ++
      renderPart (d.nanoseconds / 1000 % 1000) "us" false ++
      renderPart (d.nanoseconds % 1000) "ns" false

end Duration

end Northbound
