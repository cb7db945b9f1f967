/-!
# Punycode

The encoding of Unicode labels in ASCII: the ASCII characters, a hyphen, and the places
and values of all others as differences in a base-36 notation with moving thresholds.
-/

namespace Northbound.Url.Punycode

/-- The value of a digit; letters may have either case. -/
def digitValue? (c : Char) : Option Nat :=
  if 'a' ≤ c ∧ c ≤ 'z' then some (c.toNat - 97)
  else if 'A' ≤ c ∧ c ≤ 'Z' then some (c.toNat - 65)
  else if '0' ≤ c ∧ c ≤ '9' then some (c.toNat - 22)
  else none

/-- The threshold of the digit with weight index `k`. -/
def threshold (k bias : Nat) : Nat := max 1 (min 26 (k - bias))

theorem threshold_pos (k bias : Nat) : 0 < threshold k bias := by simp only [threshold]; omega

/-- Divides until the difference is small, and counts the divisions in steps of 36. -/
def shrink (delta k : Nat) : Nat × Nat :=
  if 455 < delta then shrink (delta / 35) (k + 36) else (delta, k)
termination_by delta
decreasing_by omega

/-- The bias after a difference has been read, `count` characters being there. -/
def adapt (delta count : Nat) (first : Bool) : Nat :=
  let delta := if first then delta / 700 else delta / 2
  let (delta, k) := shrink (delta + delta / count) 0
  k + 36 * delta / (delta + 38)

/-- The largest number that a difference and the weights of its digits may reach. -/
def maxNumber : Nat := Nat.pow 2 32 - 1

/-- Adds one difference to `total`: the digits up to the first below its threshold. -/
def addDifference? (bias : Nat) : List Char → Nat → Nat → Nat → Option (Nat × List Char)
  | [], _, _, _ => none
  | c :: rest, k, weight, total =>
    match digitValue? c with
    | none => none
    | some d =>
      let total := total + d * weight
      let t := threshold k bias
      if maxNumber < total then none
      else if d < t then some (total, rest)
      else if maxNumber < weight * (36 - t) then none
      else addDifference? bias rest (k + 36) (weight * (36 - t)) total

theorem length_lt_of_addDifference? {bias k weight total sum : Nat} {input rest : List Char}
    (h : addDifference? bias input k weight total = some (sum, rest)) :
    rest.length < input.length := by
  induction input generalizing k weight total with
  | nil => simp [addDifference?] at h
  | cons c cs ih =>
    simp only [addDifference?] at h
    split at h
    · simp at h
    · repeat' split at h
      · simp at h
      · obtain ⟨-, rfl⟩ := by simpa using h
        simp
      · simp at h
      · exact Nat.lt_succ_of_lt (ih h)

/-- Inserts characters one difference after the other, the next of them not below `code` and, if
equal, not before `place`. -/
def insertAll (input : List Char) (code place bias : Nat) (out : List Char) : Option (List Char) :=
  if input.isEmpty then some out
  else
    match _h : addDifference? bias input 36 1 place with
    | none => none
    | some (total, rest) =>
      let count := out.length + 1
      let code := code + total / count
      let spot := total % count
      if code.isValidChar then
        insertAll rest code (spot + 1) (adapt (total - place) count (place == 0))
          (out.take spot ++ Char.ofNat code :: out.drop spot)
      else none
termination_by input.length
decreasing_by exact length_lt_of_addDifference? _h

/-- The characters that a label encodes, given without its mark `xn--`. The last hyphen divides the
ASCII characters from the digits, unless it comes first. -/
def decode? (label : List Char) : Option (List Char) :=
  let digits := (label.reverse.takeWhile (· ≠ '-')).reverse
  let plain := label.take (label.length - digits.length - 1)
  if plain.any fun c => 128 ≤ c.toNat then none
  else insertAll (if plain.isEmpty then label else digits) 128 0 72 plain

/-- The digit with a value. -/
def digit (n : Nat) : Char := if n < 26 then Char.ofNat (n + 97) else Char.ofNat (n + 22)

/-- Writes a difference. -/
def writeDifference (bias k delta : Nat) : List Char :=
  let t := threshold k bias
  if delta < t then [digit delta]
  else
    let rest := delta - t
    digit (t + rest % (36 - t)) :: writeDifference bias (k + 36) (rest / (36 - t))
termination_by delta
decreasing_by
  have := threshold_pos k bias
  exact Nat.lt_of_le_of_lt (Nat.div_le_self _ _) (by omega)

/-- How far the writing of a label has come: the difference since the last character written, the
bias, and how many characters are written. -/
structure Progress where
  delta : Nat := 0
  bias : Nat := 72
  count : Nat
  out : List Char

/-- Writes all places of the character `code` in a label, where `basic` of its characters are
ASCII. -/
def writePlaces (code basic : Nat) (p : Progress) (label : List Char) : Progress :=
  label.foldl (fun p c =>
    if c.toNat < code then { p with delta := p.delta + 1 }
    else if c.toNat = code then
      { delta := 0, bias := adapt p.delta (p.count + 1) (p.count == basic), count := p.count + 1
        out := p.out ++ writeDifference p.bias 36 p.delta }
    else p) p

/-- Writes the characters with the given code points one after the other, in ascending order, the
least that may come next being `least`. -/
def writeCodes (label : List Char) (basic : Nat) : Nat → Progress → List Nat → Progress
  | _, p, [] => p
  | least, p, code :: codes =>
    let p := { p with delta := p.delta + (code - least) * (p.count + 1) }
    let p := writePlaces code basic p label
    writeCodes label basic (code + 1) { p with delta := p.delta + 1 } codes

/-- The encoding of a label, without the mark `xn--`. -/
def encode (label : List Char) : List Char :=
  let plain := label.filter fun c => c.toNat < 128
  let codes := ((label.filter fun c => 128 ≤ c.toNat).map Char.toNat).mergeSort
  let front := if plain.isEmpty then [] else plain ++ ['-']
  (writeCodes label plain.length 128 { count := plain.length, out := front } codes.eraseDups).out

end Northbound.Url.Punycode
