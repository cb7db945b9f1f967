/-!
# Sets of characters

Sets of characters as their properties define them: ranges of code points, in ascending order. The
characters with the Unicode property `White_Space`, and texts freed of them at both ends.
-/

namespace Northbound.Text

/-- Ranges of code points, each given by its first and its last one. -/
abbrev CharRanges := List (Nat × Nat)

/-- Whether a character is in one of the ranges. -/
def CharRanges.contains (ranges : CharRanges) (c : Char) : Bool :=
  ranges.any fun r => r.1 ≤ c.toNat && c.toNat ≤ r.2

/-- The Unicode property `White_Space`. -/
def isBlank (c : Char) : Bool :=
  let n := c.toNat
  (9 ≤ n && n ≤ 13) || n == 32 || n == 0x85 || n == 0xA0 || n == 0x1680 ||
    (0x2000 ≤ n && n ≤ 0x200A) || n == 0x2028 || n == 0x2029 || n == 0x202F || n == 0x205F ||
    n == 0x3000

/-- Characters without the blank ones they open with. -/
def trimStartChars (cs : List Char) : List Char := cs.dropWhile isBlank

/-- Characters without the blank ones at either end. -/
def trimChars (cs : List Char) : List Char :=
  (trimStartChars (trimStartChars cs).reverse).reverse

/-- A text without the white space at either end. -/
def trim (s : String) : String := String.ofList (trimChars s.toList)

end Northbound.Text
