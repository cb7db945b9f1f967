import Northbound.Text.CombiningClass
import Northbound.Text.Composition

/-!
# Canonical form

A text may be written with composed characters or with their parts, and with its marks in several
orders. In the canonical form all that can be composed is composed, and marks of different classes
stand in the order of their classes.
-/

namespace Northbound.Text

/-- A character taken apart in at most `steps` steps. A second part is never composed itself. -/
def takeApart : Nat → Char → List Char
  | 0, c => [c]
  | steps + 1, c =>
    match parts? c with
    | none => [c]
    | some (a, b) => takeApart steps a ++ [b]

/-- The most steps that a character can be taken apart in. -/
def maxSteps : Nat := 3

/-- Puts a character behind others, the last of which comes first. A mark goes in front of the marks
of higher classes. -/
def putMark (c : Char) : List Char → List Char
  | [] => [c]
  | d :: done =>
    if combiningClass c ≠ 0 ∧ combiningClass c < combiningClass d then d :: putMark c done
    else c :: d :: done

/-- Characters with their marks in the order of their classes. -/
def orderMarks (cs : List Char) : List Char := (cs.foldl (fun done c => putMark c done) []).reverse

/-- Whether marks, the last of which comes first, keep a character behind them from being composed
with the one in front of them. -/
def blocks (marks : List Char) (c : Char) : Bool :=
  marks.head?.any fun m => combiningClass c ≤ combiningClass m

/-- Composes a character with those behind it. In between stand the marks that it could not be
composed with, the last of which comes first. -/
def composeFrom (start : Char) (marks : List Char) : List Char → List Char
  | [] => start :: marks.reverse
  | c :: rest =>
    match if blocks marks c then none else composed? start c with
    | some both => composeFrom both marks rest
    | none =>
      if combiningClass c = 0 then start :: marks.reverse ++ composeFrom c [] rest
      else composeFrom start (c :: marks) rest

/-- The canonical form of a text. -/
def canonical (cs : List Char) : List Char :=
  if cs.all fun c => c.toNat < 128 then cs
  else
    match orderMarks (cs.flatMap (takeApart maxSteps)) with
    | [] => []
    | c :: rest => composeFrom c [] rest

end Northbound.Text
