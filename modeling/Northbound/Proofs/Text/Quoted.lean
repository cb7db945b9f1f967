import Northbound.Proofs.Text.Numerals
import Northbound.Text.Quoted

/-!
# Reading back quoted texts

What a quoted text shows of a character tells the character, whatever comes behind it. Main
statement: texts that are quoted alike are the same.
-/

namespace Northbound.Text

/-- The character that a letter behind a backslash stands for. -/
def unescape : Char → Char
  | 'n' => '\n'
  | 'r' => '\r'
  | 't' => '\t'
  | '0' => '\x00'
  | c => c

/-- The character that is shown first in a quoted text, and what is shown of the others. -/
def readShown : List Char → Option (Char × List Char)
  | [] => none
  | '\\' :: 'u' :: '\x7b' :: rest =>
    (readHexDigits 0 (rest.takeWhile (· != '\x7d'))).map fun n =>
      (Char.ofNat n, (rest.dropWhile (· != '\x7d')).tail)
  | '\\' :: c :: rest => some (unescape c, rest)
  | c :: rest => some (c, rest)

/-- There is no closing brace among the digits of a number. -/
theorem ne_brace_of_mem_hexadecimal {n : Nat} {c : Char} (h : c ∈ hexadecimal n) : c ≠ '\x7d' := by
  rintro rfl
  obtain ⟨d, value⟩ := exists_hexValue?_of_readHexDigits (readHexDigits_toDigits n) _ h
  have brace : hexValue? '\x7d' = none := by decide
  rw [brace] at value
  cases value

/-- The code point of a character is read up to the closing brace. -/
theorem readShown_code (c : Char) (rest : List Char) :
    readShown (['\\', 'u', '\x7b'] ++ hexadecimal c.toNat ++ ['\x7d'] ++ rest) =
      some (c, rest) := by
  have digits : ∀ d ∈ hexadecimal c.toNat, (d != '\x7d') = true := by
    intro d hd
    simpa using ne_brace_of_mem_hexadecimal hd
  have front :
      (hexadecimal c.toNat ++ '\x7d' :: rest).takeWhile (· != '\x7d') = hexadecimal c.toNat := by
    rw [List.takeWhile_append_of_pos digits]
    simp
  have back : (hexadecimal c.toNat ++ '\x7d' :: rest).dropWhile (· != '\x7d') = '\x7d' :: rest := by
    rw [List.dropWhile_append_of_pos digits]
    simp
  have shape : ['\\', 'u', '\x7b'] ++ hexadecimal c.toNat ++ ['\x7d'] ++ rest =
      '\\' :: 'u' :: '\x7b' :: (hexadecimal c.toNat ++ '\x7d' :: rest) := by simp
  rw [shape, readShown, front, back, hexadecimal, readHexDigits_toDigits]
  simp

/-- What is shown of a character tells it. -/
theorem readShown_quoteChar (c : Char) (rest : List Char) :
    readShown (quoteChar c ++ rest) = some (c, rest) := by
  by_cases escaped : c ∈ ['"', '\\', '\n', '\r', '\t', '\x00']
  · simp only [List.mem_cons, List.not_mem_nil, or_false] at escaped
    rcases escaped with rfl | rfl | rfl | rfl | rfl | rfl <;> rfl
  · simp only [List.mem_cons, List.not_mem_nil, or_false, not_or] at escaped
    obtain ⟨quote, backslash, feed, return_, tab, nul⟩ := escaped
    simp only [quoteChar, quote, backslash, feed, return_, tab, nul, if_false]
    split
    · exact readShown_code c rest
    · simp [readShown, backslash]

theorem flatMap_quoteChar_inj {xs ys : List Char}
    (h : xs.flatMap quoteChar = ys.flatMap quoteChar) : xs = ys := by
  induction xs generalizing ys with
  | nil =>
    cases ys with
    | nil => rfl
    | cons y ys =>
      have shown := readShown_quoteChar y (ys.flatMap quoteChar)
      rw [← List.flatMap_cons, ← h] at shown
      cases shown
  | cons x xs ih =>
    have shown := readShown_quoteChar x (xs.flatMap quoteChar)
    rw [← List.flatMap_cons, h] at shown
    cases ys with
    | nil => cases shown
    | cons y ys =>
      rw [List.flatMap_cons, readShown_quoteChar, Option.some.injEq, Prod.mk.injEq] at shown
      obtain ⟨rfl, rest⟩ := shown
      rw [ih rest.symm]

/-- Texts that are quoted alike are the same. -/
theorem quoted_eq_iff {s t : String} : quoted s = quoted t ↔ s = t := by
  constructor
  · intro h
    have chars := String.ofList_inj.1 h
    rw [List.cons_append, List.cons_append, List.cons.injEq] at chars
    exact String.toList_inj.1 (flatMap_quoteChar_inj (List.append_cancel_right chars.2))
  · exact congrArg quoted

end Northbound.Text
