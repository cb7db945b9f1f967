import Northbound.Proofs.Text.Numerals
import Northbound.Tar.Record

/-!
# Reading back extended records

A written line is read back as the record it was made of, since the number in front of it counts the
line as it is. A reader that takes lines apart at line feeds does not find a record whose value has
a line feed in it.
-/

namespace Northbound

namespace Tar

/-- The number in front of a line counts the line as it is, the number included. -/
theorem length_toDigits_lineLength (rest : Nat) :
    (Nat.toDigits 10 (Record.lineLength rest)).length + rest = Record.lineLength rest := by
  unfold Record.lineLength
  generalize hk : (Nat.toDigits 10 rest).length = k
  have positive : 0 < k := hk ▸ Nat.length_toDigits_pos
  have upper : rest < 10 ^ k :=
    (Nat.length_toDigits_le_iff (by decide) positive).1 (Nat.le_of_eq hk)
  have room : k < 10 ^ k := Nat.lt_pow_self (by decide)
  have next : 10 ^ (k + 1) = 10 * 10 ^ k := by rw [Nat.pow_succ, Nat.mul_comm]
  simp only
  split
  next h => exact h
  next h =>
    have most : (Nat.toDigits 10 (rest + k)).length ≤ k + 1 :=
      (Nat.length_toDigits_le_iff (by decide) (by omega)).2 (by omega)
    have least : k ≤ (Nat.toDigits 10 (rest + k)).length := by
      cases k with
      | zero => omega
      | succ j =>
        cases j with
        | zero => exact Nat.length_toDigits_pos
        | succ i =>
          have more : ¬(Nat.toDigits 10 rest).length ≤ i + 1 := by omega
          rw [Nat.length_toDigits_le_iff (by decide) (by omega)] at more
          have : ¬(Nat.toDigits 10 (rest + (i + 1 + 1))).length ≤ i + 1 := by
            rw [Nat.length_toDigits_le_iff (by decide) (by omega)]
            omega
          omega
    have one_more : (Nat.toDigits 10 (rest + k)).length = k + 1 := by omega
    have large : ¬(Nat.toDigits 10 (rest + k)).length ≤ k := by omega
    rw [Nat.length_toDigits_le_iff (by decide) positive] at large
    rw [one_more]
    have : (Nat.toDigits 10 (rest + (k + 1))).length ≤ k + 1 :=
      (Nat.length_toDigits_le_iff (by decide) (by omega)).2 (by omega)
    have : ¬(Nat.toDigits 10 (rest + (k + 1))).length ≤ k := by
      rw [Nat.length_toDigits_le_iff (by decide) positive]
      omega
    omega

theorem length_utf8_decimal (n : Nat) :
    (utf8 (Text.decimal n)).length = (Nat.toDigits 10 n).length := by
  rw [Text.decimal,
    Text.utf8_digits fun c hc => Nat.isDigit_of_mem_toDigits (by decide) (by decide) hc,
    List.length_map]

theorem not_mem_utf8_decimal (n : Nat) {b : UInt8} (h : b.toNat < 48) :
    b ∉ utf8 (Text.decimal n) := by
  intro hb
  have := Text.digit_bytes
    (fun c hc => Nat.isDigit_of_mem_toDigits (by decide) (by decide) hc) hb
  omega

theorem takeWhile_ne_append {b : UInt8} {bs : Bytes} (h : b ∉ bs) (rest : Bytes) :
    (bs ++ b :: rest).takeWhile (· != b) = bs := by
  induction bs with
  | nil => simp
  | cons c bs ih =>
    rw [List.mem_cons, not_or] at h
    have : c ≠ b := fun e => h.1 e.symm
    simp [this, ih h.2]

namespace Record

/-- A line as it is written is a record if its number is right. -/
theorem ofLine?_written {n : Nat} (bounded : n ≤ Text.maxWord) {key : Bytes} (hk : 61 ∉ key)
    (value : Bytes) :
    ofLine? (utf8 (Text.decimal n) ++ 32 :: (key ++ 61 :: value)) =
      if (utf8 (Text.decimal n) ++ 32 :: (key ++ 61 :: value)).length + 1 = n
      then some ⟨key, value⟩ else none := by
  have digits : (utf8 (Text.decimal n) ++ 32 :: (key ++ 61 :: value)).takeWhile (· != 32) =
      utf8 (Text.decimal n) := takeWhile_ne_append (not_mem_utf8_decimal n (by decide)) _
  have rest : (utf8 (Text.decimal n) ++ 32 :: (key ++ 61 :: value)).drop
      ((utf8 (Text.decimal n)).length + 1) = key ++ 61 :: value := by
    rw [← List.drop_drop, List.drop_left]
    rfl
  have number : Text.readUnsigned 10 Text.maxWord (Text.decimal n).toList = some n := by
    have := Text.readUnsigned_padZeros 10 (by decide) (by decide) 0 bounded
    simpa [Text.padZeros, Text.decimal] using this
  unfold ofLine?
  simp only [digits, rest, utf8Decode?_utf8, number, Option.bind_eq_bind, Option.bind_some,
    takeWhile_ne_append hk]
  rw [if_neg (by simp)]
  by_cases right : (utf8 (Text.decimal n) ++ 32 :: (key ++ 61 :: value)).length + 1 = n
  · have ends : ¬key.length = (key ++ 61 :: value).length := by simp
    rw [if_neg (not_or.2 ⟨not_not_intro right, ends⟩), if_pos right]
    simp [← List.drop_drop]
  · rw [if_pos (Or.inl right), if_neg right]

/-- A value is shorter than its line. -/
theorem length_value_lt {l : Bytes} {r : Record} (h : ofLine? l = some r) :
    r.value.length < l.length := by
  unfold ofLine? at h
  simp only [Option.bind_eq_bind] at h
  split at h
  next => simp at h
  next =>
    obtain ⟨text, -, h⟩ := Option.bind_eq_some_iff.1 h
    obtain ⟨n, -, h⟩ := Option.bind_eq_some_iff.1 h
    split at h
    next => simp at h
    next a b =>
      have := List.takeWhile_prefix (p := fun x => x != 32) (l := l)
      have := this.length_le
      cases h
      simp only [List.length_drop]
      omega

end Record

theorem splitLines_ne_nil (bs : Bytes) : splitLines bs ≠ [] := by
  cases bs with
  | nil => simp [splitLines]
  | cons b bs =>
    simp only [splitLines]
    split
    · simp
    · split <;> simp

theorem splitLines_cons (b : UInt8) (bs : Bytes) :
    splitLines (b :: bs) = if b = 10 then [] :: splitLines bs
      else (b :: (splitLines bs).head (splitLines_ne_nil bs)) :: (splitLines bs).tail := by
  have some_ := splitLines_ne_nil bs
  rw [splitLines]
  split
  next h => exact absurd h some_
  next l ls h => simp [h]

/-- A line feed ends a line. -/
theorem splitLines_append {l : Bytes} (h : 10 ∉ l) (rest : Bytes) :
    splitLines (l ++ 10 :: rest) = l :: splitLines rest := by
  induction l with
  | nil => simp [splitLines_cons]
  | cons b l ih =>
    rw [List.mem_cons, not_or] at h
    have : b ≠ 10 := fun e => h.1 e.symm
    simp [splitLines_cons, this, ih h.2]

/-- A line feed at the end makes one more line, an empty one. -/
theorem splitLines_append_end (bs : Bytes) : splitLines (bs ++ [10]) = splitLines bs ++ [[]] := by
  induction bs with
  | nil => rfl
  | cons b bs ih =>
    have some_ := splitLines_ne_nil bs
    rw [List.cons_append, splitLines_cons, splitLines_cons]
    simp only [ih]
    split
    · rfl
    · simp [some_]

theorem length_le_of_mem_splitLines {bs l : Bytes} (h : l ∈ splitLines bs) :
    l.length ≤ bs.length := by
  induction bs generalizing l with
  | nil => simp_all [splitLines]
  | cons b bs ih =>
    have first := ih (List.head_mem (splitLines_ne_nil bs))
    rw [splitLines_cons] at h
    split at h
    · rcases List.mem_cons.1 h with rfl | h
      · simp
      · have := ih h
        simp
        omega
    · rcases List.mem_cons.1 h with rfl | h
      · simpa using first
      · have := ih (List.mem_of_mem_tail h)
        simp
        omega

end Tar

end Northbound

