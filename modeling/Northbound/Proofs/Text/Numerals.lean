import Northbound.Text.Blank
import Northbound.Text.Number
import Northbound.Bytes

/-!
# Reading back written numbers

Numbers are written in a base of at most ten, with or without zeros in front, or in hexadecimal
digits, and read back digit by digit. The bytes of a number are those of its digits, so no separator
stands among them.
-/

namespace Northbound

namespace Text

theorem digitValue?_digitChar {base d : Nat} (hd : d < base) (hb : base ≤ 10) :
    digitValue? base d.digitChar = some d := by
  have value : d.digitChar.toNat = 48 + d := Nat.toNat_digitChar_of_lt_ten (by omega)
  have low : '0' ≤ d.digitChar := by
    rw [Char.le_def, UInt32.le_iff_toNat_le]
    change 48 ≤ d.digitChar.toNat
    omega
  simp only [digitValue?, value, low, true_and]
  rw [if_pos (by omega)]
  simp

theorem readDigits_append (base acc : Nat) (xs ys : List Char) :
    readDigits base acc (xs ++ ys) = (readDigits base acc xs).bind (readDigits base · ys) := by
  induction xs generalizing acc with
  | nil => rfl
  | cons x xs ih =>
    simp only [List.cons_append, readDigits]
    cases digitValue? base x with
    | none => rfl
    | some d => exact ih _

theorem readDigits_toDigits {base : Nat} (hb : 1 < base) (hb' : base ≤ 10) (n : Nat) :
    readDigits base 0 (Nat.toDigits base n) = some n := by
  induction n using Nat.strongRecOn with
  | ind n ih =>
    rw [Nat.toDigits_eq_if hb]
    split
    next small => simp [readDigits, digitValue?_digitChar small hb']
    next large =>
      have less : n / base < n := Nat.div_lt_self (by omega) hb
      have last : n % base < base := Nat.mod_lt _ (by omega)
      rw [readDigits_append, ih _ less]
      simp [readDigits, digitValue?_digitChar last hb', Nat.div_add_mod']

theorem readDigits_zeros {base : Nat} (hb : 0 < base) (k : Nat) (cs : List Char) :
    readDigits base 0 (List.replicate k '0' ++ cs) = readDigits base 0 cs := by
  induction k with
  | zero => rfl
  | succ k ih =>
    have zero : digitValue? base '0' = some 0 := by simp [digitValue?, hb]
    simpa [List.replicate_succ, readDigits, zero] using ih

/-- Digits alone, one at least. -/
theorem readUnsigned_digits {base bound n : Nat} {cs : List Char} (digits : ∀ c ∈ cs, c.isDigit)
    (nonempty : cs ≠ []) (value : readDigits base 0 cs = some n) (bounded : n ≤ bound) :
    readUnsigned base bound cs = some n := by
  cases cs with
  | nil => exact absurd rfl nonempty
  | cons c cs =>
    have plain : c ≠ '+' := by
      rintro rfl
      have := digits '+' (by simp)
      simp at this
    unfold readUnsigned
    split
    next rest h =>
      simp at h
      exact absurd h.1 plain
    next => simp [value, bounded]

theorem isDigit_padZeros (base : Nat) (hb : 0 < base) (hb' : base ≤ 10) (width n : Nat) :
    ∀ c ∈ padZeros width (Nat.toDigits base n), c.isDigit := by
  intro c hc
  rcases List.mem_append.1 hc with h | h
  · rw [(List.mem_replicate.1 h).2]
    rfl
  · exact Nat.isDigit_of_mem_toDigits hb hb' h

theorem readUnsigned_padZeros (base : Nat) {bound n : Nat} (hb : 1 < base)
    (hb' : base ≤ 10) (width : Nat) (bounded : n ≤ bound) :
    readUnsigned base bound (padZeros width (Nat.toDigits base n)) = some n := by
  apply readUnsigned_digits (isDigit_padZeros base (by omega) hb' width n)
  · simp [padZeros]
  · rw [padZeros, readDigits_zeros (by omega), readDigits_toDigits hb hb']
  · exact bounded

theorem isDigit_of_mem_toDigits {n : Nat} {c : Char} (h : c ∈ Nat.toDigits 10 n) :
    c.isDigit = true :=
  Nat.isDigit_of_mem_toDigits (by decide) (by decide) h

/-- The byte of a digit. -/
theorem utf8_digits {cs : List Char} (digits : ∀ c ∈ cs, c.isDigit) :
    utf8 (String.ofList cs) = cs.map fun c => UInt8.ofNat c.toNat := by
  apply utf8_ofList_ascii
  intro c hc
  have := Char.isDigit_iff_toNat.1 (digits c hc)
  have high : '9'.toNat = 57 := rfl
  omega

theorem digit_bytes {cs : List Char} (digits : ∀ c ∈ cs, c.isDigit) {b : UInt8}
    (hb : b ∈ utf8 (String.ofList cs)) : 48 ≤ b.toNat ∧ b.toNat ≤ 57 := by
  rw [utf8_digits digits] at hb
  obtain ⟨c, hc, rfl⟩ := List.mem_map.1 hb
  have range := Char.isDigit_iff_toNat.1 (digits c hc)
  have low : '0'.toNat = 48 := rfl
  have high : '9'.toNat = 57 := rfl
  have value : (UInt8.ofNat c.toNat).toNat = c.toNat := by
    rw [UInt8.toNat_ofNat']
    omega
  omega

/-- Characters are ordered as their codes. -/
theorem le_iff_toNat_le {a c : Char} : a ≤ c ↔ a.toNat ≤ c.toNat := by
  rw [Char.le_def, UInt32.le_iff_toNat_le]
  rfl

/-- A decimal digit has the value that its code is above that of zero. -/
theorem digitValue?_ten_eq_some_iff {c : Char} {d : Nat} :
    digitValue? 10 c = some d ↔ c.isDigit = true ∧ d = c.toNat - '0'.toNat := by
  have low : '0'.toNat = 48 := rfl
  have high : '9'.toNat = 57 := rfl
  rw [Char.isDigit_iff_toNat, digitValue?]
  simp only [le_iff_toNat_le]
  split
  · simp only [Option.some.injEq]
    omega
  · simp only [reduceCtorEq, false_iff]
    omega

/-- What is read as a decimal number is digits, and the number is their value. -/
theorem readDigits_ten_eq_some_iff {cs : List Char} {acc n : Nat} :
    readDigits 10 acc cs = some n ↔
      (∀ c ∈ cs, c.isDigit = true) ∧ n = Nat.ofDigitChars 10 cs acc := by
  induction cs generalizing acc with
  | nil =>
    rw [readDigits, Option.some.injEq, Nat.ofDigitChars_nil, eq_comm]
    simp
  | cons c cs ih =>
    rw [readDigits, Option.bind_eq_bind, Option.bind_eq_some_iff, List.forall_mem_cons,
      Nat.ofDigitChars_cons, Nat.mul_comm 10 acc]
    constructor
    · rintro ⟨d, first, rest⟩
      obtain ⟨digit, rfl⟩ := digitValue?_ten_eq_some_iff.1 first
      obtain ⟨digits, value⟩ := ih.1 rest
      exact ⟨⟨digit, digits⟩, value⟩
    · rintro ⟨⟨digit, digits⟩, value⟩
      exact ⟨_, digitValue?_ten_eq_some_iff.2 ⟨digit, rfl⟩, ih.2 ⟨digits, value⟩⟩

/-- A decimal number is a plus sign or none, then digits, one at least, with a value that is not too
large. -/
theorem readUnsigned_ten_eq_some_iff {bound n : Nat} {cs : List Char} :
    readUnsigned 10 bound cs = some n ↔
      ∃ sign digits, cs = sign ++ digits ∧ (sign = [] ∨ sign = ['+']) ∧ digits ≠ [] ∧
        (∀ c ∈ digits, c.isDigit = true) ∧ n = Nat.ofDigitChars 10 digits 0 ∧ n ≤ bound := by
  have read {digits : List Char} : (do
      if digits.isEmpty then none
      else
        let n ← readDigits 10 0 digits
        if n ≤ bound then some n else none) = some n ↔
      digits ≠ [] ∧ (∀ c ∈ digits, c.isDigit = true) ∧ n = Nat.ofDigitChars 10 digits 0 ∧
        n ≤ bound := by
    by_cases empty : digits = []
    · simp [empty]
    · simp only [List.isEmpty_iff, empty, if_false, ne_eq, not_false_eq_true, true_and]
      rw [Option.bind_eq_bind, Option.bind_eq_some_iff]
      constructor
      · rintro ⟨m, value, bounded⟩
        split at bounded
        · cases bounded
          obtain ⟨all, rfl⟩ := readDigits_ten_eq_some_iff.1 value
          exact ⟨all, rfl, ‹_›⟩
        · cases bounded
      · rintro ⟨all, value, bounded⟩
        exact ⟨n, readDigits_ten_eq_some_iff.2 ⟨all, value⟩, if_pos bounded⟩
  unfold readUnsigned
  constructor
  · intro h
    split at h
    next rest => exact ⟨['+'], rest, rfl, Or.inr rfl, read.1 h⟩
    next => exact ⟨[], cs, rfl, Or.inl rfl, read.1 h⟩
  · rintro ⟨sign, digits, rfl, rfl | rfl, nonempty, all, value⟩
    · rw [List.nil_append]
      split
      next rest =>
        -- A plus sign is no digit.
        exact absurd (all '+' (by simp)) (by decide)
      next => exact read.2 ⟨nonempty, all, value⟩
    · exact read.2 ⟨nonempty, all, value⟩

theorem isBlank_of_isDigit {c : Char} (h : c.isDigit) : isBlank c = false := by
  have range := Char.isDigit_iff_toNat.1 h
  have low : '0'.toNat = 48 := rfl
  have high : '9'.toNat = 57 := rfl
  simp [isBlank]
  omega

theorem hexValue?_digitChar {d : Nat} (h : d < 16) : hexValue? d.digitChar = some d := by
  have all : ∀ m < 16, hexValue? m.digitChar = some m := by decide
  exact all d h

theorem readHexDigits_append (acc : Nat) (xs ys : List Char) :
    readHexDigits acc (xs ++ ys) = (readHexDigits acc xs).bind (readHexDigits · ys) := by
  induction xs generalizing acc with
  | nil => rfl
  | cons x xs ih =>
    simp only [List.cons_append, readHexDigits]
    cases hexValue? x with
    | none => rfl
    | some d => exact ih _

theorem readHexDigits_toDigits (n : Nat) : readHexDigits 0 (Nat.toDigits 16 n) = some n := by
  induction n using Nat.strongRecOn with
  | ind n ih =>
    rw [Nat.toDigits_eq_if (by decide)]
    split
    next small => simp [readHexDigits, hexValue?_digitChar small]
    next large =>
      have less : n / 16 < n := Nat.div_lt_self (by omega) (by decide)
      have last : n % 16 < 16 := Nat.mod_lt _ (by decide)
      rw [readHexDigits_append, ih _ less]
      simp [readHexDigits, hexValue?_digitChar last, Nat.div_add_mod']

/-- Where the hexadecimal digits stand among all characters, and their values. -/
theorem cases_of_hexValue? {c : Char} {d : Nat} (h : hexValue? c = some d) :
    (48 ≤ c.toNat ∧ c.toNat ≤ 57 ∧ d = c.toNat - 48) ∨
      (97 ≤ c.toNat ∧ c.toNat ≤ 102 ∧ d = c.toNat - 87) ∨
        (65 ≤ c.toNat ∧ c.toNat ≤ 70 ∧ d = c.toNat - 55) := by
  simp only [hexValue?, le_iff_toNat_le] at h
  change (if 48 ≤ c.toNat ∧ c.toNat ≤ 57 then _ else if 97 ≤ c.toNat ∧ c.toNat ≤ 102 then _
    else if 65 ≤ c.toNat ∧ c.toNat ≤ 70 then _ else _) = _ at h
  split at h
  next range => exact Or.inl ⟨range.1, range.2, (Option.some.inj h).symm⟩
  · split at h
    next range => exact Or.inr (Or.inl ⟨range.1, range.2, (Option.some.inj h).symm⟩)
    · split at h
      next range => exact Or.inr (Or.inr ⟨range.1, range.2, (Option.some.inj h).symm⟩)
      · cases h

/-- What is read as a hexadecimal number is digits. -/
theorem exists_hexValue?_of_readHexDigits {acc n : Nat} {cs : List Char}
    (h : readHexDigits acc cs = some n) : ∀ c ∈ cs, ∃ d, hexValue? c = some d := by
  induction cs generalizing acc with
  | nil => simp
  | cons c cs ih =>
    rw [readHexDigits] at h
    obtain ⟨d, first, rest⟩ := Option.bind_eq_some_iff.1 h
    exact List.forall_mem_cons.2 ⟨⟨d, first⟩, ih rest⟩

theorem readHexDigits_lt {acc n : Nat} {cs : List Char} (h : readHexDigits acc cs = some n) :
    n < (acc + 1) * Nat.pow 16 cs.length := by
  induction cs generalizing acc with
  | nil =>
    rw [readHexDigits, Option.some.injEq] at h
    rw [h, List.length_nil, Nat.pow, Nat.mul_one]
    exact Nat.lt_succ_self n
  | cons c cs ih =>
    rw [readHexDigits] at h
    obtain ⟨d, first, rest⟩ := Option.bind_eq_some_iff.1 h
    have digit : d < 16 := by
      have := cases_of_hexValue? first
      omega
    have power : Nat.pow 16 (c :: cs).length = Nat.pow 16 cs.length * 16 := rfl
    calc n < (acc * 16 + d + 1) * Nat.pow 16 cs.length := ih rest
      _ ≤ (acc + 1) * 16 * Nat.pow 16 cs.length := Nat.mul_le_mul_right _ (by omega)
      _ = (acc + 1) * Nat.pow 16 (c :: cs).length := by
        rw [power, Nat.mul_assoc, Nat.mul_comm 16]

end Text

end Northbound
