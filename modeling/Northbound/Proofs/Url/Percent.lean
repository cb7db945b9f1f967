import Northbound.Url.Percent

/-!
# Percent encoding can be undone

What is percent-encoded with a set that has the percent sign in it decodes to the bytes of the text,
and encoding it once more with a smaller set changes nothing.
-/

namespace Northbound.Url

variable {set more : Char → Bool} {c : Char} {cs : List Char}

theorem hexValue?_upperHex {n : Nat} (h : n < 16) :
    Bytes.hexValue? (UInt8.ofNat (upperHex n).toNat) = some n := by
  have all : ∀ m < 16, Bytes.hexValue? (UInt8.ofNat (upperHex m).toNat) = some m := by decide
  exact all n h

/-- A byte other than a percent sign stands for itself. -/
theorem percentDecode_cons {b : UInt8} (h : b ≠ 37) (rest : Bytes) :
    percentDecode (b :: rest) = b :: percentDecode rest := by
  match rest with
  | [] => rfl
  | [_] => rfl
  | _ :: _ :: _ => rw [percentDecode, if_neg h]

/-- Without a percent sign nothing is decoded. -/
theorem percentDecode_of_not_mem {bs : Bytes} (h : 37 ∉ bs) : percentDecode bs = bs := by
  induction bs with
  | nil => rfl
  | cons b bs ih =>
    rw [List.mem_cons, not_or] at h
    rw [percentDecode_cons (Ne.symm h.1), ih h.2]

/-- An encoded byte as bytes. -/
def percentBytes (b : UInt8) : Bytes := (percentByte b).map fun c => UInt8.ofNat c.toNat

theorem percentDecode_percentBytes (b : UInt8) (rest : Bytes) :
    percentDecode (percentBytes b ++ rest) = b :: percentDecode rest := by
  have high : b.toNat / 16 < 16 := by
    have := b.toNat_lt
    omega
  have low : b.toNat % 16 < 16 := by omega
  have sum : 16 * (b.toNat / 16) + b.toNat % 16 = b.toNat := by omega
  have sign : UInt8.ofNat '%'.toNat = 37 := rfl
  simp only [percentBytes, percentByte, List.map_cons, List.map_nil, List.cons_append,
    List.nil_append, percentDecode, sign, hexValue?_upperHex high, hexValue?_upperHex low, if_true,
    sum, UInt8.ofNat_toNat]

theorem percentDecode_flatMap_percentBytes (bs rest : Bytes) :
    percentDecode (bs.flatMap percentBytes ++ rest) = bs ++ percentDecode rest := by
  induction bs with
  | nil => rfl
  | cons b bs ih =>
    rw [List.flatMap_cons, List.append_assoc, percentDecode_percentBytes, ih, List.cons_append]

/-- The characters that encoded bytes consist of. -/
def isWritten (c : Char) : Bool := c == '%' || c.isDigit || ('A' ≤ c && c ≤ 'F')

theorem isWritten_upperHex {n : Nat} (h : n < 16) : isWritten (upperHex n) = true := by
  have all : ∀ m < 16, isWritten (upperHex m) = true := by decide
  exact all n h

theorem isWritten_of_mem_percentByte {b : UInt8} (h : c ∈ percentByte b) : isWritten c = true := by
  have high : b.toNat / 16 < 16 := by
    have := b.toNat_lt
    omega
  have low : b.toNat % 16 < 16 := by omega
  simp only [percentByte, List.mem_cons, List.not_mem_nil, or_false] at h
  rcases h with rfl | rfl | rfl
  · rfl
  · exact isWritten_upperHex high
  · exact isWritten_upperHex low

theorem toNat_lt_of_isWritten (h : isWritten c = true) : c.toNat < 128 := by
  simp only [isWritten, Bool.or_eq_true, Bool.and_eq_true, beq_iff_eq, decide_eq_true_eq,
    Char.isDigit, Char.le_def, UInt32.le_iff_toNat_le] at h
  have value : c.val.toNat = c.toNat := rfl
  rcases h with (rfl | h) | h
  · decide
  · have most : ('9' : Char).val.toNat = 57 := rfl
    omega
  · have most : ('F' : Char).val.toNat = 70 := rfl
    omega

/-- What holds of all codes in ASCII holds of the characters in ASCII. -/
theorem of_ascii {p : Char → Prop} (all : ∀ n < 128, p (Char.ofNat n))
    (ascii : c.toNat < 128) : p c := by
  have holds := all c.toNat ascii
  rwa [Char.ofNat_toNat] at holds

/-- What stands for a character: the character itself, or characters of encoded bytes. -/
theorem mem_percentChar {d : Char} (h : d ∈ percentChar set c) :
    (d = c ∧ c.toNat < 128 ∧ set c = false) ∨ isWritten d = true := by
  unfold percentChar at h
  split at h
  · obtain ⟨b, -, hd⟩ := List.mem_flatMap.mp h
    exact Or.inr (isWritten_of_mem_percentByte hd)
  next plain =>
    simp only [Bool.or_eq_true, decide_eq_true_eq, not_or, Nat.not_le, Bool.not_eq_true] at plain
    exact Or.inl ⟨List.mem_singleton.mp h, plain⟩

theorem mem_percentEncode {d : Char} (h : d ∈ percentEncode set cs) :
    (d ∈ cs ∧ d.toNat < 128 ∧ set d = false) ∨ isWritten d = true := by
  obtain ⟨c, hc, hd⟩ := List.mem_flatMap.mp h
  rcases mem_percentChar hd with ⟨rfl, plain⟩ | written
  · exact Or.inl ⟨hc, plain⟩
  · exact Or.inr written

theorem toNat_lt_of_mem_percentEncode {d : Char} (h : d ∈ percentEncode set cs) :
    d.toNat < 128 := by
  rcases mem_percentEncode h with ⟨-, plain, -⟩ | written
  · exact plain
  · exact toNat_lt_of_isWritten written

/-- The bytes that stand for a character decode to those of the character. -/
theorem percentDecode_percentChar (sign : set '%' = true) (c : Char) (rest : Bytes) :
    percentDecode (utf8 (String.ofList (percentChar set c)) ++ rest) =
      utf8 (String.singleton c) ++ percentDecode rest := by
  have ascii : ∀ d ∈ percentChar set c, d.toNat < 128 := by
    intro d hd
    rcases mem_percentChar hd with ⟨rfl, plain, -⟩ | written
    · exact plain
    · exact toNat_lt_of_isWritten written
  rw [utf8_ofList_ascii _ ascii]
  unfold percentChar
  split
  · rw [List.map_flatMap]
    exact percentDecode_flatMap_percentBytes _ rest
  next plain =>
    simp only [Bool.or_eq_true, decide_eq_true_eq, not_or, Nat.not_le, Bool.not_eq_true] at plain
    have ne : UInt8.ofNat c.toNat ≠ 37 := by
      intro h
      have code := congrArg UInt8.toNat h
      rw [UInt8.toNat_ofNat', Nat.mod_eq_of_lt (by omega)] at code
      have same : c = '%' := Char.ext (UInt32.toNat_inj.mp code)
      rw [same, sign] at plain
      exact absurd plain.2 (by decide)
    have single : utf8 (String.singleton c) = [UInt8.ofNat c.toNat] := by
      have := utf8_ofList_ascii [c] (by simpa using plain.1)
      rwa [← String.singleton_eq_ofList] at this
    rw [single, List.map_singleton, List.singleton_append, percentDecode_cons ne]
    rfl

/-- Decoding undoes encoding. -/
theorem percentDecode_percentEncode (sign : set '%' = true) (cs : List Char) :
    percentDecode (utf8 (String.ofList (percentEncode set cs))) = utf8 (String.ofList cs) := by
  induction cs with
  | nil => rfl
  | cons c cs ih =>
    have front : String.ofList (percentEncode set (c :: cs)) =
        String.ofList (percentChar set c) ++ String.ofList (percentEncode set cs) := by
      rw [← String.ofList_append]
      rfl
    have whole : String.ofList (c :: cs) = String.singleton c ++ String.ofList cs := by
      rw [String.singleton_eq_ofList, ← String.ofList_append]
      rfl
    rw [front, utf8_append, percentDecode_percentChar sign, ih, whole, utf8_append]

theorem percentEncode_of_plain (h : ∀ c ∈ cs, c.toNat < 128 ∧ set c = false) :
    percentEncode set cs = cs := by
  induction cs with
  | nil => rfl
  | cons c cs ih =>
    obtain ⟨ascii, unset⟩ := h c (by simp)
    have alone : percentChar set c = [c] := by
      rw [percentChar, if_neg]
      simp [unset, ascii]
    rw [percentEncode, List.flatMap_cons, alone]
    exact congrArg (c :: ·) (ih fun d hd => h d (by simp [hd]))

/-- What was encoded may stand where a smaller set is encoded that has no character in it which
encoding writes. -/
theorem plain_of_mem_percentEncode (smaller : ∀ c, set c = true → more c = true)
    (unwritten : ∀ c, isWritten c = true → set c = false) (h : c ∈ percentEncode more cs) :
    c.toNat < 128 ∧ set c = false := by
  refine ⟨toNat_lt_of_mem_percentEncode h, ?_⟩
  rcases mem_percentEncode h with ⟨-, -, unset⟩ | written
  · exact Bool.eq_false_iff.mpr fun isSet => by simp [smaller c isSet] at unset
  · exact unwritten c written

end Northbound.Url
