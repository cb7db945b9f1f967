/-!
# Byte strings

Everything that crosses a border of the program (request bodies, archives, file contents, path
names) is a list of bytes. A list keeps every statement about framing, such as "these 512 bytes,
then the rest", an equation about `++`, `take` and `drop`.
-/

namespace Northbound

/-- A finite sequence of bytes. -/
abbrev Bytes := List UInt8

/-- The UTF-8 encoding of a text. -/
def utf8 (s : String) : Bytes := s.toByteArray.data.toList

/-- The text that the bytes encode, if they are well-formed UTF-8. -/
def utf8Decode? (bs : Bytes) : Option String := String.fromUTF8? ⟨bs.toArray⟩

/-- Reading the encoding of a text gives the text back. -/
theorem utf8Decode?_utf8 (s : String) : utf8Decode? (utf8 s) = some s := by
  have h : (ByteArray.mk s.toByteArray.data).IsValidUTF8 := s.isValidUTF8
  simp [utf8Decode?, utf8, String.fromUTF8?, h]
  rfl

/-- A text that was read has the encoding it was read from. -/
theorem utf8_of_utf8Decode? {bs : Bytes} {s : String} (h : utf8Decode? bs = some s) :
    utf8 s = bs := by
  simp only [utf8Decode?, String.fromUTF8?] at h
  split at h
  · cases h
    simp [utf8, String.fromUTF8]
  · cases h

theorem utf8_append (s t : String) : utf8 (s ++ t) = utf8 s ++ utf8 t := by
  simp [utf8, ByteArray.data_append]

theorem utf8_ofList (cs : List Char) :
    utf8 (String.ofList cs) = cs.flatMap String.utf8EncodeChar := by
  simp [utf8, List.utf8Encode]

/-- A character below 128 is one byte. -/
theorem utf8_ofList_ascii (cs : List Char) (h : ∀ c ∈ cs, c.toNat < 128) :
    utf8 (String.ofList cs) = cs.map fun c => UInt8.ofNat c.toNat := by
  rw [utf8_ofList]
  induction cs with
  | nil => rfl
  | cons c cs ih =>
    have small : c.toNat < 128 := h c (by simp)
    have single : c.utf8Size = 1 := by
      rw [Char.utf8Size_eq_one_iff, UInt32.le_iff_toNat_le]
      exact Nat.le_of_lt_succ small
    rw [List.flatMap_cons, List.map_cons, ih (fun x hx => h x (by simp [hx])),
      String.utf8EncodeChar_eq_singleton single]
    rfl

namespace Bytes

/-- `n` zero bytes. -/
def zeros (n : Nat) : Bytes := List.replicate n 0

/-- The low `n` bytes of a number, least significant first. -/
def ofNatLE : Nat → Nat → Bytes
  | 0, _ => []
  | n + 1, v => UInt8.ofNat (v % 256) :: ofNatLE n (v / 256)

/-- The low `n` bytes of a number, most significant first. -/
def ofNatBE (n v : Nat) : Bytes := (ofNatLE n v).reverse

/-- The number whose base-256 digits, most significant first, are the bytes. -/
def toNatBE (bs : Bytes) : Nat := bs.foldl (fun acc b => acc * 256 + b.toNat) 0

/-- The number whose base-256 digits, least significant first, are the bytes. -/
def toNatLE (bs : Bytes) : Nat := toNatBE bs.reverse

/-- The value of a byte as a hexadecimal digit. -/
def hexValue? (b : UInt8) : Option Nat :=
  if 48 ≤ b && b ≤ 57 then some (b.toNat - 48)
  else if 97 ≤ b && b ≤ 102 then some (b.toNat - 87)
  else if 65 ≤ b && b ≤ 70 then some (b.toNat - 55)
  else none

/-- A lower-case hexadecimal digit. -/
def hexDigit (n : Nat) : Char :=
  if n < 10 then Char.ofNat (48 + n) else Char.ofNat (87 + n)

/-- Two lower-case hexadecimal digits a byte. -/
def toHex (bs : Bytes) : String :=
  String.ofList (bs.flatMap fun b => [hexDigit (b.toNat / 16), hexDigit (b.toNat % 16)])

/-- Byte strings in lexicographic order: a proper beginning comes first. -/
def le : Bytes → Bytes → Bool
  | [], _ => true
  | _ :: _, [] => false
  | a :: as, b :: bs => a < b || (a == b && le as bs)

/-- The bytes up to the first NUL. -/
def untilNul (bs : Bytes) : Bytes := bs.takeWhile (· != 0)

/-- A NUL ends a text without one. -/
theorem untilNul_append_nul {bs : Bytes} (h : 0 ∉ bs) (rest : Bytes) :
    untilNul (bs ++ 0 :: rest) = bs := by
  induction bs with
  | nil => rfl
  | cons b bs ih =>
    have hb : b ≠ 0 := by
      rintro rfl
      simp at h
    rw [List.mem_cons, not_or] at h
    have kept : (b != 0) = true := by simpa using hb
    rw [untilNul, List.cons_append, List.takeWhile_cons, if_pos kept]
    exact congrArg (b :: ·) (ih h.2)

theorem untilNul_of_not_mem {bs : Bytes} (h : 0 ∉ bs) : untilNul bs = bs := by
  induction bs with
  | nil => rfl
  | cons b bs ih =>
    have hb : b ≠ 0 := by
      rintro rfl
      simp at h
    rw [List.mem_cons, not_or] at h
    have kept : (b != 0) = true := by simpa using hb
    rw [untilNul, List.takeWhile_cons, if_pos kept]
    exact congrArg (b :: ·) (ih h.2)

@[simp] theorem length_zeros (n : Nat) : (zeros n).length = n := List.length_replicate

@[simp] theorem length_ofNatLE (n v : Nat) : (ofNatLE n v).length = n := by
  induction n generalizing v with
  | zero => rfl
  | succ n ih => simp [ofNatLE, ih]

@[simp] theorem length_ofNatBE (n v : Nat) : (ofNatBE n v).length = n := by
  simp [ofNatBE]

theorem toNatLE_ofNatLE (n v : Nat) : toNatLE (ofNatLE n v) = v % Nat.pow 256 n := by
  induction n generalizing v with
  | zero => simp [toNatLE, toNatBE, ofNatLE, Nat.mod_one]
  | succ n ih =>
    have step (b : UInt8) (bs : Bytes) : toNatLE (b :: bs) = toNatLE bs * 256 + b.toNat := by
      simp [toNatLE, toNatBE, List.foldl_append]
    rw [ofNatLE, step, ih, UInt8.toNat_ofNat']
    have : Nat.pow 256 (n + 1) = 256 * Nat.pow 256 n := by
      rw [Nat.pow_eq, Nat.pow_succ, Nat.mul_comm]; rfl
    rw [this, Nat.mod_mul]
    omega

theorem toNatBE_ofNatBE (n v : Nat) : toNatBE (ofNatBE n v) = v % Nat.pow 256 n := by
  have := toNatLE_ofNatLE n v
  simpa [toNatLE, ofNatBE] using this

end Bytes

end Northbound
