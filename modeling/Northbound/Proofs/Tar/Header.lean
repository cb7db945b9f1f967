import Northbound.Tar.Header
import Northbound.Proofs.Text.Numerals
import Northbound.Proofs.Text.Trimming

/-!
# Reading back headers

A header that fits its fields is a block of 512 bytes, and what the fields of that block say is what
the header was made of: its name, its mode, its size, its kind and its checksum.
-/

namespace Northbound

namespace Bytes

/-- Zeros behind a text do not belong to it. -/
theorem untilNul_append_zeros (bs : Bytes) (n : Nat) : untilNul (bs ++ zeros n) = untilNul bs := by
  induction bs with
  | nil => cases n <;> rfl
  | cons b bs ih =>
      simp only [untilNul, List.cons_append, List.takeWhile_cons] at ih ⊢
      rw [ih]

end Bytes

namespace Tar

variable {width n : Nat}

theorem mem_octalDigits_ne_zero :
    (0 : UInt8) ∉ utf8 (String.ofList (Text.padZeros width (Nat.toDigits 8 n))) := by
  intro h
  have := Text.digit_bytes (Text.isDigit_padZeros 8 (by decide) (by decide) width n) h
  simp at this

theorem readOctal_octalField (bounded : n ≤ Text.maxWord) :
    readOctal (octalField width n) = .ok n := by
  have digits := Text.isDigit_padZeros 8 (by decide) (by decide) (width - 1) n
  unfold readOctal octalField
  rw [Bytes.untilNul_append_nul mem_octalDigits_ne_zero]
  simp only [utf8Decode?_utf8, String.toList_ofList]
  rw [Text.trimChars_of_not_blank (fun c hc => Text.isBlank_of_isDigit (digits c hc)),
    Text.readUnsigned_padZeros 8 (by decide) (by decide) (width - 1) bounded]

theorem length_octalField (h : n < Nat.pow 8 (width - 1)) (wide : 1 < width) :
    (octalField width n).length = width := by
  have digits := Text.isDigit_padZeros 8 (by decide) (by decide) (width - 1) n
  have short : (Nat.toDigits 8 n).length ≤ width - 1 :=
    (Nat.length_toDigits_le_iff (by decide) (by omega)).2 h
  rw [octalField, Text.utf8_digits digits]
  simp [Text.padZeros]
  omega

theorem headD_octalField : (octalField width n).headD 0 < 0x80 := by
  have digits := Text.isDigit_padZeros 8 (by decide) (by decide) (width - 1) n
  unfold octalField
  cases h : utf8 (String.ofList (Text.padZeros (width - 1) (Nat.toDigits 8 n))) with
  | nil => decide
  | cons b bs =>
    have := Text.digit_bytes digits (b := b) (by simp [h])
    rw [List.cons_append, List.headD_cons, UInt8.lt_iff_toNat_lt]
    simp
    omega

theorem length_numberField : (numberField n).length = 12 := by
  unfold numberField
  split
  next small => exact length_octalField small (by decide)
  next => simp

theorem readNumber_numberField (h : n < Nat.pow 2 64) : readNumber (numberField n) = .ok n := by
  unfold readNumber numberField
  split
  next small =>
    rw [if_neg, readOctal_octalField]
    · have : octalLimit ≤ Text.maxWord := by decide
      omega
    · have := @headD_octalField 12 n
      simpa [UInt8.not_le] using this
  next large =>
    rw [if_pos (by simp)]
    have : (0x80 :: Bytes.zeros 3 ++ Bytes.ofNatBE 8 n).length = 12 := by simp
    rw [this]
    have : (0x80 :: Bytes.zeros 3 ++ Bytes.ofNatBE 8 n).drop (12 - 8) = Bytes.ofNatBE 8 n := rfl
    rw [this, Bytes.toNatBE_ofNatBE]
    rw [Nat.mod_eq_of_lt h]

namespace Block

theorem field_append {before field after : Bytes} {offset width : Nat}
    (start : before.length = offset) (size : field.length = width) :
    Block.field (before ++ (field ++ after)) offset width = field := by
  subst start size
  simp [Block.field]

end Block

/-- Bytes that fit a field stand in it as they are. -/
theorem textField_of_le {bs : Bytes} (h : bs.length ≤ width) :
    textField width bs = bs ++ Bytes.zeros (width - bs.length) := by
  rw [textField, List.take_of_length_le h]

namespace Header

/-- What a header can hold as it is. -/
structure Fits (h : Header) : Prop where
  name : h.name.length ≤ 100
  mode : ∀ m, h.mode? = some m → m < Nat.pow 8 7

theorem length_smallField {n? : Option Nat} (h : ∀ m, n? = some m → m < Nat.pow 8 7) :
    (smallField n?).length = 8 := by
  cases n? with
  | none => rfl
  | some m => exact length_octalField (h m rfl) (by decide)

theorem length_idField (id? : Option UInt32) : (idField id?).length = 8 := by
  cases id? with
  | none => rfl
  | some id =>
      rw [idField]
      split
      next small => exact length_octalField small (by decide)
      next => simp

theorem length_deviceField (n? : Option DeviceNumber) :
    (smallField (n?.map Fin.val)).length = 8 := by
  apply length_smallField
  intro m hm
  obtain ⟨n, -, rfl⟩ := Option.map_eq_some_iff.1 hm
  exact n.isLt

theorem length_textField {width : Nat} {bs : Bytes} (h : bs.length ≤ width) :
    (textField width bs).length = width := by
  simp [textField_of_le h]
  omega

variable {h : Header}

theorem length_front (fits : h.Fits) : h.front.length = 148 := by
  simp [front, length_textField fits.name, length_smallField fits.mode, length_idField,
    length_numberField]

theorem length_back : h.back.length = 356 := by
  have : (utf8 "ustar\x0000").length = 8 := rfl
  simp [back, this, length_deviceField]

theorem foldl_toNat_le (bs : Bytes) (n : Nat) :
    bs.foldl (fun n c => n + c.toNat) n ≤ n + 255 * bs.length := by
  induction bs generalizing n with
  | nil => simp
  | cons b bs ih =>
    have := ih (n + b.toNat)
    have := b.toNat_lt
    simp only [List.foldl_cons, List.length_cons]
    omega

theorem checksum_lt (fits : h.Fits) : h.checksum < Nat.pow 8 7 := by
  have first := foldl_toNat_le h.front 0
  have second := foldl_toNat_le h.back 0
  rw [length_front fits] at first
  rw [length_back] at second
  have : Nat.pow 8 7 = 2097152 := rfl
  unfold checksum
  omega

theorem length_checksumField (fits : h.Fits) : (octalField 8 h.checksum).length = 8 :=
  length_octalField (checksum_lt fits) (by decide)

theorem length_render (fits : h.Fits) : h.render.length = blockSize := by
  simp [render, length_front fits, length_checksumField fits, length_back, blockSize]

/-- The name field comes first, whatever follows the header. -/
theorem name_render_append (short : h.name.length ≤ 100) (rest : Bytes) :
    Block.name (h.render ++ rest) = textField 100 h.name := by
  have shape : h.render ++ rest = [] ++ (textField 100 h.name ++ (smallField h.mode? ++
      idField h.owner? ++ idField h.group? ++ numberField h.size ++ numberField h.mtime ++
      octalField 8 h.checksum ++ h.back ++ rest)) := by simp [render, front]
  rw [Block.name, shape, Block.field_append List.length_nil (length_textField short)]

theorem render_name (fits : h.Fits) : Block.name h.render = textField 100 h.name := by
  have alone := name_render_append fits.name []
  rwa [List.append_nil] at alone

theorem render_mode (fits : h.Fits) : Block.mode h.render = smallField h.mode? := by
  have shape : h.render = textField 100 h.name ++ (smallField h.mode? ++ (idField h.owner? ++
      idField h.group? ++ numberField h.size ++ numberField h.mtime ++
      octalField 8 h.checksum ++ h.back)) := by simp [render, front]
  rw [Block.mode, shape, Block.field_append (length_textField fits.name)
    (length_smallField fits.mode)]

theorem render_size (fits : h.Fits) : Block.size h.render = numberField h.size := by
  have shape : h.render = (textField 100 h.name ++ smallField h.mode? ++ idField h.owner? ++
      idField h.group?) ++ (numberField h.size ++ (numberField h.mtime ++
      octalField 8 h.checksum ++ h.back)) := by simp [render, front]
  rw [Block.size, shape, Block.field_append _ (length_numberField)]
  simp [length_textField fits.name, length_smallField fits.mode, length_idField]

theorem render_checksumField (fits : h.Fits) :
    Block.checksumField h.render = octalField 8 h.checksum := by
  rw [Block.checksumField, render, List.append_assoc,
    Block.field_append (length_front fits) (length_checksumField fits)]

theorem render_sum (fits : h.Fits) : Block.sum h.render = h.checksum := by
  have first : h.render.take 148 = h.front := by
    rw [render, List.append_assoc, List.take_append_of_le_length (by simp [length_front fits]),
      List.take_of_length_le (by simp [length_front fits])]
  have second : h.render.drop 156 = h.back := by
    rw [render,
      List.drop_append_of_le_length (by simp [length_front fits, length_checksumField fits]),
      List.drop_of_length_le (by simp [length_front fits, length_checksumField fits]),
      List.nil_append]
  rw [Block.sum, first, second]
  rfl

/-- A field behind the checksum stands in what follows it. -/
theorem field_render (fits : h.Fits) (offset width : Nat) :
    Block.field h.render (156 + offset) width = Block.field h.back offset width := by
  have : (h.front ++ octalField 8 h.checksum).length = 156 := by
    simp [length_front fits, length_checksumField fits]
  rw [Block.field, Block.field, render, ← List.drop_drop, ← this, List.drop_left]

theorem render_kind (fits : h.Fits) : Block.kind h.render = .ofByte h.typeByte := by
  rw [Block.kind, field_render fits 0 1]
  rfl

theorem render_isStandard (fits : h.Fits) : Block.isStandard h.render = true := by
  rw [Block.isStandard, Block.magic, field_render fits 101 8]
  rfl

theorem render_nameStart (fits : h.Fits) : Block.nameStart h.render = Bytes.zeros 155 := by
  have magic : (utf8 "ustar\x0000").length = 8 := rfl
  have shape : h.back = (h.typeByte :: Bytes.zeros 100 ++ utf8 "ustar\x0000" ++ Bytes.zeros 64 ++
      smallField (h.deviceMajor?.map Fin.val) ++ smallField (h.deviceMinor?.map Fin.val)) ++
        (Bytes.zeros 155 ++ Bytes.zeros 12) := by
    have room : Bytes.zeros 167 = Bytes.zeros 155 ++ Bytes.zeros 12 := rfl
    simp [back, room]
  rw [Block.nameStart, field_render fits 189 155, shape,
    Block.field_append _ (Bytes.length_zeros _)]
  simp [magic, length_deviceField]

/-- The path in a header ends at the first NUL of its name. -/
theorem render_path (fits : h.Fits) : Block.path h.render = h.name.untilNul := by
  have : (Bytes.zeros 155).untilNul = [] := rfl
  simp only [Block.path, render_nameStart fits, this, List.isEmpty_nil]
  rw [if_neg (by simp), render_name fits, textField, List.take_of_length_le fits.name,
    Bytes.untilNul_append_zeros]

theorem render_isZero (fits : h.Fits) : Block.isZero h.render = false := by
  have magic := render_isStandard fits
  cases zero : Block.isZero h.render with
  | false => rfl
  | true =>
    have none_ : ∀ b ∈ h.render, b = 0 := by simpa [Block.isZero] using zero
    have : (117 : UInt8) ∈ Block.magic h.render := by
      rw [beq_iff_eq.1 magic]
      decide
    have := none_ _ (List.mem_of_mem_drop (List.mem_of_mem_take this))
    simp at this

end Header

end Tar

end Northbound
