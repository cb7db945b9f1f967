import Northbound.Text.Utf8

/-!
# Encoded texts

The encoding of a text can be cut wherever a byte does not continue a character, and the pieces
encode texts again. Encodings are ordered byte by byte as the texts are character by character.
-/

namespace Northbound

open Text (isContinuation)

/-- Bytes that encode a text. -/
def IsText (bs : Bytes) : Prop := ∃ s, utf8 s = bs

theorem isText_utf8 (s : String) : IsText (utf8 s) := ⟨s, rfl⟩

theorem lossy_utf8 (s : String) : Text.lossy (utf8 s) = s := by
  simp only [Text.lossy, utf8Decode?_utf8]

theorem utf8_inj {s t : String} (h : utf8 s = utf8 t) : s = t := by
  rw [← lossy_utf8 s, h, lossy_utf8]

/-- A text is shown as it is. -/
theorem IsText.utf8_lossy {bs : Bytes} (h : IsText bs) : utf8 (Text.lossy bs) = bs := by
  obtain ⟨s, rfl⟩ := h
  rw [lossy_utf8]

theorem utf8_eq_flatMap (s : String) : utf8 s = s.toList.flatMap String.utf8EncodeChar := by
  rw [← utf8_ofList, String.ofList_toList]

theorem isText_flatMap (cs : List Char) : IsText (cs.flatMap String.utf8EncodeChar) :=
  ⟨String.ofList cs, utf8_ofList cs⟩

/-- The byte with a digit of a character behind the first one. -/
def continuation (digit : Nat) : UInt8 := UInt8.ofNat (digit + 128)

theorem isContinuation_continuation {digit : Nat} (h : digit < 64) :
    isContinuation (continuation digit) = true := by
  simp [isContinuation, continuation, UInt8.le_iff_toNat_le]
  omega

/-- The bytes of a character by the digits of its code point to the base 64: one to four of them. -/
inductive Encoded : Nat → Bytes → Prop
  | one {a} (most : a < 128) : Encoded a [UInt8.ofNat a]
  | two {a b} (least : 2 ≤ a) (most : a < 32) (digit : b < 64) :
      Encoded (64 * a + b) [UInt8.ofNat (a + 192), continuation b]
  | three {a b c} (least : 32 ≤ 64 * a + b) (most : a < 16) (digits : b < 64 ∧ c < 64) :
      Encoded (64 * (64 * a + b) + c) [UInt8.ofNat (a + 224), continuation b, continuation c]
  | four {a b c d} (least : 16 ≤ 64 * a + b) (most : a < 5)
      (digits : b < 64 ∧ c < 64 ∧ d < 64) :
      Encoded (64 * (64 * (64 * a + b) + c) + d)
        [UInt8.ofNat (a + 240), continuation b, continuation c, continuation d]

theorem encoded_utf8EncodeChar (c : Char) : Encoded c.toNat (String.utf8EncodeChar c) := by
  have bounded : c.toNat ≤ 0x10ffff := by
    have := c.valid
    simp only [UInt32.isValidChar, Nat.isValidChar] at this
    simp only [Char.toNat]
    omega
  have value : c.val.toNat = c.toNat := rfl
  simp only [String.utf8EncodeChar, value]
  generalize c.toNat = n at bounded
  split
  · exact .one (by omega)
  · split
    · have code : n = 64 * (n / 64) + n % 64 := by omega
      have lead : n / 64 % 32 = n / 64 := by omega
      have bytes := Encoded.two (a := n / 64) (b := n % 64) (by omega) (by omega) (by omega)
      rwa [← code, ← lead] at bytes
    · split
      · have code : n = 64 * (64 * (n / 4096) + n / 64 % 64) + n % 64 := by omega
        have lead : n / 4096 % 16 = n / 4096 := by omega
        have bytes := Encoded.three (a := n / 4096) (b := n / 64 % 64) (c := n % 64) (by omega)
          (by omega) (by omega)
        rwa [← code, ← lead] at bytes
      · have code : n = 64 * (64 * (64 * (n / 262144) + n / 4096 % 64) + n / 64 % 64) + n % 64 := by
          omega
        have lead : n / 262144 % 8 = n / 262144 := by omega
        have bytes := Encoded.four (a := n / 262144) (b := n / 4096 % 64) (c := n / 64 % 64)
          (d := n % 64) (by omega) (by omega) (by omega)
        rwa [← code, ← lead] at bytes

/-- A character begins with a byte that continues none, and its other bytes continue it. -/
theorem Encoded.eq_cons {n : Nat} {bs : Bytes} (h : Encoded n bs) : ∃ lead more,
    bs = lead :: more ∧ isContinuation lead = false ∧ (∀ b ∈ more, isContinuation b = true) ∧
      (lead < 0x80 → more = []) := by
  cases h with
  | one most =>
      refine ⟨_, [], rfl, ?_, by simp, fun _ => rfl⟩
      simp [isContinuation, UInt8.le_iff_toNat_le]
      omega
  | two least most digit =>
      refine ⟨_, _, rfl, ?_, by simp [isContinuation_continuation, digit], ?_⟩
      · simp [isContinuation, UInt8.le_iff_toNat_le]
        omega
      · simp [UInt8.lt_iff_toNat_lt]
        omega
  | three least most digits =>
      refine ⟨_, _, rfl, ?_, by simp [isContinuation_continuation, digits], ?_⟩
      · simp [isContinuation, UInt8.le_iff_toNat_le]
        omega
      · simp [UInt8.lt_iff_toNat_lt]
        omega
  | four least most digits =>
      refine ⟨_, _, rfl, ?_, by simp [isContinuation_continuation, digits], ?_⟩
      · simp [isContinuation, UInt8.le_iff_toNat_le]
        omega
      · simp [UInt8.lt_iff_toNat_lt]
        omega

/-- A character has four bytes at most. -/
theorem Encoded.length_le {n : Nat} {bs : Bytes} (h : Encoded n bs) : bs.length ≤ 4 := by
  cases h <;> simp

/-- Encodings of different characters are ordered by their bytes, whatever follows. -/
theorem Encoded.append_lt {m n : Nat} {bs cs : Bytes} (hm : Encoded m bs) (hn : Encoded n cs)
    (less : m < n) (xs ys : Bytes) : bs ++ xs < cs ++ ys := by
  cases hm <;> cases hn <;>
    simp only [List.cons_append, List.nil_append, List.cons_lt_cons_iff, UInt8.lt_iff_toNat_lt,
      ← UInt8.toNat_inj, continuation, UInt8.toNat_ofNat'] <;>
    omega

/-- Encoded texts are ordered by their bytes as the texts are by their characters. -/
theorem flatMap_utf8EncodeChar_lt {cs ds : List Char} (h : cs < ds) :
    cs.flatMap String.utf8EncodeChar < ds.flatMap String.utf8EncodeChar := by
  induction cs generalizing ds with
  | nil =>
      cases ds with
      | nil => exact absurd h (List.not_lt_nil [])
      | cons d ds =>
          obtain ⟨lead, more, hd, -⟩ := (encoded_utf8EncodeChar d).eq_cons
          rw [List.flatMap_cons, hd]
          exact List.nil_lt_cons _ _
  | cons c cs ih =>
      cases ds with
      | nil => exact absurd h (List.not_lt_nil _)
      | cons d ds =>
          simp only [List.flatMap_cons]
          rcases List.cons_lt_cons_iff.mp h with hcd | ⟨rfl, hrest⟩
          · exact (encoded_utf8EncodeChar c).append_lt (encoded_utf8EncodeChar d) hcd _ _
          · exact List.append_left_lt (ih hrest)

theorem utf8_lt_iff {s t : String} : utf8 s < utf8 t ↔ s < t := by
  have forward {s t : String} (h : s < t) : utf8 s < utf8 t := by
    rw [utf8_eq_flatMap, utf8_eq_flatMap]
    exact flatMap_utf8EncodeChar_lt h
  constructor
  · intro h
    apply String.not_le.mp
    intro hle
    by_cases hlt : t < s
    · exact List.lt_asymm h (forward hlt)
    · obtain rfl := String.le_antisymm (String.not_lt.mp hlt) hle
      exact List.lt_irrefl _ h
  · exact forward

/-- A text is cut wherever a byte does not continue a character. -/
theorem IsText.cut {xs ys : Bytes} (h : IsText (xs ++ ys))
    (boundary : ∀ b, ys.head? = some b → isContinuation b = false) : IsText xs ∧ IsText ys := by
  obtain ⟨s, hs⟩ := h
  rw [utf8_eq_flatMap] at hs
  generalize s.toList = cs at hs
  induction cs generalizing xs with
  | nil =>
      obtain ⟨rfl, rfl⟩ := List.append_eq_nil_iff.mp hs.symm
      exact ⟨isText_utf8 "", isText_utf8 ""⟩
  | cons c cs ih =>
      obtain ⟨lead, more, hc, -, hmore, -⟩ := (encoded_utf8EncodeChar c).eq_cons
      rw [List.flatMap_cons, hc] at hs
      rcases List.append_eq_append_iff.mp hs with ⟨rest, rfl, hrest⟩ | ⟨rest, hlead, rfl⟩
      · obtain ⟨⟨front, hfront⟩, hys⟩ := ih hrest
        refine ⟨⟨String.ofList [c] ++ front, ?_⟩, hys⟩
        rw [utf8_append, hfront, utf8_ofList, ← hc]
        simp
      · cases xs with
        | nil =>
            refine ⟨isText_utf8 "", ?_⟩
            rw [← List.nil_append rest, ← hlead, ← hc, ← List.flatMap_cons]
            exact isText_flatMap _
        | cons x xs =>
            rw [List.cons_append, List.cons.injEq] at hlead
            obtain ⟨rfl, rfl⟩ := hlead
            cases rest with
            | nil =>
                rw [List.append_nil] at hc
                refine ⟨⟨String.ofList [c], ?_⟩, isText_flatMap cs⟩
                rw [utf8_ofList, ← hc]
                simp
            | cons b rest =>
                -- a byte inside the character would have to continue it
                have hb := boundary b rfl
                rw [hmore b (by simp)] at hb
                cases hb

/-- What follows a byte of its own is a text. -/
theorem IsText.tail {b : UInt8} {bs : Bytes} (h : IsText (b :: bs)) (ascii : b < 0x80) :
    IsText bs := by
  obtain ⟨s, hs⟩ := h
  rw [utf8_eq_flatMap] at hs
  cases hcs : s.toList with
  | nil => simp [hcs] at hs
  | cons c cs =>
      obtain ⟨lead, more, hc, -, -, hsingle⟩ := (encoded_utf8EncodeChar c).eq_cons
      rw [hcs, List.flatMap_cons, hc, List.cons_append, List.cons.injEq] at hs
      obtain ⟨rfl, rfl⟩ := hs
      rw [hsingle ascii]
      exact isText_flatMap cs

theorem isContinuation_of_lt {b : UInt8} (ascii : b < 0x80) : isContinuation b = false := by
  simp only [isContinuation, Bool.and_eq_false_iff, decide_eq_false_iff_not, UInt8.not_le]
  exact Or.inl ascii

/-- A text is cut at each byte of its own. -/
theorem IsText.cut_at {xs ys : Bytes} {b : UInt8} (h : IsText (xs ++ b :: ys)) (ascii : b < 0x80) :
    IsText xs ∧ IsText ys := by
  have boundary : ∀ b', (b :: ys).head? = some b' → isContinuation b' = false := by
    intro b' hb'
    cases hb'
    exact isContinuation_of_lt ascii
  obtain ⟨hxs, hys⟩ := h.cut boundary
  exact ⟨hxs, hys.tail ascii⟩

end Northbound
