import Northbound.Proofs.Text.Encoding
import Northbound.Proofs.Url.Path
import Northbound.Proofs.Url.Percent

/-!
# Texts as segments of a path

A text is encoded so that no slash in it divides a path. In web addresses a backslash divides a path
as well, and dots have a meaning of their own; the encoding keeps neither from it. So a path has a
text in one segment exactly if it is neither a dot nor two and has no backslash in it.
-/

namespace Northbound.Url

variable {c d : Char} {cs s : List Char}

/-- A character is its own lower case unless it is a capital letter. -/
theorem eq_or_of_toLower (h : c.toLower = d) :
    c = d ∨ 65 ≤ c.toNat ∧ c.toNat ≤ 90 ∧ c.toNat + 32 = d.toNat := by
  subst h
  unfold Char.toLower
  split
  next upper =>
    have least : 65 ≤ c.val.toNat := UInt32.le_iff_toNat_le.mp upper.1
    have most : c.val.toNat ≤ 90 := UInt32.le_iff_toNat_le.mp upper.2
    have gap : ('a'.val - 'A'.val).toNat = 32 := rfl
    refine Or.inr ⟨least, most, ?_⟩
    change c.val.toNat + 32 = (c.val + ('a'.val - 'A'.val)).toNat
    rw [UInt32.toNat_add, gap, Nat.mod_eq_of_lt (by omega)]
  next => exact Or.inl rfl

theorem eq_of_toLower (h : c.toLower = d) (low : d.toNat < 97) : c = d := by
  rcases eq_or_of_toLower h with h | h
  · exact h
  · omega

theorem eq_of_toLower_e (h : c.toLower = 'e') : c = 'e' ∨ c = 'E' := by
  rcases eq_or_of_toLower h with h | ⟨-, -, code⟩
  · exact Or.inl h
  · refine Or.inr (Char.ext (UInt32.toNat_inj.mp ?_))
    exact Nat.add_right_cancel (m := 32) code

theorem eq_of_map_toLower_dot (h : s.map Char.toLower = ['.']) : s = ['.'] := by
  obtain ⟨x, rfl, hx⟩ := List.map_eq_singleton_iff.mp h
  rw [eq_of_toLower hx (by decide)]

/-- The two ways to write an encoded dot. -/
theorem mem_of_map_toLower_dot (h : s.map Char.toLower = "%2e".toList) :
    s = "%2e".toList ∨ s = "%2E".toList := by
  obtain ⟨x, xs, rfl, hx, h⟩ := List.map_eq_cons_iff.mp h
  obtain ⟨y, ys, rfl, hy, h⟩ := List.map_eq_cons_iff.mp h
  obtain ⟨z, rfl, hz⟩ := List.map_eq_singleton_iff.mp h
  obtain rfl := eq_of_toLower hx (by decide)
  obtain rfl := eq_of_toLower hy (by decide)
  rcases eq_of_toLower_e hz with rfl | rfl
  · exact Or.inl rfl
  · exact Or.inr rfl

/-- A segment that counts as a dot decodes to one. -/
theorem percentDecode_of_isSingleDot (h : isSingleDot s = true) :
    percentDecode (utf8 (String.ofList s)) = utf8 "." := by
  simp only [isSingleDot, Bool.or_eq_true, decide_eq_true_eq] at h
  rcases h with rfl | h
  · decide
  · rcases mem_of_map_toLower_dot h with rfl | rfl <;> decide

/-- A segment that counts as two dots decodes to them. -/
theorem percentDecode_of_isDoubleDot (h : isDoubleDot s = true) :
    percentDecode (utf8 (String.ofList s)) = utf8 ".." := by
  have parts {a b : List Char} (h : s.map Char.toLower = a ++ b) :
      ∃ x y, s = x ++ y ∧ x.map Char.toLower = a ∧ y.map Char.toLower = b :=
    List.map_eq_append_iff.mp h
  simp only [isDoubleDot, Bool.or_eq_true, decide_eq_true_eq, List.mem_cons, List.not_mem_nil,
    or_false] at h
  rcases h with rfl | h | h | h
  · decide
  · obtain ⟨x, y, rfl, hx, hy⟩ := parts (a := ['.']) (b := "%2e".toList) h
    obtain rfl := eq_of_map_toLower_dot hx
    rcases mem_of_map_toLower_dot hy with rfl | rfl <;> decide
  · obtain ⟨x, y, rfl, hx, hy⟩ := parts (a := "%2e".toList) (b := ['.']) h
    obtain rfl := eq_of_map_toLower_dot hy
    rcases mem_of_map_toLower_dot hx with rfl | rfl <;> decide
  · obtain ⟨x, y, rfl, hx, hy⟩ := parts (a := "%2e".toList) (b := "%2e".toList) h
    rcases mem_of_map_toLower_dot hx with rfl | rfl <;>
      rcases mem_of_map_toLower_dot hy with rfl | rfl <;> decide

/-- An encoded text decodes to the text. -/
theorem percentDecode_segment (cs : List Char) :
    percentDecode (utf8 (String.ofList (percentEncode segmentSet cs))) = utf8 (String.ofList cs) :=
  percentDecode_percentEncode rfl cs

/-- The characters of encoded bytes may stand in a path. -/
theorem pathSet_of_isWritten (written : isWritten c = true) : pathSet c = false := by
  exact of_ascii (p := fun c => isWritten c = true → pathSet c = false) (by decide +kernel)
    (toNat_lt_of_isWritten written) written

/-- What may stand in a path as it is. -/
def IsPathChar (c : Char) : Prop := c.toNat < 128 ∧ pathSet c = false

/-- No character of a path is dropped, or starts a query or a fragment. -/
theorem visible_of_isPathChar (h : IsPathChar c) : 32 < c.toNat ∧ c ≠ '#' ∧ c ≠ '?' := by
  exact of_ascii (p := fun c => pathSet c = false → 32 < c.toNat ∧ c ≠ '#' ∧ c ≠ '?')
    (by decide +kernel) h.1 h.2

/-- The encoding of a text may stand in a path. -/
theorem isPathChar_of_mem_segment (h : c ∈ percentEncode segmentSet cs) : IsPathChar c :=
  plain_of_mem_percentEncode (fun c isSet => by simp [segmentSet, isSet])
    (fun _ => pathSet_of_isWritten) h

/-- Encoding a whole path leaves texts alone that were encoded as segments. -/
theorem percentEncode_segment (cs : List Char) :
    percentEncode pathSet (percentEncode segmentSet cs) = percentEncode segmentSet cs :=
  percentEncode_of_plain fun _ => isPathChar_of_mem_segment

/-- The encoding of a text is a dot or two only if the text is. -/
theorem isOrdinary_segment (dot : cs ≠ ['.']) (dotDot : cs ≠ ['.', '.']) :
    IsOrdinary (percentEncode segmentSet cs) := by
  have text {t : String} (h : utf8 (String.ofList cs) = utf8 t) : cs = t.toList := by
    rw [← utf8_inj h, String.toList_ofList]
  constructor
  · rw [Bool.eq_false_iff]
    intro h
    have decoded := percentDecode_of_isDoubleDot h
    rw [percentDecode_segment] at decoded
    exact dotDot (text decoded)
  · rw [Bool.eq_false_iff]
    intro h
    have decoded := percentDecode_of_isSingleDot h
    rw [percentDecode_segment] at decoded
    exact dot (text decoded)

/-- Only a backslash is left to divide the encoding of a text. -/
theorem isSlash_of_mem_percentChar (ne : c ≠ '\\') (h : d ∈ percentChar segmentSet c) :
    isSlash true d = false := by
  have other {x : Char} (slash : x ≠ '/') (backslash : x ≠ '\\') : isSlash true x = false := by
    simp [isSlash, slash, backslash]
  rcases mem_percentChar h with ⟨rfl, -, unset⟩ | written
  · refine other ?_ ne
    rintro rfl
    exact absurd unset (by decide)
  · refine other ?_ ?_
    · rintro rfl
      exact absurd written (by decide)
    · rintro rfl
      exact absurd written (by decide)

/-- Encoding divides a text where it has a backslash, and nowhere else. -/
theorem pathPieces_segment (cs : List Char) :
    pathPieces true (percentEncode segmentSet cs) =
      (splitAtChar '\\' cs).map (percentEncode segmentSet) := by
  induction cs with
  | nil => rfl
  | cons c cs ih =>
    have front : percentEncode segmentSet (c :: cs) =
        percentChar segmentSet c ++ percentEncode segmentSet cs := List.flatMap_cons
    rw [front, splitAtChar_cons]
    simp only [pathPieces, List.map_append] at ih ⊢
    by_cases cut : c = '\\'
    · subst cut
      have alone : percentChar segmentSet '\\' = ['\\'] := by decide
      have divides : isSlash true '\\' = true := rfl
      simp only [alone, List.map_cons, List.map_nil, divides, if_true, List.cons_append,
        List.nil_append, splitAtChar_cons, ih]
      rfl
    · have kept := fun d => isSlash_of_mem_percentChar (d := d) cut
      have same : (percentChar segmentSet c).map (fun d => if isSlash true d then '/' else d) =
          percentChar segmentSet c := by
        refine (List.map_congr_left fun d hd => ?_).trans (List.map_id _)
        simp [kept d hd]
      have unslashed : '/' ∉ percentChar segmentSet c := fun h => by
        simpa [isSlash] using kept '/' h
      rw [if_neg cut, same, splitAtChar_append unslashed]
      simp only [ih, List.head_map, ← List.map_tail, List.map_cons]
      rfl

end Northbound.Url
