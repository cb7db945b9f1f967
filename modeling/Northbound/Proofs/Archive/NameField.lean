import Northbound.Proofs.Archive.FoundPath
import Northbound.Proofs.Tar.Header

/-!
# The name field of a header

The name field holds as much of a path as fits without splitting a character: going back from the
end of the field, the path is cut at the first boundary. Main statements: what is left is the
longest beginning of the path that takes no more bytes than the field has, and the cut is found
after three steps at most.
-/

namespace Northbound

variable {path : String} {bs : Bytes} {i n : Nat}

/-- The longest beginning of a text that takes at most `limit` bytes. As a text, it ends between two
characters. -/
structure LongestBeginning (limit : Nat) (path front : String) : Prop where
  begins : ∃ back, path = front ++ back
  fits : (utf8 front).length ≤ limit
  longest : ∀ front' back', path = front' ++ back' → (utf8 front').length ≤ limit →
    (utf8 front').length ≤ (utf8 front).length

theorem isBoundary_append_right (front back : Bytes) (i : Nat) :
    isBoundary (front ++ back) (front.length + i) = isBoundary back i := by
  rw [isBoundary, isBoundary, List.getElem?_append_right (Nat.le_add_right _ _),
    Nat.add_sub_cancel_left]

/-- A place in a text is in one of its characters, which begins at most three bytes before it. -/
theorem exists_isBoundary_within (s : String) (i : Nat) :
    ∃ j, isBoundary (utf8 s) j = true ∧ j ≤ i ∧ i ≤ j + 3 := by
  rw [utf8_eq_flatMap]
  generalize s.toList = cs
  induction cs generalizing i with
  | nil => exact ⟨i, rfl, Nat.le_refl _, Nat.le_add_right _ _⟩
  | cons c cs ih =>
      have encoded := encoded_utf8EncodeChar c
      have hlength := encoded.length_le
      rw [List.flatMap_cons]
      by_cases inside : i < (String.utf8EncodeChar c).length
      · obtain ⟨lead, more, hc, hlead, -⟩ := encoded.eq_cons
        refine ⟨0, ?_, Nat.zero_le _, by omega⟩
        simp [isBoundary, hc, hlead]
      · obtain ⟨j, boundary, before, near⟩ := ih (i - (String.utf8EncodeChar c).length)
        refine ⟨(String.utf8EncodeChar c).length + j, ?_, by omega, by omega⟩
        rw [isBoundary_append_right]
        exact boundary

/-- A text starts with a boundary. -/
theorem isBoundary_zero (s : String) : isBoundary (utf8 s) 0 = true := by
  obtain ⟨j, boundary, before, -⟩ := exists_isBoundary_within s 0
  obtain rfl : j = 0 := Nat.le_zero.mp before
  exact boundary

/-- A character ends where a text ends in another one that begins with it. -/
theorem isBoundary_utf8_append (front back : String) :
    isBoundary (utf8 (front ++ back)) (utf8 front).length = true := by
  have hstart := isBoundary_append_right (utf8 front) (utf8 back) 0
  rw [Nat.add_zero, isBoundary_zero] at hstart
  rw [utf8_append, hstart]

/-- No boundary between the one that is found and the place is passed over. -/
theorem le_boundaryBefore (boundary : isBoundary bs i = true) (before : i ≤ n) :
    i ≤ boundaryBefore bs n := by
  induction n with
  | zero => exact before
  | succ n ih =>
      rw [boundaryBefore]
      split
      · exact before
      next inside =>
        apply ih
        apply Nat.le_of_lt_succ
        apply Nat.lt_of_le_of_ne before
        rintro rfl
        exact inside boundary

/-- Going back from a place, one place at a time and never from the start, up to the first boundary:
how many steps that takes, and where it ends. -/
inductive GoesBack (bs : Bytes) : (start steps place : Nat) → Prop
  | stays {i : Nat} (boundary : isBoundary bs i = true) : GoesBack bs i 0 i
  | back {i steps place : Nat} (inside : isBoundary bs (i + 1) = false)
      (further : GoesBack bs i steps place) : GoesBack bs (i + 1) (steps + 1) place

/-- Wherever going back ends, it ends at the boundary that is found. -/
theorem GoesBack.eq_boundaryBefore {steps place : Nat} (goes : GoesBack bs i steps place) :
    place = boundaryBefore bs i ∧ place + steps = i := by
  induction goes with
  | @stays i boundary =>
      cases i with
      | zero => exact ⟨rfl, rfl⟩
      | succ i => exact ⟨(if_pos boundary).symm, rfl⟩
  | @back i steps place inside _ ih =>
      obtain ⟨hplace, hsteps⟩ := ih
      rw [boundaryBefore, if_neg (by simp [inside])]
      exact ⟨hplace, congrArg (· + 1) hsteps⟩

/-- Going back ends at the start if not before, where there is a boundary. -/
theorem exists_goesBack (start : isBoundary bs 0 = true) (i : Nat) :
    ∃ steps place, GoesBack bs i steps place := by
  induction i with
  | zero => exact ⟨0, 0, .stays start⟩
  | succ i ih =>
      cases here : isBoundary bs (i + 1) with
      | true => exact ⟨0, i + 1, .stays here⟩
      | false =>
          obtain ⟨steps, place, goes⟩ := ih
          exact ⟨steps + 1, place, .back here goes⟩

/-- A text is cut at a boundary into two texts. -/
theorem exists_append_of_isBoundary (boundary : isBoundary (utf8 path) i = true) :
    ∃ front back, path = front ++ back ∧ utf8 front = (utf8 path).take i := by
  have hwhole : IsText ((utf8 path).take i ++ (utf8 path).drop i) := by
    rw [List.take_append_drop]
    exact isText_utf8 path
  obtain ⟨⟨front, hfront⟩, ⟨back, hback⟩⟩ := hwhole.cut fun b hb => by
    rw [List.head?_drop] at hb
    simpa [isBoundary, hb] using boundary
  refine ⟨front, back, ?_, hfront⟩
  apply utf8_inj
  rw [utf8_append, hfront, hback, List.take_append_drop]

/-- The boundary that is found is three places before at most. -/
theorem le_boundaryBefore_add (s : String) (i : Nat) : i ≤ boundaryBefore (utf8 s) i + 3 := by
  obtain ⟨j, boundary, before, near⟩ := exists_isBoundary_within s i
  have hfound := le_boundaryBefore boundary before
  omega

/-- Going back in a text ends at the boundary that is found, after as many steps as it is away. -/
theorem goesBack_iff (s : String) {steps place : Nat} :
    GoesBack (utf8 s) i steps place ↔ place = boundaryBefore (utf8 s) i ∧ place + steps = i := by
  constructor
  · exact GoesBack.eq_boundaryBefore
  · rintro ⟨rfl, hsteps⟩
    obtain ⟨steps', place', goes⟩ := exists_goesBack (isBoundary_zero s) i
    obtain ⟨rfl, hsteps'⟩ := goes.eq_boundaryBefore
    obtain rfl : steps = steps' := by omega
    exact goes

theorem namePlaceholder_of_lt (long : nameFieldLength < (utf8 path).length) :
    namePlaceholder path = (utf8 path).take (boundaryBefore (utf8 path) nameFieldLength) :=
  if_neg (Nat.not_le.mpr long)

theorem length_namePlaceholder_of_lt (long : nameFieldLength < (utf8 path).length) :
    (namePlaceholder path).length = boundaryBefore (utf8 path) nameFieldLength := by
  have hle := boundaryBefore_le (utf8 path) nameFieldLength
  rw [namePlaceholder_of_lt long, List.length_take]
  omega

/-- The name field holds the longest beginning of the path that fits it. -/
theorem namePlaceholder_longest (path : String) : ∃ front,
    LongestBeginning nameFieldLength path front ∧ namePlaceholder path = utf8 front := by
  by_cases short : (utf8 path).length ≤ nameFieldLength
  · refine ⟨path, ⟨⟨"", by simp⟩, short, ?_⟩, namePlaceholder_of_le short⟩
    intro front back hpath _
    rw [hpath, utf8_append, List.length_append]
    exact Nat.le_add_right _ _
  · have long := Nat.not_le.mp short
    have hboundary :
        isBoundary (utf8 path) (boundaryBefore (utf8 path) nameFieldLength) = true := by
      obtain hzero | hfound := isBoundary_boundaryBefore (utf8 path) nameFieldLength
      · rw [hzero]
        exact isBoundary_zero path
      · exact hfound
    obtain ⟨front, back, hpath, hfront⟩ := exists_append_of_isBoundary hboundary
    have hplace : namePlaceholder path = utf8 front :=
      (namePlaceholder_of_lt long).trans hfront.symm
    have hlength := length_namePlaceholder_of_lt long
    rw [hplace] at hlength
    refine ⟨front, ⟨⟨back, hpath⟩, ?_, ?_⟩, hplace⟩
    · rw [hlength]
      exact boundaryBefore_le _ _
    · intro front' back' hpath' hfits
      rw [hlength]
      apply le_boundaryBefore _ hfits
      rw [hpath']
      exact isBoundary_utf8_append front' back'

/-- There is one longest beginning. -/
theorem LongestBeginning.unique {limit : Nat} {front front' : String}
    (h : LongestBeginning limit path front) (h' : LongestBeginning limit path front') :
    front = front' := by
  obtain ⟨back, hpath⟩ := h.begins
  obtain ⟨back', hpath'⟩ := h'.begins
  have hle := h'.longest front back hpath h.fits
  have hge := h.longest front' back' hpath' h'.fits
  have hbytes : utf8 front ++ utf8 back = utf8 front' ++ utf8 back' := by
    rw [← utf8_append, ← utf8_append, ← hpath, hpath']
  exact utf8_inj (List.append_inj_left hbytes (Nat.le_antisymm hle hge))

/-- The header of a member has the cut path in its name field, and zeros behind it. -/
theorem name_fileMember (header : Tar.Header) (path : String) (content : Bytes) :
    Tar.Block.name (fileMember header path content) =
      namePlaceholder path ++ Bytes.zeros (nameFieldLength - (namePlaceholder path).length) := by
  rw [fileMember, Tar.Header.name_render_append length_namePlaceholder_le]
  exact Tar.textField_of_le length_namePlaceholder_le

/-- What is left of a path that is cut to fit the name field. -/
structure CutToFit (path front : String) : Prop where
  longest : ∀ other, LongestBeginning nameFieldLength path other ↔ other = front
  whole : front = path ↔ (utf8 path).length ≤ nameFieldLength
  /-- A path that is too long loses the bytes that do not fit and three more at most. -/
  nearly : nameFieldLength < (utf8 path).length → 97 ≤ (utf8 front).length
  /-- Going back from the end of the field ends at the cut, and nowhere else. -/
  search : nameFieldLength < (utf8 path).length → ∃ steps ≤ 3, ∀ n place,
    GoesBack (utf8 path) nameFieldLength n place ↔ n = steps ∧ place = (utf8 front).length
  /-- The field has room for all of it. -/
  filled : ∀ header content, Tar.Block.name (fileMember header path content) =
    utf8 front ++ Bytes.zeros (nameFieldLength - (utf8 front).length)

/-- A path is cut to fit the name field, whatever characters it has. -/
theorem namePlaceholder_cut (path : String) :
    ∃ front, namePlaceholder path = utf8 front ∧ CutToFit path front := by
  obtain ⟨front, hlongest, hplace⟩ := namePlaceholder_longest path
  have hcut (long : nameFieldLength < (utf8 path).length) :
      (utf8 front).length = boundaryBefore (utf8 path) nameFieldLength := by
    rw [← hplace, length_namePlaceholder_of_lt long]
  have hnear := le_boundaryBefore_add path nameFieldLength
  have hfield : nameFieldLength = 100 := rfl
  refine ⟨front, hplace, ?longest, ?whole, ?nearly, ?search, ?filled⟩
  case longest =>
    intro other
    constructor
    · intro h
      exact h.unique hlongest
    · rintro rfl
      exact hlongest
  case whole =>
    constructor
    · rintro rfl
      exact hlongest.fits
    · intro short
      apply utf8_inj
      rw [← hplace, namePlaceholder_of_le short]
  case nearly =>
    intro long
    have hlength := hcut long
    omega
  case search =>
    intro long
    have hlength := hcut long
    have hfits := hlongest.fits
    refine ⟨nameFieldLength - (utf8 front).length, by omega, fun n place => ?_⟩
    rw [goesBack_iff, ← hlength]
    omega
  case filled =>
    intro header content
    rw [name_fileMember, hplace]

/-- Three steps lead back over a character of four bytes, of which only three would fit. -/
example :
    namePlaceholder (String.ofList (List.replicate 97 'a' ++ ['😀'])) = List.replicate 97 97 := by
  decide +kernel

end Northbound
