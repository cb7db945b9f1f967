import Northbound.Url.Path

/-!
# Paths taken apart

Pieces of a path come from the text between slashes, and resolving dots leaves segments that are no
dots where they are. Whatever it does to others, it makes no new segment but the empty one.
-/

namespace Northbound.Url

variable {sep : Char} {xs ys : List Char} {s : List Char} {ss done : List (List Char)}

theorem splitAtChar_ne_nil (sep : Char) (xs : List Char) : splitAtChar sep xs ≠ [] := by
  cases xs with
  | nil => simp [splitAtChar]
  | cons x xs =>
    simp only [splitAtChar]
    split
    · simp
    · split <;> simp

theorem splitAtChar_cons (sep x : Char) (xs : List Char) :
    splitAtChar sep (x :: xs) =
      if x = sep then [] :: splitAtChar sep xs
      else (x :: (splitAtChar sep xs).head (splitAtChar_ne_nil sep xs)) ::
        (splitAtChar sep xs).tail := by
  have nonempty := splitAtChar_ne_nil sep xs
  rw [splitAtChar]
  split
  next h => exact absurd h nonempty
  next p ps h => simp [h]

/-- A separator separates. -/
theorem splitAtChar_append_cons (xs ys : List Char) :
    splitAtChar sep (xs ++ sep :: ys) = splitAtChar sep xs ++ splitAtChar sep ys := by
  induction xs with
  | nil => simp [splitAtChar_cons, splitAtChar]
  | cons x xs ih =>
    have nonempty := splitAtChar_ne_nil sep xs
    rw [List.cons_append, splitAtChar_cons, splitAtChar_cons]
    simp only [ih]
    split
    · rfl
    · simp [nonempty]

/-- Characters in front of the first separator are in the first piece. -/
theorem splitAtChar_append (h : sep ∉ xs) (ys : List Char) :
    splitAtChar sep (xs ++ ys) =
      (xs ++ (splitAtChar sep ys).head (splitAtChar_ne_nil sep ys)) ::
        (splitAtChar sep ys).tail := by
  induction xs with
  | nil => simp
  | cons x xs ih =>
    rw [List.mem_cons, not_or] at h
    have ne : ¬x = sep := fun e => h.1 e.symm
    rw [List.cons_append, splitAtChar_cons, if_neg ne]
    simp only [ih h.2, List.head_cons, List.tail_cons, List.cons_append]

theorem splitAtChar_of_not_mem (h : sep ∉ xs) : splitAtChar sep xs = [xs] := by
  have := splitAtChar_append h []
  simpa [splitAtChar] using this

/-- No separator is left in a piece. -/
theorem not_mem_of_mem_splitAtChar (h : s ∈ splitAtChar sep xs) : sep ∉ s := by
  induction xs generalizing s with
  | nil => simp_all [splitAtChar]
  | cons x xs ih =>
    rw [splitAtChar_cons] at h
    split at h
    · rcases List.mem_cons.mp h with rfl | h
      · simp
      · exact ih h
    next ne =>
      rcases List.mem_cons.mp h with rfl | h
      · rw [List.mem_cons, not_or]
        exact ⟨fun e => ne e.symm, ih (List.head_mem _)⟩
      · exact ih (List.mem_of_mem_tail h)

/-- What stands in a piece stands in the text. -/
theorem mem_of_mem_splitAtChar {c : Char} (h : s ∈ splitAtChar sep xs) (hc : c ∈ s) : c ∈ xs := by
  induction xs generalizing s with
  | nil => simp_all [splitAtChar]
  | cons x xs ih =>
    rw [splitAtChar_cons] at h
    split at h
    · rcases List.mem_cons.mp h with rfl | h
      · cases hc
      · exact List.mem_cons_of_mem x (ih h hc)
    · rcases List.mem_cons.mp h with rfl | h
      · rcases List.mem_cons.mp hc with rfl | hc
        · exact List.mem_cons_self
        · exact List.mem_cons_of_mem x (ih (List.head_mem _) hc)
      · exact List.mem_cons_of_mem x (ih (List.mem_of_mem_tail h) hc)

theorem splitAtChar_eq_splitOn (sep : Char) (cs : List Char) :
    splitAtChar sep cs = cs.splitOn sep := by
  induction cs with
  | nil => rfl
  | cons c cs ih =>
    rw [splitAtChar, ih, List.splitOn_cons_eq_if_modifyHead]
    split
    next none => exact absurd none (List.splitOn_ne_nil sep cs)
    next p ps found => simp [found]

/-- Pieces with separators between them are found again. -/
theorem splitAtChar_intercalate (clean : ∀ s ∈ ss, sep ∉ s) (nonempty : ss ≠ []) :
    splitAtChar sep ([sep].intercalate ss) = ss := by
  rw [splitAtChar_eq_splitOn, List.splitOn_intercalate sep clean nonempty]

/-- A text is its pieces with separators between them. -/
theorem intercalate_splitAtChar (sep : Char) (cs : List Char) :
    [sep].intercalate (splitAtChar sep cs) = cs := by
  rw [splitAtChar_eq_splitOn, List.intercalate_splitOn]

/-- What stands in joined pieces is a separator or stands in a piece. -/
theorem exists_mem_of_mem_intercalate {c : Char} (h : c ∈ [sep].intercalate ss) :
    c = sep ∨ ∃ s ∈ ss, c ∈ s := by
  induction ss with
  | nil => cases h
  | cons s ss ih =>
    by_cases last : ss = []
    · subst last
      rw [List.intercalate_singleton] at h
      exact Or.inr ⟨s, List.mem_cons_self, h⟩
    · rw [List.intercalate_cons_of_ne_nil last, List.append_assoc, List.mem_append,
        List.mem_append, List.mem_singleton] at h
      rcases h with h | h | h
      · exact Or.inr ⟨s, List.mem_cons_self, h⟩
      · exact Or.inl h
      · rcases ih h with rfl | ⟨s', hs', hc⟩
        · exact Or.inl rfl
        · exact Or.inr ⟨s', List.mem_cons_of_mem s hs', hc⟩

/-- Slashes divide a path into pieces, however the parts between them are divided. -/
theorem pathPieces_append_slash (backslash : Bool) (xs ys : List Char) :
    pathPieces backslash (xs ++ '/' :: ys) =
      pathPieces backslash xs ++ pathPieces backslash ys := by
  have slash : isSlash backslash '/' = true := rfl
  simp only [pathPieces, List.map_append, List.map_cons, slash, if_true, splitAtChar_append_cons]

/-- Whether a segment stands for itself. -/
def IsOrdinary (s : List Char) : Prop := isDoubleDot s = false ∧ isSingleDot s = false

instance (s : List Char) : Decidable (IsOrdinary s) := inferInstanceAs (Decidable (_ ∧ _))

/-- What a segment does to those in front of it, the last of which comes first. -/
def advance (done : List (List Char)) (s : List Char) : List (List Char) :=
  if isDoubleDot s then takeBack done else if isSingleDot s then done else s :: done

theorem advance_of_ordinary (ordinary : IsOrdinary s) : advance done s = s :: done := by
  obtain ⟨noDouble, noSingle⟩ := ordinary
  simp [advance, noDouble, noSingle]

/-- Segments are looked at one after the other. -/
theorem resolveDots_cons (done : List (List Char)) (s : List Char) (nonempty : ss ≠ []) :
    resolveDots false done (s :: ss) = resolveDots false (advance done s) ss := by
  obtain ⟨s', more, rfl⟩ := List.exists_cons_of_ne_nil nonempty
  simp only [resolveDots, putSegment, advance, Bool.false_and, Bool.false_eq_true, if_false]
  split
  · rfl
  · split <;> rfl

/-- Dots at the end leave an empty segment. -/
theorem resolveDots_singleton (done : List (List Char)) (s : List Char) :
    resolveDots false done [s] =
      (if IsOrdinary s then s :: done else [] :: advance done s).reverse := by
  simp only [resolveDots, putSegment, Bool.false_and, Bool.false_eq_true, if_false]
  split
  next double => simp [IsOrdinary, advance, double]
  next noDouble =>
    split
    next single => simp [IsOrdinary, advance, noDouble, single]
    next noSingle => simp [IsOrdinary, noDouble, noSingle]

/-- Resolving dots leaves ordinary segments where they are. -/
theorem resolveDots_of_ordinary (ordinary : ∀ s ∈ ss, IsOrdinary s) (done : List (List Char)) :
    resolveDots false done ss = done.reverse ++ ss := by
  induction ss generalizing done with
  | nil => simp [resolveDots]
  | cons s ss ih =>
    obtain ⟨first, rest⟩ := List.forall_mem_cons.mp ordinary
    by_cases last : ss = []
    · subst last
      rw [resolveDots_singleton, if_pos first, List.reverse_cons]
    · rw [resolveDots_cons done s last, advance_of_ordinary first, ih rest, List.reverse_cons,
        List.append_assoc, List.singleton_append]

theorem mem_of_mem_takeBack (h : s ∈ takeBack done) : s ∈ done := by
  cases done with
  | nil => exact h
  | cons d done =>
    simp only [takeBack] at h
    split at h
    · exact h
    · exact List.mem_cons_of_mem d h

theorem mem_advance {x : List Char} (h : s ∈ advance done x) :
    s ∈ done ∨ (s = x ∧ IsOrdinary x) := by
  unfold advance at h
  split at h
  · exact Or.inl (mem_of_mem_takeBack h)
  next noDouble =>
    split at h
    · exact Or.inl h
    next noSingle =>
      rcases List.mem_cons.mp h with same | h
      · exact Or.inr ⟨same, by simpa using noDouble, by simpa using noSingle⟩
      · exact Or.inl h

/-- Resolving dots makes no new segment but the empty one, and leaves only what stands for itself.
-/
theorem mem_resolveDots (h : s ∈ resolveDots false done ss) :
    s = [] ∨ s ∈ done ∨ (s ∈ ss ∧ IsOrdinary s) := by
  induction ss generalizing done with
  | nil =>
    rw [resolveDots, List.mem_reverse] at h
    exact Or.inr (Or.inl h)
  | cons x ss ih =>
    have advanced (h : s ∈ advance done x) : s ∈ done ∨ (s ∈ x :: ss ∧ IsOrdinary s) := by
      rcases mem_advance h with h | ⟨rfl, ordinary⟩
      · exact Or.inl h
      · exact Or.inr ⟨List.mem_cons_self, ordinary⟩
    by_cases last : ss = []
    · subst last
      rw [resolveDots_singleton, List.mem_reverse] at h
      split at h
      next ordinary =>
        rw [← advance_of_ordinary ordinary] at h
        exact Or.inr (advanced h)
      · rcases List.mem_cons.mp h with h | h
        · exact Or.inl h
        · exact Or.inr (advanced h)
    · rw [resolveDots_cons done x last] at h
      rcases ih h with h | h | ⟨h, ordinary⟩
      · exact Or.inl h
      · exact Or.inr (advanced h)
      · exact Or.inr (Or.inr ⟨List.mem_cons_of_mem x h, ordinary⟩)

/-- A path has a segment when dots are resolved. -/
theorem resolveDots_ne_nil (nonempty : ss ≠ []) (done : List (List Char)) :
    resolveDots false done ss ≠ [] := by
  induction ss generalizing done with
  | nil => exact absurd rfl nonempty
  | cons s ss ih =>
    by_cases last : ss = []
    · subst last
      rw [resolveDots_singleton]
      split <;> simp
    · rw [resolveDots_cons done s last]
      exact ih last _

end Northbound.Url
