import Northbound.Text.Blank

/-!
# Trimming

Trimming takes blank characters off both ends of a text, as many as there are, and nothing else.
-/

namespace Northbound

namespace Text

/-- What is left of characters when the blank ones around them are taken off: blank characters stand
on both sides of it, and it neither starts nor ends with one. -/
structure Trimmed (cs core : List Char) : Prop where
  around : ∃ front back, cs = front ++ core ++ back ∧ (∀ c ∈ front, isBlank c = true) ∧
    ∀ c ∈ back, isBlank c = true
  first : ∀ c ∈ core.head?, isBlank c = false
  last : ∀ c ∈ core.getLast?, isBlank c = false

variable {cs core : List Char}

theorem isBlank_head?_dropWhile (cs : List Char) :
    ∀ c ∈ (cs.dropWhile isBlank).head?, isBlank c = false := by
  intro c hc
  have hnot := List.head?_dropWhile_not isBlank cs
  rw [Option.mem_def.1 hc] at hnot
  simpa using hnot

theorem dropWhile_of_head? (h : ∀ c ∈ cs.head?, isBlank c = false) : cs.dropWhile isBlank = cs := by
  cases cs with
  | nil => rfl
  | cons c cs => simp [h c (by simp)]

/-- Trimming leaves what is to be left. -/
theorem trimmed_trimChars (cs : List Char) : Trimmed cs (trimChars cs) := by
  let mid := cs.dropWhile isBlank
  have hfront : cs = cs.takeWhile isBlank ++ mid := List.takeWhile_append_dropWhile.symm
  have hback : mid = trimChars cs ++ (mid.reverse.takeWhile isBlank).reverse := by
    have hsplit : mid.reverse.takeWhile isBlank ++ mid.reverse.dropWhile isBlank = mid.reverse :=
      List.takeWhile_append_dropWhile
    have hreverse := congrArg List.reverse hsplit
    rw [List.reverse_append, List.reverse_reverse] at hreverse
    exact hreverse.symm
  constructor
  · refine ⟨cs.takeWhile isBlank, (mid.reverse.takeWhile isBlank).reverse, ?_, ?_, ?_⟩
    · rw [List.append_assoc, ← hback]
      exact hfront
    · intro c hc
      exact List.all_eq_true.1 List.all_takeWhile c hc
    · intro c hc
      exact List.all_eq_true.1 List.all_takeWhile c (List.mem_reverse.1 hc)
  · intro c hc
    apply isBlank_head?_dropWhile cs c
    change c ∈ mid.head?
    rw [hback, List.head?_append, Option.mem_def.1 hc]
    rfl
  · intro c hc
    rw [trimChars, List.getLast?_reverse] at hc
    exact isBlank_head?_dropWhile _ c hc

/-- There is only one way to trim a text. -/
theorem trimmed_iff : Trimmed cs core ↔ trimChars cs = core := by
  constructor
  · rintro ⟨⟨front, back, rfl, hfront, hback⟩, first, last⟩
    have hreverse : ∀ c ∈ core.reverse.head?, isBlank c = false := by
      rwa [List.head?_reverse]
    by_cases empty : core = []
    · subst empty
      have hnothing : (front ++ back).dropWhile isBlank = [] := by
        rw [List.dropWhile_append_of_pos hfront, ← List.append_nil back,
          List.dropWhile_append_of_pos hback]
        rfl
      rw [List.append_nil, trimChars, trimStartChars, trimStartChars, hnothing]
      rfl
    · have hstart : trimStartChars (front ++ core ++ back) = core ++ back := by
        rw [trimStartChars, List.append_assoc, List.dropWhile_append_of_pos hfront]
        apply dropWhile_of_head?
        intro c hc
        apply first c
        rw [List.head?_append] at hc
        cases core with
        | nil => exact absurd rfl empty
        | cons d core => exact hc
      rw [trimChars, hstart, trimStartChars, List.reverse_append,
        List.dropWhile_append_of_pos (by simpa using hback), dropWhile_of_head? hreverse,
        List.reverse_reverse]
  · rintro rfl
    exact trimmed_trimChars cs

/-- There is nothing to trim where no character is blank. -/
theorem trimChars_of_not_blank (h : ∀ c ∈ cs, isBlank c = false) : trimChars cs = cs := by
  apply trimmed_iff.1
  constructor
  · exact ⟨[], [], by simp, nofun, nofun⟩
  · intro c hc
    exact h c (List.mem_of_mem_head? hc)
  · intro c hc
    exact h c (List.mem_of_getLast? hc)

end Text

end Northbound
