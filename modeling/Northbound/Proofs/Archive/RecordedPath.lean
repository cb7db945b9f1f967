import Northbound.Archive.Writer
import Northbound.Proofs.Tar.Record

/-!
# The path of an entry after reading it back

The path of an entry stands in a record in front of its header, and as far as it fits in the header
itself. Main statement: the path read back is the path written exactly where `PathSurvives` says so,
and everywhere else it is shorter.
-/

namespace Northbound

open Tar (Record splitLines)

/-- The records on the lines of a path after its first, up to the first empty line. -/
def laterRecords (p : Bytes) : List Record :=
  (((splitLines p).drop 1).takeWhile (!·.isEmpty)).filterMap Record.ofLine?

/-- Whether the path of an entry is read back as it was written. A line feed hides its record from a
reader, so that the name field has to hold it, and no further line may pass for a record of a
path. -/
def PathSurvives (p : Bytes) : Prop :=
  10 ∉ p ∨ p.length ≤ nameFieldLength ∧ ∀ r ∈ laterRecords p, r.key ≠ pathKey

/-- The data of the member that holds the path of an entry. -/
def pathRecord (path : String) : Bytes := Record.line ⟨pathKey, utf8 path⟩

/-- The path of an entry as a reader finds it. -/
def pathReadBack (path : String) : Bytes :=
  (Tar.recordedPath? (pathRecord path)).getD (namePlaceholder path)

variable {path : String}

/-- A record without its line feed. -/
def recordFront (n : Nat) (value : Bytes) : Bytes :=
  utf8 (Text.decimal n) ++ 32 :: (pathKey ++ 61 :: value)

theorem length_pathRecord :
    (pathRecord path).length = Record.lineLength (pathKey.length + (utf8 path).length + 3) := by
  have count := Tar.length_toDigits_lineLength (pathKey.length + (utf8 path).length + 3)
  have rest : (32 :: pathKey ++ 61 :: utf8 path ++ [10]).length =
      pathKey.length + (utf8 path).length + 3 := by
    simp
    omega
  simp only [pathRecord, Record.line, List.length_append, Tar.length_utf8_decimal] at rest ⊢
  rw [rest]
  omega

theorem pathRecord_eq (path : String) :
    pathRecord path = recordFront (pathRecord path).length (utf8 path) ++ [10] := by
  have : (32 :: pathKey ++ 61 :: utf8 path ++ [10]).length =
      pathKey.length + (utf8 path).length + 3 := by
    simp
    omega
  rw [length_pathRecord, pathRecord, Record.line, this]
  simp [recordFront]

theorem not_mem_recordFront {n : Nat} {value : Bytes} (h : 10 ∉ value) :
    10 ∉ recordFront n value := by
  have digits := Tar.not_mem_utf8_decimal n (b := 10) (by decide)
  have key : (10 : UInt8) ∉ pathKey := by decide
  simp [recordFront, digits, key, h]

theorem ofLine?_recordFront {n : Nat} (bounded : n ≤ Text.maxWord) (value : Bytes) :
    Record.ofLine? (recordFront n value) =
      if (recordFront n value).length + 1 = n then some ⟨pathKey, value⟩ else none :=
  Record.ofLine?_written bounded (by decide) value

theorem length_pathRecord_eq :
    (recordFront (pathRecord path).length (utf8 path)).length + 1 = (pathRecord path).length := by
  have := congrArg List.length (pathRecord_eq path)
  rw [List.length_append, List.length_singleton] at this
  exact this.symm

theorem length_lt_length_pathRecord : (utf8 path).length < (pathRecord path).length := by
  rw [← length_pathRecord_eq]
  simp only [recordFront, List.length_append, List.length_cons]
  omega

theorem readRecords_of_not_mem (bounded : (pathRecord path).length ≤ Text.maxWord)
    (plain : 10 ∉ utf8 path) :
    Tar.readRecords (pathRecord path) = [some ⟨pathKey, utf8 path⟩] := by
  have lines : splitLines (pathRecord path) =
      [recordFront (pathRecord path).length (utf8 path), []] := by
    conv => lhs; rw [pathRecord_eq]
    rw [Tar.splitLines_append (not_mem_recordFront plain)]
    rfl
  have nonempty : (recordFront (pathRecord path).length (utf8 path)).isEmpty = false := by
    simp [recordFront]
  have record := ofLine?_recordFront bounded (utf8 path)
  rw [if_pos length_pathRecord_eq] at record
  simp [Tar.readRecords, lines, nonempty, record]

/-- An empty line at the end is not looked at. -/
theorem takeWhile_append_empty (ls : List Bytes) :
    (ls ++ [[]]).takeWhile (!·.isEmpty) = ls.takeWhile (!·.isEmpty) := by
  induction ls with
  | nil => rfl
  | cons l ls ih => cases l <;> simp [ih]

/-- A line feed in the path makes its first line no record. -/
theorem readRecords_of_mem (bounded : (pathRecord path).length ≤ Text.maxWord)
    (cut : 10 ∈ utf8 path) :
    Tar.readRecords (pathRecord path) =
      none :: (((splitLines (utf8 path)).drop 1).takeWhile (!·.isEmpty)).map Record.ofLine? := by
  obtain ⟨first, rest, whole, plain⟩ := List.eq_append_cons_of_mem cut
  have shape : pathRecord path =
      recordFront (pathRecord path).length first ++ 10 :: (rest ++ [10]) := by
    conv => lhs; rw [pathRecord_eq, whole]
    simp [recordFront]
  have first_line : Record.ofLine? (recordFront (pathRecord path).length first) = none := by
    rw [ofLine?_recordFront bounded, if_neg]
    have := congrArg List.length shape
    simp only [List.length_append, List.length_cons] at this
    omega
  have lines : splitLines (pathRecord path) =
      recordFront (pathRecord path).length first :: (splitLines rest ++ [[]]) := by
    conv => lhs; rw [shape]
    rw [Tar.splitLines_append (not_mem_recordFront plain), Tar.splitLines_append_end]
  have nonempty : (recordFront (pathRecord path).length first).isEmpty = false := by
    simp [recordFront]
  rw [Tar.readRecords, lines, whole, Tar.splitLines_append plain, List.takeWhile_cons, nonempty,
    takeWhile_append_empty]
  simp [first_line]

/-- A record of a path never tells a size. -/
theorem recordedSize?_pathRecord (bounded : (pathRecord path).length ≤ Text.maxWord) :
    Tar.recordedSize? (pathRecord path) = none := by
  have other : (pathKey == utf8 "size") = false := by decide
  by_cases cut : 10 ∈ utf8 path
  · simp [Tar.recordedSize?, readRecords_of_mem bounded cut]
  · simp [Tar.recordedSize?, readRecords_of_not_mem bounded cut, other]

theorem recordedPath?_of_not_mem (bounded : (pathRecord path).length ≤ Text.maxWord)
    (plain : 10 ∉ utf8 path) : Tar.recordedPath? (pathRecord path) = some (utf8 path) := by
  have same : (pathKey == utf8 "path") = true := by decide
  simp [Tar.recordedPath?, readRecords_of_not_mem bounded plain, same]

theorem recordedPath?_of_mem (bounded : (pathRecord path).length ≤ Text.maxWord)
    (cut : 10 ∈ utf8 path) :
    Tar.recordedPath? (pathRecord path) =
      ((laterRecords (utf8 path)).find? (·.key == pathKey)).map Record.value := by
  simp only [Tar.recordedPath?, readRecords_of_mem bounded cut, laterRecords]
  rw [List.filterMap_cons_none (by rfl), List.filterMap_map]
  rfl

/-- A record on a further line holds less than the path. -/
theorem length_value_lt_of_mem_laterRecords {p : Bytes} {r : Record} (h : r ∈ laterRecords p) :
    r.value.length < p.length := by
  obtain ⟨l, hl, hr⟩ := List.mem_filterMap.1 h
  have line : l ∈ splitLines p :=
    List.mem_of_mem_drop ((List.takeWhile_sublist _).subset hl)
  have := Tar.length_le_of_mem_splitLines line
  have := Record.length_value_lt hr
  omega

theorem boundaryBefore_le (bs : Bytes) (n : Nat) : boundaryBefore bs n ≤ n := by
  induction n with
  | zero => exact Nat.le_refl 0
  | succ n ih =>
    simp only [boundaryBefore]
    split
    · exact Nat.le_refl _
    · omega

theorem length_namePlaceholder_le : (namePlaceholder path).length ≤ nameFieldLength := by
  have := boundaryBefore_le (utf8 path) nameFieldLength
  simp only [namePlaceholder]
  split
  · assumption
  · rw [List.length_take]
    omega

theorem namePlaceholder_of_le (h : (utf8 path).length ≤ nameFieldLength) :
    namePlaceholder path = utf8 path := if_pos h

theorem mem_of_mem_namePlaceholder {b : UInt8} (h : b ∈ namePlaceholder path) : b ∈ utf8 path := by
  simp only [namePlaceholder] at h
  split at h
  · exact h
  · exact List.mem_of_mem_take h

/-- A path that survives is read back. -/
theorem pathReadBack_of_survives (bounded : (pathRecord path).length ≤ Text.maxWord)
    (h : PathSurvives (utf8 path)) : pathReadBack path = utf8 path := by
  by_cases cut : 10 ∈ utf8 path
  · obtain plain | ⟨short, others⟩ := h
    · exact absurd cut plain
    · have none_found : (laterRecords (utf8 path)).find? (·.key == pathKey) = none := by
        rw [List.find?_eq_none]
        intro r hr
        simpa using others r hr
      rw [pathReadBack, recordedPath?_of_mem bounded cut, none_found]
      exact namePlaceholder_of_le short
  · rw [pathReadBack, recordedPath?_of_not_mem bounded cut]
    rfl

/-- A path that does not survive is cut. -/
theorem length_pathReadBack_lt (bounded : (pathRecord path).length ≤ Text.maxWord)
    (h : ¬PathSurvives (utf8 path)) : (pathReadBack path).length < (utf8 path).length := by
  have cut : 10 ∈ utf8 path := by
    apply Classical.byContradiction
    intro plain
    exact h (Or.inl plain)
  rw [pathReadBack, recordedPath?_of_mem bounded cut]
  cases found : (laterRecords (utf8 path)).find? (·.key == pathKey) with
  | some r => exact length_value_lt_of_mem_laterRecords (List.mem_of_find?_eq_some found)
  | none =>
    have long : nameFieldLength < (utf8 path).length := by
      apply Nat.lt_of_not_le
      intro short
      refine h (Or.inr ⟨short, ?_⟩)
      intro r hr
      have := List.find?_eq_none.1 found r hr
      simpa using this
    calc
      (namePlaceholder path).length ≤ nameFieldLength := length_namePlaceholder_le
      _ < (utf8 path).length := long

end Northbound
