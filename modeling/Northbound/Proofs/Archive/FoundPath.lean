import Northbound.Proofs.Archive.RecordedPath
import Northbound.Proofs.Text.Encoding

/-!
# The path of an entry as it is handed over

A reader takes the path of an entry from its record or else from the name field, which ends at its
first NUL. Main statement: what is handed over is the path that was written exactly where
`PathFound` says so, and it is a text in any case.
-/

namespace Northbound

open Tar (Record splitLines)

/-- The path of an entry as a reader finds it, whatever bytes it has. -/
def pathFound (path : String) : Bytes :=
  (Tar.recordedPath? (pathRecord path)).getD (namePlaceholder path).untilNul

/-- Whether the path of an entry is found as it was written. A line feed hides its record from a
reader, so that the name field has to hold it up to the end, and no further line may pass for a
record of a path. -/
def PathFound (p : Bytes) : Prop :=
  10 ∉ p ∨ (p.length ≤ nameFieldLength ∧ 0 ∉ p) ∧ ∀ r ∈ laterRecords p, r.key ≠ pathKey

/-- What stands before the first byte of a kind is a text, and so is what follows it. -/
theorem IsText.takeWhile_ne {bs : Bytes} {b : UInt8} (h : IsText bs) (ascii : b < 0x80) :
    IsText (bs.takeWhile (· != b)) ∧ IsText (bs.drop ((bs.takeWhile (· != b)).length + 1)) := by
  by_cases hb : b ∈ bs
  · obtain ⟨front, rest, rfl, hfront⟩ := List.eq_append_cons_of_mem hb
    rw [Tar.takeWhile_ne_append hfront, ← List.drop_drop, List.drop_left]
    exact h.cut_at ascii
  · have hothers : ∀ c ∈ bs, (c != b) = true := by
      intro c hc
      have hne : c ≠ b := fun e => hb (e ▸ hc)
      simpa using hne
    have hwhole : bs.takeWhile (· != b) = bs := by
      have happend := @List.takeWhile_append_of_pos _ (· != b) bs [] hothers
      simpa using happend
    rw [hwhole, List.drop_eq_nil_of_le (Nat.le_succ _)]
    exact ⟨h, isText_utf8 ""⟩

/-- The lines of a text are texts. -/
theorem IsText.of_mem_splitLines {bs l : Bytes} (h : IsText bs) (hl : l ∈ splitLines bs) :
    IsText l := by
  induction hn : bs.length using Nat.strongRecOn generalizing bs with
  | _ n ih =>
      by_cases hcut : 10 ∈ bs
      · obtain ⟨front, rest, rfl, hfront⟩ := List.eq_append_cons_of_mem hcut
        obtain ⟨hfirst, hrest⟩ := h.cut_at (by decide)
        rw [Tar.splitLines_append hfront] at hl
        rcases List.mem_cons.mp hl with rfl | hl
        · exact hfirst
        · exact ih rest.length (by simp [← hn]; omega) hrest hl rfl
      · have hsplit := Tar.splitLines_append_end bs
        rw [Tar.splitLines_append hcut] at hsplit
        have hwhole : splitLines bs = [bs] := List.append_cancel_right hsplit.symm
        rw [hwhole, List.mem_singleton] at hl
        rwa [hl]

/-- The value of a record on a line of text is a text. -/
theorem isText_value_of_ofLine? {l : Bytes} {r : Record} (h : IsText l)
    (hr : Record.ofLine? l = some r) : IsText r.value := by
  unfold Record.ofLine? at hr
  simp only [Option.bind_eq_bind] at hr
  split at hr
  next => cases hr
  next =>
    obtain ⟨text, -, hr⟩ := Option.bind_eq_some_iff.1 hr
    obtain ⟨n, -, hr⟩ := Option.bind_eq_some_iff.1 hr
    split at hr
    next => cases hr
    next =>
      cases hr
      have hrest := (h.takeWhile_ne (b := 32) (by decide)).2
      exact (hrest.takeWhile_ne (b := 61) (by decide)).2

theorem isBoundary_boundaryBefore (bs : Bytes) (n : Nat) :
    boundaryBefore bs n = 0 ∨ isBoundary bs (boundaryBefore bs n) = true := by
  induction n with
  | zero => exact Or.inl rfl
  | succ n ih =>
      simp only [boundaryBefore]
      split
      next boundary => exact Or.inr boundary
      next => exact ih

theorem isText_namePlaceholder (path : String) : IsText (namePlaceholder path) := by
  simp only [namePlaceholder]
  split
  next => exact isText_utf8 path
  next =>
    generalize hplace : boundaryBefore (utf8 path) nameFieldLength = place
    have htext : IsText ((utf8 path).take place ++ (utf8 path).drop place) := by
      rw [List.take_append_drop]
      exact isText_utf8 path
    rcases isBoundary_boundaryBefore (utf8 path) nameFieldLength with hzero | hboundary
    · rw [← hplace, hzero]
      exact isText_utf8 ""
    · rw [hplace] at hboundary
      refine (htext.cut fun b hb => ?_).1
      rw [List.head?_drop] at hb
      simpa [isBoundary, hb] using hboundary

variable {path : String}

/-- What is handed over for a path is a text. -/
theorem isText_pathFound (bounded : (pathRecord path).length ≤ Text.maxWord) :
    IsText (pathFound path) := by
  rw [pathFound]
  by_cases cut : 10 ∈ utf8 path
  · rw [recordedPath?_of_mem bounded cut]
    cases found : (laterRecords (utf8 path)).find? (·.key == pathKey) with
    | none => exact ((isText_namePlaceholder path).takeWhile_ne (by decide)).1
    | some r =>
        obtain ⟨l, hl, hr⟩ := List.mem_filterMap.1 (List.mem_of_find?_eq_some found)
        have hline : l ∈ splitLines (utf8 path) :=
          List.mem_of_mem_drop ((List.takeWhile_sublist _).subset hl)
        exact isText_value_of_ofLine? ((isText_utf8 path).of_mem_splitLines hline) hr
  · rw [recordedPath?_of_not_mem bounded cut]
    exact isText_utf8 path

theorem not_mem_untilNul (bs : Bytes) : 0 ∉ bs.untilNul := by
  intro h
  have hall : (bs.takeWhile (· != 0)).all (· != 0) = true := List.all_takeWhile
  have hne := List.all_eq_true.mp hall 0 h
  cases hne

/-- A path is found as it was written exactly where `PathFound` says so. -/
theorem pathFound_eq_iff (bounded : (pathRecord path).length ≤ Text.maxWord) :
    pathFound path = utf8 path ↔ PathFound (utf8 path) := by
  by_cases cut : 10 ∈ utf8 path
  · rw [pathFound, recordedPath?_of_mem bounded cut, PathFound]
    cases found : (laterRecords (utf8 path)).find? (·.key == pathKey) with
    | some r =>
        have hmem := List.mem_of_find?_eq_some found
        have hkey : r.key = pathKey := by simpa using List.find?_some found
        have hshort := length_value_lt_of_mem_laterRecords hmem
        constructor
        · intro h
          rw [← h] at hshort
          exact absurd hshort (Nat.lt_irrefl _)
        · rintro (plain | ⟨-, others⟩)
          · exact absurd cut plain
          · exact absurd hkey (others r hmem)
    | none =>
        have others : ∀ r ∈ laterRecords (utf8 path), r.key ≠ pathKey := by
          simpa using List.find?_eq_none.1 found
        constructor
        · intro h
          have hnul : 0 ∉ utf8 path := by
            rw [← h]
            exact not_mem_untilNul _
          have hlength : (utf8 path).length ≤ nameFieldLength := by
            calc (utf8 path).length
              _ = (namePlaceholder path).untilNul.length := congrArg List.length h.symm
              _ ≤ (namePlaceholder path).length := (List.takeWhile_sublist _).length_le
              _ ≤ nameFieldLength := length_namePlaceholder_le
          exact Or.inr ⟨⟨hlength, hnul⟩, others⟩
        · rintro (plain | ⟨⟨short, whole⟩, -⟩)
          · exact absurd cut plain
          · change (namePlaceholder path).untilNul = utf8 path
            rw [namePlaceholder_of_le short, Bytes.untilNul_of_not_mem whole]
  · rw [pathFound, recordedPath?_of_not_mem bounded cut]
    exact ⟨fun _ => Or.inl cut, fun _ => rfl⟩

/-- A path is handed over as it was written exactly where `PathFound` says so. -/
theorem lossy_pathFound_eq_iff (bounded : (pathRecord path).length ≤ Text.maxWord) :
    Text.lossy (pathFound path) = path ↔ PathFound (utf8 path) := by
  rw [← pathFound_eq_iff bounded]
  constructor
  · intro h
    rw [← (isText_pathFound bounded).utf8_lossy, h]
  · intro h
    rw [h, lossy_utf8]

end Northbound
