import Northbound.Archive.Extraction
import Northbound.Proofs.FileSystem.Spelling

/-!
# Where entries go

The place of an entry below the destination: the names of its path without the dots.
-/

namespace Northbound

namespace Tarball

open Northbound.Path (Plain joined undotted segments)

variable {names : List Bytes} {dest p target : Path}

theorem ordinaryNames_eq (cs : List Component) :
    ordinaryNames cs = if .parent ∈ cs then none else some (cs.flatMap Path.steps) := by
  induction cs with
  | nil => rfl
  | cons c cs ih =>
    cases c with
    | parent => simp [ordinaryNames]
    | name s =>
      simp only [ordinaryNames, ih, List.mem_cons, reduceCtorEq, false_or]
      split <;> simp [Path.steps]
    | root => simp [ordinaryNames, ih, Path.steps]
    | here => simp [ordinaryNames, ih, Path.steps]

theorem ordinaryNames_components (p : Path) :
    ordinaryNames (Path.components p) =
      if Path.dotDot ∈ segments p then none else some (undotted (segments p)) := by
  rw [ordinaryNames_eq, ← Path.undotted_segments]
  simp only [Path.parent_mem_components_iff]

theorem undotted_segments_nonempty : ∀ n ∈ undotted (segments p), n ≠ [] ∧ Path.slash ∉ n := by
  intro n hn
  exact Path.segments_nonempty (List.mem_filter.1 hn).1

/-- A path that does not climb has plain names, besides dots. -/
theorem dotDot_not_mem_segments_iff :
    Path.dotDot ∉ segments p ↔ ∀ n ∈ undotted (segments p), Plain n := by
  constructor
  · intro h n hn
    obtain ⟨mem, ne⟩ := List.mem_filter.1 hn
    have good := undotted_segments_nonempty n hn
    exact ⟨good.1, good.2, by simpa using ne, fun e => h (e ▸ mem)⟩
  · intro h mem
    have ne : Path.dotDot ≠ Path.dot := by decide
    exact (h Path.dotDot (by simp [undotted, mem, ne])).dotDot rfl

/-- A path that has a place below the destination leads there through plain names. -/
theorem targetPath_eq_ok_iff (nonempty : dest ≠ []) :
    targetPath dest p = .ok target ↔
      (∀ n ∈ undotted (segments p), Plain n) ∧ undotted (segments p) ≠ [] ∧
        target = Path.join dest (joined (undotted (segments p))) := by
  have good := undotted_segments_nonempty (p := p)
  have climbs := dotDot_not_mem_segments_iff (p := p)
  have start : dest.isEmpty = false := by simpa using nonempty
  simp only [targetPath, start, Bool.false_eq_true, if_false, ordinaryNames_components]
  by_cases up : Path.dotDot ∈ segments p
  · have := mt climbs.2 (not_not_intro up)
    simp [up, this]
  · have plain := climbs.1 up
    simp only [up, if_false]
    have bytes : Path.ofComponents ((undotted (segments p)).map .name) =
        joined (undotted (segments p)) := by
      have := Path.ofComponents_map false good
      have same : (undotted (segments p)).map Path.componentOf =
          (undotted (segments p)).map .name :=
        List.map_congr_left fun n hn => (plain n hn).componentOf
      rw [same] at this
      simpa [Path.ofNames] using this
    cases shape : undotted (segments p) with
    | nil => simp
    | cons n ns =>
      rw [shape] at bytes plain
      simp only [bytes]
      constructor
      · intro h
        cases h
        exact ⟨plain, by simp, rfl⟩
      · rintro ⟨-, -, rfl⟩
        rfl

theorem undotted_segments_joined (plain : ∀ n ∈ names, Plain n) :
    undotted (segments (joined names)) = names := by
  rw [Path.segments_joined (Path.unslashed_of_plain plain), Path.undotted_of_plain plain]

/-- The names of a place are no longer than the path they come from. -/
theorem length_joined_undotted_le (p : Path) :
    (joined (undotted (segments p))).length ≤ p.length := by
  by_cases empty : undotted (segments p) = []
  · rw [empty]
    exact Nat.zero_le _
  · have total := Path.length_joined empty
    have whole := Path.weight_pieces p
    have : List.Sublist (undotted (segments p)) (Path.pieces p) :=
      List.filter_sublist.trans List.filter_sublist
    have := Path.weight_le_of_sublist this
    omega

end Tarball

end Northbound
