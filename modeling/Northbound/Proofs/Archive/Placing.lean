import Northbound.Proofs.Archive.TargetPath
import Northbound.Proofs.Archive.Unpacking
import Northbound.Proofs.FileSystem.Files

/-!
# Placing one file

Making one file of an archive in a directory that was empty: what the tree in it has become when
that succeeds, and when it does.
-/

namespace Northbound

namespace Tarball

open FileSystem
open Northbound.Path (Plain Spells joined)

variable {fs fs' : FileSystem} {dest target : Path} {there names : List Bytes} {links : Nat}
  {t t' : Node} {content : Bytes} {a : FileAttributes} {mode : Nat}

/-- What a tree has become when a file was made at a place, with the directories on the way. -/
def Placed (t : Node) (names : List Bytes) (content : Bytes) (a : FileAttributes) (t' : Node) :
    Prop :=
  ∀ x, t'.look x =
    if x = names then some (.file content a)
    else if x <+: names then some .emptyDirectory else t.look x

theorem Placed.directory (h : Placed t names content a t') (further : names ≠ []) :
    t'.isDirectory = true := by
  have top := h []
  rw [if_neg fun e => further e.symm, if_pos List.nil_prefix, Node.look_nil] at top
  exact Node.bare_eq_emptyDirectory_iff.1 (Option.some.inj top)

theorem Placed.ordinary (h : Placed t names content a t') (ordinary : t.Ordinary) :
    t'.Ordinary := by
  intro x m found
  rw [h x] at found
  split at found
  · exact Or.inr ⟨content, a, (Option.some.inj found).symm⟩
  · split at found
    · exact Or.inl (Option.some.inj found).symm
    · exact ordinary x m found

/-- A file put into a directory that was made for it. -/
theorem placed_put {front : List Bytes} {last : Bytes} {t₁ : Node} (made : Made t front t₁)
    (placeable : t₁.Placeable (front ++ [last])) (free : Free t₁ (front ++ [last])) :
    Placed t (front ++ [last]) content a ((Node.file content a).put (front ++ [last]) t₁) := by
  intro x
  rw [look_put_file placeable]
  by_cases same : x = front ++ [last]
  · rw [if_pos same, if_pos same]
  · rw [if_neg same, if_neg same]
    by_cases below : front ++ [last] <+: x
    · have gone := look_below_free free below same
      have not_above : ¬x <+: front ++ [last] := by
        intro above
        exact same (above.eq_of_length_le below.length_le)
      have not_front : ¬x <+: front := by
        intro above
        exact not_above (above.trans (List.prefix_append _ _))
      rw [made x, if_neg not_front] at gone
      rw [if_pos below, if_neg not_above, gone]
    · rw [if_neg below, made x]
      have : x <+: front ++ [last] ↔ x <+: front := by
        rw [List.prefix_concat_iff]
        simp [same]
      simp only [this]

/-- The directories above a file are made. -/
theorem makeParent_eq_ok (h : EmptyAt fs dest there links) (directory : t.isDirectory = true)
    (ordinary : t.Ordinary) {front : List Bytes} {last : Bytes}
    (plain : ∀ n ∈ front ++ [last], Plain n) (spelled : Spells dest (front ++ [last]) target)
    (ok : makeParent target (fs.put there t) = (.ok (), fs')) :
    ∃ t₁, fs' = fs.put there t₁ ∧ Made t front t₁ := by
  obtain ⟨q, parent, spelled_q, -, -⟩ := spelled.parent plain
  rw [makeParent, parent] at ok
  simp only at ok
  split at ok
  next empty =>
    obtain ⟨start, shape, -⟩ := spelled_q.segments
    rw [List.isEmpty_iff.1 empty] at shape
    have top : front = [] := (List.append_eq_nil_iff.1 shape.symm).2
    subst top
    cases ok
    refine ⟨t, rfl, Made.of_directory ?_⟩
    rw [Node.look_nil, Node.bare_eq_emptyDirectory_iff.2 directory]
  next =>
    exact makeParents_eq_ok h directory ordinary (fun n hn => plain n (by simp [hn])) spelled_q
      (onFiles_eq_ok_iff.1 ok)

/-- A file that was made stands at its place, and nothing else has changed. -/
theorem placeFile_eq_ok (h : EmptyAt fs dest there links) (directory : t.isDirectory = true)
    (ordinary : t.Ordinary) (plain : ∀ n ∈ names, Plain n) (spelled : Spells dest names target)
    (further : names ≠ []) (ok : placeFile target content mode (fs.put there t) = (.ok (), fs')) :
    target.length ≤ maxPath ∧
      ∃ t' a, fs' = fs.put there t' ∧ a.mode = mode ∧ Placed t names content a t' := by
  rcases List.eq_nil_or_concat names with rfl | ⟨front, last, rfl⟩
  · exact absurd rfl further
  · rw [List.concat_eq_append] at *
    obtain ⟨⟨⟩, fs₁, above, ok⟩ := Action.bind_eq_ok ok
    obtain ⟨t₁, rfl, made⟩ := makeParent_eq_ok h directory ordinary plain spelled above
    obtain ⟨place, fs₂, created, ok⟩ := Action.bind_eq_ok ok
    obtain ⟨fits, rfl, placeable, free, a, rfl⟩ := createFile_eq_ok h made.directory
      (made.ordinary ordinary) plain spelled further (onFiles_eq_ok_iff.1 created)
    obtain ⟨⟨⟩, fs₃, written, ok⟩ := Action.bind_eq_ok ok
    rw [onFiles_eq_ok_iff, writeAt_put h placeable] at written
    cases written
    have set := setMode_eq_ok h made.directory (made.ordinary ordinary) plain spelled further
      placeable (onFiles_eq_ok_iff.1 ok)
    exact ⟨fits, _, { a with mode }, set, rfl, placed_put made placeable free⟩

theorem makeParent_succeeds (h : EmptyAt fs dest there links) (directory : t.isDirectory = true)
    (ordinary : t.Ordinary) {front : List Bytes} {last : Bytes}
    (spelled : Spells dest (front ++ [last]) target)
    (acceptable : Acceptable target (front ++ [last])) (open_ : Open t front) :
    ∃ fs', makeParent target (fs.put there t) = (.ok (), fs') := by
  obtain ⟨q, parent, spelled_q, shorter, clean⟩ := spelled.parent acceptable.plain
  have acceptable_q : Acceptable q front :=
    ⟨clean acceptable.nul, Nat.le_trans shorter acceptable.length,
      fun n hn => acceptable.plain n (by simp [hn]), fun n hn => acceptable.short n (by simp [hn])⟩
  have enough : front.length < q.length + 2 := by
    obtain ⟨start, shape, -⟩ := spelled_q.segments
    have := Path.weight_segments_le q
    have := Path.length_le_weight (Path.segments q)
    rw [shape, List.length_append] at this
    rw [shape] at *
    omega
  obtain ⟨fs', made⟩ :=
    makeParents_succeeds h directory ordinary spelled_q acceptable_q open_ enough
  rw [makeParent, parent]
  simp only
  split
  · exact ⟨_, rfl⟩
  · exact ⟨fs', onFiles_eq_ok_iff.2 made⟩

/-- A file can be made where its path is acceptable and nothing stands in its way. -/
theorem placeFile_succeeds (h : EmptyAt fs dest there links) (directory : t.isDirectory = true)
    (ordinary : t.Ordinary) {front : List Bytes} {last : Bytes}
    (spelled : Spells dest (front ++ [last]) target)
    (acceptable : Acceptable target (front ++ [last])) (open_ : Open t front)
    (free : Free t (front ++ [last])) (content : Bytes) (mode : Nat) :
    ∃ fs', placeFile target content mode (fs.put there t) = (.ok (), fs') := by
  obtain ⟨fs₁, above⟩ := makeParent_succeeds h directory ordinary spelled acceptable open_
  obtain ⟨t₁, rfl, made⟩ := makeParent_eq_ok h directory ordinary acceptable.plain spelled above
  have dir : t₁.look front = some .emptyDirectory := by rw [made, if_pos (List.prefix_refl _)]
  have free₁ : Free t₁ (front ++ [last]) := by
    rw [Free, made, if_neg (not_prefix_of_concat front last)]
    exact free
  have placeable : Node.Placeable _ (front ++ [last]) := placeable_of_look dir
  obtain ⟨place, fs₂, created⟩ := createFile_succeeds h made.directory (made.ordinary ordinary)
    spelled acceptable dir free₁
  obtain ⟨-, rfl, -, -, a, rfl⟩ := createFile_eq_ok h made.directory (made.ordinary ordinary)
    acceptable.plain spelled (by simp) created
  obtain ⟨fs₃, set⟩ := setMode_succeeds h made.directory
    (made.ordinary ordinary) spelled acceptable dir content a mode
  refine ⟨fs₃, ?_⟩
  rw [placeFile, Action.bind_of_ok above, Action.bind_of_ok (onFiles_eq_ok_iff.2 created),
    Action.bind_of_ok (onFiles_eq_ok_iff.2 (writeAt_put h placeable [] content a))]
  exact onFiles_eq_ok_iff.2 set

end Tarball

end Northbound
