import Northbound.Proofs.Archive.Placing

/-!
# The tree that an archive unpacks to

What one file of an archive does to the tree in the destination, and from that what all of them do:
every file that stands there in the end was in the archive; and if the places of the files do not
contradict each other, all of them stand there.
-/

namespace Northbound

open FileSystem
open Northbound.Path (Plain Spells joined undotted)

namespace ArchivedFile

/-- The place of a file below the destination. -/
def place (f : ArchivedFile) : List Bytes := undotted (Path.segments (pathReadBack f.path))

/-- The permissions that a file is given. -/
def permissions (f : ArchivedFile) : Nat := Tarball.permissionBits f.mode

/-- The path at which a file is made. -/
def target (f : ArchivedFile) (dest : Path) : Path := Path.join dest (joined f.place)

end ArchivedFile

namespace Tarball

variable {fs fs' : FileSystem} {dest : Path} {there : List Bytes} {links : Nat} {t t' : Node}
  {f : ArchivedFile} {files all done : List ArchivedFile}

theorem unpack_eq_ok (h : EmptyAt fs dest there links) (directory : t.isDirectory = true)
    (ordinary : t.Ordinary) (ok : unpack dest f (fs.put there t) = (.ok (), fs')) :
    (f.target dest).length ≤ maxPath ∧ f.place ≠ [] ∧
      ∃ t' a, fs' = fs.put there t' ∧ a.mode = f.permissions ∧
        Placed t f.place f.content a t' := by
  unfold unpack at ok
  cases found : targetPath dest (pathReadBack f.path) with
  | error e =>
    rw [found] at ok
    cases ok
  | ok target =>
    rw [found] at ok
    obtain ⟨plain, further, shape⟩ := (targetPath_eq_ok_iff h.nonempty).1 found
    have spelled : Spells dest f.place target := by
      rw [shape]
      exact Path.spells_join h.nonempty further plain
    obtain ⟨fits, made⟩ := placeFile_eq_ok h directory ordinary plain spelled further ok
    rw [shape] at fits
    exact ⟨fits, further, made⟩

/-- A run over the files of an archive that succeeds: every path was short enough, and every file
that stands there was there before or comes from the archive. -/
theorem unpackAll_eq_ok (h : EmptyAt fs dest there links) (directory : t.isDirectory = true)
    (ordinary : t.Ordinary) (ok : unpackAll dest files (fs.put there t) = (.ok (), fs')) :
    (∀ f ∈ files, (f.target dest).length ≤ maxPath) ∧
      ∃ t', fs' = fs.put there t' ∧ t'.isDirectory = true ∧ t'.Ordinary ∧
        ∀ x content a, t'.look x = some (.file content a) →
          t.look x = some (.file content a) ∨ ∃ f ∈ files, x = f.place := by
  induction files generalizing t with
  | nil =>
    cases ok
    exact ⟨by simp, t, rfl, directory, ordinary, fun x content a found => Or.inl found⟩
  | cons f files ih =>
    obtain ⟨⟨⟩, fs₁, first, rest⟩ := Action.bind_eq_ok ok
    obtain ⟨fits, further, t₁, a₁, rfl, -, placed⟩ := unpack_eq_ok h directory ordinary first
    obtain ⟨others, t', rfl, directory', ordinary', files'⟩ :=
      ih (placed.directory further) (placed.ordinary ordinary) rest
    refine ⟨?_, t', rfl, directory', ordinary', ?_⟩
    · intro g hg
      rcases List.mem_cons.1 hg with rfl | hg
      · exact fits
      · exact others g hg
    · intro x content a found
      rcases files' x content a found with earlier | ⟨g, hg, e⟩
      · rw [placed x] at earlier
        split at earlier
        next same => exact Or.inr ⟨f, by simp, same⟩
        next =>
          split at earlier
          · cases earlier
          · exact Or.inl earlier
      · exact Or.inr ⟨g, by simp [hg], e⟩

/-- Files that can stand beside each other: no place is above another one, and those at one place
are the same. -/
structure Agree (files : List ArchivedFile) : Prop where
  apart : ∀ f ∈ files, ∀ g ∈ files, f.place <+: g.place → f.place = g.place
  same : ∀ f ∈ files, ∀ g ∈ files, f.place = g.place →
    f.content = g.content ∧ f.permissions = g.permissions

/-- A tree that holds some files and nothing else but the directories above them. -/
structure Holds (t : Node) (files : List ArchivedFile) : Prop where
  directory : t.isDirectory = true
  ordinary : t.Ordinary
  only : ∀ x content a, t.look x = some (.file content a) →
    ∃ f ∈ files, x = f.place ∧ content = f.content ∧ a.mode = f.permissions
  made : ∀ f ∈ files, ∃ a, t.look f.place = some (.file f.content a) ∧ a.mode = f.permissions
  directories : ∀ x, t.look x = some .emptyDirectory →
    x = [] ∨ ∃ f ∈ files, x <+: f.place ∧ x ≠ f.place

/-- One file more. -/
theorem Holds.placed (holds : Holds t done) (agree : Agree (done ++ [f])) (further : f.place ≠ [])
    {a : FileAttributes} (mode : a.mode = f.permissions)
    (placed : Placed t f.place f.content a t') :
    Holds t' (done ++ [f]) where
  directory := placed.directory further
  ordinary := placed.ordinary holds.ordinary
  only := by
    intro x content b found
    rw [placed x] at found
    split at found
    next same =>
      cases found
      exact ⟨f, by simp, same, rfl, mode⟩
    next =>
      split at found
      · cases found
      · obtain ⟨g, hg, e⟩ := holds.only x content b found
        exact ⟨g, by simp [hg], e⟩
  made := by
    intro g hg
    by_cases same : g.place = f.place
    · obtain ⟨content, permissions⟩ := agree.same g hg f (by simp) same
      exact ⟨a, by rw [placed, if_pos same, content], by rw [mode, permissions]⟩
    · have old : g ∈ done := by
        rcases List.mem_append.1 hg with hg | hg
        · exact hg
        · rw [List.mem_singleton.1 hg] at same
          exact absurd rfl same
      obtain ⟨b, found, e⟩ := holds.made g old
      have apart : ¬g.place <+: f.place := by
        intro above
        exact same (agree.apart g hg f (by simp) above)
      exact ⟨b, by rw [placed, if_neg same, if_neg apart, found], e⟩
  directories := by
    intro x found
    rw [placed x] at found
    split at found
    · cases found
    next ne =>
      split at found
      next above => exact Or.inr ⟨f, by simp, above, ne⟩
      next =>
        rcases holds.directories x found with top | ⟨g, hg, e⟩
        · exact Or.inl top
        · exact Or.inr ⟨g, by simp [hg], e⟩

theorem Agree.of_subset (agree : Agree all) (h : ∀ f ∈ files, f ∈ all) : Agree files where
  apart := fun f hf g hg => agree.apart f (h f hf) g (h g hg)
  same := fun f hf g hg => agree.same f (h f hf) g (h g hg)

/-- Nothing stands in the way of a file that agrees with those that are there. -/
theorem Holds.room (holds : Holds t done) (agree : Agree (done ++ [f])) {front : List Bytes}
    {last : Bytes} (shape : f.place = front ++ [last]) : Open t front ∧ Free t f.place := by
  constructor
  · intro x above
    cases found : t.look x with
    | none => exact Or.inl rfl
    | some m =>
      rcases holds.ordinary x m found with rfl | ⟨content, a, rfl⟩
      · exact Or.inr rfl
      · obtain ⟨g, hg, rfl, -, -⟩ := holds.only x content a found
        have higher : g.place <+: f.place := by
          rw [shape]
          exact above.trans (List.prefix_append _ _)
        have same := agree.apart g (by simp [hg]) f (by simp) higher
        rw [same, shape] at above
        exact absurd above (not_prefix_of_concat front last)
  · cases found : t.look f.place with
    | none => exact Or.inl found
    | some m =>
      rcases holds.ordinary f.place m found with rfl | ⟨content, a, rfl⟩
      · rcases holds.directories f.place found with top | ⟨g, hg, above, ne⟩
        · rw [shape] at top
          simp at top
        · exact absurd (agree.apart f (by simp) g (by simp [hg]) above) ne
      · exact Or.inr ⟨content, a, found⟩

/-- A file with an acceptable path that agrees with those that are there is made. -/
theorem unpack_succeeds (h : EmptyAt fs dest there links) (holds : Holds t done)
    (agree : Agree (done ++ [f])) (acceptable : Acceptable (f.target dest) f.place)
    (further : f.place ≠ []) :
    ∃ t', unpack dest f (fs.put there t) = (.ok (), fs.put there t') ∧
      Holds t' (done ++ [f]) := by
  have found : targetPath dest (pathReadBack f.path) = .ok (f.target dest) :=
    (targetPath_eq_ok_iff h.nonempty).2 ⟨acceptable.plain, further, rfl⟩
  have spelled : Spells dest f.place (f.target dest) :=
    Path.spells_join h.nonempty further acceptable.plain
  have made : ∃ fs', unpack dest f (fs.put there t) = (.ok (), fs') := by
    rcases List.eq_nil_or_concat f.place with top | ⟨front, last, shape⟩
    · exact absurd top further
    · rw [List.concat_eq_append] at shape
      obtain ⟨open_, free⟩ := holds.room agree shape
      rw [shape] at spelled acceptable free
      obtain ⟨fs', placed⟩ := placeFile_succeeds h holds.directory holds.ordinary spelled acceptable
        open_ free f.content f.permissions
      refine ⟨fs', ?_⟩
      unfold unpack
      rw [found]
      exact placed
  obtain ⟨fs', ok⟩ := made
  obtain ⟨-, -, t', a, rfl, mode, placed⟩ := unpack_eq_ok h holds.directory holds.ordinary ok
  exact ⟨t', ok, holds.placed agree further mode placed⟩

/-- A run over files with acceptable paths that agree with each other makes all of them. -/
theorem unpackAll_succeeds (h : EmptyAt fs dest there links) (holds : Holds t done)
    (agree : Agree (done ++ files))
    (acceptable : ∀ f ∈ files, Acceptable (f.target dest) f.place ∧ f.place ≠ []) :
    ∃ t', unpackAll dest files (fs.put there t) = (.ok (), fs.put there t') ∧
      Holds t' (done ++ files) := by
  induction files generalizing t done with
  | nil => exact ⟨t, rfl, by rwa [List.append_nil]⟩
  | cons f files ih =>
    have shape : done ++ f :: files = (done ++ [f]) ++ files := by simp
    rw [shape] at agree ⊢
    have first : Agree (done ++ [f]) := agree.of_subset fun g hg => by
      rcases List.mem_append.1 hg with hg | hg
      · simp [hg]
      · simp [List.mem_singleton.1 hg]
    obtain ⟨fits, further⟩ := acceptable f (by simp)
    obtain ⟨t₁, made, holds₁⟩ := unpack_succeeds h holds first fits further
    obtain ⟨t', rest, holds'⟩ := ih holds₁ agree fun g hg => acceptable g (by simp [hg])
    exact ⟨t', (Action.bind_of_ok made).trans rest, holds'⟩

/-- An empty directory holds no files. -/
theorem holds_nil (r : Bool) : Holds (.directory r []) [] where
  directory := rfl
  ordinary := by
    intro x m found
    cases x with
    | nil =>
      rw [Node.look_nil] at found
      exact Or.inl (Option.some.inj found).symm
    | cons n ns => simp [Node.look_cons, Node.children] at found
  only := by
    intro x content a found
    cases x with
    | nil => simp [Node.bare, Node.emptyDirectory] at found
    | cons n ns => simp [Node.look_cons, Node.children] at found
  made := by simp
  directories := by
    intro x found
    cases x with
    | nil => exact Or.inl rfl
    | cons n ns => simp [Node.look_cons, Node.children] at found

end Tarball

end Northbound
