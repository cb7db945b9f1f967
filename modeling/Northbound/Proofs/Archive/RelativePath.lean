import Northbound.Archive.EntryPath
import Northbound.Proofs.FileSystem.Spelling
import Northbound.Proofs.Text.Encoding

/-!
# Relative paths in archives

The text that names a node of a tree in an archive: the names that lead to it, joined by slashes.
-/

namespace Northbound

open Northbound.Path (Plain components joined segments)

variable {names : List Bytes} {root p : Path} {s : String}

theorem utf8_intercalate (texts : List String) :
    utf8 (String.intercalate "/" texts) = joined (texts.map utf8) := by
  induction texts with
  | nil => rfl
  | cons t ts ih =>
    cases ts with
    | nil => simp [joined]
    | cons u us =>
      rw [String.intercalate_cons_cons, utf8_append, utf8_append, ih]
      simp [joined]
      rfl

theorem components_foldl_join (nonempty : root ≠ []) (plain : ∀ n ∈ names, Plain n) :
    Path.components (names.foldl Path.join root) = Path.components root ++ names.map .name := by
  by_cases top : names = []
  · subst top
    simp
  · have good := Path.unslashed_of_plain plain
    have relative := Path.isAbsolute_joined good
    have same : names.map Path.componentOf = names.map .name :=
      List.map_congr_left fun n hn => (plain n hn).componentOf
    rw [Path.foldl_join good top, Path.components_eq, Path.components_eq root,
      Path.isAbsolute_join relative nonempty, Path.segments_join relative,
      Path.segments_joined good, Path.kept_append (Path.length_segments_pos nonempty) plain,
      List.map_append, same, List.append_assoc]

theorem mapM_text_utf8 (texts : List String) :
    ((texts.map utf8).map Component.name).mapM Component.text? = some texts := by
  induction texts with
  | nil => rfl
  | cons t ts ih =>
    rw [List.map_cons, List.map_cons, List.mapM_cons, ih]
    simp [Component.text?, utf8Decode?_utf8]

/-- Components are decoded to texts exactly if all of them are names that encode these. -/
theorem mapM_text_eq_some_iff {cs : List Component} {texts : List String} :
    cs.mapM Component.text? = some texts ↔ cs = (texts.map utf8).map .name := by
  constructor
  · intro h
    induction cs generalizing texts with
    | nil =>
      cases h
      rfl
    | cons c cs ih =>
      rw [List.mapM_cons] at h
      obtain ⟨t, first, h⟩ := Option.bind_eq_some_iff.1 h
      obtain ⟨ts, others, h⟩ := Option.bind_eq_some_iff.1 h
      cases h
      cases c with
      | name n => rw [ih others, List.map_cons, List.map_cons, utf8_of_utf8Decode? first]
      | root => cases first
      | here => cases first
      | parent => cases first
  · rintro rfl
    exact mapM_text_utf8 texts

/-- A path that leads from a root down through names that are texts. -/
def Path.LeadsDown (root : Path) (texts : List String) (p : Path) : Prop :=
  components p = components root ++ (texts.map utf8).map .name

open Northbound.Path (LeadsDown)

/-- A path has an archive path exactly if it leads down through names that are texts. -/
theorem relativeArchivePath_eq_ok_iff :
    relativeArchivePath root p = .ok s ↔
      ∃ texts, LeadsDown root texts p ∧ s = String.intercalate "/" texts := by
  unfold relativeArchivePath Path.below? LeadsDown
  constructor
  · intro h
    split at h
    · cases h
    next rest below =>
      split at h
      · cases h
      next texts decoded =>
        cases h
        split at below
        next starts =>
          obtain ⟨more, whole⟩ := List.isPrefixOf_iff_prefix.1 starts
          rw [← whole, List.drop_left, Option.some.injEq] at below
          exact ⟨texts, by rw [← whole, below, mapM_text_eq_some_iff.1 decoded], rfl⟩
        next => cases below
  · rintro ⟨texts, leads, rfl⟩
    have starts : (components root).isPrefixOf (components p) = true := by
      rw [List.isPrefixOf_iff_prefix, leads]
      exact List.prefix_append _ _
    rw [if_pos starts, leads, List.drop_left]
    simp only [mapM_text_utf8]

theorem leadsDown_foldl_join_iff (nonempty : root ≠ []) (plain : ∀ n ∈ names, Plain n)
    {texts : List String} :
    LeadsDown root texts (names.foldl Path.join root) ↔ texts.map utf8 = names := by
  rw [LeadsDown, components_foldl_join nonempty plain, List.append_cancel_left_eq,
    List.map_inj_right fun _ _ => Component.name.inj, eq_comm]

/-- The relative path of a node is made of the names that lead to it, which have to be texts. -/
theorem relativeArchivePath_foldl_join_iff (nonempty : root ≠ []) (plain : ∀ n ∈ names, Plain n) :
    relativeArchivePath root (names.foldl Path.join root) = .ok s ↔
      ∃ texts, texts.map utf8 = names ∧ s = String.intercalate "/" texts := by
  simp only [relativeArchivePath_eq_ok_iff, leadsDown_foldl_join_iff nonempty plain]

theorem relativeArchivePath_eq_ok (nonempty : root ≠ []) (plain : ∀ n ∈ names, Plain n)
    (h : relativeArchivePath root (names.foldl Path.join root) = .ok s) :
    utf8 s = joined names := by
  obtain ⟨texts, rfl, rfl⟩ := (relativeArchivePath_foldl_join_iff nonempty plain).1 h
  exact utf8_intercalate texts

/-- Names that are texts are those that these encode. -/
theorem map_utf8_lossy (texts : ∀ n ∈ names, IsText n) :
    (names.map Text.lossy).map utf8 = names := by
  rw [List.map_map]
  exact (List.map_congr_left fun n hn => (texts n hn).utf8_lossy).trans (List.map_id' names)

/-- The relative path of a node to which texts lead is these, joined by slashes. -/
theorem relativeArchivePath_of_texts (nonempty : root ≠ []) (plain : ∀ n ∈ names, Plain n)
    (texts : ∀ n ∈ names, IsText n) :
    relativeArchivePath root (names.foldl Path.join root) =
      .ok (String.intercalate "/" (names.map Text.lossy)) :=
  (relativeArchivePath_foldl_join_iff nonempty plain).2 ⟨_, map_utf8_lossy texts, rfl⟩

/-- A node has a relative path exactly if the names that lead to it are texts. -/
theorem exists_relativeArchivePath_iff (nonempty : root ≠ []) (plain : ∀ n ∈ names, Plain n) :
    (∃ s, relativeArchivePath root (names.foldl Path.join root) = .ok s) ↔
      ∀ n ∈ names, IsText n := by
  constructor
  · rintro ⟨s, h⟩ n hn
    obtain ⟨texts, rfl, -⟩ := (relativeArchivePath_foldl_join_iff nonempty plain).1 h
    obtain ⟨t, -, rfl⟩ := List.mem_map.1 hn
    exact isText_utf8 t
  · intro texts
    exact ⟨_, relativeArchivePath_of_texts nonempty plain texts⟩

/-- A path that is refused is refused as such. -/
theorem eq_invalidPath_of_relativeArchivePath {p : Path} {e : ArchiveError}
    (h : relativeArchivePath root p = .error e) : e = .invalidPath p := by
  unfold relativeArchivePath at h
  split at h
  · exact (Except.error.inj h).symm
  · split at h
    · exact (Except.error.inj h).symm
    · cases h

/-- The relative path of a child is its name. -/
theorem relativeArchivePath_join {root : Path} {name : String} (nonempty : root ≠ [])
    (plain : Path.Plain (utf8 name)) :
    relativeArchivePath root (Path.join root (utf8 name)) = .ok name := by
  have alone : ∀ n ∈ [utf8 name], Plain n := by simpa using plain
  exact (relativeArchivePath_foldl_join_iff nonempty alone).2 ⟨[name], rfl, by simp⟩

/-- An entry lies below the base directory. -/
theorem utf8_joinArchivePath {base relative : String} (nonempty : base ≠ "") (further : names ≠ [])
    (plain : ∀ n ∈ names, Plain n) (h : utf8 relative = joined names) :
    utf8 (joinArchivePath base relative) = joined (utf8 base :: names) := by
  have good := Path.unslashed_of_plain plain
  have some_ : relative ≠ "" := by
    rintro rfl
    exact Path.joined_ne_nil further (fun n hn => (good n hn).1) h.symm
  have first : relative.toList.dropWhile (· == '/') = relative.toList := by
    cases chars : relative.toList with
    | nil => rfl
    | cons c cs =>
      have ne : (c == '/') = false := by
        rw [beq_eq_false_iff_ne]
        rintro rfl
        have whole : relative = String.ofList ('/' :: cs) := by rw [← chars, String.ofList_toList]
        have relative := Path.isAbsolute_joined good
        have slash : String.utf8EncodeChar '/' = [Path.slash] := by decide
        rw [← h, whole, utf8_ofList, List.flatMap_cons, slash] at relative
        cases relative
      rw [List.dropWhile_cons, ne]
      rfl
  simp only [joinArchivePath, first, String.ofList_toList]
  rw [if_neg (by simpa using nonempty), if_neg (by simpa using some_), utf8_append, utf8_append, h,
    Path.joined_cons further]
  simp
  rfl

theorem joinArchivePath_eq {base relative : String} (nonempty : base ≠ "")
    (further : names ≠ []) (plain : ∀ n ∈ names, Plain n) (h : utf8 relative = joined names) :
    joinArchivePath base relative = base ++ "/" ++ relative := by
  apply utf8_inj
  rw [utf8_joinArchivePath nonempty further plain h, Path.joined_cons further, utf8_append,
    utf8_append, h, List.append_assoc]
  rfl

end Northbound
