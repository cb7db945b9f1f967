import Northbound.Proofs.Package.Contents

/-!
# Packing and extracting again

Main statement: extracting a package into an empty directory makes the files that the package is to
hold, and no others, exactly where `Package.Extractable` says so.
-/

namespace Northbound

open FileSystem
open Northbound.Path (joined)

namespace Package

/-- Whether extracting a package into an empty directory makes a tree there that holds, below a
directory of the package's name, the files it is to hold, and nothing else but directories. -/
def RoundTrips (p : Package) (tree : Node) (fs : FileSystem) (dest : Path) (there : List Bytes) :
    Prop :=
  ∃ t : Node, Tarball.extract p.data dest fs = (.ok (), fs.put there t) ∧ t.Ordinary ∧
    ∀ x content mode, (∃ a, t.get? x = some (.file content a) ∧ a.mode = mode) ↔
      ∃ rel, x = utf8 p.name :: rel ∧ p.Includes tree rel content mode

/-- What the round trip of a package asks of the tree it was packed from: the path of every entry is
read back as it was written, no path in the destination is too long, and the tree has nothing else
where the manifest goes. -/
structure Extractable (p : Package) (tree : Node) (dest : Path) : Prop where
  survives : ∀ rel content mode, p.Includes tree rel content mode →
    PathSurvives (joined (utf8 p.name :: rel))
  fits : ∀ rel content mode, p.Includes tree rel content mode →
    (Path.join dest (joined (utf8 p.name :: rel))).length ≤ maxPath
  manifest : ∀ rel content a, tree.get? (utf8 Manifest.fileName :: rel) = some (.file content a) →
    rel = [] ∧ content = p.manifestContent ∧ Tarball.permissionBits a.mode = 0o644

variable {fs fs' : FileSystem} {path dest : Path} {p : Package} {place there rel : List Bytes}
  {tree t : Node} {r : Bool} {f : ArchivedFile} {links : Nat}

/-- Nothing is below a file. -/
theorem eq_nil_of_get?_file {content : Bytes} {a : FileAttributes} {n : Node} {more : List Bytes}
    (file : t.get? rel = some (.file content a)) (below : t.get? (rel ++ more) = some n) :
    more = [] := by
  rw [Node.get?_append, file, Option.bind_some] at below
  cases more with
  | nil => rfl
  | cons name more =>
    rw [Node.get?_cons] at below
    cases below

/-- Files that a package is to hold do not contradict each other. -/
theorem Extractable.agree (h : p.Extractable tree dest) {rel₁ rel₂ : List Bytes}
    {content₁ content₂ : Bytes} {mode₁ mode₂ : Nat}
    (first : p.Includes tree rel₁ content₁ mode₁) (second : p.Includes tree rel₂ content₂ mode₂)
    (further : rel₁ ≠ []) (above : rel₁ <+: rel₂) :
    rel₁ = rel₂ ∧ content₁ = content₂ ∧ mode₁ = mode₂ := by
  obtain ⟨more, rfl⟩ := above
  rcases first with ⟨a, get₁, rfl⟩ | ⟨rfl, rfl, rfl⟩
  · rcases second with ⟨b, get₂, rfl⟩ | ⟨same, rfl, rfl⟩
    · have last := eq_nil_of_get?_file get₁ get₂
      subst last
      rw [List.append_nil, get₁] at get₂
      cases get₂
      exact ⟨(List.append_nil _).symm, rfl, rfl⟩
    · obtain ⟨name, names, rfl⟩ := List.exists_cons_of_ne_nil further
      obtain ⟨rfl, rest⟩ := List.cons.inj same
      obtain ⟨rfl, rfl⟩ := List.append_eq_nil_iff.1 rest
      obtain ⟨-, content, mode⟩ := h.manifest [] content₁ a get₁
      exact ⟨(List.append_nil _).symm, content, mode⟩
  · rcases second with ⟨b, get₂, rfl⟩ | ⟨same, rfl, rfl⟩
    · obtain ⟨rfl, content, mode⟩ := h.manifest more content₂ b get₂
      exact ⟨rfl, content.symm, mode.symm⟩
    · exact ⟨same.symm, rfl, rfl⟩

/-- A tree without line feeds in its names and without a manifest of its own is extractable, as long
as the paths in the destination are. -/
theorem extractable_of_no_line_feed
    (plain : ∀ rel content mode, p.Includes tree rel content mode →
      ∀ n ∈ utf8 p.name :: rel, 10 ∉ n)
    (fits : ∀ rel content mode, p.Includes tree rel content mode →
      (Path.join dest (joined (utf8 p.name :: rel))).length ≤ maxPath)
    (free : tree.look [utf8 Manifest.fileName] = none) : p.Extractable tree dest := by
  constructor
  · intro rel content mode included
    apply Or.inl
    intro found
    rcases Path.mem_joined found with same | ⟨n, hn, inside⟩
    · exact absurd same (by decide)
    · exact plain rel content mode included n hn inside
  · exact fits
  · intro rel content a get
    have missing := Node.look_append_of_eq_none free rel
    rw [List.singleton_append, Node.look, get] at missing
    cases missing

/-- An entry whose path survives goes where it belongs. -/
theorem EntryOf.place_eq (entry : p.EntryOf tree rel f)
    (bounded : (pathRecord f.path).length ≤ Text.maxWord)
    (survives : PathSurvives (joined (utf8 p.name :: rel))) : f.place = utf8 p.name :: rel := by
  rw [← entry.path] at survives
  calc
    f.place = Path.undotted (Path.segments (utf8 f.path)) := by
      rw [ArchivedFile.place, pathReadBack_of_survives bounded survives]
    _ = Path.undotted (Path.segments (joined (utf8 p.name :: rel))) := by rw [entry.path]
    _ = utf8 p.name :: rel := Tarball.undotted_segments_joined entry.plain

/-- An entry whose path does not survive goes to a shorter path. -/
theorem length_joined_place_lt (bounded : (pathRecord f.path).length ≤ Text.maxWord)
    (hidden : ¬PathSurvives (utf8 f.path)) : (joined f.place).length < (utf8 f.path).length := by
  calc
    (joined f.place).length ≤ (pathReadBack f.path).length := Tarball.length_joined_undotted_le _
    _ < (utf8 f.path).length := length_pathReadBack_lt bounded hidden

theorem length_streamOf_files_le (packed : pack fs path = .ok p)
    (bounded : p.data.length < Nat.pow 2 64) :
    (Tarball.streamOf (p.files fs)).length ≤ Text.maxWord := by
  obtain ⟨-, -, -, data⟩ := pack_eq_ok packed
  have := Gzip.length_gzip (Tarball.streamOf (p.files fs))
  rw [← data] at this
  simp only [Text.maxWord]
  omega

section Trip

variable (packed : pack fs path = .ok p) (resolved : fs.resolve p.source = .ok (place, tree))
  (legal : tree.Legal) (bounded : p.data.length < Nat.pow 2 64)

include packed resolved legal bounded

theorem length_pathRecord_le (h : f ∈ p.files fs) : (pathRecord f.path).length ≤ Text.maxWord := by
  obtain ⟨rel, entry⟩ := entryOf_of_mem packed resolved legal h
  calc
    (pathRecord f.path).length ≤ f.bytes.length :=
      ArchivedFile.length_pathRecord_le entry.sound.toFitting
    _ ≤ (Tarball.streamOf (p.files fs)).length := Tarball.length_bytes_le_length_streamOf h
    _ ≤ Text.maxWord := length_streamOf_files_le packed bounded

theorem extract_data (dest : Path) :
    Tarball.extract p.data dest = Tarball.unpackAll dest (p.files fs) := by
  obtain ⟨-, -, -, data⟩ := pack_eq_ok packed
  have sound : ∀ f ∈ p.files fs, f.Sound := by
    intro f hf
    obtain ⟨rel, entry⟩ := entryOf_of_mem packed resolved legal hf
    exact entry.sound
  rw [data]
  exact Tarball.extract_gzip_streamOf dest sound (length_streamOf_files_le packed bounded)

section Extracting

variable (h : p.Extractable tree dest)

include h

theorem exists_entryOf_place (hf : f ∈ p.files fs) :
    ∃ rel, p.EntryOf tree rel f ∧ f.place = utf8 p.name :: rel := by
  obtain ⟨rel, entry⟩ := entryOf_of_mem packed resolved legal hf
  have record := length_pathRecord_le packed resolved legal bounded hf
  exact ⟨rel, entry, entry.place_eq record (h.survives _ _ _ entry.included)⟩

theorem agree_files : Tarball.Agree (p.files fs) := by
  have together {f g : ArchivedFile} (hf : f ∈ p.files fs) (hg : g ∈ p.files fs)
      (above : f.place <+: g.place) :
      f.place = g.place ∧ f.content = g.content ∧ f.permissions = g.permissions := by
    obtain ⟨rel₁, first, place₁⟩ := exists_entryOf_place packed resolved legal bounded h hf
    obtain ⟨rel₂, second, place₂⟩ := exists_entryOf_place packed resolved legal bounded h hg
    rw [place₁, place₂, List.cons_prefix_cons] at above
    obtain ⟨rfl, content, mode⟩ := h.agree first.included second.included first.further above.2
    exact ⟨place₁.trans place₂.symm, content, mode⟩
  constructor
  · intro f hf g hg above
    exact (together hf hg above).1
  · intro f hf g hg same
    have above : f.place <+: g.place := ⟨[], by rw [List.append_nil, same]⟩
    exact (together hf hg above).2

theorem acceptable_files (nul : 0 ∉ dest) (hf : f ∈ p.files fs) :
    Acceptable (f.target dest) f.place ∧ f.place ≠ [] := by
  obtain ⟨rel, entry, shape⟩ := exists_entryOf_place packed resolved legal bounded h hf
  rw [ArchivedFile.target, shape]
  have relative : Path.isAbsolute (joined (utf8 p.name :: rel)) = false :=
    Path.isAbsolute_joined (Path.unslashed_of_plain entry.plain)
  have nul : 0 ∉ Path.join dest (joined (utf8 p.name :: rel)) := by
    intro found
    rcases Path.mem_join relative found with found | found | found
    · exact nul found
    · exact absurd found (by decide)
    · exact nul_not_mem_joined entry.legal found
  have short : ∀ n ∈ utf8 p.name :: rel, n.length ≤ maxName := by
    intro n hn
    exact (entry.legal n hn).short
  exact ⟨⟨nul, h.fits _ _ _ entry.included, entry.plain, short⟩, by simp⟩

/-- A package whose round trip nothing stands in the way of makes it. -/
theorem roundTrips_of_extractable (empty : fs'.resolve dest = .ok (there, .directory r [])) :
    p.RoundTrips tree fs' dest there := by
  obtain ⟨links, at_⟩ := emptyAt_of_resolve empty
  have agree : Tarball.Agree ([] ++ p.files fs) := by
    rw [List.nil_append]
    exact agree_files packed resolved legal bounded h
  have acceptable : ∀ f ∈ p.files fs, Acceptable (f.target dest) f.place ∧ f.place ≠ [] := by
    intro f hf
    exact acceptable_files packed resolved legal bounded h at_.nul hf
  obtain ⟨t, made, holds⟩ :=
    Tarball.unpackAll_succeeds at_ (Tarball.holds_nil r) agree acceptable
  rw [put_of_resolve empty] at made
  rw [List.nil_append] at holds
  refine ⟨t, ?_, holds.ordinary, ?_⟩
  · rw [extract_data packed resolved legal bounded]
    exact made
  · intro x content mode
    constructor
    · rintro ⟨a, found, rfl⟩
      obtain ⟨f, hf, stands, same, permissions⟩ :=
        holds.only x content a (by rw [Node.look, found]; rfl)
      obtain ⟨rel, entry, shape⟩ := exists_entryOf_place packed resolved legal bounded h hf
      refine ⟨rel, stands.trans shape, ?_⟩
      rw [same, permissions]
      exact entry.included
    · rintro ⟨rel, rfl, included⟩
      obtain ⟨f, hf, entry, rfl, rfl⟩ := exists_entryOf packed resolved legal included
      have shape := entry.place_eq (length_pathRecord_le packed resolved legal bounded hf)
        (h.survives _ _ _ included)
      obtain ⟨a, found, permissions⟩ := holds.made f hf
      rw [shape] at found
      exact ⟨a, get?_of_look_file found, permissions⟩

end Extracting

/-- Where every file that a package is to hold comes from an entry of its archive, all paths
survive: behind the longest path that does not, there would have to be a longer one. -/
theorem survives_of_origin (origin : ∀ rel content mode, p.Includes tree rel content mode →
      ∃ g ∈ p.files fs, utf8 p.name :: rel = g.place) :
    ∀ f ∈ p.files fs, PathSurvives (utf8 f.path) := by
  intro f hf
  -- The induction is on how far the path is from the longest possible one.
  obtain ⟨gap, hgap⟩ : ∃ gap, Text.maxWord - (utf8 f.path).length = gap := ⟨_, rfl⟩
  induction gap using Nat.strongRecOn generalizing f with
  | ind gap ih =>
    apply Classical.byContradiction
    intro hidden
    obtain ⟨rel, entry⟩ := entryOf_of_mem packed resolved legal hf
    obtain ⟨g, hg, shape⟩ := origin rel _ _ entry.included
    have record := length_pathRecord_le packed resolved legal bounded hg
    have word : (utf8 g.path).length < Text.maxWord :=
      Nat.lt_of_lt_of_le length_lt_length_pathRecord record
    obtain ⟨rel', entry'⟩ := entryOf_of_mem packed resolved legal hg
    by_cases survives : PathSurvives (utf8 g.path)
    · have place' := entry'.place_eq record (entry'.path ▸ survives)
      have same : utf8 f.path = utf8 g.path := by rw [entry.path, entry'.path, shape, place']
      exact hidden (same ▸ survives)
    · have longer := length_joined_place_lt record survives
      rw [← shape, ← entry.path] at longer
      exact survives (ih _ (by omega) g hg rfl)

/-- Nothing stands in the way of a package that makes its round trip. -/
theorem extractable_of_roundTrips (empty : fs'.resolve dest = .ok (there, .directory r []))
    (h : p.RoundTrips tree fs' dest there) : p.Extractable tree dest := by
  obtain ⟨links, at_⟩ := emptyAt_of_resolve empty
  obtain ⟨t, made, -, holds⟩ := h
  have run : Tarball.unpackAll dest (p.files fs) (fs'.put there (.directory r [])) =
      (.ok (), fs'.put there t) := by
    rw [put_of_resolve empty, ← extract_data packed resolved legal bounded]
    exact made
  obtain ⟨short, t', same, -, -, origin⟩ :=
    Tarball.unpackAll_eq_ok at_ rfl (Tarball.holds_nil r).ordinary run
  have seen (x : List Bytes) : t.get? x = t'.get? x := by
    rw [← get?_put_there at_ t, same, get?_put_there at_ t']
  have from_entry : ∀ rel content mode, p.Includes tree rel content mode →
      ∃ g ∈ p.files fs, utf8 p.name :: rel = g.place := by
    intro rel content mode included
    obtain ⟨a, found, -⟩ := (holds _ content mode).2 ⟨rel, rfl, included⟩
    rw [seen] at found
    rcases origin _ content a (by rw [Node.look, found]; rfl) with nothing | from_file
    · obtain ⟨g, hg, -⟩ := (Tarball.holds_nil r).only _ _ _ nothing
      cases hg
    · exact from_file
  have survives := survives_of_origin packed resolved legal bounded from_entry
  constructor
  · intro rel content mode included
    obtain ⟨f, hf, entry, -⟩ := exists_entryOf packed resolved legal included
    exact entry.path ▸ survives f hf
  · intro rel content mode included
    obtain ⟨f, hf, entry, -⟩ := exists_entryOf packed resolved legal included
    have shape := entry.place_eq (length_pathRecord_le packed resolved legal bounded hf)
      (entry.path ▸ survives f hf)
    have fits := short f hf
    rwa [ArchivedFile.target, shape] at fits
  · intro rel content a found
    obtain ⟨b, file, mode⟩ := (holds _ _ _).2 ⟨_, rfl, Or.inl ⟨a, found, rfl⟩⟩
    obtain ⟨c, manifest, mode'⟩ := (holds _ _ _).2 ⟨_, rfl, Or.inr ⟨rfl, rfl, rfl⟩⟩
    have last : rel = [] := eq_nil_of_get?_file manifest file
    subst last
    rw [manifest] at file
    cases file
    exact ⟨rfl, rfl, mode.symm.trans mode'⟩

end Trip

section Sample

/-- A tree of one empty file. -/
def sampleTree (name : String) : Node := .directory true [(utf8 name, .file [] {})]

/-- A file system with a package of one file and an empty directory. -/
def sample (name : String) : FileSystem :=
  { root := .directory true [(utf8 "a_ns", sampleTree name), (utf8 "d", .emptyDirectory)] }

/-- The archive of the sample. -/
def sampleFiles (name : String) : List ArchivedFile :=
  [{ path := joinArchivePath "a_ns" name, header := TarballWriter.fileHeader {}, content := [],
     mode := TarballWriter.regularFileBits + 0o644 },
   { path := joinArchivePath "a_ns" Manifest.fileName, header := TarballWriter.entryHeader,
     content := utf8 ((({} : Manifest).record name (Checksum.Md5.hex [])).render "a_ns"),
     mode := 0o644 }]

variable {name : String}

theorem legal_sampleTree (legal : LegalName (utf8 name)) : (sampleTree name).Legal := by
  apply Node.legal_directory (by simp) (by simpa using legal)
  intro c hc
  rw [List.mem_singleton.1 hc]
  exact Node.legal_file (by decide)

theorem eq_of_get?_sampleTree {content : Bytes} {a : FileAttributes}
    (h : (sampleTree name).get? rel = some (.file content a)) : rel = [utf8 name] := by
  cases rel with
  | nil =>
    rw [Node.get?_nil] at h
    cases h
  | cons n rel =>
    rw [Node.get?_cons] at h
    obtain ⟨child, found, below⟩ := Option.bind_eq_some_iff.1 h
    cases List.mem_singleton.1 (mem_of_lookup found)
    rw [eq_nil_of_get?_file (Node.get?_nil _) below]

theorem resolve_sample (name : String) :
    (sample name).resolve (utf8 "/a_ns") = .ok ([utf8 "a_ns"], sampleTree name) := by
  refine resolve_child ⟨⟨?_, ?_, ?_, ?_⟩, ?_, ?_⟩ (by rw [Node.get?_singleton]; rfl)
  all_goals decide

theorem resolve_sample_empty (name : String) :
    (sample name).resolve (utf8 "/d") = .ok ([utf8 "d"], .emptyDirectory) := by
  refine resolve_child ⟨⟨?_, ?_, ?_, ?_⟩, ?_, ?_⟩ (by rw [Node.get?_singleton]; rfl)
  all_goals decide

/-- The sample can be packed. -/
theorem exists_pack_sample (legal : LegalName (utf8 name)) :
    ∃ p, pack (sample name) (utf8 "/a_ns") = .ok p ∧ p.source = utf8 "/a_ns" ∧ p.name = "a_ns" ∧
      p.data = Gzip.gzip (Tarball.streamOf (sampleFiles name)) := by
  have absolute : absoluteSource (sample name) (utf8 "/a_ns") = .ok (utf8 "/a_ns") := rfl
  have directory : (sample name).isDirectory (utf8 "/a_ns") = true := by
    simp [isDirectory, resolve_sample, sampleTree, Node.isDirectory]
  have named : nameOf? (utf8 "/a_ns") = some "a_ns" := nameOf?_of_fileName? (by decide)
  have relative : relativeArchivePath (utf8 "/a_ns") (Path.join (utf8 "/a_ns") (utf8 name)) =
      .ok name := relativeArchivePath_join (by decide) legal.toPlain
  have steps : WalkStep.ofSource (sample name) (utf8 "/a_ns") = [.file name [] {}] := by
    rw [WalkStep.ofSource, resolve_sample]
    simp [sampleTree, WalkStep.ofChildren, WalkStep.ofNode, WalkStep.inOrder, relative]
  have clean : WalkStep.Clean (WalkStep.ofSource (sample name) (utf8 "/a_ns")) := by
    rw [steps]
    intro e mem
    cases List.mem_singleton.1 mem
  refine ⟨_, pack_eq_ok_iff.2 ⟨_, _, absolute, directory, named, clean, rfl⟩, rfl, rfl, ?_⟩
  simp only [ofWalk]
  rw [steps]
  rfl

end Sample

section Trip

variable (packed : pack fs path = .ok p) (resolved : fs.resolve p.source = .ok (place, tree))
  (legal : tree.Legal) (bounded : p.data.length < Nat.pow 2 64)

include packed resolved legal bounded

/-- A package makes the round trip exactly where nothing in its tree stands in the way. -/
theorem extract_pack_iff (empty : fs'.resolve dest = .ok (there, .directory r [])) :
    p.RoundTrips tree fs' dest there ↔ p.Extractable tree dest := by
  constructor
  · intro trip
    exact extractable_of_roundTrips packed resolved legal bounded empty trip
  · intro h
    exact roundTrips_of_extractable packed resolved legal bounded h empty

end Trip

/-- A file with a plain name makes the round trip. -/
theorem roundTrips_plain_name : ∃ p, pack (sample "b") (utf8 "/a_ns") = .ok p ∧
    (sample "b").resolve p.source = .ok ([utf8 "a_ns"], sampleTree "b") ∧
    (sampleTree "b").Legal ∧ p.data.length < Nat.pow 2 64 ∧
    (sample "b").resolve (utf8 "/d") = .ok ([utf8 "d"], .emptyDirectory) ∧
    p.RoundTrips (sampleTree "b") (sample "b") (utf8 "/d") [utf8 "d"] := by
  have name : LegalName (utf8 "b") := by
    refine ⟨⟨?_, ?_, ?_, ?_⟩, ?_, ?_⟩
    all_goals decide
  obtain ⟨p, packed, source, called, data⟩ := exists_pack_sample name
  have resolved : (sample "b").resolve p.source = .ok ([utf8 "a_ns"], sampleTree "b") :=
    source ▸ resolve_sample "b"
  have bounded : p.data.length < Nat.pow 2 64 := by
    rw [data]
    decide +kernel
  have legal := legal_sampleTree name
  have empty := resolve_sample_empty "b"
  refine ⟨p, packed, resolved, legal, bounded, empty,
    (extract_pack_iff packed resolved legal bounded empty).2 ?_⟩
  have only {rel : List Bytes} {content : Bytes} {mode : Nat}
      (h : p.Includes (sampleTree "b") rel content mode) :
      rel = [utf8 "b"] ∨ rel = [utf8 Manifest.fileName] := by
    rcases h with ⟨a, get, -⟩ | ⟨same, -⟩
    · exact Or.inl (eq_of_get?_sampleTree get)
    · exact Or.inr same
  apply extractable_of_no_line_feed
  · intro rel content mode included
    rw [called]
    rcases only included with rfl | rfl
    · decide
    · decide
  · intro rel content mode included
    rw [called]
    rcases only included with rfl | rfl
    · decide
    · decide
  · rw [Node.look, Node.get?_singleton]
    decide

/-- A line of a name that reads as a record of a path makes the file go elsewhere. -/
theorem not_roundTrips_hidden_record : ∃ p, pack (sample "a\n9 path=x") (utf8 "/a_ns") = .ok p ∧
    (sample "a\n9 path=x").resolve p.source = .ok ([utf8 "a_ns"], sampleTree "a\n9 path=x") ∧
    (sampleTree "a\n9 path=x").Legal ∧ p.data.length < Nat.pow 2 64 ∧
    (sample "a\n9 path=x").resolve (utf8 "/d") = .ok ([utf8 "d"], .emptyDirectory) ∧
    ¬p.RoundTrips (sampleTree "a\n9 path=x") (sample "a\n9 path=x") (utf8 "/d") [utf8 "d"] := by
  have name : LegalName (utf8 "a\n9 path=x") := by
    refine ⟨⟨?_, ?_, ?_, ?_⟩, ?_, ?_⟩
    all_goals decide
  obtain ⟨p, packed, source, called, data⟩ := exists_pack_sample name
  have resolved : (sample "a\n9 path=x").resolve p.source =
      .ok ([utf8 "a_ns"], sampleTree "a\n9 path=x") :=
    source ▸ resolve_sample _
  have bounded : p.data.length < Nat.pow 2 64 := by
    rw [data]
    decide +kernel
  have legal := legal_sampleTree name
  have empty := resolve_sample_empty "a\n9 path=x"
  refine ⟨p, packed, resolved, legal, bounded, empty, ?_⟩
  intro trip
  have extractable := extractable_of_roundTrips packed resolved legal bounded empty trip
  have included : p.Includes (sampleTree "a\n9 path=x") [utf8 "a\n9 path=x"] [] 0o644 :=
    Or.inl ⟨{}, by rw [Node.get?_singleton]; rfl, rfl⟩
  have survives := extractable.survives _ _ _ included
  rw [called] at survives
  have later : laterRecords (joined [utf8 "a_ns", utf8 "a\n9 path=x"]) = [⟨pathKey, [120]⟩] := by
    decide
  rcases survives with plain | ⟨-, none_⟩
  · exact plain (by decide)
  · exact none_ ⟨pathKey, [120]⟩ (by rw [later]; simp) rfl

end Package

end Northbound
