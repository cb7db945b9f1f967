import Northbound.Proofs.Archive.CleanWalk
import Northbound.Proofs.Archive.StreamLayout
import Northbound.Proofs.Archive.WalkOrder
import Northbound.Proofs.Dictionary
import Northbound.Proofs.Package.Contents

/-!
# What packing makes

A directory is packed exactly if it has a name that is a text and a tree that can be packed. Its
package then holds an entry for each file of the tree, by increasing names, and a manifest of their
digests, by increasing paths.
-/

namespace Northbound

open Northbound.Path (joined)
open FileSystem
open WalkStep (Clean filesOf file?)

namespace TreeFile

/-- The path of a file in its tree. -/
def path (f : TreeFile) : String := Text.lossy (joined f.names)

/-- A file as it is archived below a base directory. -/
def archived (base : String) (f : TreeFile) : ArchivedFile where
  path := base ++ "/" ++ f.path
  header := TarballWriter.fileHeader f.attributes
  content := f.content
  mode := TarballWriter.regularFileBits + f.attributes.mode

/-- The entry of a file below a base directory: its path there, and its content. -/
def entry (base : String) (f : TreeFile) : String × Bytes := (base ++ "/" ++ f.path, f.content)

/-- The path of a file with the digest of its content. -/
def digest (f : TreeFile) : String × String := (f.path, Checksum.Md5.hex f.content)

end TreeFile

/-- A manifest of files is a dictionary of their digests. -/
theorem Manifest.hashes_ofList (files : List (String × String)) :
    (Manifest.ofList files).hashes = Dictionary.ofList files := by
  have hfold (m : Manifest) : (files.foldl (fun m f => m.record f.1 f.2) m).hashes =
      files.foldl (fun d f => d.insert f.1 f.2) m.hashes := by
    induction files generalizing m with
    | nil => rfl
    | cons f files ih => exact ih (m.record f.1 f.2)
  exact hfold {}

namespace Package

/-- The files that the archive of a package is made of: those of a tree, and the manifest last. -/
def archived (p : Package) (files : List TreeFile) : List ArchivedFile :=
  files.map (TreeFile.archived p.name) ++
    [{ path := p.name ++ "/" ++ Manifest.fileName, header := TarballWriter.entryHeader
       content := p.manifestContent, mode := 0o644 }]

/-- The entries of a package of files, and the manifest last. -/
def entries (p : Package) (files : List TreeFile) : List (String × Bytes) :=
  files.map (TreeFile.entry p.name) ++ [(p.name ++ "/" ++ Manifest.fileName, p.manifestContent)]

variable {fs : FileSystem} {path source : Path} {name : String} {p : Package} {place : List Bytes}
  {tree : Node} {files : List TreeFile}

theorem map_entry_archived (p : Package) (files : List TreeFile) :
    (p.archived files).map ArchivedFile.entry = p.entries files := by
  simp [archived, entries, TreeFile.archived, TreeFile.entry, ArchivedFile.entry]

/-- Files of a tree are archived as entries. -/
theorem layout_archived (legal : tree.Legal)
    (inside : ∀ f ∈ files, tree.get? f.names = some (.file f.content f.attributes))
    (holdable : ∀ e ∈ p.entries files, Tarball.Holdable e) :
    Tar.Layout (p.entries files) (Tarball.streamOf (p.archived files)) := by
  rw [← map_entry_archived] at holdable ⊢
  apply Tarball.layout_streamOf _ holdable
  intro file hfile
  rcases List.mem_append.1 hfile with hfile | hfile
  · obtain ⟨f, hf, rfl⟩ := List.mem_map.1 hfile
    exact ArchivedFile.fitting_fileHeader (legal.modes _ _ _ (inside f hf))
  · rw [List.mem_singleton.1 hfile]
    exact ArchivedFile.fitting_entryHeader

section Walk

variable (resolved : fs.resolve source = .ok (place, tree)) (directory : tree.isDirectory = true)
  (legal : tree.Legal) (clean : Clean (WalkStep.ofSource fs source))

include resolved directory legal clean

/-- A file that is visited has a path of its own names, of which there is at least one. -/
theorem eq_path_of_mem {s : String} {content : Bytes} {a : FileAttributes}
    (h : .file s content a ∈ WalkStep.ofSource fs source) :
    ∃ f : TreeFile, file? (.file s content a) = some f ∧
      tree.get? f.names = some (.file f.content f.attributes) ∧ f.path = s ∧
        utf8 f.path = joined f.names ∧ f.names ≠ [] ∧ ∀ n ∈ f.names, Path.Plain n := by
  obtain ⟨rel, get, text⟩ :=
    (WalkStep.file_mem_ofSource resolved directory legal clean).1 s content a h
  have plain : ∀ n ∈ rel, Path.Plain n := fun n hn => (legal.legalName get n hn).toPlain
  have further : rel ≠ [] := by
    rintro rfl
    rw [Node.get?_nil, Option.some.injEq] at get
    rw [get] at directory
    cases directory
  have names : Path.segments (utf8 s) = rel := by
    rw [text, Path.segments_joined (Path.unslashed_of_plain plain)]
  have path : TreeFile.path ⟨rel, content, a⟩ = s := by
    rw [TreeFile.path, ← text, lossy_utf8]
  refine ⟨⟨rel, content, a⟩, by rw [file?, names], get, path, ?_, further, plain⟩
  rw [path, text]

/-- A file of a walk is in the tree, and its path is that of its names. -/
theorem visited_of_mem {f : TreeFile} (h : f ∈ filesOf (WalkStep.ofSource fs source)) :
    tree.get? f.names = some (.file f.content f.attributes) ∧ utf8 f.path = joined f.names ∧
      f.names ≠ [] ∧ ∀ n ∈ f.names, Path.Plain n := by
  obtain ⟨step, mem, found⟩ := List.mem_filterMap.1 h
  cases step with
  | file s content a =>
      obtain ⟨f', same, get, -, described⟩ := eq_path_of_mem resolved directory legal clean mem
      rw [found, Option.some.injEq] at same
      exact same ▸ ⟨get, described⟩
  | directory s => cases found
  | failure e => cases found

/-- The files of a walk are those of the tree. -/
theorem mem_filesOf_iff (f : TreeFile) : f ∈ filesOf (WalkStep.ofSource fs source) ↔
    tree.get? f.names = some (.file f.content f.attributes) := by
  constructor
  · intro h
    exact (visited_of_mem resolved directory legal clean h).1
  · intro get
    obtain ⟨s, mem, text⟩ :=
      (WalkStep.file_mem_ofSource resolved directory legal clean).2 _ _ _ get
    have plain : ∀ n ∈ f.names, Path.Plain n := fun n hn => (legal.legalName get n hn).toPlain
    refine List.mem_filterMap.2 ⟨_, mem, ?_⟩
    rw [file?, text, Path.segments_joined (Path.unslashed_of_plain plain)]

/-- The files of a walk are archived each below the base directory. -/
theorem filterMap_ofStep? {base : String} (nonempty : base ≠ "") :
    (WalkStep.ofSource fs source).filterMap (ArchivedFile.ofStep? base) =
      (filesOf (WalkStep.ofSource fs source)).map (TreeFile.archived base) := by
  rw [filesOf, List.map_filterMap]
  apply List.filterMap_congr
  intro step mem
  cases step with
  | file s content a =>
      obtain ⟨f, found, -, path, text, further, plain⟩ :=
        eq_path_of_mem resolved directory legal clean mem
      cases found
      rw [path] at text
      rw [ArchivedFile.ofStep?, file?, Option.map_some, TreeFile.archived, path,
        joinArchivePath_eq nonempty further plain text]
  | directory s => rfl
  | failure e => rfl

/-- The digests of the files of a walk are recorded by their paths. -/
theorem filterMap_recorded? :
    (WalkStep.ofSource fs source).filterMap TarballWriter.recorded? =
      (filesOf (WalkStep.ofSource fs source)).map TreeFile.digest := by
  rw [filesOf, List.map_filterMap]
  apply List.filterMap_congr
  intro step mem
  cases step with
  | file s content a =>
      obtain ⟨f, found, -, path, -⟩ := eq_path_of_mem resolved directory legal clean mem
      cases found
      rw [TarballWriter.recorded?, file?, Option.map_some, TreeFile.digest, path]
  | directory s => rfl
  | failure e => rfl

/-- The files of a walk have different paths. -/
theorem nodup_paths :
    (((filesOf (WalkStep.ofSource fs source)).map TreeFile.digest).map Prod.fst).Nodup := by
  rw [List.map_map]
  apply List.pairwise_map.2
  apply (WalkStep.pairwise_ofSource resolved directory legal).imp_of_mem
  intro f g hf hg less same
  obtain ⟨-, textf, -, plainf⟩ := visited_of_mem resolved directory legal clean hf
  obtain ⟨-, textg, -, plaing⟩ := visited_of_mem resolved directory legal clean hg
  have samePath : f.path = g.path := same
  rw [samePath, textg] at textf
  have sameNames := congrArg Path.segments textf
  rw [Path.segments_joined (Path.unslashed_of_plain plainf),
    Path.segments_joined (Path.unslashed_of_plain plaing)] at sameNames
  rw [sameNames] at less
  exact List.lt_irrefl _ less

theorem hashes_ofWalk (name : String) :
    (ofWalk source name (WalkStep.ofSource fs source)).manifest.hashes =
      Dictionary.ofList ((filesOf (WalkStep.ofSource fs source)).map TreeFile.digest) := by
  rw [← filterMap_recorded? resolved directory legal clean]
  exact Manifest.hashes_ofList _

/-- The manifest has the digest of each file of a walk. -/
theorem fileHash?_ofWalk (name path hash : String) :
    (ofWalk source name (WalkStep.ofSource fs source)).manifest.fileHash? path = some hash ↔
      ∃ f ∈ filesOf (WalkStep.ofSource fs source), f.path = path ∧
        Checksum.Md5.hex f.content = hash := by
  rw [Manifest.fileHash?, hashes_ofWalk resolved directory legal clean,
    Dictionary.find?_ofList_eq_some_iff (nodup_paths resolved directory legal clean), List.mem_map]
  simp only [TreeFile.digest, Prod.mk.injEq]

/-- Its lines are those of the files of a walk. -/
theorem mem_hashes_ofWalk (name path hash : String) :
    (path, hash) ∈ (ofWalk source name (WalkStep.ofSource fs source)).manifest.hashes ↔
      ∃ f ∈ filesOf (WalkStep.ofSource fs source), f.path = path ∧
        Checksum.Md5.hex f.content = hash := by
  rw [← fileHash?_ofWalk resolved directory legal clean name, Manifest.fileHash?,
    hashes_ofWalk resolved directory legal clean]
  exact (Dictionary.sorted_ofList _).find?_eq_some_iff.symm

/-- A line has the path of a file below the name of the package. -/
theorem render_ofWalk (nonempty : name ≠ "") :
    (ofWalk source name (WalkStep.ofSource fs source)).manifest.render name =
      String.join ((ofWalk source name (WalkStep.ofSource fs source)).manifest.hashes.map fun f =>
        f.2 ++ "\t" ++ name ++ "/" ++ f.1 ++ "\n") := by
  rw [Manifest.render]
  refine congrArg String.join (List.map_congr_left ?_)
  rintro ⟨path, hash⟩ line
  obtain ⟨f, hf, rfl, -⟩ := (mem_hashes_ofWalk resolved directory legal clean _ _ _).1 line
  obtain ⟨-, text, further, plain⟩ := visited_of_mem resolved directory legal clean hf
  simp only [Manifest.line, joinArchivePath_eq nonempty further plain text, String.append_assoc]

/-- The archive has the files of a walk, and the manifest last. -/
theorem data_ofWalk (nonempty : name ≠ "") :
    let p := ofWalk source name (WalkStep.ofSource fs source)
    p.data = Gzip.gzip (Tarball.streamOf
      (p.archived (filesOf (WalkStep.ofSource fs source)))) := by
  have manifest : joinArchivePath name Manifest.fileName = name ++ "/" ++ Manifest.fileName :=
    @joinArchivePath_eq [utf8 Manifest.fileName] name _ nonempty (by simp)
      (by simpa using legalName_manifest.toPlain) rfl
  simp only [ofWalk, archived, manifestContent]
  rw [filterMap_ofStep? resolved directory legal clean nonempty, manifest]

/-- The archive has an entry for each file of a walk, and for the manifest last. -/
theorem layout_ofWalk (nonempty : name ≠ "") :
    let p := ofWalk source name (WalkStep.ofSource fs source)
    (∀ e ∈ p.entries (filesOf (WalkStep.ofSource fs source)), Tarball.Holdable e) →
      ∃ stream, Gzip.gunzip p.data = { bytes := stream } ∧
        Tar.Layout (p.entries (filesOf (WalkStep.ofSource fs source))) stream := by
  intro p holdable
  refine ⟨_, ?_, layout_archived legal ?_ holdable⟩
  · rw [data_ofWalk resolved directory legal clean nonempty, Gzip.gunzip_gzip]
  · intro f hf
    exact (visited_of_mem resolved directory legal clean hf).1

end Walk

/-- What a package of a tree is. Its files are listed by the names that lead to them: a file before
another one if its name comes first where the ways to them part. -/
structure PackageOf (p : Package) (tree : Node) (files : List TreeFile) : Prop where
  id : p.id = p.name
  /-- Every file of the tree is listed, and nothing else. -/
  files_iff : ∀ f, f ∈ files ↔ tree.get? f.names = some (.file f.content f.attributes)
  files_ordered : files.Pairwise fun f g => f.names < g.names
  paths : ∀ f ∈ files, utf8 f.path = joined f.names
  /-- The archive is made of the files in this order, and the manifest last. -/
  data : p.data = Gzip.gzip (Tarball.streamOf (p.archived files))
  /-- Its stream is one entry a file, with its path and its content, and one of the manifest. -/
  layout : (∀ e ∈ p.entries files, Tarball.Holdable e) →
    ∃ stream, Gzip.gunzip p.data = { bytes := stream } ∧ Tar.Layout (p.entries files) stream
  hash : p.hash = Checksum.Md5.hex p.data
  /-- The manifest has the digest of every file, and nothing else. -/
  recorded_iff : ∀ path hash, p.manifest.fileHash? path = some hash ↔
    ∃ f ∈ files, f.path = path ∧ Checksum.Md5.hex f.content = hash
  /-- It has one line a file, by the byte order of their paths. -/
  lines_iff : ∀ path hash, (path, hash) ∈ p.manifest.hashes ↔
    ∃ f ∈ files, f.path = path ∧ Checksum.Md5.hex f.content = hash
  lines_ordered : p.manifest.hashes.Pairwise fun a b => utf8 a.1 < utf8 b.1
  rendered : p.manifest.render p.name =
    String.join (p.manifest.hashes.map fun f => f.2 ++ "\t" ++ p.name ++ "/" ++ f.1 ++ "\n")

/-- The files of a package are those of its tree, in their order. -/
theorem PackageOf.files_eq {files' : List TreeFile} (of : p.PackageOf tree files)
    (files_iff : ∀ f, f ∈ files' ↔ tree.get? f.names = some (.file f.content f.attributes))
    (ordered : files'.Pairwise fun f g => f.names < g.names) : files = files' := by
  apply eq_of_increasing of.files_ordered ordered
  intro f
  exact (of.files_iff f).trans (files_iff f).symm

/-- The lines of a manifest are those of the files, in their order. -/
theorem PackageOf.hashes_eq {lines : List (String × String)} (of : p.PackageOf tree files)
    (lines_iff : ∀ path hash, (path, hash) ∈ lines ↔
      ∃ f ∈ files, f.path = path ∧ Checksum.Md5.hex f.content = hash)
    (ordered : lines.Pairwise fun a b => utf8 a.1 < utf8 b.1) : p.manifest.hashes = lines := by
  apply eq_of_increasing of.lines_ordered ordered
  rintro ⟨path, hash⟩
  exact (of.lines_iff path hash).trans (lines_iff path hash).symm

/-- What a walk without failures makes is the package of its tree. -/
theorem packageOf_ofWalk (resolved : fs.resolve source = .ok (place, tree))
    (directory : tree.isDirectory = true) (legal : tree.Legal)
    (clean : Clean (WalkStep.ofSource fs source)) (nonempty : name ≠ "") :
    (ofWalk source name (WalkStep.ofSource fs source)).PackageOf tree
      (filesOf (WalkStep.ofSource fs source)) where
  id := rfl
  files_iff := mem_filesOf_iff resolved directory legal clean
  files_ordered := WalkStep.pairwise_ofSource resolved directory legal
  paths := by
    intro f hf
    exact (visited_of_mem resolved directory legal clean hf).2.1
  data := data_ofWalk resolved directory legal clean nonempty
  layout := layout_ofWalk resolved directory legal clean nonempty
  hash := rfl
  recorded_iff := fileHash?_ofWalk resolved directory legal clean name
  lines_iff := mem_hashes_ofWalk resolved directory legal clean name
  lines_ordered := by
    rw [hashes_ofWalk resolved directory legal clean]
    apply (Dictionary.sorted_ofList _).imp
    intro a b less
    exact utf8_lt_iff.2 less
  rendered := render_ofWalk resolved directory legal clean nonempty

/-- A path is packed exactly if it leads to a directory with a name that is a text and a tree that
can be packed. What is made of it is the package of the tree. -/
theorem pack_correct (legal : fs.root.Legal) (path : Path) :
    ((∃ p, pack fs path = .ok p) ↔
      ∃ source place tree name, absoluteSource fs path = .ok source ∧
        fs.resolve source = .ok (place, tree) ∧ tree.isDirectory = true ∧
          nameOf? source = some name ∧ tree.Packable) ∧
    ∀ p, pack fs path = .ok p → ∃ place tree files,
      absoluteSource fs path = .ok p.source ∧ fs.resolve p.source = .ok (place, tree) ∧
        nameOf? p.source = some p.name ∧ p.PackageOf tree files := by
  constructor
  · constructor
    · rintro ⟨p, packed⟩
      obtain ⟨source, name, absolute, directory, named, clean, -⟩ := pack_eq_ok_iff.1 packed
      obtain ⟨place, tree, resolved, inside⟩ := isDirectory_eq_true_iff.1 directory
      have whole := legal.of_resolve resolved
      exact ⟨source, place, tree, name, absolute, resolved, inside, named,
        (WalkStep.clean_ofSource_iff resolved inside whole).1 clean⟩
    · rintro ⟨source, place, tree, name, absolute, resolved, inside, named, packable⟩
      have whole := legal.of_resolve resolved
      have clean := (WalkStep.clean_ofSource_iff resolved inside whole).2 packable
      have directory := isDirectory_eq_true_iff.2 ⟨place, tree, resolved, inside⟩
      exact ⟨_, pack_eq_ok_iff.2 ⟨source, name, absolute, directory, named, clean, rfl⟩⟩
  · intro p packed
    obtain ⟨source, name, absolute, directory, named, clean, rfl⟩ := pack_eq_ok_iff.1 packed
    obtain ⟨place, tree, resolved, inside⟩ := isDirectory_eq_true_iff.1 directory
    have whole := legal.of_resolve resolved
    have nonempty := ne_empty_of_legalName (legalName_of_nameOf? resolved named)
    exact ⟨place, tree, _, absolute, resolved, named,
      packageOf_ofWalk resolved inside whole clean nonempty⟩

/-- A tree with a file beside a directory of a shorter name. -/
def nestedTree : Node :=
  .directory true
    [(utf8 "a.txt", .file [2] {}), (utf8 "a", .directory true [(utf8 "x", .file [1] {})])]

/-- A file system with that tree as a package. -/
def nestedSample : FileSystem := { root := .directory true [(utf8 "p_ns", nestedTree)] }

theorem legal_nestedSample : nestedSample.root.Legal := by
  have hfile (content : Bytes) : (Node.file content {}).Legal := Node.legal_file (by decide)
  have hinner : (Node.directory true [(utf8 "x", .file [1] {})]).Legal := by
    apply Node.legal_directory (by decide) (by decide)
    simpa using hfile [1]
  have htree : nestedTree.Legal := by
    apply Node.legal_directory (by decide) (by decide)
    simpa using ⟨hfile [2], hinner⟩
  apply Node.legal_directory (by decide) (by decide)
  simpa using htree

theorem packable_nestedTree : nestedTree.Packable := by
  have hfile (content : Bytes) : (Node.file content {}).Packable := Node.packable_file rfl
  have hinner : (Node.directory true [(utf8 "x", .file [1] {})]).Packable := by
    apply Node.packable_directory
    · simpa using isText_utf8 "x"
    · simpa using hfile [1]
  apply Node.packable_directory
  · simpa using ⟨isText_utf8 "a.txt", isText_utf8 "a"⟩
  · simpa using ⟨hfile [2], hinner⟩

theorem resolve_nestedSample :
    nestedSample.resolve (utf8 "/p_ns") = .ok ([utf8 "p_ns"], nestedTree) :=
  resolve_child (by decide) (by rw [Node.get?_singleton]; rfl)

/-- Nothing is below a file. -/
theorem get?_file_eq_some_iff {content : Bytes} {a : FileAttributes} {names : List Bytes}
    {n : Node} : (Node.file content a).get? names = some n ↔ names = [] ∧ n = .file content a := by
  cases names with
  | nil => simp [Node.get?_nil, eq_comm]
  | cons name names => simp [Node.get?_cons, Node.children]

/-- The files of that tree. -/
def nestedFiles : List TreeFile :=
  [⟨[utf8 "a", utf8 "x"], [1], {}⟩, ⟨[utf8 "a.txt"], [2], {}⟩]

theorem get?_of_mem_nestedFiles {f : TreeFile} (h : f ∈ nestedFiles) :
    nestedTree.get? f.names = some (.file f.content f.attributes) := by
  have hlower : nestedTree.children.lookup (utf8 "a") =
      some (.directory true [(utf8 "x", .file [1] {})]) := rfl
  simp only [nestedFiles, List.mem_cons, List.not_mem_nil, or_false] at h
  rcases h with rfl | rfl
  · rw [Node.get?_cons, hlower, Option.bind_some, Node.get?_singleton]
    rfl
  · rw [Node.get?_singleton]
    rfl

theorem mem_nestedFiles_iff (f : TreeFile) :
    f ∈ nestedFiles ↔ nestedTree.get? f.names = some (.file f.content f.attributes) := by
  refine ⟨get?_of_mem_nestedFiles, fun h => ?_⟩
  obtain ⟨names, content, a⟩ := f
  cases names with
  | nil => simp [Node.get?_nil, nestedTree] at h
  | cons n names =>
      obtain ⟨_, _, child, hroot, hfound, hbelow⟩ := Node.exists_directory_of_get?_cons h
      cases hroot
      have hchild := mem_of_lookup hfound
      simp only [List.mem_cons, Prod.mk.injEq, List.not_mem_nil, or_false] at hchild
      rcases hchild with ⟨rfl, rfl⟩ | ⟨rfl, rfl⟩
      · obtain ⟨rfl, hsame⟩ := get?_file_eq_some_iff.1 hbelow
        cases hsame
        simp [nestedFiles]
      · cases names with
        | nil => simp [Node.get?_nil] at hbelow
        | cons m names =>
            obtain ⟨_, _, child, hinner, hfound, hbelow⟩ :=
              Node.exists_directory_of_get?_cons hbelow
            cases hinner
            have hchild := mem_of_lookup hfound
            simp only [List.mem_singleton, Prod.mk.injEq] at hchild
            obtain ⟨rfl, rfl⟩ := hchild
            obtain ⟨rfl, hsame⟩ := get?_file_eq_some_iff.1 hbelow
            cases hsame
            simp [nestedFiles]

theorem path_nestedFiles :
    TreeFile.path ⟨[utf8 "a", utf8 "x"], [1], {}⟩ = "a/x" ∧
      TreeFile.path ⟨[utf8 "a.txt"], [2], {}⟩ = "a.txt" :=
  ⟨lossy_utf8 "a/x", lossy_utf8 "a.txt"⟩

theorem files_nestedTree (of : p.PackageOf nestedTree files) : files = nestedFiles :=
  of.files_eq mem_nestedFiles_iff (by simp [nestedFiles]; decide)

/-- The manifest of the nested tree has the file beside the directory first, the archive has it
last. -/
theorem hashes_nestedTree (of : p.PackageOf nestedTree files) : p.manifest.hashes =
    [("a.txt", Checksum.Md5.hex [2]), ("a/x", Checksum.Md5.hex [1])] := by
  obtain ⟨hinner, houter⟩ := path_nestedFiles
  refine of.hashes_eq (fun path hash => ?_) (by simp; decide)
  simp only [files_nestedTree of, nestedFiles, List.mem_cons, List.not_mem_nil, or_false,
    exists_eq_or_imp, exists_eq_left, hinner, houter, Prod.mk.injEq]
  grind

/-- What a package of the nested tree holds. -/
theorem layout_nestedTree (of : p.PackageOf nestedTree files) (called : p.name = "p_ns") :
    ∃ stream, Gzip.gunzip p.data = { bytes := stream } ∧ Tar.Layout [("p_ns/a/x", [1]),
      ("p_ns/a.txt", [2]), ("p_ns/checksums.txt", p.manifestContent)] stream := by
  obtain ⟨hinner, houter⟩ := path_nestedFiles
  have hentries : p.entries files = [("p_ns/a/x", [1]), ("p_ns/a.txt", [2]),
      ("p_ns/checksums.txt", p.manifestContent)] := by
    simp [entries, files_nestedTree of, nestedFiles, TreeFile.entry, hinner, houter, called,
      Manifest.fileName]
  have hmanifest : p.manifestContent.length < Nat.pow 2 63 := by
    rw [manifestContent, of.rendered, hashes_nestedTree of, called]
    decide +kernel
  rw [← hentries]
  apply of.layout
  have hname : (utf8 "p_ns/checksums.txt").length < Nat.pow 2 63 := by decide
  rw [hentries]
  simp only [List.forall_mem_cons]
  exact ⟨⟨by decide, by decide⟩, ⟨by decide, by decide⟩, ⟨hname, hmanifest⟩, nofun⟩

/-- The nested tree is packed: the file in its directory comes first, its digest is recorded, and
the manifest comes last. The manifest has the other file first. -/
theorem pack_nestedSample : nestedSample.root.Legal ∧
    ∃ p, pack nestedSample (utf8 "/p_ns") = .ok p ∧ p.name = "p_ns" ∧
      p.manifest.fileHash? "a/x" = some (Checksum.Md5.hex [1]) ∧
      p.manifest.hashes = [("a.txt", Checksum.Md5.hex [2]), ("a/x", Checksum.Md5.hex [1])] ∧
      ∃ stream, Gzip.gunzip p.data = { bytes := stream } ∧ Tar.Layout [("p_ns/a/x", [1]),
        ("p_ns/a.txt", [2]), ("p_ns/checksums.txt", p.manifestContent)] stream := by
  obtain ⟨hpacked, hpackage⟩ := pack_correct legal_nestedSample (utf8 "/p_ns")
  have hnamed : nameOf? (utf8 "/p_ns") = some "p_ns" := nameOf?_of_fileName? (by decide)
  obtain ⟨p, hp⟩ := hpacked.2
    ⟨_, _, _, _, rfl, resolve_nestedSample, rfl, hnamed, packable_nestedTree⟩
  obtain ⟨place, tree, files, habsolute, hplace, hname, hof⟩ := hpackage p hp
  have hsource : p.source = utf8 "/p_ns" := (Except.ok.inj habsolute).symm
  rw [hsource, resolve_nestedSample] at hplace
  rw [hsource, hnamed] at hname
  cases hplace
  have hcalled : p.name = "p_ns" := (Option.some.inj hname).symm
  have hmem := (hof.files_iff ⟨[utf8 "a", utf8 "x"], [1], {}⟩).2
    (get?_of_mem_nestedFiles (by simp [nestedFiles]))
  have hrecorded := (hof.recorded_iff _ _).2 ⟨_, hmem, path_nestedFiles.1, rfl⟩
  exact ⟨legal_nestedSample, p, hp, hcalled, hrecorded, hashes_nestedTree hof,
    layout_nestedTree hof hcalled⟩

end Package

end Northbound
