import Northbound.Proofs.Package.Packing
import Northbound.Proofs.Url.Path

/-!
# Manifests read line by line

The text of a manifest is split at line feeds, and each line at its first tab. Main statement: this
tells the digest and the path of each file in the archive, and nothing else, exactly if no path has
a line feed. Two packages of one name with such paths have the same text only if they have the same
files.
-/

namespace Northbound

open Url (splitAtChar splitAtChar_append_cons splitAtChar_of_not_mem not_mem_of_mem_splitAtChar)

namespace Manifest

variable {text : String} {hash path : String} {lines : List (List Char)}

/-- The lines of a text: what stands in front of each line feed. -/
def linesOf (text : List Char) : List (List Char) := (splitAtChar '\n' text).dropLast

/-- What a line tells: the digest in front of its first tab, and the path behind it. -/
def readLine? (line : List Char) : Option (String × String) :=
  if '\t' ∈ line then
    some (String.ofList (line.takeWhile (· ≠ '\t')), String.ofList (line.dropWhile (· ≠ '\t')).tail)
  else none

/-- What the lines of a text tell. -/
def read (text : String) : List (Option (String × String)) := (linesOf text.toList).map readLine?

theorem splitAtChar_lines (unbroken : ∀ line ∈ lines, '\n' ∉ line) :
    splitAtChar '\n' (lines.flatMap (· ++ ['\n'])) = lines ++ [[]] := by
  induction lines with
  | nil => rfl
  | cons line lines ih =>
      rw [List.forall_mem_cons] at unbroken
      calc splitAtChar '\n' ((line :: lines).flatMap (· ++ ['\n']))
        _ = splitAtChar '\n' (line ++ '\n' :: lines.flatMap (· ++ ['\n'])) := by simp
        _ = splitAtChar '\n' line ++ splitAtChar '\n' (lines.flatMap (· ++ ['\n'])) :=
          splitAtChar_append_cons _ _
        _ = [line] ++ (lines ++ [[]]) := by rw [splitAtChar_of_not_mem unbroken.1, ih unbroken.2]
        _ = line :: lines ++ [[]] := rfl

/-- Lines without line feeds are found again. -/
theorem linesOf_lines (unbroken : ∀ line ∈ lines, '\n' ∉ line) :
    linesOf (lines.flatMap (· ++ ['\n'])) = lines := by
  rw [linesOf, splitAtChar_lines unbroken, List.dropLast_concat]

/-- A line is cut behind a digest without tabs, whatever the path. -/
theorem readLine?_append (tabless : '\t' ∉ hash.toList) (path : String) :
    readLine? (hash.toList ++ '\t' :: path.toList) = some (hash, path) := by
  have hkept : ∀ c ∈ hash.toList, decide (c ≠ '\t') = true := by
    intro c hc
    exact decide_eq_true fun same => tabless (same ▸ hc)
  rw [readLine?, if_pos (by simp), List.takeWhile_append_of_pos hkept,
    List.dropWhile_append_of_pos hkept]
  simp

/-- A path that is told has no line feed. -/
theorem not_mem_path_of_mem_read (h : some (hash, path) ∈ read text) : '\n' ∉ path.toList := by
  obtain ⟨line, hline, htold⟩ := List.mem_map.1 h
  rw [readLine?] at htold
  split at htold
  · obtain ⟨-, rfl⟩ := Prod.mk.inj (Option.some.inj htold)
    intro hbreak
    rw [String.toList_ofList] at hbreak
    have hinside := (List.dropWhile_suffix _).subset (List.mem_of_mem_tail hbreak)
    exact not_mem_of_mem_splitAtChar ((List.dropLast_prefix _).subset hline) hinside
  · cases htold

end Manifest

theorem Bytes.hexDigit_ne {n : Nat} (small : n < 16) : hexDigit n ≠ '\t' ∧ hexDigit n ≠ '\n' := by
  decide +revert

/-- There are no tabs and no line feeds in a digest. -/
theorem Checksum.Md5.not_mem_hex (message : Bytes) :
    '\t' ∉ (hex message).toList ∧ '\n' ∉ (hex message).toList := by
  have hdigits : ∀ c ∈ (hex message).toList, c ≠ '\t' ∧ c ≠ '\n' := by
    intro c hc
    rw [hex, Bytes.toHex, String.toList_ofList] at hc
    obtain ⟨b, -, hc⟩ := List.mem_flatMap.1 hc
    have hsmall : b.toNat < 256 := b.toNat_lt
    simp only [List.mem_cons, List.not_mem_nil, or_false] at hc
    rcases hc with rfl | rfl
    · exact Bytes.hexDigit_ne (by omega)
    · exact Bytes.hexDigit_ne (by omega)
  exact ⟨fun h => (hdigits _ h).1 rfl, fun h => (hdigits _ h).2 rfl⟩

namespace Package

open Manifest
open WalkStep (Clean)

variable {fs : FileSystem} {path : Path} {p q : Package} {tree : Node} {files : List TreeFile}

/-- Whether a text, read line by line, tells the digests and paths of some entries and nothing else.
-/
def Tells (text : String) (entries : List ArchivedFile) : Prop :=
  ∀ told, told ∈ Manifest.read text ↔
    ∃ f ∈ entries, told = some (Checksum.Md5.hex f.content, f.path)

/-- No path in the package has a line feed. -/
def Unbroken (p : Package) : Prop :=
  ∀ path ∈ p.manifest.paths, '\n' ∉ (p.name ++ "/" ++ path).toList

theorem exists_packageOf (legal : fs.root.Legal) (packed : pack fs path = .ok p) :
    ∃ place tree files, fs.resolve p.source = .ok (place, tree) ∧ p.PackageOf tree files := by
  obtain ⟨source, name, -, hdirectory, hnamed, hclean, rfl⟩ := pack_eq_ok_iff.1 packed
  obtain ⟨place, tree, hresolved, hinside⟩ := FileSystem.isDirectory_eq_true_iff.1 hdirectory
  have hnonempty := ne_empty_of_legalName (legalName_of_nameOf? hresolved hnamed)
  exact ⟨place, tree, _, hresolved,
    packageOf_ofWalk hresolved hinside (legal.of_resolve hresolved) hclean hnonempty⟩

theorem mem_paths_iff (of : p.PackageOf tree files) {path : String} :
    path ∈ p.manifest.paths ↔ ∃ f ∈ files, f.path = path := by
  rw [Manifest.paths, Dictionary.keys, List.mem_map]
  constructor
  · rintro ⟨⟨path, hash⟩, hline, rfl⟩
    obtain ⟨f, hf, hpath, -⟩ := (of.lines_iff path hash).1 hline
    exact ⟨f, hf, hpath⟩
  · rintro ⟨f, hf, rfl⟩
    exact ⟨(f.path, _), (of.lines_iff _ _).2 ⟨f, hf, rfl, rfl⟩, rfl⟩

/-- A manifest without line feeds in its paths tells its digests and paths in their order. -/
theorem read_render (of : p.PackageOf tree files) (unbroken : p.Unbroken) :
    Manifest.read (p.manifest.render p.name) =
      p.manifest.hashes.map fun f => some (f.2, p.name ++ "/" ++ f.1) := by
  have hdigest (f : String × String) (hf : f ∈ p.manifest.hashes) :
      '\t' ∉ f.2.toList ∧ '\n' ∉ f.2.toList := by
    obtain ⟨file, -, -, hhash⟩ := (of.lines_iff f.1 f.2).1 hf
    rw [← hhash]
    exact Checksum.Md5.not_mem_hex _
  let lines := p.manifest.hashes.map fun f => f.2.toList ++ '\t' :: (p.name ++ "/" ++ f.1).toList
  have htext : (p.manifest.render p.name).toList = lines.flatMap (· ++ ['\n']) := by
    rw [of.rendered, String.toList_join, List.flatMap_map, List.flatMap_map]
    congr
    funext f
    simp
  have hlines : ∀ line ∈ lines, '\n' ∉ line := by
    intro line hline
    obtain ⟨f, hf, rfl⟩ := List.mem_map.1 hline
    have hpath := unbroken f.1 (List.mem_map_of_mem hf)
    rw [List.mem_append, List.mem_cons]
    rintro (h | h | h)
    · exact (hdigest f hf).2 h
    · cases h
    · exact hpath h
  rw [Manifest.read, htext, linesOf_lines hlines, List.map_map]
  apply List.map_congr_left
  intro f hf
  exact readLine?_append (hdigest f hf).1 _

/-- The manifest of a package tells the entries of the archive exactly if their paths have no line
feed. -/
theorem tells_iff (of : p.PackageOf tree files) :
    Tells (p.manifest.render p.name) (files.map (TreeFile.archived p.name)) ↔ p.Unbroken := by
  constructor
  · intro htells path hpath
    obtain ⟨f, hf, rfl⟩ := (mem_paths_iff of).1 hpath
    have htold := (htells _).2 ⟨_, List.mem_map_of_mem hf, rfl⟩
    exact not_mem_path_of_mem_read htold
  · intro unbroken told
    rw [read_render of unbroken, List.mem_map]
    constructor
    · rintro ⟨⟨path, hash⟩, hline, rfl⟩
      obtain ⟨f, hf, rfl, rfl⟩ := (of.lines_iff path hash).1 hline
      exact ⟨_, List.mem_map_of_mem hf, rfl⟩
    · rintro ⟨entry, hentry, rfl⟩
      obtain ⟨f, hf, rfl⟩ := List.mem_map.1 hentry
      exact ⟨(f.path, _), (of.lines_iff _ _).2 ⟨f, hf, rfl, rfl⟩, rfl⟩

/-- Two manifests without line feeds in their paths are the same if their texts are. -/
theorem manifest_eq_of_render_eq {tree' : Node} {files' : List TreeFile}
    (of : p.PackageOf tree files)
    (of' : q.PackageOf tree' files') (name : q.name = p.name) (unbroken : p.Unbroken)
    (unbroken' : q.Unbroken) (same : q.manifest.render q.name = p.manifest.render p.name) :
    q.manifest = p.manifest := by
  have hread := read_render of' unbroken'
  rw [same, read_render of unbroken, name] at hread
  have hinjective : Function.Injective
      fun f : String × String => some (f.2, p.name ++ "/" ++ f.1) := by
    intro f g hsame
    obtain ⟨hhash, hpath⟩ := Prod.mk.inj (Option.some.inj hsame)
    exact Prod.ext (String.append_right_inj _ |>.1 hpath) hhash
  exact congrArg Manifest.mk (List.map_injective_iff.2 hinjective hread.symm)

/-- What the manifest of a package tells, line by line, are the digests and paths of the entries in
front of it in the archive, and nothing else, exactly if no path has a line feed. Of two packages of
one name with such paths, the texts are the same only if the manifests are. -/
theorem manifest_told_iff (legal : fs.root.Legal) (packed : pack fs path = .ok p) :
    ∃ place tree files, fs.resolve p.source = .ok (place, tree) ∧ p.PackageOf tree files ∧
      (Tells (p.manifest.render p.name) (files.map (TreeFile.archived p.name)) ↔ p.Unbroken) ∧
      ∀ fs' path' q, fs'.root.Legal → pack fs' path' = .ok q → q.name = p.name →
        p.Unbroken → q.Unbroken →
        (q.manifest.render q.name = p.manifest.render p.name ↔ q.manifest = p.manifest) := by
  obtain ⟨place, tree, files, hresolved, hof⟩ := exists_packageOf legal packed
  refine ⟨place, tree, files, hresolved, hof, tells_iff hof, ?_⟩
  intro fs' path' q legal' packed' name unbroken unbroken'
  obtain ⟨-, tree', files', -, hof'⟩ := exists_packageOf legal' packed'
  constructor
  · exact manifest_eq_of_render_eq hof hof' name unbroken unbroken'
  · intro same
    rw [same, name]

section Samples

/-- What a directory `p_ns` at the root is packed into, if the walk from it does not fail. -/
theorem pack_child {place : List Bytes} (legal : fs.root.Legal)
    (resolved : fs.resolve (utf8 "/p_ns") = .ok (place, tree)) (directory : tree.isDirectory = true)
    (clean : Clean (WalkStep.ofSource fs (utf8 "/p_ns"))) :
    let p := ofWalk (utf8 "/p_ns") "p_ns" (WalkStep.ofSource fs (utf8 "/p_ns"))
    pack fs (utf8 "/p_ns") = .ok p ∧
      p.PackageOf tree (WalkStep.filesOf (WalkStep.ofSource fs (utf8 "/p_ns"))) := by
  have habsolute : absoluteSource fs (utf8 "/p_ns") = .ok (utf8 "/p_ns") := rfl
  have hdirectory := FileSystem.isDirectory_eq_true_iff.2 ⟨place, tree, resolved, directory⟩
  have hnamed : nameOf? (utf8 "/p_ns") = some "p_ns" := nameOf?_of_fileName? (by decide)
  exact ⟨pack_eq_ok_iff.2 ⟨_, _, habsolute, hdirectory, hnamed, clean, rfl⟩,
    packageOf_ofWalk resolved directory (legal.of_resolve resolved) clean (by decide)⟩

/-- A tree of two files. -/
def pairTree : Node := .directory true [(utf8 "a", .file [1] {}), (utf8 "b", .file [] {})]

/-- A file system with that tree as a package. -/
def pairSample : FileSystem := { root := .directory true [(utf8 "p_ns", pairTree)] }

theorem resolve_pairSample : pairSample.resolve (utf8 "/p_ns") = .ok ([utf8 "p_ns"], pairTree) :=
  FileSystem.resolve_child (by decide) (by rw [Node.get?_singleton]; rfl)

theorem legal_pairSample : pairSample.root.Legal := by
  have hfile (content : Bytes) : (Node.file content {}).Legal := Node.legal_file (by decide)
  have htree : pairTree.Legal := by
    apply Node.legal_directory (by decide) (by decide)
    simpa using ⟨hfile [1], hfile []⟩
  apply Node.legal_directory (by decide) (by decide)
  simpa using htree

theorem ofSource_pairSample :
    WalkStep.ofSource pairSample (utf8 "/p_ns") = [.file "a" [1] {}, .file "b" [] {}] := by
  have hroot : utf8 "/p_ns" ≠ [] := by decide
  have hlegal : ∀ n ∈ [utf8 "a", utf8 "b"], LegalName n := by decide
  have hfirst :
      relativeArchivePath (utf8 "/p_ns") (Path.join (utf8 "/p_ns") (utf8 "a")) = .ok "a" :=
    relativeArchivePath_join hroot (hlegal _ (by simp)).toPlain
  have hsecond :
      relativeArchivePath (utf8 "/p_ns") (Path.join (utf8 "/p_ns") (utf8 "b")) = .ok "b" :=
    relativeArchivePath_join hroot (hlegal _ (by simp)).toPlain
  have hsorted : Node.sortedChildren [(utf8 "a", .file [1] {}), (utf8 "b", .file [] {})] =
      [(utf8 "a", .file [1] {}), (utf8 "b", .file [] {})] :=
    List.mergeSort_of_pairwise (by simp; decide)
  rw [WalkStep.ofSource, resolve_pairSample, pairTree]
  simp only [if_true]
  rw [WalkStep.inOrder_ofChildren, hsorted]
  simp [WalkStep.ofNode, hfirst, hsecond]

/-- The package of that file system. -/
def pairPackage : Package :=
  ofWalk (utf8 "/p_ns") "p_ns" (WalkStep.ofSource pairSample (utf8 "/p_ns"))

theorem hashes_pairPackage : pairPackage.manifest.hashes =
    [("a", Checksum.Md5.hex [1]), ("b", Checksum.Md5.hex [])] := by
  have hless : ("b" < "a") = False := by decide
  change (Manifest.ofList (List.filterMap TarballWriter.recorded? _)).hashes = _
  rw [ofSource_pairSample, Manifest.hashes_ofList]
  simp [TarballWriter.recorded?, Dictionary.ofList, Dictionary.insert, hless]

theorem unbroken_pairPackage : pairPackage.Unbroken := by
  intro path hpath
  rw [Manifest.paths, hashes_pairPackage] at hpath
  simp only [Dictionary.keys, List.map_cons, List.map_nil, List.mem_cons, List.not_mem_nil,
    or_false] at hpath
  rcases hpath with rfl | rfl
  · decide
  · decide

theorem packed_pairPackage : pack pairSample (utf8 "/p_ns") = .ok pairPackage ∧
    pairPackage.PackageOf pairTree
      (WalkStep.filesOf (WalkStep.ofSource pairSample (utf8 "/p_ns"))) := by
  have hclean : Clean (WalkStep.ofSource pairSample (utf8 "/p_ns")) := by
    rw [ofSource_pairSample]
    simp [Clean]
  exact pack_child legal_pairSample resolve_pairSample rfl hclean

/-- The manifest of two files tells these. -/
theorem manifest_told_pairSample : pairSample.root.Legal ∧
    pack pairSample (utf8 "/p_ns") = .ok pairPackage ∧ pairPackage.Unbroken ∧
    ∃ files, pairPackage.PackageOf pairTree files ∧
      Tells (pairPackage.manifest.render "p_ns") (files.map (TreeFile.archived "p_ns")) := by
  obtain ⟨hpacked, -⟩ := packed_pairPackage
  obtain ⟨place, tree, files, hresolved, hof, hiff, -⟩ := manifest_told_iff legal_pairSample hpacked
  obtain ⟨-, rfl⟩ := Prod.mk.inj (Except.ok.inj (resolve_pairSample.symm.trans hresolved))
  exact ⟨legal_pairSample, hpacked, unbroken_pairPackage, files, hof, hiff.2 unbroken_pairPackage⟩

/-- A name that goes on with what could be the next line of a manifest. -/
def forgingName : String := "a\nd41d8cd98f00b204e9800998ecf8427e\tp_ns"

/-- A tree of one file, in a directory of that name. -/
def forgingTree : Node :=
  .directory true [(utf8 forgingName, .directory true [(utf8 "b", .file [1] {})])]

/-- A file system with that tree as a package. -/
def forgingSample : FileSystem := { root := .directory true [(utf8 "p_ns", forgingTree)] }

theorem resolve_forgingSample :
    forgingSample.resolve (utf8 "/p_ns") = .ok ([utf8 "p_ns"], forgingTree) :=
  FileSystem.resolve_child (by decide) (by rw [Node.get?_singleton]; rfl)

theorem legal_forgingSample : forgingSample.root.Legal := by
  have hfile : (Node.file [1] {}).Legal := Node.legal_file (by decide)
  have hinner : (Node.directory true [(utf8 "b", .file [1] {})]).Legal := by
    apply Node.legal_directory (by decide) (by decide)
    simpa using hfile
  have htree : forgingTree.Legal := by
    apply Node.legal_directory (by decide) (by decide)
    simpa using hinner
  apply Node.legal_directory (by decide) (by decide)
  simpa using htree

theorem ofSource_forgingSample : WalkStep.ofSource forgingSample (utf8 "/p_ns") =
    [.directory forgingName, .file (forgingName ++ "/b") [1] {}] := by
  have hroot : utf8 "/p_ns" ≠ [] := by decide
  have hlegal : ∀ n ∈ [utf8 forgingName, utf8 "b"], LegalName n := by decide
  have houter : relativeArchivePath (utf8 "/p_ns") (Path.join (utf8 "/p_ns") (utf8 forgingName)) =
      .ok forgingName := relativeArchivePath_join hroot (hlegal _ (by simp)).toPlain
  have hinner : relativeArchivePath (utf8 "/p_ns")
      (Path.join (Path.join (utf8 "/p_ns") (utf8 forgingName)) (utf8 "b")) =
        .ok (forgingName ++ "/b") := by
    have htexts : ∀ n ∈ [utf8 forgingName, utf8 "b"], IsText n := by
      simpa using ⟨isText_utf8 forgingName, isText_utf8 "b"⟩
    have hpath := relativeArchivePath_of_texts hroot (fun n hn => (hlegal n hn).toPlain) htexts
    rw [List.map_cons, List.map_singleton, lossy_utf8, lossy_utf8] at hpath
    exact hpath
  rw [WalkStep.ofSource, resolve_forgingSample]
  simp [forgingTree, WalkStep.inOrder, WalkStep.ofChildren, WalkStep.ofNode, houter, hinner]

/-- The package of that file system. -/
def forgingPackage : Package :=
  ofWalk (utf8 "/p_ns") "p_ns" (WalkStep.ofSource forgingSample (utf8 "/p_ns"))

theorem hashes_forgingPackage :
    forgingPackage.manifest.hashes = [(forgingName ++ "/b", Checksum.Md5.hex [1])] := by
  change (Manifest.ofList (List.filterMap TarballWriter.recorded? _)).hashes = _
  rw [ofSource_forgingSample, Manifest.hashes_ofList]
  rfl

theorem packed_forgingPackage : pack forgingSample (utf8 "/p_ns") = .ok forgingPackage ∧
    forgingPackage.PackageOf forgingTree
      (WalkStep.filesOf (WalkStep.ofSource forgingSample (utf8 "/p_ns"))) := by
  have hclean : Clean (WalkStep.ofSource forgingSample (utf8 "/p_ns")) := by
    rw [ofSource_forgingSample]
    simp [Clean]
  exact pack_child legal_forgingSample resolve_forgingSample rfl hclean

theorem render_forgingPackage :
    forgingPackage.manifest.render "p_ns" = pairPackage.manifest.render "p_ns" := by
  obtain ⟨-, hof⟩ := packed_forgingPackage
  obtain ⟨-, hofPair⟩ := packed_pairPackage
  have hempty : Checksum.Md5.hex [] = "d41d8cd98f00b204e9800998ecf8427e" := by decide +kernel
  have hforging : forgingPackage.manifest.render "p_ns" =
      Checksum.Md5.hex [1] ++ "\t" ++ "p_ns" ++ "/" ++ (forgingName ++ "/b") ++ "\n" := by
    refine hof.rendered.trans ?_
    rw [hashes_forgingPackage, List.map_singleton, String.join_cons, String.join_nil,
      String.append_empty]
    rfl
  have hpair : pairPackage.manifest.render "p_ns" =
      (Checksum.Md5.hex [1] ++ "\t" ++ "p_ns" ++ "/" ++ "a" ++ "\n") ++
        (Checksum.Md5.hex [] ++ "\t" ++ "p_ns" ++ "/" ++ "b" ++ "\n") := by
    refine hofPair.rendered.trans ?_
    rw [hashes_pairPackage, List.map_cons, List.map_singleton, String.join_cons, String.join_cons,
      String.join_nil, String.append_empty]
    rfl
  have hlines : forgingName ++ "/b" ++ "\n" =
      "a" ++ "\n" ++ (Checksum.Md5.hex [] ++ "\t" ++ "p_ns" ++ "/" ++ "b" ++ "\n") := by
    rw [hempty]
    decide
  rw [hforging, hpair]
  simp only [String.append_assoc] at hlines ⊢
  rw [hlines]

/-- A file in a directory of that name is packed, and the text of its manifest is that of two files
that are not there. -/
theorem not_told_forgingSample : ∃ files,
    pack forgingSample (utf8 "/p_ns") = .ok forgingPackage ∧
    forgingPackage.PackageOf forgingTree files ∧
    ¬Tells (forgingPackage.manifest.render "p_ns") (files.map (TreeFile.archived "p_ns")) ∧
    pack pairSample (utf8 "/p_ns") = .ok pairPackage ∧
    forgingPackage.manifest.render "p_ns" = pairPackage.manifest.render "p_ns" ∧
    forgingPackage.manifest ≠ pairPackage.manifest := by
  obtain ⟨hpacked, hof⟩ := packed_forgingPackage
  have hbroken : ¬forgingPackage.Unbroken := by
    intro hunbroken
    have hmem : forgingName ++ "/b" ∈ forgingPackage.manifest.paths := by
      simp [Manifest.paths, hashes_forgingPackage, Dictionary.keys]
    exact hunbroken _ hmem (by decide)
  refine ⟨_, hpacked, hof, fun htells => hbroken ((tells_iff hof).1 htells), packed_pairPackage.1,
    render_forgingPackage, ?_⟩
  intro hsame
  have hsizes := congrArg Manifest.size hsame
  rw [Manifest.size, Manifest.size, hashes_forgingPackage, hashes_pairPackage] at hsizes
  cases hsizes

end Samples

end Package

end Northbound
