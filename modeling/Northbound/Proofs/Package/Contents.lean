import Northbound.Package.Pack
import Northbound.Proofs.Archive.UnpackedTree
import Northbound.Proofs.Archive.WalkedFiles

/-!
# What a package contains

The archive of a package holds the files of the tree it was packed from, each once at least, and the
manifest, all below a directory of the package's name.
-/

namespace Northbound

open FileSystem
open Northbound.Path (joined)
open WalkStep (Clean)

/-- The file that a step of a walk archives below a base directory. -/
def ArchivedFile.ofStep? (base : String) : WalkStep → Option ArchivedFile
  | .file relative content a =>
    some { path := joinArchivePath base relative, header := TarballWriter.fileHeader a, content,
           mode := TarballWriter.regularFileBits + a.mode }
  | _ => none

namespace TarballWriter

/-- What is recorded of a file that a step visits. -/
def recorded? : WalkStep → Option (String × String)
  | .file relative content _ => some (relative, Checksum.Md5.hex content)
  | _ => none

/-- A walk without failures is archived, and the digests of its files are recorded in its order. -/
theorem addSteps_recordVisit {steps : List WalkStep} (clean : Clean steps) {w : TarballWriter}
    (unlimited : w.capacity? = none) (m : Manifest) :
    addSteps Package.recordVisit steps w m =
      (.ok (), { w with
        blocks := w.blocks ++
          (steps.filterMap (ArchivedFile.ofStep? w.base)).flatMap ArchivedFile.bytes },
        (steps.filterMap recorded?).foldl (fun m f => m.record f.1 f.2) m) := by
  induction steps generalizing w m with
  | nil => simp [addSteps]
  | cons step steps ih =>
      have hrest : Clean steps := fun e he => clean e (List.mem_cons_of_mem _ he)
      cases step with
      | failure e => exact absurd List.mem_cons_self (clean e)
      | directory relative =>
          rw [addSteps]
          exact ih hrest unlimited m
      | file relative content a =>
          let file : ArchivedFile := ⟨joinArchivePath w.base relative, fileHeader a, content,
            regularFileBits + a.mode⟩
          have hgoes := @ih hrest { w with blocks := w.blocks ++ file.bytes } unlimited
            (m.record relative (Checksum.Md5.hex content))
          rw [addSteps, ArchivedFile.append_of_unlimited unlimited _ _ _ (regularFileBits + a.mode)]
          refine hgoes.trans ?_
          simp [ArchivedFile.ofStep?, recorded?, file]

/-- A walk that is archived to its end does not fail. -/
theorem clean_of_addSteps {σ : Type} {onVisit : OnVisit σ} {steps : List WalkStep}
    {w w' : TarballWriter} {s s' : σ} (h : addSteps onVisit steps w s = (.ok (), w', s')) :
    Clean steps := by
  induction steps generalizing w s with
  | nil => exact fun e he => absurd he List.not_mem_nil
  | cons step steps ih =>
      have hcons (hstep : ∀ e, step ≠ .failure e) (hrest : Clean steps) :
          Clean (step :: steps) := by
        intro e he
        rcases List.mem_cons.1 he with same | he
        · exact hstep e same.symm
        · exact hrest e he
      cases step with
      | failure e => cases h
      | directory relative =>
          rw [addSteps] at h
          split at h
          · cases h
          · exact hcons (fun e same => by cases same) (ih h)
      | file relative content a =>
          rw [addSteps] at h
          split at h
          · cases h
          · split at h
            · cases h
            · exact hcons (fun e same => by cases same) (ih h)

end TarballWriter

namespace Package

/-- The content of the manifest in a package. -/
def manifestContent (p : Package) : Bytes := utf8 (p.manifest.render p.name)

/-- The manifest as it is archived. -/
def manifestFile (p : Package) : ArchivedFile :=
  { path := joinArchivePath p.name Manifest.fileName, header := TarballWriter.entryHeader,
    content := p.manifestContent, mode := 0o644 }

variable {fs : FileSystem} {path source : Path} {name : String} {p : Package}

/-- The package that a walk makes. -/
def ofWalk (source : Path) (name : String) (steps : List WalkStep) : Package :=
  let manifest := Manifest.ofList (steps.filterMap TarballWriter.recorded?)
  let data := Gzip.gzip (Tarball.streamOf (steps.filterMap (ArchivedFile.ofStep? name) ++
    [{ path := joinArchivePath name Manifest.fileName, header := TarballWriter.entryHeader
       content := utf8 (manifest.render name), mode := 0o644 }]))
  { name, source, data, hash := Checksum.Md5.hex data, manifest }

/-- A directory is packed exactly if the walk from it does not fail. -/
theorem packAs_eq_ok_iff : packAs fs source name = .ok p ↔
    Clean (WalkStep.ofSource fs source) ∧ p = ofWalk source name (WalkStep.ofSource fs source) := by
  have hpacked (clean : Clean (WalkStep.ofSource fs source)) :
      packAs fs source name = .ok (ofWalk source name (WalkStep.ofSource fs source)) := by
    rw [packAs, TarballWriter.addTree, TarballWriter.addSteps_recordVisit clean rfl]
    simp only
    rw [TarballWriter.addEntry, ArchivedFile.append_of_unlimited rfl _ _ _ 0o644]
    simp only [ofWalk, Tarball.streamOf, List.flatMap_append, List.flatMap_singleton]
    rfl
  constructor
  · intro h
    have clean : Clean (WalkStep.ofSource fs source) := by
      unfold packAs at h
      split at h
      · cases h
      next added => exact TarballWriter.clean_of_addSteps added
    exact ⟨clean, Except.ok.inj (h.symm.trans (hpacked clean))⟩
  · rintro ⟨clean, rfl⟩
    exact hpacked clean

/-- A path is packed exactly if it leads to a directory that has a name and is walked without a
failure. -/
theorem pack_eq_ok_iff : pack fs path = .ok p ↔
    ∃ source name, absoluteSource fs path = .ok source ∧ fs.isDirectory source = true ∧
      nameOf? source = some name ∧ Clean (WalkStep.ofSource fs source) ∧
        p = ofWalk source name (WalkStep.ofSource fs source) := by
  unfold pack
  simp only [Bind.bind, Except.bind]
  constructor
  · intro h
    split at h
    · cases h
    next source absolute =>
      split at h
      · cases h
      next directory =>
        split at h
        · cases h
        next name named =>
          exact ⟨source, name, absolute, by simpa using directory, named, packAs_eq_ok_iff.1 h⟩
  · rintro ⟨source, name, absolute, directory, named, h⟩
    simp only [absolute, directory, named, Bool.not_true, Bool.false_eq_true, if_false]
    exact packAs_eq_ok_iff.2 h

/-- The files of a package in the order of its archive. -/
def files (fs : FileSystem) (p : Package) : List ArchivedFile :=
  (WalkStep.ofSource fs p.source).filterMap (ArchivedFile.ofStep? p.name) ++ [p.manifestFile]

/-- A package that was made is the archive of a directory with a name. -/
theorem pack_eq_ok (h : pack fs path = .ok p) :
    fs.isDirectory p.source = true ∧ nameOf? p.source = some p.name ∧
      Clean (WalkStep.ofSource fs p.source) ∧
      p.data = Gzip.gzip (Tarball.streamOf (p.files fs)) := by
  obtain ⟨source, name, -, directory, named, clean, rfl⟩ := pack_eq_ok_iff.1 h
  exact ⟨directory, named, clean, rfl⟩

/-- A source is named by its last name, if that is a text. -/
theorem nameOf?_of_fileName? {source : Path} {name : String}
    (last : Path.fileName? source = some (utf8 name)) : nameOf? source = some name := by
  rw [nameOf?, last]
  exact utf8Decode?_utf8 name

/-- A package is named by a legal name. -/
theorem legalName_of_nameOf? {source : Path} {place : List Bytes} {tree : Node} {name : String}
    (resolved : fs.resolve source = .ok (place, tree)) (named : nameOf? source = some name) :
    LegalName (utf8 name) := by
  obtain ⟨bytes, last, decoded⟩ := Option.bind_eq_some_iff.1 named
  rw [utf8_of_utf8Decode? decoded]
  have component : Component.name bytes ∈ Path.components source := by
    unfold Path.fileName? at last
    split at last
    next found =>
      cases last
      exact List.mem_of_getLast? found
    · cases last
  obtain ⟨segment, dot, dotDot⟩ := Path.mem_components_name component
  obtain ⟨-, nul, -, links, leads⟩ := leads_of_resolve resolved
  exact {
    nonempty := (Path.segments_nonempty segment).1
    slash := (Path.segments_nonempty segment).2
    dot := dot
    dotDot := dotDot
    nul := fun zero => nul (Path.mem_of_mem_segments segment zero)
    short := leads.short _ segment }

theorem ne_empty_of_legalName {name : String} (legal : LegalName (utf8 name)) : name ≠ "" := by
  intro empty
  rw [empty] at legal
  exact legal.nonempty rfl

theorem legalName_manifest : LegalName (utf8 Manifest.fileName) where
  nonempty := by decide
  slash := by decide
  dot := by decide
  dotDot := by decide
  nul := by decide
  short := by decide

/-- Whether a package of a tree is to hold a file with some content and permissions at a place: it
is one of the tree or the manifest. -/
def Includes (p : Package) (tree : Node) (rel : List Bytes) (content : Bytes) (mode : Nat) : Prop :=
  (∃ a, tree.get? rel = some (.file content a) ∧ mode = Tarball.permissionBits a.mode) ∨
    (rel = [utf8 Manifest.fileName] ∧ content = p.manifestContent ∧ mode = 0o644)

/-- The type bits of a regular file do not count as permissions. -/
theorem permissionBits_regularFileBits (mode : Nat) :
    Tarball.permissionBits (TarballWriter.regularFileBits + mode) =
      Tarball.permissionBits mode := by
  simp only [Tarball.permissionBits, TarballWriter.regularFileBits]
  omega

/-- An archived file that stands for a file at a place of the tree, or for the manifest. -/
structure EntryOf (p : Package) (tree : Node) (rel : List Bytes) (f : ArchivedFile) : Prop where
  sound : f.Sound
  path : utf8 f.path = joined (utf8 p.name :: rel)
  further : rel ≠ []
  legal : ∀ n ∈ utf8 p.name :: rel, LegalName n
  included : p.Includes tree rel f.content f.permissions

theorem EntryOf.plain {tree : Node} {rel : List Bytes} {f : ArchivedFile}
    (entry : p.EntryOf tree rel f) : ∀ n ∈ utf8 p.name :: rel, Path.Plain n := by
  intro n hn
  exact (entry.legal n hn).toPlain

variable {place : List Bytes} {tree : Node} {rel : List Bytes} {content : Bytes}
    {a : FileAttributes}

theorem nul_not_mem_joined {names : List Bytes} (legal : ∀ n ∈ names, LegalName n) :
    0 ∉ joined names := by
  intro found
  rcases Path.mem_joined found with same | ⟨n, hn, inside⟩
  · exact absurd same (by decide)
  · exact (legal n hn).nul inside

theorem entryOf_file {s : String} (name : LegalName (utf8 p.name)) (legal : tree.Legal)
    (directory : tree.isDirectory = true) (text : utf8 s = joined rel)
    (get : tree.get? rel = some (.file content a)) :
    p.EntryOf tree rel ⟨joinArchivePath p.name s, TarballWriter.fileHeader a, content,
      TarballWriter.regularFileBits + a.mode⟩ := by
  have further : rel ≠ [] := by
    rintro rfl
    rw [Node.get?_nil] at get
    cases get
    cases directory
  have path : utf8 (joinArchivePath p.name s) = joined (utf8 p.name :: rel) :=
    utf8_joinArchivePath (ne_empty_of_legalName name) further
      (fun n hn => (legal.legalName get n hn).toPlain) text
  have all : ∀ n ∈ utf8 p.name :: rel, LegalName n :=
    List.forall_mem_cons.2 ⟨name, legal.legalName get⟩
  have mode := legal.modes rel content a get
  refine ⟨⟨ArchivedFile.fitting_fileHeader mode, ?_⟩, path, further, all, Or.inl ⟨a, get, ?_⟩⟩
  · rw [path]
    exact nul_not_mem_joined all
  · exact permissionBits_regularFileBits a.mode

theorem entryOf_manifest (name : LegalName (utf8 p.name)) (tree : Node) :
    p.EntryOf tree [utf8 Manifest.fileName] p.manifestFile := by
  have path : utf8 p.manifestFile.path = joined [utf8 p.name, utf8 Manifest.fileName] :=
    utf8_joinArchivePath (ne_empty_of_legalName name) (by simp)
      (by simpa using legalName_manifest.toPlain) rfl
  have all : ∀ n ∈ [utf8 p.name, utf8 Manifest.fileName], LegalName n :=
    List.forall_mem_cons.2 ⟨name, by simpa using legalName_manifest⟩
  refine ⟨⟨ArchivedFile.fitting_entryHeader, ?_⟩, path, by simp, all, Or.inr ⟨rfl, rfl, rfl⟩⟩
  rw [path]
  exact nul_not_mem_joined all

section Entries

variable (packed : pack fs path = .ok p) (resolved : fs.resolve p.source = .ok (place, tree))
  (legal : tree.Legal)

include packed resolved

theorem legalName_name : LegalName (utf8 p.name) := by
  obtain ⟨-, named, -, -⟩ := pack_eq_ok packed
  exact legalName_of_nameOf? resolved named

theorem isDirectory_tree : tree.isDirectory = true := by
  obtain ⟨directory, -, -, -⟩ := pack_eq_ok packed
  simpa [isDirectory, resolved] using directory

include legal

/-- Every file of the archive stands for a file of the tree or is the manifest. -/
theorem entryOf_of_mem {f : ArchivedFile} (h : f ∈ p.files fs) : ∃ rel, p.EntryOf tree rel f := by
  obtain ⟨-, -, clean, -⟩ := pack_eq_ok packed
  have name := legalName_name packed resolved
  have directory := isDirectory_tree packed resolved
  rcases List.mem_append.1 h with h | h
  · obtain ⟨step, mem, made⟩ := List.mem_filterMap.1 h
    cases step with
    | file s content a =>
      cases made
      obtain ⟨rel, get, text⟩ :=
        (WalkStep.file_mem_ofSource resolved directory legal clean).1 s content a mem
      exact ⟨rel, entryOf_file name legal directory text get⟩
    | directory s => cases made
    | failure e => cases made
  · rw [List.mem_singleton.1 h]
    exact ⟨_, entryOf_manifest name tree⟩

/-- Everything that a package is to hold is in its archive. -/
theorem exists_entryOf {mode : Nat} (included : p.Includes tree rel content mode) :
    ∃ f ∈ p.files fs, p.EntryOf tree rel f ∧ f.content = content ∧ f.permissions = mode := by
  obtain ⟨-, -, clean, -⟩ := pack_eq_ok packed
  have name := legalName_name packed resolved
  have directory := isDirectory_tree packed resolved
  rcases included with ⟨a, get, rfl⟩ | ⟨rfl, rfl, rfl⟩
  · obtain ⟨s, mem, text⟩ :=
      (WalkStep.file_mem_ofSource resolved directory legal clean).2 rel content a get
    refine ⟨_, List.mem_append.2 (Or.inl (List.mem_filterMap.2 ⟨_, mem, rfl⟩)),
      entryOf_file name legal directory text get, rfl, permissionBits_regularFileBits a.mode⟩
  · exact ⟨p.manifestFile, List.mem_append.2 (Or.inr (List.mem_singleton.2 rfl)),
      entryOf_manifest name tree, rfl, rfl⟩

end Entries

end Package

end Northbound
