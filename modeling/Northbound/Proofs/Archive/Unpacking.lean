import Northbound.Archive.Extraction
import Northbound.Proofs.Archive.Member
import Northbound.Proofs.Gzip

/-!
# Extraction as a sequence of files

Extracting a written archive makes its files one after the other, each at the path that is read back
for it. Main statement: `Tarball.extract` on the stream of some files is `unpackAll` on the files.
-/

namespace Northbound

namespace Tarball

open ArchivedFile

variable {α : Type}

theorem onFiles_apply (action : FileAction α) (fs : FileSystem) :
    onFiles action fs = ((action fs).1.mapError .file, (action fs).2) := by
  simp only [onFiles]
  rcases action fs with ⟨e | x, fs'⟩ <;> rfl

theorem onFiles_eq_ok_iff {action : FileAction α} {fs fs' : FileSystem} {x : α} :
    onFiles action fs = (.ok x, fs') ↔ action fs = (.ok x, fs') := by
  rw [onFiles_apply]
  rcases action fs with ⟨e | y, fs₁⟩
  · constructor <;> intro h <;> cases h
  · constructor <;> intro h <;> cases h <;> rfl

/-- Makes the directories above a file. -/
def makeParent (target : Path) : ExtractAction Unit :=
  match Path.parent? target with
  | some parent => if parent.isEmpty then pure () else onFiles (FileSystem.makeDirectories parent)
  | none => pure ()

theorem makeParent_bind (target : Path) (next : Unit → ExtractAction α) :
    (match Path.parent? target with
      | some parent =>
        if parent.isEmpty then next ()
        else onFiles (FileSystem.makeDirectories parent) >>= next
      | none => next ()) = makeParent target >>= next := by
  unfold makeParent
  split
  · split
    · rw [pure_bind]
    · rfl
  · rw [pure_bind]

/-- Makes a file with the directories above it. -/
def placeFile (target : Path) (content : Bytes) (mode : Nat) : ExtractAction Unit := do
  makeParent target
  let names ← onFiles (FileSystem.createFile target)
  onFiles (FileSystem.writeAt names content)
  onFiles (FileSystem.setMode target mode)

/-- Makes a file of an archive below a directory. -/
def unpack (dest : Path) (f : ArchivedFile) : ExtractAction Unit :=
  match targetPath dest (pathReadBack f.path) with
  | .error e => throw e
  | .ok target => placeFile target f.content (permissionBits f.mode)

/-- Makes the files of an archive one after the other. -/
def unpackAll (dest : Path) : List ArchivedFile → ExtractAction Unit
  | [] => pure ()
  | f :: fs => do
    unpack dest f
    unpackAll dest fs

/-- The stream of an archive before it is compressed. -/
def streamOf (files : List ArchivedFile) : Bytes := files.flatMap ArchivedFile.bytes ++ archiveEnd

variable {f : ArchivedFile}

/-- What stands behind the header of a member is its content. -/
theorem supply_member (f : ArchivedFile) (position : Nat) (rest : Bytes) :
    Tar.Archive.supply f.member.size (.before position (padToBlock f.content) rest) =
      ((f.content, none), .before (position + f.content.length) (padding f.content) rest) := by
  rw [Tar.Archive.before, padToBlock_eq, List.append_assoc]
  refine (Tar.Archive.supply_append _ _).trans ?_
  simp [Tar.Archive.before, Nat.add_assoc]

theorem extractFile_member (sound : f.Sound) (target : Path) (position : Nat) (rest : Bytes)
    (fs : FileSystem) :
    extractFile f.member target (.before position (padToBlock f.content) rest) fs =
      match placeFile target f.content (permissionBits f.mode) fs with
      | (.ok (), fs) =>
        (.ok (.before (position + f.content.length) (padding f.content) rest), fs)
      | (.error e, fs) => (.error e, fs) := by
  unfold extractFile placeFile
  simp only [supply_member, member_mode sound]
  refine (congrFun (makeParent_bind target _) fs).trans ?_
  rw [Action.bind_apply, Action.bind_apply (makeParent target)]
  rcases makeParent target fs with ⟨e | ⟨⟩, fs⟩
  · rfl
  · simp only
    rw [Action.bind_apply, Action.bind_apply (onFiles (FileSystem.createFile target))]
    rcases onFiles (FileSystem.createFile target) fs with ⟨e | names, fs⟩
    · rfl
    · simp only
      rw [Action.bind_apply, Action.bind_apply (onFiles (FileSystem.writeAt names f.content))]
      rcases onFiles (FileSystem.writeAt names f.content) fs with ⟨e | ⟨⟩, fs⟩
      · rfl
      · simp only
        rw [Action.bind_apply]
        rcases onFiles (FileSystem.setMode target (permissionBits f.mode)) fs with ⟨e | ⟨⟩, fs⟩
        · rfl
        · rfl

/-- A member of an archive becomes a file, and the reader goes on behind its content. -/
theorem extractMember_member (sound : f.Sound) (dest : Path) (position : Nat) (rest : Bytes)
    (fs : FileSystem) :
    extractMember dest f.member (.before position (padToBlock f.content) rest) fs =
      match unpack dest f fs with
      | (.ok (), fs) =>
        (.ok (.before (position + f.content.length) (padding f.content) rest), fs)
      | (.error e, fs) => (.error e, fs) := by
  have path : f.member.path = pathReadBack f.path := rfl
  unfold extractMember unpack
  rw [path, member_kind sound]
  cases targetPath dest (pathReadBack f.path) with
  | error e => rfl
  | ok target => exact extractFile_member sound target position rest fs

/-- Where no file is left, an archive ends. -/
theorem member?_streamOf_nil (position : Nat) (gap : Bytes) :
    ∃ a, Tar.Reader.member? (.before position gap (streamOf [])) = (.ok none, a) := by
  have ends := member?_archiveEnd position gap
  have stream : streamOf [] = archiveEnd := rfl
  rw [stream]
  exact ⟨_, Prod.ext ends rfl⟩

theorem streamOf_cons (f : ArchivedFile) (files : List ArchivedFile) :
    streamOf (f :: files) = f.bytes ++ streamOf files := by
  simp [streamOf]

/-- From the front of some files on, extraction makes them one after the other. -/
theorem extractFrom_streamOf (dest : Path) {files : List ArchivedFile}
    (sound : ∀ f ∈ files, f.Sound) {fuel : Nat} (enough : files.length < fuel) (position : Nat)
    (gap : Bytes) (bounded : position + gap.length + (streamOf files).length ≤ Text.maxWord)
    (fs : FileSystem) :
    extractFrom dest fuel (.before position gap (streamOf files)) fs = unpackAll dest files fs := by
  induction files generalizing fuel position gap fs with
  | nil =>
    obtain ⟨fuel, rfl⟩ : ∃ m, fuel = m + 1 := ⟨fuel - 1, by omega⟩
    obtain ⟨a, ends⟩ := member?_streamOf_nil position gap
    rw [extractFrom, ends]
    rfl
  | cons f files ih =>
    obtain ⟨fuel, rfl⟩ : ∃ m, fuel = m + 1 := ⟨fuel - 1, by omega⟩
    rw [streamOf_cons] at bounded ⊢
    obtain ⟨position', found, stands⟩ :=
      member?_bytes (sound f (by simp)) position gap (streamOf files) bounded
    rw [extractFrom]
    simp only [found]
    rw [Action.bind_apply, extractMember_member (sound f (by simp)), unpackAll, Action.bind_apply]
    rcases unpack dest f fs with ⟨e | ⟨⟩, fs⟩
    · rfl
    · simp only
      refine ih (fun g hg => sound g (by simp [hg])) (by simpa using enough) _ _ ?_ fs
      rw [padToBlock_eq, List.length_append] at stands
      rw [List.length_append] at bounded
      omega

theorem length_mul_le_length_streamOf {files : List ArchivedFile}
    (fitting : ∀ f ∈ files, f.Fitting) :
    files.length * Tar.blockSize ≤ (streamOf files).length := by
  induction files with
  | nil => simp
  | cons f files ih =>
    have others := ih fun g hg => fitting g (by simp [hg])
    have size := length_bytes (fitting f (by simp))
    simp only [streamOf, List.flatMap_cons, List.length_append, List.length_cons] at others ⊢
    rw [Nat.succ_mul]
    omega

theorem length_bytes_le_length_streamOf {files : List ArchivedFile} (h : f ∈ files) :
    f.bytes.length ≤ (streamOf files).length := by
  obtain ⟨before, after, rfl⟩ := List.append_of_mem h
  simp only [streamOf, List.flatMap_append, List.flatMap_cons, List.length_append]
  omega

theorem opened_gzip (stream : Bytes) : opened (Gzip.gzip stream) = .before 0 [] stream := by
  simp [opened, Gzip.gunzip_gzip, Tar.Archive.before]

/-- A reader has rounds enough for the members of an archive. -/
theorem length_lt_memberBound {files : List ArchivedFile} (fitting : ∀ f ∈ files, f.Fitting) :
    files.length < memberBound (.before 0 [] (streamOf files)) := by
  have many : files.length ≤ (streamOf files).length / Tar.blockSize :=
    (Nat.le_div_iff_mul_le (by decide)).2 (length_mul_le_length_streamOf fitting)
  simp only [memberBound, Tar.Archive.before, List.nil_append]
  omega

/-- Extracting the archive of some files makes them one after the other. -/
theorem extract_gzip_streamOf (dest : Path) {files : List ArchivedFile}
    (sound : ∀ f ∈ files, f.Sound) (bounded : (streamOf files).length ≤ Text.maxWord) :
    extract (Gzip.gzip (streamOf files)) dest = unpackAll dest files := by
  funext fs
  have enough := length_lt_memberBound fun f hf => (sound f hf).toFitting
  rw [extract, opened_gzip]
  exact extractFrom_streamOf dest sound enough 0 [] (by simpa using bounded) fs

end Tarball

end Northbound
