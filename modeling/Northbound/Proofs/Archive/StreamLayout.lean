import Northbound.Proofs.Archive.Entries
import Northbound.Proofs.Archive.NameField

/-!
# The layout of an archive

An archive of entries is a sequence of blocks. Each entry has four parts, all of whole blocks: a
header and behind it the record of the path, a header and behind it the content. Two blocks of zeros
come last. Main statement: what is written for a list of entries has this layout.
-/

namespace Northbound

namespace Tar

/-- A header block of the standard form that tells the kind of a member and the size of its data,
with the right checksum. -/
structure Block.Describes (block : Block) (kind : UInt8) (size : Nat) : Prop where
  length : block.length = blockSize
  standard : block.isStandard = true
  kind : block.field 156 1 = [kind]
  size : readNumber block.size = .ok size
  checksum : readOctal block.checksumField = .ok block.sum

/-- The name field of a header holds the longest beginning of a path that fits it, and zeros behind
it. -/
def Block.Names (block : Block) (path : String) : Prop :=
  ∃ front, LongestBeginning nameFieldLength path front ∧
    block.name = utf8 front ++ Bytes.zeros (nameFieldLength - (utf8 front).length)

/-- Data as it stands in an archive: followed by less than a block of zeros, up to the end of a
block. -/
def Filled (data blocks : Bytes) : Prop :=
  ∃ n, n < blockSize ∧ blockSize ∣ data.length + n ∧ blocks = data ++ Bytes.zeros n

/-- The record of a path: the length of the whole record in decimal, a blank, the key, an equals
sign, the path and a line feed. -/
def IsPathRecord (path : String) (record : Bytes) : Prop :=
  record = utf8 (Text.decimal record.length) ++ utf8 " path=" ++ utf8 path ++ [10]

/-- An archive of entries with their paths and contents. -/
inductive Layout : (entries : List (String × Bytes)) → (stream : Bytes) → Prop
  | done : Layout [] (Bytes.zeros (2 * blockSize))
  | entry {path : String} {content : Bytes} {entries : List (String × Bytes)}
      {front header : Block} {record recordBlocks contentBlocks rest : Bytes}
      (described : front.Describes 120 record.length) (recorded : IsPathRecord path record)
      (recordFilled : Filled record recordBlocks)
      (regular : header.Describes 48 content.length) (named : header.Names path)
      (contentFilled : Filled content contentBlocks) (others : Layout entries rest) :
      Layout ((path, content) :: entries)
        (front ++ (recordBlocks ++ (header ++ (contentBlocks ++ rest))))

/-- Bytes that are entries at the front of an archive, whatever archive follows them. -/
def Front (entries : List (String × Bytes)) (bytes : Bytes) : Prop :=
  ∀ later rest, Layout later rest → Layout (entries ++ later) (bytes ++ rest)

/-- Entries and the end of an archive are one. -/
theorem Front.layout {entries : List (String × Bytes)} {bytes : Bytes}
    (front : Front entries bytes) : Layout entries (bytes ++ Bytes.zeros (2 * blockSize)) := by
  have whole := front [] _ .done
  rwa [List.append_nil] at whole

/-- A written header describes its member. -/
theorem Header.describes_render {h : Header} (fits : h.Fits) (bounded : h.size < Nat.pow 2 64) :
    Block.Describes h.render h.typeByte h.size where
  length := length_render fits
  standard := render_isStandard fits
  kind := by
    rw [field_render fits 0 1]
    rfl
  size := by rw [render_size fits, readNumber_numberField bounded]
  checksum := by
    have hword : Nat.pow 8 7 ≤ Text.maxWord := by decide
    have hsmall : h.checksum ≤ Text.maxWord :=
      Nat.le_of_lt (Nat.lt_of_lt_of_le (checksum_lt fits) hword)
    rw [render_checksumField fits, readOctal_octalField hsmall, render_sum fits]

theorem filled_padToBlock (content : Bytes) : Filled content (padToBlock content) := by
  refine ⟨(blockSize - content.length % blockSize) % blockSize, ?_, ?_, rfl⟩
  · exact Nat.mod_lt _ (by decide)
  · simp only [blockSize]
    omega

/-- A line is at most twenty digits longer than what is behind its length. -/
theorem lineLength_lt {rest : Nat} (bounded : rest < Nat.pow 2 63 + 8) :
    Record.lineLength rest < Nat.pow 2 64 := by
  have hhalf : Nat.pow 2 63 + 8 < 10 ^ 19 := by decide
  have hword : Nat.pow 2 63 + 8 + 20 < Nat.pow 2 64 := by decide
  have hdigits : (Nat.toDigits 10 rest).length ≤ 19 :=
    (Nat.length_toDigits_le_iff (by decide) (by decide)).2 (by omega)
  have hlonger : rest + (Nat.toDigits 10 rest).length < 10 ^ 20 := by omega
  have hguess : (Nat.toDigits 10 (rest + (Nat.toDigits 10 rest).length)).length ≤ 20 :=
    (Nat.length_toDigits_le_iff (by decide) (by decide)).2 hlonger
  simp only [Record.lineLength]
  split <;> omega

end Tar

/-- A written record is one of its path. -/
theorem isPathRecord_pathRecord (path : String) : Tar.IsPathRecord path (pathRecord path) := by
  have hkey : utf8 " path=" = 32 :: (pathKey ++ [61]) := by decide
  unfold Tar.IsPathRecord
  conv => lhs; rw [pathRecord_eq]
  simp [recordFront, hkey]

/-- Whether a machine with words of 64 bits can hold a path and a content. The lengths of texts and
byte strings are signed there. -/
def Tarball.Holdable (entry : String × Bytes) : Prop :=
  (utf8 entry.1).length < Nat.pow 2 63 ∧ entry.2.length < Nat.pow 2 63

namespace ArchivedFile

variable {f : ArchivedFile}

/-- The entry that a file is in an archive. -/
def entry (f : ArchivedFile) : String × Bytes := (f.path, f.content)

/-- The header of a file names its path. -/
theorem names_writtenHeader (fitting : f.Fitting) :
    Tar.Block.Names f.writtenHeader.render f.path := by
  obtain ⟨front, hlongest, hplaceholder⟩ := namePlaceholder_longest f.path
  refine ⟨front, hlongest, ?_⟩
  have hname : f.writtenHeader.name = utf8 front := hplaceholder
  rw [Tar.Header.render_name (writtenHeader_fits fitting), hname]
  exact Tar.textField_of_le hlongest.fits

/-- A file in an archive has the four parts of an entry. -/
theorem layout_bytes (fitting : f.Fitting) (holdable : Tarball.Holdable f.entry)
    {entries : List (String × Bytes)} {rest : Bytes} (others : Tar.Layout entries rest) :
    Tar.Layout (f.entry :: entries) (f.bytes ++ rest) := by
  obtain ⟨path, content⟩ : (utf8 f.path).length < Nat.pow 2 63 ∧ f.content.length < Nat.pow 2 63 :=
    holdable
  have hhalf : Nat.pow 2 63 < Nat.pow 2 64 := by decide
  have hrecord : (pathRecord f.path).length < Nat.pow 2 64 := by
    have hkey : pathKey.length = 4 := by decide
    rw [length_pathRecord]
    exact Tar.lineLength_lt (by omega)
  have hregular :=
    Tar.Header.describes_render (writtenHeader_fits fitting) (Nat.lt_trans content hhalf)
  have htype : f.writtenHeader.typeByte = 48 := fitting.regular
  rw [htype] at hregular
  rw [bytes_eq]
  exact .entry (Tar.Header.describes_render f.pathHeader_fits hrecord)
    (isPathRecord_pathRecord f.path) (Tar.filled_padToBlock _) hregular
    (names_writtenHeader fitting) (Tar.filled_padToBlock _) others

/-- The bytes of files are their entries. -/
theorem front_flatMap_bytes {files : List ArchivedFile} (fitting : ∀ f ∈ files, f.Fitting)
    (holdable : ∀ e ∈ files.map entry, Tarball.Holdable e) :
    Tar.Front (files.map entry) (files.flatMap bytes) := by
  intro later rest others
  induction files with
  | nil => exact others
  | cons f files ih =>
      obtain ⟨hfitting, hfiles⟩ := List.forall_mem_cons.1 fitting
      obtain ⟨hholdable, hentries⟩ := List.forall_mem_cons.1 holdable
      rw [List.map_cons, List.flatMap_cons, List.append_assoc]
      exact layout_bytes hfitting hholdable (ih hfiles hentries)

end ArchivedFile

namespace Tarball

/-- Entries with their paths below a base directory. -/
def joinedEntries (base : String) (entries : List (String × Bytes)) : List (String × Bytes) :=
  entries.map fun e => (joinArchivePath base e.1, e.2)

/-- The stream of files has the layout of an archive of their entries. -/
theorem layout_streamOf {files : List ArchivedFile} (fitting : ∀ f ∈ files, f.Fitting)
    (holdable : ∀ e ∈ files.map ArchivedFile.entry, Holdable e) :
    Tar.Layout (files.map ArchivedFile.entry) (streamOf files) :=
  (ArchivedFile.front_flatMap_bytes fitting holdable).layout

/-- What is written for a list of entries has the layout of an archive. -/
theorem layout_entryStream {base : String} {entries : List (String × Bytes)}
    (holdable : ∀ e ∈ joinedEntries base entries, Holdable e) :
    Tar.Layout (joinedEntries base entries) (entryStream base entries) := by
  have hentries : (entries.map (entryFile base)).map ArchivedFile.entry =
      joinedEntries base entries := by
    simp [joinedEntries, ArchivedFile.entry, entryFile]
  rw [← hentries] at holdable ⊢
  apply layout_streamOf _ holdable
  intro f hf
  obtain ⟨entry, -, rfl⟩ := List.mem_map.1 hf
  exact entryFile_fitting base entry

end Tarball

end Northbound
