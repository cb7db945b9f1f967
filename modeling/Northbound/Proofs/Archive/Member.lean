import Northbound.Proofs.Archive.FoundPath
import Northbound.Proofs.Tar.Reader

/-!
# Reading archived files back

A reader that stands in front of the bytes of an archived file finds one member there, with the path
that is read back for it, its size and its mode, and stands in front of its content afterwards.
-/

namespace Northbound

/-- The zeros that fill the last block of data. -/
def padding (content : Bytes) : Bytes :=
  Bytes.zeros ((Tar.blockSize - content.length % Tar.blockSize) % Tar.blockSize)

theorem padToBlock_eq (content : Bytes) : padToBlock content = content ++ padding content := rfl

theorem length_padToBlock (content : Bytes) :
    (padToBlock content).length = Tar.Reader.padded content.length := by
  simp only [padToBlock, Tar.Reader.padded, Tar.blockSize, List.length_append, Bytes.length_zeros]
  omega

/-- A file as an archive holds it. -/
structure ArchivedFile where
  path : String
  header : Tar.Header
  content : Bytes
  mode : Nat

namespace ArchivedFile

/-- What makes an archived file one member to a reader: its header fits, is one of a regular file
and tells its mode. -/
structure Fitting (f : ArchivedFile) : Prop where
  mode : f.header.mode? = some f.mode
  mode_lt : f.mode < Nat.pow 8 7
  regular : f.header.typeByte = 48

/-- What makes an archived file readable: it is one member, and its path has no NUL. -/
structure Sound (f : ArchivedFile) : Prop extends f.Fitting where
  path : 0 ∉ utf8 f.path

/-- A file whose header tells its mode and no more is sound. -/
theorem sound_of_mode {path : String} {mode : Nat} (content : Bytes) (small : mode < Nat.pow 8 7)
    (plain : 0 ∉ utf8 path) : Sound ⟨path, { mode? := some mode }, content, mode⟩ :=
  ⟨⟨rfl, small, rfl⟩, plain⟩

/-- A file of a tree is one member. -/
theorem fitting_fileHeader {path : String} {content : Bytes} {a : FileAttributes}
    (legal : a.mode < 0o10000) : Fitting ⟨path, TarballWriter.fileHeader a, content,
      TarballWriter.regularFileBits + a.mode⟩ where
  mode := rfl
  mode_lt := by
    have small : 0o10000 + TarballWriter.regularFileBits ≤ Nat.pow 8 7 := by decide
    change TarballWriter.regularFileBits + a.mode < Nat.pow 8 7
    omega
  regular := rfl

/-- An entry that is made up is one member. -/
theorem fitting_entryHeader {path : String} {content : Bytes} :
    Fitting ⟨path, TarballWriter.entryHeader, content, 0o644⟩ where
  mode := rfl
  mode_lt := by
    change 0o644 < Nat.pow 8 7
    decide
  regular := rfl

/-- The bytes of a file in an archive. -/
def bytes (f : ArchivedFile) : Bytes := pathMember f.path ++ fileMember f.header f.path f.content

/-- A writer whose sink takes everything appends the bytes of a file. -/
theorem append_of_unlimited {w : TarballWriter} (unlimited : w.capacity? = none) (path : String)
    (header : Tar.Header) (content : Bytes) (mode : Nat) :
    w.append path header content =
      .ok { w with
        blocks := w.blocks ++ bytes ⟨joinArchivePath w.base path, header, content, mode⟩ } := by
  simp [TarballWriter.append, TarballWriter.hasRoom, unlimited, bytes]

/-- The header of a file as it is written. -/
def writtenHeader (f : ArchivedFile) : Tar.Header :=
  { f.header with name := namePlaceholder f.path, size := f.content.length }

/-- The header of the member that holds the path. -/
def pathHeader (f : ArchivedFile) : Tar.Header :=
  { size := (pathRecord f.path).length, typeByte := 120 }

theorem pathHeader_fits (f : ArchivedFile) : f.pathHeader.Fits where
  name := by simp [pathHeader]
  mode := by simp [pathHeader]

variable {f : ArchivedFile}

theorem writtenHeader_fits (fitting : f.Fitting) : f.writtenHeader.Fits where
  name := length_namePlaceholder_le
  mode := by
    intro m hm
    have : m = f.mode := Option.some.inj (hm.symm.trans fitting.mode)
    exact this ▸ fitting.mode_lt

theorem bytes_eq (f : ArchivedFile) (rest : Bytes) :
    f.bytes ++ rest = f.pathHeader.render ++ (padToBlock (pathRecord f.path) ++
      (f.writtenHeader.render ++ (padToBlock f.content ++ rest))) := by
  simp [bytes, pathMember, fileMember, pathHeader, writtenHeader, pathRecord]

theorem length_bytes (fitting : f.Fitting) :
    f.bytes.length = 2 * Tar.blockSize + Tar.Reader.padded (pathRecord f.path).length +
      Tar.Reader.padded f.content.length := by
  have := congrArg List.length (f.bytes_eq [])
  simp only [List.length_append, List.length_nil, length_padToBlock,
    Tar.Header.length_render f.pathHeader_fits,
    Tar.Header.length_render (writtenHeader_fits fitting)] at this
  omega

theorem length_pathRecord_le (fitting : f.Fitting) :
    (pathRecord f.path).length ≤ f.bytes.length := by
  have := Tar.Reader.padded_ge (pathRecord f.path).length
  rw [length_bytes fitting]
  omega

/-- The member that a reader makes of the file. -/
def member (f : ArchivedFile) : Tar.Member :=
  { header := f.writtenHeader.render, path := pathReadBack f.path, size := f.content.length }

/-- The member that a reader makes of the file, whatever bytes its path has. -/
def foundMember (f : ArchivedFile) : Tar.Member :=
  { header := f.writtenHeader.render, path := pathFound f.path, size := f.content.length }

/-- Without a NUL in its path, the file is found as it is read back. -/
theorem foundMember_eq (plain : 0 ∉ utf8 f.path) : f.foundMember = f.member := by
  have name : (namePlaceholder f.path).untilNul = namePlaceholder f.path :=
    Bytes.untilNul_of_not_mem fun h => plain (mem_of_mem_namePlaceholder h)
  rw [foundMember, member, pathFound, pathReadBack, name]

theorem foundMember_kind (fitting : f.Fitting) : f.foundMember.kind = .regular := by
  rw [Tar.Member.kind, foundMember, Tar.Header.render_kind (writtenHeader_fits fitting)]
  simp [writtenHeader, fitting.regular, Tar.MemberKind.ofByte]

theorem member_kind (sound : f.Sound) : f.member.kind = .regular := by
  rw [← foundMember_eq sound.path]
  exact foundMember_kind sound.toFitting

theorem member_mode (sound : f.Sound) : f.member.mode = .ok f.mode := by
  have bound := sound.mode_lt
  have word : Nat.pow 8 7 ≤ Text.maxWord := by decide
  have low : Nat.pow 8 7 ≤ Nat.pow 2 32 := by decide
  have shown : f.writtenHeader.mode? = some f.mode := sound.mode
  simp only [Tar.Member.mode, member, Tar.Header.render_mode (writtenHeader_fits sound.toFitting),
    shown, Tar.Header.smallField]
  rw [Tar.readOctal_octalField (by omega)]
  simp only
  rw [Nat.mod_eq_of_lt (by omega)]

open Tar Reader

/-- The record of a path is kept for the member behind it. -/
theorem memberAfter_pathHeader (f : ArchivedFile) (fuel position : Nat) (gap rest : Bytes)
    (bounded : position + gap.length + blockSize + padded (pathRecord f.path).length ≤
      Text.maxWord) :
    memberAfter (fuel + 1) {}
        (.before position gap (f.pathHeader.render ++ (padToBlock (pathRecord f.path) ++ rest))) =
      memberAfter fuel { records? := some (pathRecord f.path) }
        (.before (position + gap.length + blockSize + (pathRecord f.path).length)
          (padding (pathRecord f.path)) rest) := by
  have standard : Block.isStandard f.pathHeader.render = true :=
    Header.render_isStandard f.pathHeader_fits
  have kind : Block.kind f.pathHeader.render = .extendedRecords :=
    Header.render_kind f.pathHeader_fits
  have size : f.pathHeader.size = (pathRecord f.path).length := rfl
  have read := header?_before f.pathHeader_fits (d := {}) rfl position gap
    (padToBlock (pathRecord f.path) ++ rest) bounded
  rw [memberAfter, Action.bind_of_ok read]
  simp only [standard, kind, Bool.true_or, Bool.true_and]
  rw [if_neg (by decide), if_neg (by decide), if_pos (by decide), if_neg (by simp)]
  rw [padToBlock_eq, List.append_assoc, Action.bind_of_ok (upTo_append size.symm _)]
  have next : position + gap.length + blockSize + padded f.pathHeader.size =
      position + gap.length + blockSize + f.pathHeader.size +
        (padding (pathRecord f.path)).length := by
    rw [size, ← length_padToBlock, padToBlock_eq, List.length_append,
      Nat.add_assoc _ _ (List.length _)]
  rw [next]
  rfl

/-- A regular file is a member, and what was read before it tells its path. -/
theorem memberAfter_writtenHeader (fitting : f.Fitting) (fuel position : Nat) (gap rest : Bytes)
    (bounded : position + gap.length + blockSize + padded f.content.length ≤ Text.maxWord)
    (record_bounded : (pathRecord f.path).length ≤ Text.maxWord) :
    memberAfter (fuel + 1) { records? := some (pathRecord f.path) }
        (.before position gap (f.writtenHeader.render ++ (padToBlock f.content ++ rest))) =
      (.ok (some f.foundMember),
        .before (position + gap.length + blockSize) (padToBlock f.content) rest) := by
  have fits := writtenHeader_fits fitting
  have standard : Block.isStandard f.writtenHeader.render = true := Header.render_isStandard fits
  have kind : Block.kind f.writtenHeader.render = .regular := foundMember_kind fitting
  have path : Description.path { records? := some (pathRecord f.path) } f.writtenHeader.render =
      pathFound f.path := by
    have own : Block.path f.writtenHeader.render = (namePlaceholder f.path).untilNul :=
      Header.render_path fits
    simp [Description.path, pathFound, own]
  have own : (some (pathRecord f.path)).bind recordedSize? = none := by
    rw [Option.bind_some, recordedSize?_pathRecord record_bounded]
  have read := header?_before fits (d := { records? := some (pathRecord f.path) }) own position gap
    (padToBlock f.content ++ rest) bounded
  rw [memberAfter, Action.bind_of_ok read]
  simp only [standard, kind, Bool.true_or, Bool.true_and]
  rw [if_neg (by decide), if_neg (by decide), if_neg (by decide)]
  have no_pieces (a : Archive) : checkSparse f.writtenHeader.render f.writtenHeader.size a =
      (.ok (), a) := by
    rw [checkSparse, if_pos (by simp [kind])]
    rfl
  rw [Action.bind_of_ok (no_pieces _), path]
  simp only [Action.pure_apply, Archive.before, length_padToBlock]
  rfl

/-- A file of an archive is one member to a reader, whatever bytes its path has. -/
theorem member?_bytes_found (fitting : f.Fitting) (position : Nat) (gap rest : Bytes)
    (bounded : position + gap.length + (f.bytes ++ rest).length ≤ Text.maxWord) :
    ∃ position', member? (.before position gap (f.bytes ++ rest)) =
        (.ok (some f.foundMember), .before position' (padToBlock f.content) rest) ∧
      position' + (padToBlock f.content).length =
        position + gap.length + f.bytes.length := by
  have total := length_bytes fitting
  have record_size := padded_ge (pathRecord f.path).length
  rw [List.length_append] at bounded
  refine ⟨position + gap.length + 2 * blockSize + padded (pathRecord f.path).length, ?_, ?_⟩
  · have next : position + gap.length + blockSize + (pathRecord f.path).length +
        (padding (pathRecord f.path)).length + blockSize =
        position + gap.length + 2 * blockSize + padded (pathRecord f.path).length := by
      have := length_padToBlock (pathRecord f.path)
      rw [padToBlock_eq, List.length_append] at this
      omega
    rw [member?, Action.bind_of_ok (Action.get_apply _), f.bytes_eq,
      memberAfter_pathHeader f _ position gap _ (by omega),
      memberAfter_writtenHeader fitting _ _ _ rest (by omega) (by omega), next]
  · rw [length_padToBlock]
    omega

/-- A file of an archive is one member to a reader. -/
theorem member?_bytes (sound : f.Sound) (position : Nat) (gap rest : Bytes)
    (bounded : position + gap.length + (f.bytes ++ rest).length ≤ Text.maxWord) :
    ∃ position', member? (.before position gap (f.bytes ++ rest)) =
        (.ok (some f.member), .before position' (padToBlock f.content) rest) ∧
      position' + (padToBlock f.content).length =
        position + gap.length + f.bytes.length := by
  rw [← foundMember_eq sound.path]
  exact member?_bytes_found sound.toFitting position gap rest bounded

/-- The end of an archive is no member. -/
theorem member?_archiveEnd (position : Nat) (gap : Bytes) :
    (member? (.before position gap archiveEnd)).1 = .ok none := by
  have zeros : archiveEnd = Bytes.zeros blockSize ++ Bytes.zeros blockSize := by
    simp [archiveEnd, Bytes.zeros, Nat.two_mul]
  rw [member?, Action.bind_of_ok (Action.get_apply _), zeros, memberAfter,
    Action.bind_of_ok (header?_zeros {} position gap _)]
  rfl

end ArchivedFile

end Northbound
