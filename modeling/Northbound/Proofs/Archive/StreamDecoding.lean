import Northbound.Proofs.Archive.StreamLayout

/-!
# Decoding an archive by lengths

A decoder that finds the end of a record by the length in front of it, and not by a line feed, gives
back the paths and contents of an archive whatever characters the paths have. Main statement: what
is written for a list of entries has the layout of an archive, is decoded to these entries, and is
written for no others.
-/

namespace Northbound

namespace Tar

namespace Decoder

open Reader (padded)

/-- The kind and the data of the member that a stream begins with, and the stream behind it. -/
def member? (stream : Bytes) : Option ((UInt8 × Bytes) × Bytes) :=
  let header : Block := stream.take blockSize
  let behind := stream.drop blockSize
  match readOctal header.checksumField, readNumber header.size with
  | .ok checksum, .ok size =>
    if blockSize ≤ stream.length ∧ checksum = header.sum ∧ padded size ≤ behind.length then
      some (((header.field 156 1).headD 0, behind.take size), behind.drop (padded size))
    else none
  | _, _ => none

/-- The path in a record. The length in front of the record tells where it ends. -/
def recordedPath? (data : Bytes) : Option String := do
  let digits := data.takeWhile (· != 32)
  let text ← utf8Decode? digits
  let length ← Text.readUnsigned 10 data.length text.toList
  let fields := (data.take length).drop digits.length
  let key := utf8 " path="
  if key.isPrefixOf fields ∧ fields.getLast? = some 10 then
    utf8Decode? (fields.drop key.length).dropLast
  else none

/-- The path and the content of the entry that a stream begins with, and the stream behind it. -/
def entry? (stream : Bytes) : Option ((String × Bytes) × Bytes) := do
  let ((kind, record), behind) ← member? stream
  if kind ≠ 120 then none
  else
    let path ← recordedPath? record
    let ((kind, content), rest) ← member? behind
    if kind = 48 then some ((path, content), rest) else none

theorem length_of_member? {stream data rest : Bytes} {kind : UInt8}
    (h : member? stream = some ((kind, data), rest)) : rest.length < stream.length := by
  unfold member? at h
  simp only at h
  split at h
  · split at h
    next whole =>
      simp only [Option.some.injEq, Prod.mk.injEq] at h
      obtain ⟨-, rfl⟩ := h
      have hblock : 0 < blockSize := by decide
      simp only [List.length_drop]
      omega
    · cases h
  · cases h

/-- Decoding an entry uses bytes up. -/
theorem length_of_entry? {stream rest : Bytes} {entry : String × Bytes}
    (h : entry? stream = some (entry, rest)) : rest.length < stream.length := by
  obtain ⟨⟨⟨kind, record⟩, behind⟩, hrecord, h⟩ := Option.bind_eq_some_iff.1 h
  simp only at h
  split at h
  · cases h
  · obtain ⟨path, -, h⟩ := Option.bind_eq_some_iff.1 h
    obtain ⟨⟨⟨kind', content⟩, rest'⟩, hcontent, h⟩ := Option.bind_eq_some_iff.1 h
    simp only at h
    split at h
    · cases h
      exact Nat.lt_trans (length_of_member? hcontent) (length_of_member? hrecord)
    · cases h

/-- The entries of an archive. -/
def decode? (stream : Bytes) : Option (List (String × Bytes)) :=
  if stream = archiveEnd then some []
  else
    match found : entry? stream with
    | none => none
    | some (entry, rest) =>
      have := length_of_entry? found
      (decode? rest).map (entry :: ·)
termination_by stream.length

variable {block front header : Block} {kind : UInt8} {data blocks record rest stream : Bytes}
  {path : String} {entries entries' : List (String × Bytes)}

theorem length_of_filled (filled : Filled data blocks) : blocks.length = padded data.length := by
  obtain ⟨n, less, whole, rfl⟩ := filled
  simp only [padded, blockSize, List.length_append, Bytes.length_zeros] at less whole ⊢
  omega

/-- A member is decoded as its header describes it. -/
theorem member?_append (described : block.Describes kind data.length) (filled : Filled data blocks)
    (rest : Bytes) : member? (block ++ (blocks ++ rest)) = some ((kind, data), rest) := by
  have hheader : (block ++ (blocks ++ rest)).take blockSize = block := by
    rw [← described.length, List.take_left]
  have hbehind : (block ++ (blocks ++ rest)).drop blockSize = blocks ++ rest := by
    rw [← described.length, List.drop_left]
  have hlength := length_of_filled filled
  have hstream : blockSize ≤ (block ++ (blocks ++ rest)).length := by
    rw [List.length_append, described.length]
    exact Nat.le_add_right _ _
  have hmember : padded data.length ≤ (blocks ++ rest).length := by
    rw [List.length_append, hlength]
    exact Nat.le_add_right _ _
  have hdata : (blocks ++ rest).take data.length = data := by
    obtain ⟨n, -, -, rfl⟩ := filled
    rw [List.append_assoc, List.take_left]
  have hrest : (blocks ++ rest).drop (padded data.length) = rest := by
    rw [← hlength, List.drop_left]
  simp only [member?, hheader, hbehind, described.checksum, described.size, described.kind, hdata,
    hrest]
  rw [if_pos ⟨hstream, trivial, hmember⟩]
  rfl

/-- A record is decoded to its path, whatever characters are in it. -/
theorem recordedPath?_record (recorded : IsPathRecord path record) :
    recordedPath? record = some path := by
  have hkey : utf8 " path=" = 32 :: utf8 "path=" := by decide
  have hdigits : record.takeWhile (· != 32) = utf8 (Text.decimal record.length) := by
    conv => lhs; rw [recorded, hkey]
    simp only [List.append_assoc, List.cons_append]
    exact takeWhile_ne_append (not_mem_utf8_decimal record.length (by decide)) _
  have hnumber : Text.readUnsigned 10 record.length (Text.decimal record.length).toList =
      some record.length := by
    have hpadded :=
      Text.readUnsigned_padZeros 10 (by decide) (by decide) 0 (Nat.le_refl record.length)
    simpa [Text.padZeros, Text.decimal] using hpadded
  have hfields : record.drop (utf8 (Text.decimal record.length)).length =
      utf8 " path=" ++ (utf8 path ++ [10]) := by
    conv => lhs; arg 2; rw [recorded]
    simp only [List.append_assoc, List.drop_left]
  unfold recordedPath?
  simp only [hdigits, utf8Decode?_utf8, Option.bind_eq_bind, Option.bind_some, hnumber,
    List.take_length, hfields, List.drop_left, List.dropLast_concat]
  rw [if_pos (by simp)]

/-- An entry is decoded to its path and its content. -/
theorem entry?_append {recordBlocks contentBlocks content : Bytes}
    (described : front.Describes 120 record.length) (recorded : IsPathRecord path record)
    (recordFilled : Filled record recordBlocks) (regular : header.Describes 48 content.length)
    (contentFilled : Filled content contentBlocks) (rest : Bytes) :
    entry? (front ++ (recordBlocks ++ (header ++ (contentBlocks ++ rest)))) =
      some ((path, content), rest) := by
  unfold entry?
  simp only [member?_append described recordFilled, member?_append regular contentFilled,
    recordedPath?_record recorded, Option.bind_eq_bind, Option.bind_some, ne_eq, not_true_eq_false,
    if_false, if_true]

/-- A header of the standard form is not made of zeros. -/
theorem ne_archiveEnd (standard : block.isStandard = true) (rest : Bytes) :
    block ++ rest ≠ archiveEnd := by
  intro same
  have hletter : (117 : UInt8) ∈ block.magic := by
    rw [beq_iff_eq.1 standard]
    decide
  have hblock : (117 : UInt8) ∈ block := List.mem_of_mem_drop (List.mem_of_mem_take hletter)
  have hzero : (117 : UInt8) ∈ archiveEnd := same ▸ List.mem_append_left rest hblock
  exact absurd (List.eq_of_mem_replicate hzero) (by decide)

/-- An archive is decoded to the entries that it has the layout of. -/
theorem decode?_layout (layout : Layout entries stream) : decode? stream = some entries := by
  induction layout with
  | done =>
      rw [decode?]
      exact if_pos rfl
  | entry described recorded recordFilled regular named contentFilled others ih =>
      have hentry := entry?_append described recorded recordFilled regular contentFilled
      rw [decode?, if_neg (ne_archiveEnd described.standard _)]
      split
      next missing => simp [hentry] at missing
      next entry rest found =>
        rw [hentry] at found
        cases found
        rw [ih, Option.map_some]

/-- A stream has the layout of one list of entries at most. -/
theorem layout_unique (layout : Layout entries stream) (layout' : Layout entries' stream) :
    entries = entries' := by
  have hsame := decode?_layout layout
  rw [decode?_layout layout'] at hsame
  exact (Option.some.inj hsame).symm

end Decoder

end Tar

namespace Tarball

open Tar.Decoder (decode?)

/-- What is written for a list of entries has the layout of an archive of them. A decoder that goes
by the lengths of records gives them back, so that no other list is written as the same stream. -/
theorem entries_laid_out {base : String} {entries : List (String × Bytes)}
    (holdable : ∀ e ∈ joinedEntries base entries, Holdable e) :
    ∃ archive stream, writeEntries base entries = .ok archive ∧
      Gzip.gunzip archive = { bytes := stream } ∧ Tar.Layout (joinedEntries base entries) stream ∧
      decode? stream = some (joinedEntries base entries) ∧
      ∀ base' entries' archive', (∀ e ∈ joinedEntries base' entries', Holdable e) →
        writeEntries base' entries' = .ok archive' → Gzip.gunzip archive' = { bytes := stream } →
          joinedEntries base' entries' = joinedEntries base entries := by
  have hlayout := layout_entryStream holdable
  refine ⟨_, entryStream base entries, writeEntries_eq_ok base entries, Gzip.gunzip_gzip _, hlayout,
    Tar.Decoder.decode?_layout hlayout, ?_⟩
  intro base' entries' archive' holdable' written unpacked
  rw [writeEntries_eq_ok] at written
  cases written
  rw [Gzip.gunzip_gzip, ByteSource.mk.injEq] at unpacked
  have hlayout' := layout_entryStream holdable'
  rw [unpacked.1] at hlayout'
  exact Tar.Decoder.layout_unique hlayout' hlayout

/-- A path with a line feed and one that has more bytes than the name field are decoded as they were
written. -/
theorem entries_laid_out_hidden_record :
    (∀ e ∈ joinedEntries "b"
        [("a\n9 path=x", utf8 "hello"), (String.ofList (List.replicate 101 'é'), [])],
      Holdable e) ∧
    ∃ archive stream,
      writeEntries "b"
        [("a\n9 path=x", utf8 "hello"), (String.ofList (List.replicate 101 'é'), [])] =
        .ok archive ∧
      Gzip.gunzip archive = { bytes := stream } ∧
      decode? stream = some [("b/a\n9 path=x", utf8 "hello"),
        ("b/" ++ String.ofList (List.replicate 101 'é'), [])] := by
  have hjoined :
      joinedEntries "b"
        [("a\n9 path=x", utf8 "hello"), (String.ofList (List.replicate 101 'é'), [])] =
        [("b/a\n9 path=x", utf8 "hello"),
          ("b/" ++ String.ofList (List.replicate 101 'é'), [])] := by
    decide +kernel
  have hholdable :
      ∀ e ∈ joinedEntries "b"
        [("a\n9 path=x", utf8 "hello"), (String.ofList (List.replicate 101 'é'), [])],
        Holdable e := by
    rw [hjoined]
    simp only [List.forall_mem_cons, Holdable]
    decide +kernel
  obtain ⟨archive, stream, hwritten, hunpacked, -, hdecoded, -⟩ := entries_laid_out hholdable
  rw [hjoined] at hdecoded
  exact ⟨hholdable, archive, stream, hwritten, hunpacked, hdecoded⟩

end Tarball

end Northbound
