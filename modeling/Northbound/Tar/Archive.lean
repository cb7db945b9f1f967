import Northbound.ByteSource
import Northbound.Tar.Header
import Northbound.Tar.Record

/-!
# Reading archives

An archive is read from a byte source member by member. Members that describe the next one (long
names, extended records) are read along with it. A member's data is read on demand; what is left of
it, and its padding, is skipped on the way to the next header. The archive ends at the first block
of zeros or where the source ends.
-/

namespace Northbound.Tar

/-- Why an archive cannot be read on. -/
inductive Fault where
  | source (reason : String)
  | partialBlock
  | number (fault : NumberFault) (field : String) (owner : String)
  | wrongChecksum
  | sizeOverflow
  | cutData
  | twoLongNames
  | twoRecordLists
  | nothingDescribed
  | sparseHeader
  | sparseAlignment
  | sparseOrder
  | sparseOverflow
  | sparseExcess
  | sparseExtension
  | sparseFileSize
  | sparseEntrySize
deriving DecidableEq, Repr

/-- The wording of a fault. -/
def Fault.message : Fault → String
  | .source reason => reason
  | .partialBlock => "failed to read entire block"
  | .number fault field owner => fault.message ++ " when getting " ++ field ++ owner
  | .wrongChecksum => "archive header checksum mismatch"
  | .sizeOverflow => "size overflow"
  | .cutData => "unexpected EOF during skip"
  | .twoLongNames => "two long name entries describing the same member"
  | .twoRecordLists => "two pax extensions entries describing the same member"
  | .nothingDescribed =>
    "members found describing a future member but no future member found"
  | .sparseHeader => "sparse entry type listed but not GNU header"
  | .sparseAlignment => "previous block in sparse file was not aligned to 512-byte boundary"
  | .sparseOrder => "out of order or overlapping sparse blocks"
  | .sparseOverflow => "more bytes listed in sparse file than u64 can hold"
  | .sparseExcess => "sparse file consumed more data than the header listed"
  | .sparseExtension => "failed to read extension"
  | .sparseFileSize => "mismatch in sparse file chunks and size in header"
  | .sparseEntrySize => "mismatch in sparse file chunks and entry size in header"

/-- A position in an archive: what is left of the source, how many bytes were read, and where the
next header starts. -/
structure Archive where
  source : ByteSource
  position : Nat := 0
  next : Nat := 0

/-- A step of reading an archive. -/
abbrev Reader (α : Type) := ExceptT Fault (StateM Archive) α

/-- The next `n` bytes of the source, or what there is before it ends or fails. -/
def Archive.supply (n : Nat) (a : Archive) : (Bytes × Option String) × Archive :=
  let (supplied, source) := a.source.supply n
  (supplied, { a with source, position := a.position + supplied.1.length })

namespace Reader

/-- Reads `n` bytes, or what there is before the source ends. -/
def upTo (n : Nat) : Reader Bytes := fun a =>
  match a.supply n with
  | ((bs, none), a) => (.ok bs, a)
  | ((_, some reason), a) => (.error (.source reason), a)

/-- Reads a block, or nothing if the source ends here. -/
def block? : Reader (Option Block) := do
  let bs ← upTo blockSize
  if bs.isEmpty then return none
  else if bs.length < blockSize then throw .partialBlock
  else return some bs

/-- Skips to where the next header starts. -/
def skipToNext : Reader Unit := do
  let a ← get
  let gap := a.next - a.position
  let bs ← upTo gap
  if bs.length < gap then throw .cutData

end Reader

/-- A member with its header, its path and the size of its data. -/
structure Member where
  header : Block
  path : Bytes
  size : Nat

namespace Member

/-- The kind of a member. -/
def kind (m : Member) : MemberKind := m.header.kind

/-- The permission bits of a member, of which the low 32 bits count. -/
def mode (m : Member) : Except Fault Nat :=
  match readOctal m.header.mode with
  | .ok n => .ok (n % Nat.pow 2 32)
  | .error f => .error (.number f "mode" (" for " ++ Text.lossy m.header.path))

end Member

/-- What members read before tell about the next one. -/
structure Description where
  longName? : Option Bytes := none
  longLink? : Option Bytes := none
  records? : Option Bytes := none

/-- Whether there is anything described. -/
def Description.isEmpty (d : Description) : Bool :=
  d.longName?.isNone && d.longLink?.isNone && d.records?.isNone

/-- The path of the member with the given header. -/
def Description.path (d : Description) (header : Block) : Bytes :=
  match d.longName? with
  | some name => if name.getLast? = some 0 then name.dropLast else name
  | none => ((d.records?.bind recordedPath?)).getD header.path

namespace Reader

/-- Reads a numeric field of a header. -/
def number (read : Bytes → Except NumberFault Nat) (header : Block) (field : Bytes)
    (name : String) : Reader Nat :=
  match read field with
  | .ok n => return n
  | .error f => throw (.number f name (" for " ++ Text.lossy header.path))

/-- The size of data together with its padding. -/
def padded (size : Nat) : Nat := (size + (blockSize - 1)) / blockSize * blockSize

/-- Reads a header and the size of the data after it, and notes where the next header starts. -/
def header? (d : Description) : Reader (Option (Block × Nat)) := do
  skipToNext
  match ← block? with
  | none => return none
  | some b =>
    if b.isZero then return none
    else
      modify fun a => { a with next := a.next + blockSize }
      let sum ← number readOctal b b.checksumField "cksum"
      if sum % Nat.pow 2 32 ≠ b.sum then throw .wrongChecksum
      let own ← number readNumber b b.size "size"
      let size := ((d.records?.bind recordedSize?)).getD own
      if Text.maxWord < size + (blockSize - 1) then throw .sizeOverflow
      let next := (← get).next + padded size
      if Text.maxWord < next then throw .sizeOverflow
      modify fun a => { a with next }
      return some (b, size)

/-- What is known of a sparse file while its pieces are listed: where the last one ended, and how
much data is not accounted for. -/
structure SparseState where
  current : Nat := 0
  remaining : Nat

/-- Checks one piece of a sparse file: twelve bytes of offset and twelve of length. A piece with an
empty field is none. -/
def sparsePiece (size : Nat) (s : SparseState) (piece : Bytes) : Reader SparseState := do
  let offsetField := piece.take 12
  let lengthField := piece.drop 12
  if offsetField.headD 0 = 0 ∨ lengthField.headD 0 = 0 then return s
  else
    let read (field : Bytes) (name : String) : Reader Nat :=
      match readOctal field with
      | .ok n => return n
      | .error f => throw (.number f name " from sparse header")
    let offset ← read offsetField "offset"
    let length ← read lengthField "length"
    if length ≠ 0 ∧ (size - s.remaining) % blockSize ≠ 0 then throw .sparseAlignment
    else if offset < s.current then throw .sparseOrder
    else if Text.maxWord < offset + length then throw .sparseOverflow
    else if s.remaining < length then throw .sparseExcess
    else return { current := offset + length, remaining := s.remaining - length }

/-- The pieces listed in a byte string, 24 bytes each. -/
def sparsePieces : Nat → Bytes → List Bytes
  | 0, _ => []
  | n + 1, bs => bs.take 24 :: sparsePieces n (bs.drop 24)

/-- Checks pieces one after the other. -/
def checkPieces (size : Nat) (s : SparseState) (pieces : List Bytes) : Reader SparseState :=
  pieces.foldlM (sparsePiece size) s

/-- Checks the pieces in extension blocks, as long as there are more. Every block is read from the
source, so `fuel` above the number of blocks in it is never used up. -/
def sparseExtensions (size : Nat) : Nat → SparseState → Reader SparseState
  | 0, _ => throw .sparseExtension
  | fuel + 1, s => do
    match ← block? with
    | none => throw .sparseExtension
    | some b =>
      modify fun a => { a with next := a.next + blockSize }
      let s ← checkPieces size s (sparsePieces 21 b)
      if (b.field 504 1).headD 0 = 1 then sparseExtensions size fuel s else return s

/-- Checks the list of pieces of a sparse file; any other member is accepted. -/
def checkSparse (b : Block) (size : Nat) : Reader Unit := do
  if b.kind ≠ .sparse then return ()
  else if !b.isGnu then throw .sparseHeader
  else
    let s ← checkPieces size { remaining := size } (sparsePieces 4 (b.drop 386))
    let more := (b.field 482 1).headD 0 = 1
    let s ← if more then
        sparseExtensions size ((← get).source.bytes.length / blockSize + 2) s
      else pure s
    match readOctal (b.field 483 12) with
    | .error f =>
      throw (.number f "real_size" (" for " ++ Text.lossy b.groupName.untilNul ++ ":" ++
        Text.lossy b.userName.untilNul))
    | .ok total =>
      if s.current ≠ total then throw .sparseFileSize
      else if 0 < s.remaining then throw .sparseEntrySize

/-- Reads on to the next member that is no mere description. Every round reads a header, so `fuel`
above the number of blocks in the source is never used up. -/
def memberAfter : Nat → Description → Reader (Option Member)
  | 0, _ => return none
  | fuel + 1, d => do
    match ← header? d with
    | none => if d.isEmpty then return none else throw .nothingDescribed
    | some (b, size) =>
      let recognised := b.isStandard || b.isGnu
      if recognised && b.kind == .longName then
        if d.longName?.isSome then throw .twoLongNames
        else memberAfter fuel { d with longName? := some (← upTo size) }
      else if recognised && b.kind == .longLink then
        if d.longLink?.isSome then throw .twoLongNames
        else memberAfter fuel { d with longLink? := some (← upTo size) }
      else if recognised && b.kind == .extendedRecords then
        if d.records?.isSome then throw .twoRecordLists
        else memberAfter fuel { d with records? := some (← upTo size) }
      else
        checkSparse b size
        return some { header := b, path := d.path b, size }

/-- Reads on to the next member. -/
def member? : Reader (Option Member) := do
  memberAfter ((← get).source.bytes.length / blockSize + 2) {}

end Reader

end Northbound.Tar
