import Northbound.Archive.Error
import Northbound.Gzip

/-!
# Reading the entries of an archive

The regular files of an archive are handed one by one to an action that may read as much of their
data as it likes, and may refuse to go on.
-/

namespace Northbound

/-- The archive being read, how much of the present entry's data is left, and what the action keeps
for itself. -/
structure EntryState (σ : Type) where
  archive : Tar.Archive
  remaining : Nat
  memory : σ

/-- An action on an entry. -/
abbrev EntryAction (σ α : Type) := ExceptT ArchiveError (StateM (EntryState σ)) α

namespace EntryAction

variable {σ : Type}

/-- Reads up to `limit` bytes of the entry, or all that is left of it. -/
def readData (limit? : Option Nat) : EntryAction σ Bytes := fun s =>
  let wanted := min s.remaining (limit?.getD s.remaining)
  match s.archive.supply wanted with
  | ((bs, none), archive) => (.ok bs, { s with archive, remaining := s.remaining - bs.length })
  | ((bs, some reason), archive) =>
    (.error (.stream (.source reason)), { s with archive, remaining := s.remaining - bs.length })

/-- Changes what the action keeps for itself. -/
def note (f : σ → σ) : EntryAction σ Unit := modify fun s => { s with memory := f s.memory }

end EntryAction

namespace Tarball

variable {σ : Type}

/-- The archive in a compressed stream. -/
def opened (stream : Bytes) : Tar.Archive := { source := Gzip.gunzip stream }

/-- A bound on the number of members in an archive. -/
def memberBound (a : Tar.Archive) : Nat := a.source.bytes.length / Tar.blockSize + 2

/-- Runs an action on each regular file from here on. Every round reads a header, so `fuel` above
the number of blocks in the archive is never used up. -/
def forEachFrom (action : String → EntryAction σ Unit) :
    Nat → Tar.Archive → σ → Except ArchiveError Unit × σ
  | 0, _, m => (.ok (), m)
  | fuel + 1, a, m =>
    match Tar.Reader.member? a with
    | (.error f, _) => (.error (.stream f), m)
    | (.ok none, _) => (.ok (), m)
    | (.ok (some member), a) =>
      if member.kind = .regular then
        match action (Text.lossy member.path)
          { archive := a, remaining := member.size, memory := m }
          with
        | (.error e, s) => (.error e, s.memory)
        | (.ok (), s) => forEachFrom action fuel s.archive s.memory
      else forEachFrom action fuel a m

/-- Runs an action on each regular file of a compressed archive, in order. The first error stops the
iteration and is its result. -/
def forEachEntry (stream : Bytes) (action : String → EntryAction σ Unit) (m : σ) :
    Except ArchiveError Unit × σ :=
  let a := opened stream
  forEachFrom action (memberBound a) a m

end Tarball

end Northbound
