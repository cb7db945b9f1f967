import Northbound.Archive.EntryPath
import Northbound.Gzip

/-!
# Writing archives

Entries are written below a base directory, one after the other. The path of an entry stands in an
extended record in front of it, so it can have any length; the name field of its own header holds
as much of it as fits.
-/

namespace Northbound

/-- Data followed by zeros up to a whole block. -/
def padToBlock (content : Bytes) : Bytes :=
  content ++ Bytes.zeros ((Tar.blockSize - content.length % Tar.blockSize) % Tar.blockSize)

/-- The key of the record that holds a path. -/
def pathKey : Bytes := utf8 "path"

/-- The member with the record of a path. -/
def pathMember (path : String) : Bytes :=
  let data := Tar.Record.line ⟨pathKey, utf8 path⟩
  let header : Tar.Header := { size := data.length, typeByte := 120 }
  header.render ++ padToBlock data

/-- The member of a regular file. -/
def fileMember (header : Tar.Header) (path : String) (content : Bytes) : Bytes :=
  let header := { header with name := namePlaceholder path, size := content.length }
  header.render ++ padToBlock content

/-- What ends an archive: two blocks of zeros. -/
def archiveEnd : Bytes := Bytes.zeros (2 * Tar.blockSize)

/-- An archive in the making: its base directory, its blocks so far, and how many compressed bytes
its sink takes, if that is limited. -/
structure TarballWriter where
  base : String
  blocks : Bytes := []
  capacity? : Option Nat := none

namespace TarballWriter

/-- Whether the sink takes `n` bytes. -/
def hasRoom (w : TarballWriter) (n : Nat) : Bool :=
  match w.capacity? with
  | none => true
  | some c => n ≤ c

/-- Appends a file. The header of the compressed stream goes out with the first bytes, and a sink
with a limit is asked for that much. When a compressor hands out the rest is its own affair, so what
is stated of appending is stated of sinks without a limit. -/
def append (w : TarballWriter) (path : String) (header : Tar.Header) (content : Bytes) :
    Except ArchiveError TarballWriter :=
  if w.hasRoom Gzip.header.length then
    let path := joinArchivePath w.base path
    .ok { w with blocks := w.blocks ++ (pathMember path ++ fileMember header path content) }
  else .error .sinkFull

/-- The header of an entry that is made up: readable by all, at the start of time. -/
def entryHeader : Tar.Header := { mode? := some 0o644 }

/-- Writes content at a path below the base directory. -/
def addEntry (w : TarballWriter) (path : String) (content : Bytes) :
    Except ArchiveError TarballWriter :=
  w.append path entryHeader content

/-- The type bits of a regular file. -/
def regularFileBits : Nat := 0o100000

/-- The header of an entry that comes from a file: the whole mode, the owner and the group, and the
time, as a 64-bit word. A regular file stands for no device, which is written as zeros. -/
def fileHeader (a : FileAttributes) : Tar.Header :=
  { mode? := some (regularFileBits + a.mode)
    owner? := some a.owner
    group? := some a.group
    mtime := (a.mtime % Nat.pow 2 64).toNat
    deviceMajor? := some 0
    deviceMinor? := some 0 }

/-- Archives a file, given what was known of it before it is read: whether it is one, and its
attributes. Yields the content too. -/
def addFile (w : TarballWriter) (fs : FileSystem) (path : String) (file : Path)
    (attributes? : Option FileAttributes) : Except ArchiveError (Bytes × TarballWriter) :=
  match attributes? with
  | none => .error (.unsupportedEntry file)
  | some a =>
    match fs.read file with
    | .error e => .error (.file e)
    | .ok content => do
      let w ← w.append path (fileHeader a) content
      return (content, w)

/-- The blocks of the finished archive. -/
def tarStream (w : TarballWriter) : Bytes := w.blocks ++ archiveEnd

/-- Ends the archive and yields the compressed stream. -/
def finish (w : TarballWriter) : Except ArchiveError Bytes :=
  let data := Gzip.gzip w.tarStream
  if w.hasRoom data.length then .ok data else .error .sinkFull

end TarballWriter

end Northbound
