import Northbound.Archive.Walk
import Northbound.Checksum.Md5
import Northbound.Package.Basic

/-!
# Packing directories

A directory is packed into an archive whose entries lie below a directory of its name; the last
entry is the manifest of all others. The first failure ends the packing and gives no package.
-/

namespace Northbound

namespace Package

/-- Records the digest of every file visited. -/
def recordVisit : OnVisit Manifest
  | relative, .file content, m => (.ok (), m.record relative (Checksum.Md5.hex content))
  | _, .directory, m => (.ok (), m)

/-- A path made absolute from the working directory. -/
def absoluteSource (fs : FileSystem) (path : Path) : Except ArchiveError Path :=
  match Path.absolute? fs.workingPath path with
  | none => .error (.file .emptyPath)
  | some source => .ok source

/-- The name of the package in a directory: the last name of its path, which has to be text. -/
def nameOf? (source : Path) : Option String := (Path.fileName? source).bind utf8Decode?

/-- Packs the directory at an absolute path under a name. -/
def packAs (fs : FileSystem) (source : Path) (name : String) : Except ArchiveError Package :=
  match TarballWriter.addTree { base := name } fs source recordVisit {} with
  | (.error e, _, _) => .error e
  | (.ok (), w, manifest) => do
    let w ← w.addEntry Manifest.fileName (utf8 (manifest.render name))
    let data ← w.finish
    return { name, source, data, hash := Checksum.Md5.hex data, manifest }

/-- Packs the directory at a path. -/
def pack (fs : FileSystem) (path : Path) : Except ArchiveError Package := do
  let source ← absoluteSource fs path
  if !fs.isDirectory source then throw (.notADirectory source)
  match nameOf? source with
  | none => throw (.invalidPath source)
  | some name => packAs fs source name

end Package

end Northbound
