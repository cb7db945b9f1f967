import Northbound.Archive.EntryPath
import Northbound.Dictionary

/-!
# Checksum manifests

A manifest lists the digest of every file in a package, one line a file, sorted by path. Where no
path has a line feed, reading the lines back gives the digests and the full paths.
-/

namespace Northbound

/-- The digest of every file, by its path relative to the package. -/
structure Manifest where
  hashes : Dictionary String := []
deriving DecidableEq, Repr

namespace Manifest

/-- The name of the manifest in a package. -/
def fileName : String := "checksums.txt"

/-- Records the digest of a file, in place of an earlier one. -/
def record (m : Manifest) (path hash : String) : Manifest :=
  { hashes := m.hashes.insert path hash }

/-- The digest recorded of a file. -/
def fileHash? (m : Manifest) (path : String) : Option String := m.hashes.find? path

/-- The number of files recorded. -/
def size (m : Manifest) : Nat := m.hashes.length

/-- The paths recorded, in order. -/
def paths (m : Manifest) : List String := m.hashes.keys

/-- The manifest of a list of files. -/
def ofList (files : List (String × String)) : Manifest :=
  files.foldl (fun m f => m.record f.1 f.2) {}

/-- One line of a manifest. -/
def line (base path hash : String) : String :=
  hash ++ "\t" ++ joinArchivePath base path ++ "\n"

/-- The text of a manifest for a package. -/
def render (m : Manifest) (base : String) : String :=
  String.join (m.hashes.map fun f => line base f.1 f.2)

end Manifest

end Northbound
