import Northbound.Package.Manifest

/-!
# Packages

A package is a directory of descriptors as a compressed archive. Its name is that of the directory,
serves as its ID on the server, and tells its kind by how it ends.
-/

namespace Northbound

/-- The kinds of packages. -/
inductive PackageKind where
  | vnf
  | ns
deriving DecidableEq, Repr

/-- The kind that a name tells: `_knf` ends the name of a network function, `_ns` that of a network
service. -/
def PackageKind.ofName? (name : String) : Option PackageKind :=
  if name.endsWith "_knf" then some .vnf
  else if name.endsWith "_ns" then some .ns
  else none

/-- A packed directory, ready to upload. -/
structure Package where
  name : String
  /-- The directory it was packed from. -/
  source : Path
  /-- The compressed archive. -/
  data : Bytes
  /-- The digest of the whole archive. -/
  hash : String
  manifest : Manifest

namespace Package

/-- The ID on the server. -/
def id (p : Package) : String := p.name

/-- The kind of a package. -/
def kind? (p : Package) : Option PackageKind := PackageKind.ofName? p.name

/-- A reader of the whole archive. -/
def reader (p : Package) : ByteSource := { bytes := p.data }

/-- The file name under which the archive is uploaded. -/
def archiveFileName (p : Package) : String := p.name ++ ".tar.gz"

end Package

end Northbound
