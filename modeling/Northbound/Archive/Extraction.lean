import Northbound.Archive.Entries
import Northbound.FileSystem.Change

/-!
# Extracting archives

The files and directories of an archive are made anew below a destination directory. A path that
would climb out of the destination is refused before anything is done for its entry; entries of
other kinds are passed over.
-/

namespace Northbound

/-- An operation on files that fails for a reason of archives. -/
abbrev ExtractAction (α : Type) := ExceptT ArchiveError (StateM FileSystem) α

namespace Tarball

/-- An operation on files, as part of an extraction. -/
def onFiles {α : Type} (action : FileAction α) : ExtractAction α := fun fs =>
  match action fs with
  | (.ok a, fs) => (.ok a, fs)
  | (.error e, fs) => (.error (.file e), fs)

/-- The names of a path without root and dots, unless the path climbs. -/
def ordinaryNames : List Component → Option (List Bytes)
  | [] => some []
  | .parent :: _ => none
  | .name s :: cs => (ordinaryNames cs).map (s :: ·)
  | _ :: cs => ordinaryNames cs

/-- Where an entry goes. No destination leaves archive paths as they are; otherwise they are taken
relative to it, and have to name something in it. -/
def targetPath (dest archivePath : Path) : Except ArchiveError Path :=
  if dest.isEmpty then .ok archivePath
  else
    match ordinaryNames (Path.components archivePath) with
    | none => .error (.invalidPath archivePath)
    | some [] => .error (.invalidPath archivePath)
    | some names => .ok (Path.join dest (Path.ofComponents (names.map .name)))

/-- The permission bits that an archive may set. -/
def permissionBits (mode : Nat) : Nat := mode % 0o1000

/-- Makes a file of a regular entry: the directories above it, its content as far as it can be read,
and its permissions. -/
def extractFile (member : Tar.Member) (target : Path) (a : Tar.Archive) :
    ExtractAction Tar.Archive := do
  match Path.parent? target with
  | some parent => if parent.isEmpty then pure () else onFiles (FileSystem.makeDirectories parent)
  | none => pure ()
  let names ← onFiles (FileSystem.createFile target)
  let ((content, failure?), a) := a.supply member.size
  onFiles (FileSystem.writeAt names content)
  match failure? with
  | some reason => throw (.stream (.source reason))
  | none =>
    match member.mode with
    | .error f => throw (.stream f)
    | .ok mode =>
      onFiles (FileSystem.setMode target (permissionBits mode))
      return a

/-- Extracts one member. -/
def extractMember (dest : Path) (member : Tar.Member) (a : Tar.Archive) :
    ExtractAction Tar.Archive := do
  match targetPath dest member.path with
  | .error e => throw e
  | .ok target =>
    match member.kind with
    | .directory =>
      onFiles (FileSystem.makeDirectories target)
      return a
    | .regular => extractFile member target a
    | _ => return a

/-- Extracts the members from here on. Every round reads a header, so `fuel` above the number of
blocks in the archive is never used up. -/
def extractFrom (dest : Path) : Nat → Tar.Archive → ExtractAction Unit
  | 0, _ => return ()
  | fuel + 1, a => do
    match Tar.Reader.member? a with
    | (.error f, _) => throw (.stream f)
    | (.ok none, _) => return ()
    | (.ok (some member), a) =>
      let a ← extractMember dest member a
      extractFrom dest fuel a

/-- Recreates the files of a compressed archive below a directory. -/
def extract (stream : Bytes) (dest : Path) : ExtractAction Unit :=
  let a := opened stream
  extractFrom dest (memberBound a) a

/-- Extracts the archive in a file. -/
def extractFileAt (tarball dest : Path) : ExtractAction Unit := do
  match (← get).read tarball with
  | .error e => throw (.file e)
  | .ok stream => extract stream dest

end Tarball

end Northbound
