import Northbound.FileSystem.Lookup
import Northbound.Tar.Archive

/-!
# Failures of archive operations
-/

namespace Northbound

/-- Why an archive could not be written, read or extracted. -/
inductive ArchiveError where
  /-- The file system refused an operation. -/
  | file (error : FileError)
  /-- The archive read is broken. -/
  | stream (fault : Tar.Fault)
  /-- The sink written to takes no more bytes. -/
  | sinkFull
  /-- A directory of a tree could not be listed. -/
  | walk (path : Path) (error : FileError)
  | notADirectory (path : Path)
  | invalidPath (path : Path)
  | unsupportedEntry (path : Path)
deriving DecidableEq, Repr

namespace ArchiveError

/-- What goes before the reason of a failed read or write. -/
def ioText (reason : String) : String := "archive I/O error: " ++ reason

/-- The wording of a failure. Paths are shown as text as far as they are. -/
def message : ArchiveError → String
  | .file e => ioText e.message
  | .stream f => ioText f.message
  | .sinkFull => ioText "sink full"
  | .walk p e =>
    "failed to walk source tree: IO error for operation on " ++ Text.lossy p ++ ": " ++ e.message
  | .notADirectory p => "not a directory: " ++ Text.lossy p
  | .invalidPath p => "invalid path: " ++ Text.lossy p
  | .unsupportedEntry p => "neither a regular file nor a directory: " ++ Text.lossy p

end ArchiveError

end Northbound
