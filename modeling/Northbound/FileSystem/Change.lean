import Northbound.FileSystem.Lookup

/-!
# Changing files

Operations that change a file system. An operation that fails may have done part of its work, so
each of them yields the file system it leaves along with its result.
-/

namespace Northbound

/-- An operation on a file system. -/
abbrev FileAction (α : Type) := ExceptT FileError (StateM FileSystem) α

namespace FileSystem

/-- The file system with a node put where names lead. -/
def put (fs : FileSystem) (names : List Bytes) (n : Node) : FileSystem :=
  { fs with root := n.put names fs.root }

/-- The path without the slashes at its end. -/
def withoutEndSlashes (p : Path) : Path :=
  if p.all (· == Path.slash) then p.take 1
  else (p.reverse.dropWhile (· == Path.slash)).reverse

/-- Where a directory that is to be made at a path would be. -/
def newDirectory (fs : FileSystem) (p : Path) : Except FileError (List Bytes) :=
  match fs.locate false (withoutEndSlashes p) with
  | .ok (.absent dir name) => .ok (dir ++ [name])
  | .ok (.present _) => .error .exists
  | .error e => .error e

/-- Makes a directory unless the path leads to one already. -/
def ensureDirectory (p : Path) : FileAction Unit := do
  match (← get).newDirectory p with
  | .ok names => modify fun fs => fs.put names .emptyDirectory
  | .error e => if (← get).isDirectory p then return () else throw e

/-- Makes a directory and its parents as far as they are missing. Every step takes a component off
the path, so `fuel` above their number is never used up. -/
def makeParents : Nat → Path → FileAction Unit
  | 0, _ => throw .noEntry
  | fuel + 1, p => do
    if p.isEmpty then return ()
    match (← get).newDirectory p with
    | .ok names => modify fun fs => fs.put names .emptyDirectory
    | .error .noEntry =>
      match Path.parent? p with
      | none => throw .noEntry
      | some parent =>
        makeParents fuel parent
        ensureDirectory p
    | .error e => if (← get).isDirectory p then return () else throw e

/-- Makes a directory and its parents as far as they are missing. -/
def makeDirectories (p : Path) : FileAction Unit := makeParents (p.length + 2) p

/-- Opens a file for writing: makes it if it is missing, else empties it. Yields its place. -/
def createFile (p : Path) : FileAction (List Bytes) := do
  let fs ← get
  match fs.locate true (withoutEndSlashes p) with
  | .error e => throw e
  | .ok (.absent dir name) =>
    if Path.endsInSlash p then throw .isDirectory
    else
      set (fs.put (dir ++ [name]) (.file [] {}))
      return dir ++ [name]
  | .ok (.present names) =>
    match fs.root.get? names with
    | some (.file _ a) =>
      if Path.endsInSlash p then throw .isDirectory
      else
        set (fs.put names (.file [] a))
        return names
    | some (.directory _ _) => throw .isDirectory
    | _ => throw .noDevice

/-- Replaces the content of the file at a place. -/
def writeAt (names : List Bytes) (content : Bytes) : FileAction Unit :=
  modify fun fs =>
    match fs.root.get? names with
    | some (.file _ a) => fs.put names (.file content a)
    | _ => fs

/-- Sets the permission bits of the file a path leads to. -/
def setMode (p : Path) (mode : Nat) : FileAction Unit := do
  let fs ← get
  match fs.resolve p with
  | .error e => throw e
  | .ok (names, .file content a) => set (fs.put names (.file content { a with mode }))
  | .ok _ => return ()

/-- Removes the node at a path, which is not a directory. -/
def removeFile (p : Path) : FileAction Unit := do
  let fs ← get
  match fs.locate false p with
  | .error e => throw e
  | .ok (.absent _ _) => throw .noEntry
  | .ok (.present names) => set { fs with root := fs.root.remove names }

end FileSystem

end Northbound
