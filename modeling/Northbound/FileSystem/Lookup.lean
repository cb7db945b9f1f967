import Northbound.FileSystem.Node
import Northbound.Text.Number

/-!
# Finding files

A path is followed from the root or the working directory name by name, through symbolic links. The
place it leads to is a list of names from the root with no dots and no links in it.
-/

namespace Northbound

/-- Why the file system refuses an operation. -/
inductive FileError where
  | noEntry
  | noDevice
  | permission
  | exists
  | notDirectory
  | isDirectory
  | nameTooLong
  | tooManyLinks
  | nulInPath
  | emptyPath
  | notText
deriving DecidableEq, Repr

/-- The text of a refusal by the system, with its number. -/
def systemMessage (text : String) (number : Nat) : String :=
  text ++ " (os error " ++ Text.decimal number ++ ")"

/-- The wording of an error. -/
def FileError.message : FileError → String
  | .noEntry => systemMessage "No such file or directory" 2
  | .noDevice => systemMessage "No such device or address" 6
  | .permission => systemMessage "Permission denied" 13
  | .exists => systemMessage "File exists" 17
  | .notDirectory => systemMessage "Not a directory" 20
  | .isDirectory => systemMessage "Is a directory" 21
  | .nameTooLong => systemMessage "File name too long" 36
  | .tooManyLinks => systemMessage "Too many levels of symbolic links" 40
  | .nulInPath => "file name contained an unexpected NUL byte"
  | .emptyPath => "cannot make an empty path absolute"
  | .notText => "stream did not contain valid UTF-8"

/-- A file tree with a working directory. -/
structure FileSystem where
  root : Node := .emptyDirectory
  workingDirectory : List Bytes := []

/-- Where a path leads. -/
inductive Place where
  /-- To a node. -/
  | present (names : List Bytes)
  /-- To no node, but to a directory that could hold one. -/
  | absent (directory : List Bytes) (name : Bytes)
deriving DecidableEq, Repr

namespace FileSystem

/-- The working directory as a path. -/
def workingPath (fs : FileSystem) : Path :=
  if fs.workingDirectory.isEmpty then [Path.slash]
  else fs.workingDirectory.flatMap fun n => Path.slash :: n

/-- The most links that are followed on one path. -/
def maxLinks : Nat := 40

/-- The longest name. -/
def maxName : Nat := 255

/-- The longest path, without the NUL that ends it. -/
def maxPath : Nat := 4095

/-- Follows names from the place reached, through at most `links` links. A link at the end of a path
is followed if `follow` is set or a slash stands after it; a path that ends in a slash has to lead
to a directory. -/
def walk (root : Node) (follow : Bool) :
    (links : Nat) → (reached todo : List Bytes) → (slash : Bool) → Except FileError Place
  | _, reached, [], slash =>
    match root.get? reached with
    | none => .error .noEntry
    | some n => if slash && !n.isDirectory then .error .notDirectory else .ok (.present reached)
  | links, reached, name :: rest, slash =>
    match root.get? reached with
    | none => .error .noEntry
    | some here =>
      if !here.isDirectory then .error .notDirectory
      else if name = Path.dot then walk root follow links reached rest slash
      else if name = Path.dotDot then walk root follow links reached.dropLast rest slash
      else if maxName < name.length then .error .nameTooLong
      else
        match here.children.lookup name with
        | none => if rest.isEmpty then .ok (.absent reached name) else .error .noEntry
        | some (.link target) =>
          if rest.isEmpty && !follow && !slash then .ok (.present (reached ++ [name]))
          else
            match links with
            | 0 => .error .tooManyLinks
            | links + 1 =>
              walk root follow links (if Path.isAbsolute target then [] else reached)
                (Path.segments target ++ rest)
                (slash || (rest.isEmpty && Path.endsInSlash target))
        | some _ => walk root follow links (reached ++ [name]) rest slash
termination_by links _ todo _ => (links, todo.length)

/-- Where a path leads. -/
def locate (fs : FileSystem) (follow : Bool) (p : Path) : Except FileError Place :=
  if p.contains 0 then .error .nulInPath
  else if p.isEmpty then .error .noEntry
  else if maxPath < p.length then .error .nameTooLong
  else walk fs.root follow maxLinks (if Path.isAbsolute p then [] else fs.workingDirectory)
    (Path.segments p) (Path.endsInSlash p)

/-- The node a path leads to, through all links, and its place. -/
def resolve (fs : FileSystem) (p : Path) : Except FileError (List Bytes × Node) := do
  match ← fs.locate true p with
  | .present names =>
    match fs.root.get? names with
    | some n => return (names, n)
    | none => throw .noEntry
  | .absent _ _ => throw .noEntry

/-- Whether a path leads to a directory. -/
def isDirectory (fs : FileSystem) (p : Path) : Bool :=
  match fs.resolve p with
  | .ok (_, n) => n.isDirectory
  | .error _ => false

/-- The content of the file a path leads to. -/
def read (fs : FileSystem) (p : Path) : Except FileError Bytes := do
  match (← fs.resolve p).2 with
  | .file content a => if a.readable then return content else throw .permission
  | .directory _ _ => throw .isDirectory
  | _ => throw .noDevice

/-- The attributes of the file a path leads to, nothing if it leads to another node. -/
def attributes (fs : FileSystem) (p : Path) : Except FileError (Option FileAttributes) := do
  match ← fs.resolve p with
  | (_, .file _ a) => return some a
  | _ => return none

/-- The text of the file a path leads to. -/
def readText (fs : FileSystem) (p : Path) : Except FileError String := do
  match utf8Decode? (← fs.read p) with
  | some s => return s
  | none => throw .notText

end FileSystem

end Northbound
