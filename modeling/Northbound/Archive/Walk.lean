import Northbound.Archive.Writer

/-!
# Walking a tree

The nodes below a directory are visited in pre-order, those of one directory by the byte order of
their names, whatever order the file system lists them in. Regular files are archived and
directories are only passed through; the first node that is neither, and the first failure of any
kind, ends the walk.
-/

namespace Northbound

/-- What is found at a node. -/
inductive Visit where
  | file (content : Bytes)
  | directory
deriving DecidableEq, Repr

/-- One step of a walk. -/
inductive WalkStep where
  | file (relative : String) (content : Bytes) (attributes : FileAttributes)
  | directory (relative : String)
  | failure (error : ArchiveError)

namespace WalkStep

/-- Steps with the name of the node they start at. -/
abbrev Named := Bytes × List WalkStep

/-- The steps of children, by the byte order of their names. -/
def inOrder (children : List Named) : List WalkStep :=
  (children.mergeSort fun a b => Bytes.le a.1 b.1).flatMap Prod.snd

mutual

/-- The steps at a node whose path is `path` and below it. Listings and contents are those of the
tree. A node that is not readable stands for all that keeps the system from listing or reading it,
a path that is too long among them. -/
def ofNode (root path : Path) : Node → List WalkStep
  | .file content a =>
    match relativeArchivePath root path with
    | .error e => [.failure e]
    | .ok relative =>
      if a.readable then [.file relative content a] else [.failure (.file .permission)]
  | .directory readable children =>
    match relativeArchivePath root path with
    | .error e => [.failure e]
    | .ok relative =>
      .directory relative ::
        (if readable then inOrder (ofChildren root path children)
         else [.failure (.walk path .permission)])
  | .link _ => unsupported root path
  | .special => unsupported root path

/-- The steps of each child of a directory. -/
def ofChildren (root path : Path) : List (Bytes × Node) → List Named
  | [] => []
  | (name, n) :: rest =>
    (name, ofNode root (Path.join path name) n) :: ofChildren root path rest

/-- The step at a node that cannot be archived. Its path is looked at first. -/
def unsupported (root path : Path) : List WalkStep :=
  match relativeArchivePath root path with
  | .error e => [.failure e]
  | .ok _ => [.failure (.unsupportedEntry path)]

end

/-- The steps of a walk from a directory; below anything else there is nothing to visit. -/
def ofSource (fs : FileSystem) (source : Path) : List WalkStep :=
  match fs.resolve source with
  | .error e => [.failure (.walk source e)]
  | .ok (_, .directory readable children) =>
    if readable then inOrder (ofChildren source source children)
    else [.failure (.walk source .permission)]
  | .ok _ => []

end WalkStep

/-- What is told of each node visited; it may refuse to go on. -/
abbrev OnVisit (σ : Type) := String → Visit → σ → Except ArchiveError Unit × σ

namespace TarballWriter

variable {σ : Type}

/-- Archives the files of a walk and tells of each node, up to the first failure. A file is archived
before it is told of. -/
def addSteps (onVisit : OnVisit σ) :
    List WalkStep → TarballWriter → σ → Except ArchiveError Unit × TarballWriter × σ
  | [], w, s => (.ok (), w, s)
  | .failure e :: _, w, s => (.error e, w, s)
  | .directory relative :: rest, w, s =>
    match onVisit relative .directory s with
    | (.error e, s) => (.error e, w, s)
    | (.ok (), s) => addSteps onVisit rest w s
  | .file relative content a :: rest, w, s =>
    match w.append relative (fileHeader a) content with
    | .error e => (.error e, w, s)
    | .ok w =>
      match onVisit relative (.file content) s with
      | (.error e, s) => (.error e, w, s)
      | (.ok (), s) => addSteps onVisit rest w s

/-- Archives the tree below a directory. -/
def addTree (w : TarballWriter) (fs : FileSystem) (source : Path) (onVisit : OnVisit σ) (s : σ) :
    Except ArchiveError Unit × TarballWriter × σ :=
  addSteps onVisit (WalkStep.ofSource fs source) w s

end TarballWriter

end Northbound
