import Northbound.FileSystem.Path

/-!
# File trees

What a file system holds at a place: a file with content, permissions and time, a directory of
named nodes in the order in which it happens to list them, a symbolic link, or something special.
-/

namespace Northbound

/-- What stands beside a file's content. -/
structure FileAttributes where
  /-- The twelve permission bits. -/
  mode : Nat := 0o644
  /-- The time of the last change in Unix seconds. -/
  mtime : Int := 0
  /-- The user it belongs to. -/
  owner : UInt32 := 0
  group : UInt32 := 0
  /-- Whether the system reads it. It is not readable if the system refuses that for any reason. -/
  readable : Bool := true
deriving DecidableEq, Repr, Inhabited

/-- A node of a file system. -/
inductive Node where
  | file (content : Bytes) (attributes : FileAttributes)
  | directory (readable : Bool) (children : List (Bytes × Node))
  | link (target : Path)
  | special
deriving Inhabited

namespace Node

/-- An empty directory. -/
def emptyDirectory : Node := .directory true []

/-- The children of a directory; other nodes have none. -/
def children : Node → List (Bytes × Node)
  | .directory _ cs => cs
  | _ => []

def isDirectory : Node → Bool
  | .directory _ _ => true
  | _ => false

def isFile : Node → Bool
  | .file _ _ => true
  | _ => false

/-- The node reached through directories by names. -/
def get? : Node → List Bytes → Option Node
  | n, [] => some n
  | n, x :: xs => do
    let child ← n.children.lookup x
    child.get? xs
termination_by _ names => names.length

/-- Children with one replaced, or appended if there was none of its name. -/
def replaceChild (name : Bytes) (n : Node) : List (Bytes × Node) → List (Bytes × Node)
  | [] => [(name, n)]
  | (k, m) :: rest => if k = name then (k, n) :: rest else (k, m) :: replaceChild name n rest

/-- The tree with a node put where names lead. All directories on the way must be there. -/
def put (new : Node) : List Bytes → Node → Node
  | [], _ => new
  | x :: xs, .directory r cs =>
    match cs.lookup x with
    | some child => .directory r (replaceChild x (put new xs child) cs)
    | none => if xs.isEmpty then .directory r (replaceChild x new cs) else .directory r cs
  | _ :: _, n => n

/-- The tree without the node where names lead. -/
def remove : List Bytes → Node → Node
  | [], n => n
  | [x], .directory r cs => .directory r (cs.filter fun c => c.1 ≠ x)
  | x :: xs, .directory r cs =>
    match cs.lookup x with
    | some child => .directory r (replaceChild x (remove xs child) cs)
    | none => .directory r cs
  | _ :: _, n => n

end Node

end Northbound
