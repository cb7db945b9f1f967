import Northbound.Bytes

/-!
# Paths

A path is a byte string whose names are separated by slashes. Repeated slashes count as one, and a
dot counts only at the very start, so that a path has one sequence of components however it is
written.
-/

namespace Northbound

/-- A path as written. -/
abbrev Path := Bytes

/-- A part of a path. -/
inductive Component where
  | root
  | here
  | parent
  | name (bytes : Bytes)
deriving DecidableEq, Repr

namespace Path

/-- The byte between names. -/
def slash : UInt8 := 47

/-- The pieces of a path between slashes. -/
def pieces : Path → List Bytes
  | [] => [[]]
  | b :: rest =>
    match pieces rest with
    | [] => [[b]]
    | p :: ps => if b == slash then [] :: p :: ps else (b :: p) :: ps

/-- The names in a path, dots included; slashes do not count. -/
def segments (p : Path) : List Bytes := (pieces p).filter fun s => !s.isEmpty

/-- Whether a path starts at the root. -/
def isAbsolute (p : Path) : Bool := p.headD 0 == slash

/-- Whether a path ends in a slash. -/
def endsInSlash (p : Path) : Bool := p.getLastD 0 == slash

def dot : Bytes := [46]

def dotDot : Bytes := [46, 46]

/-- What a name in a path stands for. -/
def componentOf (s : Bytes) : Component :=
  if s = dot then .here else if s = dotDot then .parent else .name s

/-- The components of a path. -/
def components (p : Path) : List Component :=
  let named := (segments p).map componentOf
  let rest := named.filter (· ≠ .here)
  if p.isAbsolute then .root :: rest
  else if named.head? = some .here then .here :: rest
  else rest

/-- A path with a name, or a whole relative path, put at its end. An absolute path stands on its
own. -/
def join (p q : Path) : Path :=
  if q.isAbsolute then q
  else if p.isEmpty || p.endsInSlash then p ++ q
  else p ++ slash :: q

/-- A component as written. -/
def componentBytes : Component → Bytes
  | .root => [slash]
  | .here => dot
  | .parent => dotDot
  | .name s => s

/-- The path with the given components. -/
def ofComponents (cs : List Component) : Path :=
  cs.foldl (fun p c => join p (componentBytes c)) []

/-- The last component of a path, if that is a name. -/
def fileName? (p : Path) : Option Bytes :=
  match (components p).getLast? with
  | some (.name s) => some s
  | _ => none

/-- The path without its last component. The root and the empty path have no parent. -/
def parent? (p : Path) : Option Path :=
  match (components p).getLast? with
  | none => none
  | some .root => none
  | some _ => some (ofComponents (components p).dropLast)

/-- The components that are left of a path below another one. -/
def below? (root p : Path) : Option (List Component) :=
  if (components root).isPrefixOf (components p) then
    some ((components p).drop (components root).length)
  else none

/-- A path made absolute from a directory, without its dots and repeated slashes. Climbing parts
and a slash at the end are kept. The empty path cannot be made absolute. -/
def absolute? (directory p : Path) : Option Path :=
  if p.isEmpty then none
  else
    let cs := (components p).filter (· ≠ .here)
    let start : Path :=
      if p.isAbsolute then
        if p.take 2 = [slash, slash] ∧ p.getD 2 0 ≠ slash then [slash, slash] else [slash]
      else directory
    let whole := (cs.filter (· ≠ .root)).foldl (fun q c => join q (componentBytes c)) start
    some (if p.endsInSlash ∧ !whole.endsInSlash then whole ++ [slash] else whole)

end Path

end Northbound
