import Northbound.Archive.Error

/-!
# Paths inside archives

An entry is named by a text: a relative path whose names are separated by single slashes, put below
the archive's base directory.
-/

namespace Northbound

/-- The path of an entry below a base directory. Slashes in front of the relative path do not count,
and an empty base leaves it as it is. -/
def joinArchivePath (base relative : String) : String :=
  let relative := String.ofList (relative.toList.dropWhile (· == '/'))
  if base.isEmpty then relative
  else if relative.isEmpty then base
  else base ++ "/" ++ relative

/-- The text of a component that is a name. -/
def Component.text? : Component → Option String
  | .name bytes => utf8Decode? bytes
  | _ => none

/-- The path of a file relative to a directory above it, with its names joined by slashes. -/
def relativeArchivePath (root p : Path) : Except ArchiveError String :=
  match Path.below? root p with
  | none => .error (.invalidPath p)
  | some cs =>
    match cs.mapM Component.text? with
    | none => .error (.invalidPath p)
    | some names => .ok (String.intercalate "/" names)

/-- The bytes in the name field of a header. -/
def nameFieldLength : Nat := 100

/-- Whether a character starts, or the text ends, at a place in the encoding of a text. -/
def isBoundary (bs : Bytes) (i : Nat) : Bool :=
  match bs[i]? with
  | none => true
  | some b => !Text.isContinuation b

/-- The last boundary at or before a place. -/
def boundaryBefore (bs : Bytes) : Nat → Nat
  | 0 => 0
  | n + 1 => if isBoundary bs (n + 1) then n + 1 else boundaryBefore bs n

/-- The longest beginning of a text that fits the name field of a header without splitting a
character. -/
def namePlaceholder (path : String) : Bytes :=
  let bs := utf8 path
  if bs.length ≤ nameFieldLength then bs else bs.take (boundaryBefore bs nameFieldLength)

end Northbound
