import Northbound.Url.Ip
import Northbound.Url.Percent

/-!
# Paths

The path of an address is a list of segments, each with a slash in front of it. In the path that an
address is given with, a segment of dots may stand for the segments before it; it is resolved at
once. What looks like the letter of a drive is not taken back by dots, and the path of a file may
start with one, whose bar is turned into a colon.
-/

namespace Northbound.Url

/-- Whether a segment stands for the segments it follows. -/
def isSingleDot (s : List Char) : Bool := s = ['.'] || s.map Char.toLower = "%2e".toList

/-- Whether a segment takes back the one in front of it. -/
def isDoubleDot (s : List Char) : Bool :=
  s = ['.', '.'] || (s.map Char.toLower ∈
    [".%2e".toList, "%2e.".toList, "%2e%2e".toList])

/-- Whether a text is the letter of a drive, with a colon or a bar behind it. -/
def isDrive : List Char → Bool
  | [letter, sign] => letter.isAlpha && (sign == ':' || sign == '|')
  | _ => false

/-- Whether a segment looks like the letter of a drive: no other character than a backslash may
follow. -/
def resemblesDrive (s : List Char) : Bool := isDrive (s.take 2) && (s[2]?.all (· == '\\'))

/-- Takes back the last of some segments, which comes first, unless it looks like a drive. -/
def takeBack : List (List Char) → List (List Char)
  | [] => []
  | s :: done => if resemblesDrive s then s :: done else done

/-- Puts a segment behind others, the last of which comes first. The drive that the path of a file
starts with gets a colon. -/
def putSegment (file : Bool) (s : List Char) (done : List (List Char)) : List (List Char) :=
  if file && done.isEmpty && isDrive s then [s.take 1 ++ [':']] else s :: done

/-- Resolves dots while segments are put behind those in `done`, the last of which comes first. A
dotted segment at the end leaves an empty one. -/
def resolveDots (file : Bool) : List (List Char) → List (List Char) → List (List Char)
  | done, [] => done.reverse
  | done, [s] =>
    if isDoubleDot s then ([] :: takeBack done).reverse
    else if isSingleDot s then ([] :: done).reverse
    else (putSegment file s done).reverse
  | done, s :: rest =>
    if isDoubleDot s then resolveDots file (takeBack done) rest
    else if isSingleDot s then resolveDots file done rest
    else resolveDots file (putSegment file s done) rest

/-- Whether a character divides segments. -/
def isSlash (backslash : Bool) (c : Char) : Bool := c == '/' || (backslash && c == '\\')

/-- The pieces of a path between slashes, or backslashes where they count as slashes. -/
def pathPieces (backslash : Bool) (cs : List Char) : List (List Char) :=
  splitAtChar '/' (cs.map fun c => if isSlash backslash c then '/' else c)

/-- Segments as they stand in an address. -/
def encodeSegments (segments : List (List Char)) : List String :=
  segments.map fun s => String.ofList (percentEncode pathSet s)

/-- The segments of a path, given without the slash in front of it. -/
def segmentsOf (backslash : Bool) (cs : List Char) : List String :=
  encodeSegments (resolveDots false [] (pathPieces backslash cs))

/-- The segments of the path of a file, given without the slash in front of it, and whether it
starts with a drive. Empty segments at the start do not count. -/
def fileSegments (cs : List Char) : List String × Bool :=
  let segments := resolveDots true [] (pathPieces true cs)
  let named := segments.dropWhile List.isEmpty
  (encodeSegments (if named.isEmpty then [[]] else named), segments.head?.any isDrive)

end Northbound.Url
