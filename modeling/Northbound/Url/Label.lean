import Northbound.Text.Canonical
import Northbound.Text.Direction
import Northbound.Text.Joining
import Northbound.Url.NameCharacters
import Northbound.Url.Punycode

/-!
# Labels of names

The name of a host consists of labels. One with characters outside ASCII stands for its encoding in
ASCII behind a mark. What an encoding stands for has to be written as such labels are, must not
start with a mark on a letter, and may hold invisible joiners only where they change how letters
look. If one label of a name holds characters that run from right to left, no label of the name may
mix directions.
-/

namespace Northbound.Url

open Text (Direction direction)

/-- A label of a name, as it is shown and as it stands in an address. -/
structure Label where
  shown : List Char
  ascii : List Char
deriving DecidableEq, Repr

namespace Label

/-- The mark of labels that encode characters outside ASCII. -/
def mark : List Char := "xn--".toList

/-- The most characters of an encoding. -/
def maxDecoded : Nat := 2000

/-- The most characters of a label that is to be encoded. -/
def maxEncoded : Nat := 1000

/-- The invisible character that keeps letters apart. -/
def nonJoiner : Char := Char.ofNat 0x200c

/-- The invisible character that holds letters together. -/
def joiner : Char := Char.ofNat 0x200d

/-- Whether a joiner may stand between characters, those in front of it in reverse. Behind a mark
that silences a vowel both kinds may; one that keeps letters apart also between letters that would
join. -/
def joinerFits (c : Char) (front back : List Char) : Bool :=
  front.head?.any (fun p => Text.combiningClass p == Text.vowelSilencer) ||
    (c == nonJoiner &&
      (front.find? fun p => !Text.isTransparent p).any Text.joinsNext &&
      (back.find? fun p => !Text.isTransparent p).any Text.joinsPrevious)

/-- Whether all joiners may stand where they do behind `front`, which is reversed. -/
def joinersFit (front : List Char) : List Char → Bool
  | [] => true
  | c :: back =>
    (if c == nonJoiner || c == joiner then joinerFits c front back else true) &&
      joinersFit (c :: front) back

/-- Whether characters outside ASCII may stand as they do in a label. -/
def isWellFormed (cs : List Char) : Bool := !cs.head?.any Text.isMark && joinersFit [] cs

/-- The label that an encoding stands for. -/
def decode? (encoding : List Char) : Option Label := do
  if maxDecoded < encoding.length then none
  let shown ← Punycode.decode? encoding
  if shown.any (fun c => 128 ≤ c.toNat) && shown.all isNameCharacter &&
      Text.canonical shown == shown && isWellFormed shown then
    some { shown, ascii := mark ++ encoding }
  else none

/-- The label that is written in some characters. -/
def ofChars? (cs : List Char) : Option Label :=
  if mark.isPrefixOf cs then decode? (cs.drop mark.length)
  else if cs.all fun c => c.toNat < 128 then some { shown := cs, ascii := cs }
  else if isWellFormed cs && cs.length ≤ maxEncoded then
    some { shown := cs, ascii := mark ++ Punycode.encode cs }
  else none

/-- Whether a label holds characters that run from right to left. -/
def runsBack (label : Label) : Bool :=
  label.shown.any fun c => direction c = .rightToLeft || direction c = .arabicNumber

/-- Whether directions may follow one another where the text runs from left to right. The last of
them comes first. -/
def forwardEnds : List Direction → Bool
  | [] => true
  | last :: inner =>
    (last = .leftToRight || last = .europeanNumber) &&
      inner.all fun d => d ≠ .rightToLeft && d ≠ .arabicNumber

/-- Whether directions may follow one another where the text runs from right to left. The last of
them comes first. -/
def backwardEnds : List Direction → Bool
  | [] => true
  | last :: inner =>
    (last = .rightToLeft || last = .europeanNumber || last = .arabicNumber) &&
      (inner.all fun d => d ≠ .leftToRight) &&
      !((last :: inner).contains .europeanNumber && (last :: inner).contains .arabicNumber)

/-- Whether the directions in a label go together: it starts with a letter of its main direction and
ends, marks apart, with one or with a digit. -/
def directionsAgree (label : Label) : Bool :=
  match label.shown.map direction with
  | [] => true
  | first :: rest =>
    let back := rest.reverse.dropWhile (· = .mark)
    if first = .leftToRight then forwardEnds back
    else first = .rightToLeft && backwardEnds back

/-- Whether the directions in the labels of a name go together. -/
def allAgree (labels : List Label) : Bool :=
  !labels.any runsBack || labels.all directionsAgree

end Label

/-- The labels of a name given in any characters. -/
def labels? (name : List Char) : Option (List Label) := do
  let mapped ← name.mapM mapCharacter?
  let plain := Text.canonical mapped.flatten
  if plain.any isForbidden then none
  let labels ← (splitAtChar '.' plain).mapM Label.ofChars?
  if Label.allAgree labels then some labels else none

/-- The ASCII form of a name given in any characters. -/
def asciiName? (name : List Char) : Option (List Char) :=
  (labels? name).map fun labels => ".".toList.intercalate (labels.map Label.ascii)

end Northbound.Url
