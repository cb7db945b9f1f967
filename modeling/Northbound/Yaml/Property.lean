import Northbound.Bytes
import Northbound.Text.Number
import Northbound.Yaml.Cursor

/-!
# Tags, anchors and directives

What may stand in front of a node, and in front of a document. A tag is a handle, which a directive
may define, and a suffix, in which any bytes may be given in hexadecimal. A NUL among them ends the
tag: what follows it has to be well-formed but does not count.
-/

namespace Northbound.Yaml

/-- A tag as written. An empty handle leaves the suffix as it is. -/
structure Tag where
  handle : String
  suffix : Bytes
deriving DecidableEq, Repr

/-- A directive in front of a document. -/
inductive Directive where
  | version (major minor : Nat)
  /-- What a handle stands for. -/
  | tag (handle : String) (start : Bytes)
deriving DecidableEq, Repr

namespace Property

/-- Whether a character may stand in a tag as it is. -/
def isTagChar (brackets : Bool) (c : Char) : Bool :=
  isWordChar c || ";/?:@&=+$.!~*'()".toList.contains c || (brackets && ",[]".toList.contains c)

/-- Reads a byte given in hexadecimal. -/
def encodedByte : Scan UInt8 := do
  let c ← get
  Scan.require (c.sees (· == '%'))
  match (c.peek 1).bind Text.hexValue?, (c.peek 2).bind Text.hexValue? with
  | some h, some l =>
    Scan.advance 3
    return UInt8.ofNat (16 * h + l)
  | _, _ => Scan.refuse

/-- The number of bytes that go on with a character that starts with the given one. -/
def followers? (b : UInt8) : Option Nat :=
  if b < 0x80 then some 0
  else if 0xC0 ≤ b && b < 0xE0 then some 1
  else if 0xE0 ≤ b && b < 0xF0 then some 2
  else if 0xF0 ≤ b && b < 0xF8 then some 3
  else none

/-- Reads bytes that go on with a character. -/
def followingBytes : Nat → Scan Bytes
  | 0 => return []
  | n + 1 => do
    let b ← encodedByte
    Scan.require (0x80 ≤ b && b < 0xC0)
    return b :: (← followingBytes n)

/-- Reads a character whose bytes are given in hexadecimal. -/
def encodedChar : Scan Bytes := do
  let b ← encodedByte
  match followers? b with
  | none => Scan.refuse
  | some n => return b :: (← followingBytes n)

/-- Reads the characters of a tag. -/
def tagChars (brackets : Bool) : Nat → Scan Bytes
  | 0 => return []
  | fuel + 1 => do
    match (← get).peek 0 with
    | none => return []
    | some x =>
      if x == '%' then
        let bs ← encodedChar
        return bs ++ (← tagChars brackets fuel)
      else if isTagChar brackets x then
        Scan.advance
        return utf8 (String.singleton x) ++ (← tagChars brackets fuel)
      else return []

/-- Reads a handle: an exclamation mark, and perhaps a name with another one behind it. -/
def handle : Scan String := do
  Scan.require ((← get).sees (· == '!'))
  Scan.advance
  let name ← Scan.takeWhile isWordChar
  if (← get).sees (· == '!') then
    Scan.advance
    return String.ofList ('!' :: name ++ ['!'])
  else return String.ofList ('!' :: name)

/-- Whether a handle is closed by a second exclamation mark. -/
def isClosed (handle : String) : Bool := handle.length > 1 && handle.endsWith "!"

/-- Reads a tag. -/
def tag : Scan Tag := do
  let c ← get
  if c.peek 1 == some '<' then
    Scan.advance 2
    let suffix ← tagChars true (← Scan.bound)
    Scan.require (!suffix.isEmpty)
    Scan.require ((← get).sees (· == '>'))
    Scan.advance
    return { handle := "", suffix := suffix.untilNul }
  else
    let start ← handle
    let rest ← tagChars false (← Scan.bound)
    if isClosed start then
      Scan.require (!rest.isEmpty)
      return { handle := start, suffix := rest.untilNul }
    else
      let suffix := Bytes.untilNul ((utf8 start).drop 1 ++ rest)
      if suffix.isEmpty then return { handle := "", suffix := utf8 "!" }
      else return { handle := "!", suffix }

/-- Whether what comes next may follow a tag. Inside brackets that may be a comma. -/
def mayFollowTag (flow : Bool) (c : Cursor) : Bool :=
  c.endsWord || (flow && c.sees (· == ','))

/-- Reads a tag in front of a node. -/
def nodeTag (flow : Bool) : Scan Tag := do
  let t ← tag
  Scan.require (mayFollowTag flow (← get))
  return t

/-- Whether what comes next may follow the name of an anchor. -/
def mayFollowAnchor (c : Cursor) : Bool :=
  c.endsWord || c.sees fun x => "?:,]\x7d%@`".toList.contains x

/-- Reads the name of an anchor behind its indicator. -/
def anchor : Scan String := do
  Scan.advance
  let name ← Scan.takeWhile isWordChar
  Scan.require (!name.isEmpty)
  Scan.require (mayFollowAnchor (← get))
  return String.ofList name

/-- Moves over blanks. -/
def blanks : Scan Unit := modify fun c => c.skipWhile isGap

/-- Reads a part of a version, of at most nine digits. -/
def versionPart : Scan Nat := do
  let digits ← Scan.takeWhile Char.isDigit
  Scan.require (digits.length ≤ 9)
  match Text.readUnsigned 10 Text.maxWord digits with
  | some n => return n
  | none => Scan.refuse

/-- Reads the version that a document asks for. -/
def version : Scan Directive := do
  blanks
  let major ← versionPart
  Scan.require ((← get).sees (· == '.'))
  Scan.advance
  return .version major (← versionPart)

/-- Reads what a handle stands for. -/
def handleMeaning : Scan Directive := do
  blanks
  let h ← handle
  Scan.require (h == "!" || isClosed h)
  Scan.require ((← get).sees isGap)
  blanks
  let start ← tagChars true (← Scan.bound)
  Scan.require (!start.isEmpty)
  Scan.require (← get).endsWord
  return .tag h start.untilNul

/-- Reads a directive and the rest of its line. -/
def directive : Scan Directive := do
  Scan.advance
  let name := String.ofList (← Scan.takeWhile isWordChar)
  Scan.require (← get).endsWord
  let d ← if name == "YAML" then version else if name == "TAG" then handleMeaning else Scan.refuse
  Scan.restOfLine
  return d

end Property

end Northbound.Yaml
