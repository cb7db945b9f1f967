import Northbound.Text.Blank
import Northbound.Text.Number
import Northbound.Text.Utf8

/-!
# Archive headers

A tar archive is a sequence of blocks of 512 bytes. Every member has a header block with fields at
fixed places: texts end at the first NUL, numbers are octal texts, and sizes and times that are too
large for that are binary. `Header.render` writes a header and the functions on `Block` read one.
-/

namespace Northbound.Tar

/-- The number of bytes in a block. -/
def blockSize : Nat := 512

/-- The bytes of a block. -/
abbrev Block := Bytes

/-- Why a numeric field cannot be read. -/
inductive NumberFault where
  | notText (field : Bytes)
  | notOctal (text : String)
deriving DecidableEq, Repr

/-- The wording of a fault. -/
def NumberFault.message : NumberFault → String
  | .notText field => "numeric field did not have utf-8 text: " ++ Text.lossy field
  | .notOctal text => "numeric field was not a number: " ++ text

/-- The number in an octal field: up to the first NUL, without blanks around it. -/
def readOctal (field : Bytes) : Except NumberFault Nat :=
  let text := field.untilNul
  match utf8Decode? text with
  | none => .error (.notText text)
  | some s =>
    match Text.readUnsigned 8 Text.maxWord (Text.trimChars s.toList) with
    | some n => .ok n
    | none => .error (.notOctal s)

/-- The number in a field that is octal, or binary if its first bit is set. -/
def readNumber (field : Bytes) : Except NumberFault Nat :=
  if 0x80 ≤ field.headD 0 then .ok (Bytes.toNatBE (field.drop (field.length - 8)))
  else readOctal field

/-- A number in a field of `width` bytes: octal digits ended by a NUL. -/
def octalField (width n : Nat) : Bytes :=
  utf8 (String.ofList (Text.padZeros (width - 1) (Nat.toDigits 8 n))) ++ [0]

/-- The least number that has no octal field of twelve bytes. -/
def octalLimit : Nat := Nat.pow 8 11

/-- A number in a field of twelve bytes: octal, or binary if it is too large for that. -/
def numberField (n : Nat) : Bytes :=
  if n < octalLimit then octalField 12 n else 0x80 :: Bytes.zeros 3 ++ Bytes.ofNatBE 8 n

/-- Bytes in a field of `width` bytes, followed by NULs. -/
def textField (width : Nat) (bs : Bytes) : Bytes :=
  bs.take width ++ Bytes.zeros (width - bs.length)

/-- The kinds of members that matter here. -/
inductive MemberKind where
  | regular
  | directory
  | longName
  | longLink
  | extendedRecords
  | sparse
  | other
deriving DecidableEq, Repr

/-- The kind of member that a type byte denotes. -/
def MemberKind.ofByte (b : UInt8) : MemberKind :=
  if b == 0 || b == 48 then .regular
  else if b == 53 then .directory
  else if b == 76 then .longName
  else if b == 75 then .longLink
  else if b == 120 then .extendedRecords
  else if b == 83 then .sparse
  else .other

namespace Block

/-- The `width` bytes of a block from `offset` on. -/
def field (b : Block) (offset width : Nat) : Bytes := (b.drop offset).take width

def name (b : Block) : Bytes := b.field 0 100
def mode (b : Block) : Bytes := b.field 100 8
def size (b : Block) : Bytes := b.field 124 12
def mtime (b : Block) : Bytes := b.field 136 12
def checksumField (b : Block) : Bytes := b.field 148 8
def magic (b : Block) : Bytes := b.field 257 8
def userName (b : Block) : Bytes := b.field 265 32
def groupName (b : Block) : Bytes := b.field 297 32
def nameStart (b : Block) : Bytes := b.field 345 155

/-- The kind of member that the header stands for. -/
def kind (b : Block) : MemberKind := .ofByte ((b.field 156 1).headD 0)

/-- Whether the header is of the standard form. -/
def isStandard (b : Block) : Bool := b.magic == utf8 "ustar\x0000"

/-- Whether the header is of the form of the GNU archiver. -/
def isGnu (b : Block) : Bool := b.magic == utf8 "ustar  \x00"

/-- The path in the header. A standard header may hold the start of the path apart. -/
def path (b : Block) : Bytes :=
  if b.isStandard ∧ !b.nameStart.untilNul.isEmpty then
    b.nameStart.untilNul ++ 47 :: b.name.untilNul
  else b.name.untilNul

/-- The sum of the bytes of a header, its checksum field counted as blanks. -/
def sum (b : Block) : Nat :=
  let total (bs : Bytes) : Nat := bs.foldl (fun n c => n + c.toNat) 0
  total (b.take 148) + 8 * 32 + total (b.drop 156)

/-- Whether a block holds nothing but zeros. -/
def isZero (b : Block) : Bool := b.all (· == 0)

end Block

/-- A number of a device, of seven octal digits at most. -/
abbrev DeviceNumber := Fin 0o10000000

/-- A header of the standard form. Owner, group and device numbers are left empty where they are not
given. -/
structure Header where
  name : Bytes := []
  mode? : Option Nat := none
  owner? : Option UInt32 := none
  group? : Option UInt32 := none
  size : Nat := 0
  mtime : Nat := 0
  typeByte : UInt8 := 48
  deviceMajor? : Option DeviceNumber := none
  deviceMinor? : Option DeviceNumber := none

namespace Header

/-- An octal field of eight bytes, NULs if there is no number. -/
def smallField (n? : Option Nat) : Bytes :=
  match n? with
  | some n => octalField 8 n
  | none => Bytes.zeros 8

/-- The number of a user or a group in a field of eight bytes, NULs if there is none: octal, or
binary if it is too large for that. -/
def idField (id? : Option UInt32) : Bytes :=
  match id? with
  | some id =>
    if id.toNat < Nat.pow 8 7 then octalField 8 id.toNat
    else 0x80 :: Bytes.zeros 3 ++ Bytes.ofNatBE 4 id.toNat
  | none => Bytes.zeros 8

/-- The bytes of a header before its checksum. -/
def front (h : Header) : Bytes :=
  textField 100 h.name ++ smallField h.mode? ++ idField h.owner? ++ idField h.group? ++
    numberField h.size ++ numberField h.mtime

/-- The bytes of a header after its checksum. The names of user and group are left empty. -/
def back (h : Header) : Bytes :=
  h.typeByte :: Bytes.zeros 100 ++ utf8 "ustar\x0000" ++ (Bytes.zeros 64 ++
    smallField (h.deviceMajor?.map Fin.val) ++ smallField (h.deviceMinor?.map Fin.val) ++
      Bytes.zeros 167)

/-- The checksum of a header. -/
def checksum (h : Header) : Nat :=
  h.front.foldl (fun n c => n + c.toNat) 0 + 8 * 32 + h.back.foldl (fun n c => n + c.toNat) 0

/-- The block of a header. -/
def render (h : Header) : Block := h.front ++ octalField 8 h.checksum ++ h.back

end Header

end Northbound.Tar
