import Northbound.Bytes

/-!
# Percent encoding

A character that may not stand in a place is written as its UTF-8 bytes, each as a percent sign and
two upper-case hexadecimal digits. Characters outside ASCII are always written so.
-/

namespace Northbound.Url

/-- An upper-case hexadecimal digit. -/
def upperHex (n : Nat) : Char := if n < 10 then Char.ofNat (48 + n) else Char.ofNat (55 + n)

/-- A byte as a percent sign and two digits. -/
def percentByte (b : UInt8) : List Char := ['%', upperHex (b.toNat / 16), upperHex (b.toNat % 16)]

/-- A character, encoded if it is outside ASCII or in the set. -/
def percentChar (set : Char → Bool) (c : Char) : List Char :=
  if 128 ≤ c.toNat || set c then (utf8 (String.singleton c)).flatMap percentByte else [c]

/-- Characters, each encoded if it is outside ASCII or in the set. -/
def percentEncode (set : Char → Bool) (cs : List Char) : List Char := cs.flatMap (percentChar set)

/-- The bytes that encoded bytes stand for. A percent sign without two digits stands for itself. -/
def percentDecode : Bytes → Bytes
  | [] => []
  | b :: rest =>
    match rest with
    | h :: l :: more =>
      if b = 37 then
        match Bytes.hexValue? h, Bytes.hexValue? l with
        | some x, some y => UInt8.ofNat (16 * x + y) :: percentDecode more
        | _, _ => b :: percentDecode (h :: l :: more)
      else b :: percentDecode (h :: l :: more)
    | other => b :: percentDecode other

/-- Control characters. -/
def isControl (c : Char) : Bool := c.toNat < 32 || c.toNat == 127

/-- What is encoded in a fragment. -/
def fragmentSet (c : Char) : Bool := isControl c || " \"<>`".toList.contains c

/-- What is encoded in a query. -/
def querySet (c : Char) : Bool := isControl c || " \"#<>".toList.contains c

/-- What is encoded in the query of a web address. -/
def specialQuerySet (c : Char) : Bool := querySet c || c == '\''

/-- What is encoded in a path. -/
def pathSet (c : Char) : Bool := querySet c || "?`\x7b\x7d".toList.contains c

/-- What is encoded in user information. -/
def userInfoSet (c : Char) : Bool := pathSet c || "/:;=@[\\]^|".toList.contains c

/-- What is encoded in a text that is to be a single path segment. -/
def segmentSet (c : Char) : Bool := pathSet c || c == '%' || c == '/'

end Northbound.Url
