import Northbound.Bytes
import Northbound.Decimal.Shortest
import Northbound.Json.Basic

/-!
# Writing JSON

Values are written without blanks. Integers are decimal, other numbers have the fewest digits that
read back as them, and a text escapes only what it must.
-/

namespace Northbound.Json

/-- Numbers have an exponent below `10 ^ -5` and from `10 ^ 16` on, where it shows its sign. -/
def numberLayout : Decimal.Layout := ⟨-5, 16, true⟩

/-- One character of a JSON text. -/
def escapeChar (c : Char) : List Char :=
  if c = '"' then ['\\', '"']
  else if c = '\\' then ['\\', '\\']
  else if c = '\x08' then ['\\', 'b']
  else if c = '\x0c' then ['\\', 'f']
  else if c = '\n' then ['\\', 'n']
  else if c = '\r' then ['\\', 'r']
  else if c = '\t' then ['\\', 't']
  else if c.toNat < 32 then
    ['\\', 'u', '0', '0', Bytes.hexDigit (c.toNat / 16), Bytes.hexDigit (c.toNat % 16)]
  else [c]

/-- A JSON text literal. -/
def textChars (s : String) : List Char := '"' :: s.toList.flatMap escapeChar ++ ['"']

mutual

/-- The characters of a value. -/
def chars : Json → List Char
  | .null => "null".toList
  | .bool true => "true".toList
  | .bool false => "false".toList
  | .int n => Decimal.signed n
  | .float x => (numberLayout.render x).toList
  | .text s => textChars s
  | .list items => '[' :: itemsChars items ++ [']']
  | .object members => '\x7b' :: membersChars members ++ ['\x7d']

/-- The items of a list, with commas between them. -/
def itemsChars : List Json → List Char
  | [] => []
  | [v] => chars v
  | v :: w :: rest => chars v ++ ',' :: itemsChars (w :: rest)

/-- The members of an object, with commas between them. -/
def membersChars : List (String × Json) → List Char
  | [] => []
  | [(k, v)] => textChars k ++ ':' :: chars v
  | (k, v) :: w :: rest => textChars k ++ ':' :: chars v ++ ',' :: membersChars (w :: rest)

end

/-- The JSON text of a value. -/
def render (v : Json) : String := String.ofList v.chars

end Northbound.Json
