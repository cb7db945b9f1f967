import Northbound.Json.Printer
import Northbound.Text.Number
import Northbound.Text.Quoted

/-!
# Faults of a JSON document

Why a document was refused, and where: the line and the number of bytes of that line read so far.
A fault found in a value that was read before has no place.
-/

namespace Northbound.Json

/-- What is found in place of the expected kind of value. -/
inductive Found where
  | nothing
  | bool (b : Bool)
  | int (n : Int)
  | float (x : Binary64)
  | text (s : String)
  | list
  | object

/-- How a kind of value is named in a message. -/
def Found.label : Found → String
  | .nothing => "null"
  | .bool b => "boolean `" ++ (if b then "true" else "false") ++ "`"
  | .int n => "integer `" ++ String.ofList (Decimal.signed n) ++ "`"
  | .float x => "floating point `" ++ numberLayout.render x ++ "`"
  | .text s => "string " ++ Text.quoted s
  | .list => "sequence"
  | .object => "map"

/-- What a value is, seen from outside. -/
def found : Json → Found
  | .null => .nothing
  | .bool b => .bool b
  | .int n => .int n
  | .float x => .float x
  | .text s => .text s
  | .list _ => .list
  | .object _ => .object

/-- A fault of a document. -/
inductive Fault where
  | endInValue
  | endInList
  | endInObject
  | endInText
  | missingColon
  | missingListComma
  | missingObjectComma
  | unknownWord
  | noValue
  | badEscape
  | badNumber
  | numberOutOfRange
  | badCodePoint
  | controlCharacter
  | keyNotText
  | loneSurrogate
  | brokenSurrogatePair
  | trailingComma
  | trailingCharacters
  | tooDeep
  | wrongKind (found : Found) (expected : String)
  | wrongLength (count : Nat) (expected : String)
  | missingField (name : String)
  | repeatedField (name : String)
  | notAnObject (value : Json)
  | unserializable (reason : String)

/-- The wording of a fault. -/
def Fault.message : Fault → String
  | .endInValue => "EOF while parsing a value"
  | .endInList => "EOF while parsing a list"
  | .endInObject => "EOF while parsing an object"
  | .endInText => "EOF while parsing a string"
  | .missingColon => "expected `:`"
  | .missingListComma => "expected `,` or `]`"
  | .missingObjectComma => "expected `,` or `\x7d`"
  | .unknownWord => "expected ident"
  | .noValue => "expected value"
  | .badEscape => "invalid escape"
  | .badNumber => "invalid number"
  | .numberOutOfRange => "number out of range"
  | .badCodePoint => "invalid unicode code point"
  | .controlCharacter => "control character (\\u0000-\\u001F) found while parsing a string"
  | .keyNotText => "key must be a string"
  | .loneSurrogate => "lone leading surrogate in hex escape"
  | .brokenSurrogatePair => "unexpected end of hex escape"
  | .trailingComma => "trailing comma"
  | .trailingCharacters => "trailing characters"
  | .tooDeep => "recursion limit exceeded"
  | .wrongKind found expected => "invalid type: " ++ found.label ++ ", expected " ++ expected
  | .wrongLength count expected =>
    "invalid length " ++ Text.decimal count ++ ", expected " ++ expected
  | .missingField name => "missing field `" ++ name ++ "`"
  | .repeatedField name => "duplicate field `" ++ name ++ "`"
  | .notAnObject value => "token payload must be a JSON object, got: " ++ value.render
  | .unserializable reason => reason

/-- A place in a document. -/
structure Place where
  line : Nat
  column : Nat
deriving DecidableEq, Repr

/-- A fault and, if it was found in a text, its place. -/
structure Error where
  fault : Fault
  place? : Option Place := none

/-- The fault, followed by its place. -/
def Error.message (e : Error) : String :=
  match e.place? with
  | none => e.fault.message
  | some p => e.fault.message ++ " at line " ++ Text.decimal p.line ++ " column " ++
      Text.decimal p.column

/-- The beginning and the digits at the end of a text, both reversed as the text is. -/
def endingDigits (reversed : List Char) : List Char × List Char :=
  (reversed.dropWhile Char.isDigit, reversed.takeWhile Char.isDigit)

/-- What stands before an ending, reversed as the text is. -/
def beforeEnding? (ending : String) (reversed : List Char) : Option (List Char) :=
  let last := ending.toList.reverse
  if last.isPrefixOf reversed then some (reversed.drop last.length) else none

/-- The place that a text ends in, and what stands before it. -/
def placeAtEnd? (text : String) : Option (String × Place) := do
  let (rest, column) := endingDigits text.toList.reverse
  let (rest, line) := endingDigits (← beforeEnding? " column " rest)
  let rest ← beforeEnding? " at line " rest
  let line ← Text.readUnsigned 10 Text.maxWord line.reverse
  let column ← Text.readUnsigned 10 Text.maxWord column.reverse
  return (String.ofList rest.reverse, ⟨line, column⟩)

/-- The error of data that give no document for some reason. A place that the reason ends in is
taken for the place of the error; lines count from one, so line zero is no place. -/
def Error.ofReason (reason : String) : Error :=
  match placeAtEnd? reason with
  | none => { fault := .unserializable reason }
  | some (front, place) =>
    { fault := .unserializable front, place? := if place.line = 0 then none else some place }

end Northbound.Json
