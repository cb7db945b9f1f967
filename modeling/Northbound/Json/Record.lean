import Northbound.Json.Reader

/-!
# Reading records

A record is an object with known fields, or a list of their values in order. It is read straight
from the document: unknown members are passed over, a field given twice is an error, and so is a
required field that is missing. What is read is the list of the fields present, by name.
-/

namespace Northbound.Json

/-- What a field holds. -/
inductive FieldKind where
  /-- A text. -/
  | text
  /-- Any value; `null` reads as if the field were missing. -/
  | anything

/-- A field of a record. -/
structure Field where
  name : String
  kind : FieldKind := .text
  required : Bool := true

/-- A kind of record: the name it goes by in messages, and its fields in order. -/
structure RecordShape where
  title : String
  fields : List Field

/-- The fields present in a record. -/
abbrev Record := List (String × Json)

/-- The text in a field, empty if the field is missing. -/
def Record.text (r : Record) (name : String) : String :=
  match r.lookup name with
  | some (.text s) => s
  | _ => ""

namespace Reader

variable {α : Type}

/-- Reads a value that is of none of the kinds expected, and says so. Lists and objects are not
read. -/
def refuse (expected : String) : Reader α := do
  match ← peek with
  | none => failNext .noValue
  | some b =>
    let wrong (f : Found) : Reader α := fail (.wrongKind f expected)
    if b == 110 then word "null"; wrong .nothing
    else if b == 116 then word "true"; wrong (.bool true)
    else if b == 102 then word "false"; wrong (.bool false)
    else if b == 45 || isDigitByte b then wrong (← numeral).found
    else if b == 34 then wrong (.text (← key))
    else if b == 91 then wrong .list
    else if b == 123 then wrong .object
    else failNext .noValue

/-- Reads a text. -/
def text : Reader String := do
  match ← peekPastBlanks with
  | none => failNext .endInValue
  | some b => if b == 34 then key else refuse "a string"

/-- Reads any value but `null`, which reads as nothing. -/
def anything (depth : Nat) : Reader (Option Json) := do
  match ← peekPastBlanks with
  | some 110 => word "null"; return none
  | _ => return some (← value depth)

/-- Reads the value of a field. -/
def fieldValue (depth : Nat) : FieldKind → Reader (Option Json)
  | .text => do return some (.text (← text))
  | .anything => anything depth

/-- An error that takes its place from where the record ends. -/
def failUnplaced (fault : Fault) : Reader α := throw ⟨fault, none⟩

/-- What is recorded of the fields met so far: a field that reads as nothing has been met too. -/
abbrev Met := List (String × Option Json)

/-- The fields that have a value. -/
def present (met : Met) : Record := met.filterMap fun p => p.2.map (p.1, ·)

/-- Reads the members of a record up to the closing brace, which is left unread. -/
def recordMembers (shape : RecordShape) (depth : Nat) : Nat → Bool → Met → Reader Met
  | 0, _, _ => fail .endInObject
  | fuel + 1, first, met => do
    if ← hasMember first then
      let k ← key
      match shape.fields.find? (·.name == k) with
      | none =>
        colon
        skipValue (← bound)
        recordMembers shape depth fuel false met
      | some field =>
        if (met.lookup k).isSome then failUnplaced (.repeatedField k)
        else
          colon
          let v ← fieldValue depth field.kind
          recordMembers shape depth fuel false (met ++ [(k, v)])
    else return met

/-- Reads the values of a record's fields, given as a list, up to the closing bracket or the last
field. In a list that is too short, the fields in front of the missing one count. -/
def recordItems (shape : RecordShape) (depth : Nat) : Nat → List Field → Reader Met
  | _, [] => return []
  | count, field :: more => do
    if ← hasItem (count == 0) then
      let v ← fieldValue depth field.kind
      let rest ← recordItems shape depth (count + 1) more
      return (field.name, v) :: rest
    else if field.required then
      failUnplaced (.wrongLength count (shape.title ++ " with " ++
        Text.decimal shape.fields.length ++
        (if shape.fields.length = 1 then " element" else " elements")))
    else recordItems shape depth (count + 1) more

/-- The first required field that was not met. -/
def firstMissing? (shape : RecordShape) (met : Met) : Option Field :=
  shape.fields.find? fun f => f.required && (met.lookup f.name).isNone

/-- Reads the closing bracket of a record given as a list. -/
def endList : Reader Unit := do
  match ← peekPastBlanks with
  | none => failNext .endInList
  | some b =>
    if b == 93 then eat
    else if b == 44 then
      eat
      match ← peekPastBlanks with
      | some 93 => failNext .trailingComma
      | _ => failNext .trailingCharacters
    else failNext .trailingCharacters

/-- Reads the closing brace of a record. -/
def endObject : Reader Unit := do
  match ← peekPastBlanks with
  | none => failNext .endInObject
  | some b =>
    if b == 125 then eat
    else if b == 44 then failNext .trailingComma
    else failNext .trailingCharacters

/-- Reads a record with at most `depth` brackets open at once. -/
def record (shape : RecordShape) (depth : Nat) : Reader Record := do
  match ← peekPastBlanks with
  | none => failNext .endInValue
  | some b =>
    if b == 91 then
      match depth with
      | 0 => failNext .tooDeep
      | depth + 1 =>
        eat
        let met ← closedBy (recordItems shape depth 0 shape.fields) endList
        return present met
    else if b == 123 then
      match depth with
      | 0 => failNext .tooDeep
      | depth + 1 =>
        eat
        let members : Reader Met := do
          let met ← recordMembers shape depth (← bound) true []
          match firstMissing? shape met with
          | some f => failUnplaced (.missingField f.name)
          | none => return met
        let met ← closedBy members endObject
        return present met
    else refuse shape.title

/-- Reads a list with at most `depth` brackets open at once. -/
def listOf (item : Nat → Reader α) (depth : Nat) : Reader (List α) := do
  match ← peekPastBlanks with
  | none => failNext .endInValue
  | some b =>
    if b == 91 then
      match depth with
      | 0 => failNext .tooDeep
      | depth + 1 =>
        eat
        let as ← items (item depth) (← bound) true
        eat
        return as
    else refuse "a sequence"

end Reader

/-- The record a document holds. -/
def parseRecord (shape : RecordShape) (document : Bytes) : Except Error Record :=
  Reader.readAll (Reader.record shape Reader.maxDepth) document

/-- The records a document lists. -/
def parseRecords (shape : RecordShape) (document : Bytes) : Except Error (List Record) :=
  Reader.readAll (Reader.listOf (Reader.record shape) Reader.maxDepth) document

end Northbound.Json
