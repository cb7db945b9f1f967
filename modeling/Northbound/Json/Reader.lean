import Northbound.Json.Literal
import Northbound.Json.Numeral

/-!
# Reading values

`value` reads any value, with at most 127 brackets open at once. `skipValue` passes over a value
that nobody asked for: it checks its brackets and literals but neither depth, character encoding
nor the size of numbers.
-/

namespace Northbound.Json.Reader

variable {α : Type}

/-- Reads the bytes of a word after its first one. -/
def wordTail : List UInt8 → Reader Unit
  | [] => return ()
  | expected :: more => do
    match ← next with
    | none => fail .endInValue
    | some b => if b == expected then wordTail more else fail .unknownWord

/-- Reads a word from its first byte on. -/
def word (w : String) : Reader Unit := do
  eat
  wordTail ((utf8 w).drop 1)

/-- Whether a list goes on with another item; if so, its first byte is next. -/
def hasItem (first : Bool) : Reader Bool := do
  match ← peekPastBlanks with
  | none => failNext .endInList
  | some b =>
    if b == 93 then return false
    else if first then return true
    else if b == 44 then
      eat
      match ← peekPastBlanks with
      | none => failNext .endInValue
      | some d => if d == 93 then failNext .trailingComma else return true
    else failNext .missingListComma

/-- Whether an object goes on with another member; if so, the quote of its key is next. -/
def hasMember (first : Bool) : Reader Bool := do
  match ← peekPastBlanks with
  | none => failNext .endInObject
  | some b =>
    if b == 125 then return false
    else if first then if b == 34 then return true else failNext .keyNotText
    else if b == 44 then
      eat
      match ← peekPastBlanks with
      | none => failNext .endInValue
      | some d =>
        if d == 34 then return true
        else if d == 125 then failNext .trailingComma
        else failNext .keyNotText
    else failNext .missingObjectComma

/-- Reads the colon between a key and its value. -/
def colon : Reader Unit := do
  match ← peekPastBlanks with
  | none => failNext .endInObject
  | some b => if b == 58 then eat else failNext .missingColon

/-- Reads a key, from its quote on. -/
def key : Reader String := do
  eat
  literal

/-- Reads items up to the closing bracket, which is left unread. Every item takes a byte at least,
so `fuel` above the number of bytes left is never used up. -/
def items (item : Reader α) : Nat → Bool → Reader (List α)
  | 0, _ => fail .endInList
  | fuel + 1, first => do
    if ← hasItem first then
      let a ← item
      let as ← items item fuel false
      return a :: as
    else return []

/-- Reads members up to the closing brace, which is left unread. -/
def members (item : Reader α) : Nat → Bool → Reader (List (String × α))
  | 0, _ => fail .endInObject
  | fuel + 1, first => do
    if ← hasMember first then
      let k ← key
      colon
      let a ← item
      let as ← members item fuel false
      return (k, a) :: as
    else return []

/-- A bound on the items that can follow. -/
def bound : Reader Nat := do return (← get).rest.length + 1

/-- Reads a value with at most `depth` brackets open at once. -/
def value (depth : Nat) : Reader Json := do
  match ← peekPastBlanks with
  | none => failNext .endInValue
  | some b =>
    if b == 110 then word "null"; return .null
    else if b == 116 then word "true"; return .bool true
    else if b == 102 then word "false"; return .bool false
    else if b == 45 || isDigitByte b then numeral
    else if b == 34 then return .text (← key)
    else if b == 91 then
      match depth with
      | 0 => failNext .tooDeep
      | depth + 1 =>
        eat
        let vs ← items (value depth) (← bound) true
        eat
        return .list vs
    else if b == 123 then
      match depth with
      | 0 => failNext .tooDeep
      | depth + 1 =>
        eat
        let ms ← members (value depth) (← bound) true
        eat
        return ofMembers ms
    else failNext .noValue

/-- How many brackets may be open at once. -/
def maxDepth : Nat := 127

mutual

/-- Passes over a value. Every step down or along takes a byte at least, so `fuel` above the number
of bytes left is never used up. -/
def skipValue : Nat → Reader Unit
  | 0 => failNext .endInValue
  | fuel + 1 => do
    match ← peekPastBlanks with
    | none => failNext .endInValue
    | some b =>
      if b == 110 then word "null"
      else if b == 116 then word "true"
      else if b == 102 then word "false"
      else if b == 45 || isDigitByte b then skipNumeral
      else if b == 34 then eat; skipLiteral (← bound)
      else if b == 91 then
        eat
        match ← peekPastBlanks with
        | none => failNext .endInList
        | some c => if c == 93 then eat else skipItems fuel
      else if b == 123 then
        eat
        match ← peekPastBlanks with
        | none => failNext .endInObject
        | some c => if c == 125 then eat else skipMembers fuel
      else failNext .noValue

/-- Passes over the items of a list, from the first of them to the closing bracket. -/
def skipItems : Nat → Reader Unit
  | 0 => failNext .endInList
  | fuel + 1 => do
    skipValue fuel
    match ← peekPastBlanks with
    | none => failNext .endInList
    | some c =>
      if c == 44 then eat; skipItems fuel
      else if c == 93 then eat
      else failNext .missingListComma

/-- Passes over the members of an object, from the first of them to the closing brace. -/
def skipMembers : Nat → Reader Unit
  | 0 => failNext .endInObject
  | fuel + 1 => do
    match ← peekPastBlanks with
    | none => failNext .endInObject
    | some c =>
      if c == 34 then
        eat
        skipLiteral (← bound)
        colon
        skipValue fuel
        match ← peekPastBlanks with
        | none => failNext .endInObject
        | some c =>
          if c == 44 then eat; skipMembers fuel
          else if c == 125 then eat
          else failNext .missingObjectComma
      else failNext .keyNotText

end

end Northbound.Json.Reader

namespace Northbound.Json

/-- The value of a JSON document. -/
def parse (document : Bytes) : Except Error Json :=
  Reader.readAll (Reader.value Reader.maxDepth) document

end Northbound.Json
