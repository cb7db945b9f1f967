import Northbound.Bytes

/-!
# Header fields

The fields of a request or a response, in the order in which they came. Names are kept in lower
case. A value holds tabs and any bytes from the space on, except the delete character.
-/

namespace Northbound.Http

/-- Header fields: their names and values. -/
abbrev Headers := List (String × Bytes)

namespace Headers

/-- Whether a byte may stand in a value. -/
def isValueByte (b : UInt8) : Bool := (b ≥ 32 && b != 127) || b == 9

/-- Whether a byte of a value can be shown as a character. -/
def isVisible (b : UInt8) : Bool := (b ≥ 32 && b < 127) || b == 9

/-- The bytes of a text, if they may stand in a value. -/
def value? (text : String) : Option Bytes :=
  if (utf8 text).all isValueByte then some (utf8 text) else none

/-- Sets a field, in place of all fields of its name. -/
def set (name : String) (value : Bytes) : Headers → Headers
  | [] => [(name, value)]
  | (n, v) :: rest =>
    if n = name then (name, value) :: rest.filter (·.1 != name) else (n, v) :: set name value rest

/-- Appends a field to those there are. -/
def append (hs : Headers) (name : String) (value : Bytes) : Headers :=
  hs ++ [(name.map Char.toLower, value)]

/-- The first value of a field. -/
def find? (hs : Headers) (name : String) : Option Bytes := hs.lookup (name.map Char.toLower)

/-- The first value of a field as text, unless it has a byte that cannot be shown. -/
def text? (hs : Headers) (name : String) : Option String :=
  (hs.find? name).bind fun v => if v.all isVisible then utf8Decode? v else none

/-- The fields by their names; those of one name stay in order. -/
def sorted (hs : Headers) : Headers := hs.mergeSort fun a b => !(b.1 < a.1)

/-- The fields with all those of a name where the first of them is. -/
def gather (hs : Headers) : Headers :=
  (hs.map Prod.fst).eraseDups.flatMap fun name => hs.filter (·.1 == name)

/-- The debugging text of a byte of a value. -/
def debugByte (b : UInt8) : String :=
  if b == 34 then "\\\""
  else if isVisible b then (Char.ofNat b.toNat).toString
  else "\\x" ++ String.ofList (Nat.toDigits 16 b.toNat)

/-- The debugging text of a value. -/
def debugValue (v : Bytes) : String := "\"" ++ String.join (v.map debugByte) ++ "\""

/-- The debugging text of header fields. -/
def debug (hs : Headers) : String :=
  "\x7b" ++ String.intercalate ", "
    (hs.gather.map fun h => "\"" ++ h.1 ++ "\": " ++ debugValue h.2) ++ "\x7d"

/-- A field that was set has its value. -/
theorem lookup_set_self (name : String) (value : Bytes) (hs : Headers) :
    (hs.set name value).lookup name = some value := by
  induction hs with
  | nil => simp [set]
  | cons h rest ih =>
    obtain ⟨n, v⟩ := h
    simp only [set]
    split
    · simp
    · next hn =>
      have hb : (name == n) = false := by simpa using Ne.symm hn
      simpa [List.lookup_cons, hb] using ih

/-- Dropping the fields of one name leaves the others alone. -/
theorem lookup_filter_of_ne {name other : String} (hne : other ≠ name) (hs : Headers) :
    (hs.filter (·.1 != name)).lookup other = hs.lookup other := by
  induction hs with
  | nil => rfl
  | cons h rest ih =>
    obtain ⟨n, v⟩ := h
    by_cases hn : n = name
    · have hb : (other == name) = false := by simpa using hne
      simpa [List.lookup_cons, hn, hb] using ih
    · simp [hn, List.lookup_cons, ih]

/-- Setting a field leaves the others alone. -/
theorem lookup_set_of_ne {name other : String} {value : Bytes} {hs : Headers}
    (hne : other ≠ name) : (hs.set name value).lookup other = hs.lookup other := by
  have hb : (other == name) = false := by simpa using hne
  induction hs with
  | nil => simp [set, List.lookup_cons, hb]
  | cons h rest ih =>
    obtain ⟨n, v⟩ := h
    simp only [set]
    split
    · next heq =>
      subst heq
      simp only [List.lookup_cons, hb, lookup_filter_of_ne hne]
    · simp only [List.lookup_cons, ih]

/-- A field that was not there is set behind the others. -/
theorem set_of_lookup_eq_none {name : String} {value : Bytes} {hs : Headers}
    (h : hs.lookup name = none) : hs.set name value = hs ++ [(name, value)] := by
  induction hs with
  | nil => rfl
  | cons field rest ih =>
    obtain ⟨n, v⟩ := field
    rw [List.lookup_cons] at h
    have hb : (name == n) = false := by
      cases hb : name == n with
      | false => rfl
      | true => simp [hb] at h
    have hn : ¬n = name := fun heq => by simp [heq] at hb
    simp only [hb] at h
    simp [set, hn, ih h]

/-- A legal value is the bytes of its text. -/
theorem eq_utf8_of_value? {text : String} {value : Bytes} (h : value? text = some value) :
    value = utf8 text := by
  simp only [value?] at h
  split at h
  · exact (Option.some.inj h).symm
  · cases h

end Headers

end Northbound.Http
