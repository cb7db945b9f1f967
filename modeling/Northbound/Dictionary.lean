/-!
# Dictionaries

A dictionary from texts to values is a list of pairs in strictly increasing order of their keys.
Texts are ordered by code points, which is also the byte order of their UTF-8 encodings.
-/

namespace Northbound

/-- Pairs of a key and a value, by increasing key. -/
abbrev Dictionary (α : Type) := List (String × α)

namespace Dictionary

variable {α : Type}

/-- Binds a key, in place of the value it was bound to. -/
def insert (key : String) (value : α) : Dictionary α → Dictionary α
  | [] => [(key, value)]
  | (k, v) :: rest =>
    if key < k then (key, value) :: (k, v) :: rest
    else if key = k then (key, value) :: rest
    else (k, v) :: insert key value rest

/-- The value a key is bound to. -/
def find? (d : Dictionary α) (key : String) : Option α := d.lookup key

/-- The dictionary of a list of bindings, of which the last for a key counts. -/
def ofList (bindings : List (String × α)) : Dictionary α :=
  bindings.foldl (fun d b => d.insert b.1 b.2) []

/-- The keys, in increasing order. -/
def keys (d : Dictionary α) : List String := d.map Prod.fst

/-- The key inserted last is bound to its value. -/
theorem find?_insert_self (key : String) (value : α) (d : Dictionary α) :
    (d.insert key value).find? key = some value := by
  induction d with
  | nil => simp [insert, find?]
  | cons p rest ih =>
    obtain ⟨k, v⟩ := p
    simp only [insert]
    split
    · simp [find?]
    · split
      · simp [find?]
      · next h =>
        have hk : (key == k) = false := by simp [h]
        simpa [find?, List.lookup_cons, hk] using ih

/-- Inserting one key leaves the others as they were. -/
theorem find?_insert_of_ne {key other : String} (h : other ≠ key) (value : α)
    (d : Dictionary α) : (d.insert key value).find? other = d.find? other := by
  have hb : (other == key) = false := by simp [h]
  induction d with
  | nil => simp [insert, find?, List.lookup_cons, hb]
  | cons p rest ih =>
    obtain ⟨k, v⟩ := p
    simp only [insert]
    split
    · simp [find?, List.lookup_cons, hb]
    · split
      · next hk => subst hk; simp [find?, List.lookup_cons, hb]
      · cases ho : other == k with
        | true => simp [find?, List.lookup_cons, ho]
        | false => simpa [find?, List.lookup_cons, ho] using ih

end Dictionary

end Northbound
