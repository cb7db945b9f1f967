import Northbound.Dictionary

/-!
# Sorted dictionaries

Inserting keeps the keys of a dictionary in strictly increasing order. A dictionary made of bindings
with different keys binds exactly these, and so does their list.
-/

namespace Northbound

/-- Where no key stands twice, it is bound to the value that it stands with. -/
theorem lookup_eq_some_iff_mem {κ α : Type} [BEq κ] [LawfulBEq κ]
    {bindings : List (κ × α)} {key : κ} {value : α} (nodup : (bindings.map Prod.fst).Nodup) :
    bindings.lookup key = some value ↔ (key, value) ∈ bindings := by
  induction bindings with
  | nil => exact iff_of_false nofun List.not_mem_nil
  | cons b bindings ih =>
      obtain ⟨k, v⟩ := b
      rw [List.map_cons, List.nodup_cons] at nodup
      obtain ⟨absent, nodup⟩ := nodup
      rw [List.lookup_cons, List.mem_cons, Prod.mk.injEq]
      by_cases same : key = k
      · subst same
        have first : (key, value) ∉ bindings := fun mem => absent (List.mem_map.mpr ⟨_, mem, rfl⟩)
        simp [first, eq_comm]
      · have other : (key == k) = false := beq_eq_false_iff_ne.mpr same
        simp [same, other, ih nodup]

namespace Dictionary

variable {α : Type} {d : Dictionary α} {key : String} {value : α} {bindings : List (String × α)}

/-- A dictionary with its keys in strictly increasing order. -/
def Sorted (d : Dictionary α) : Prop := d.Pairwise fun a b => a.1 < b.1

theorem mem_insert {b : String × α} (h : b ∈ d.insert key value) : b = (key, value) ∨ b ∈ d := by
  induction d with
  | nil => exact Or.inl (List.mem_singleton.1 h)
  | cons first rest ih =>
      obtain ⟨k, v⟩ := first
      rw [insert] at h
      split at h
      next => exact List.mem_cons.1 h
      next =>
        split at h
        next =>
          rcases List.mem_cons.1 h with rfl | h
          · exact Or.inl rfl
          · exact Or.inr (List.mem_cons_of_mem _ h)
        next =>
          rcases List.mem_cons.1 h with rfl | h
          · exact Or.inr List.mem_cons_self
          · exact (ih h).imp_right (List.mem_cons_of_mem _)

/-- Inserting a key keeps the order. -/
theorem Sorted.insert (sorted : d.Sorted) (key : String) (value : α) :
    (d.insert key value).Sorted := by
  induction d with
  | nil => exact List.pairwise_singleton _ _
  | cons first rest ih =>
      obtain ⟨k, v⟩ := first
      obtain ⟨hfirst, hrest⟩ := List.pairwise_cons.1 sorted
      rw [Dictionary.insert]
      split
      next hless =>
        apply List.pairwise_cons.2
        refine ⟨fun b hb => ?_, sorted⟩
        rcases List.mem_cons.1 hb with rfl | hb
        · exact hless
        · exact String.lt_trans hless (hfirst b hb)
      next hless =>
        split
        next hsame =>
          subst hsame
          exact List.pairwise_cons.2 ⟨hfirst, hrest⟩
        next hdiffers =>
          apply List.pairwise_cons.2
          refine ⟨fun b hb => ?_, ih hrest⟩
          rcases mem_insert hb with rfl | hb
          · apply String.not_le.1
            intro hle
            exact hdiffers (String.le_antisymm hle (String.not_lt.1 hless))
          · exact hfirst b hb

/-- A sorted dictionary binds a key to a value exactly if the pair is in it. -/
theorem Sorted.find?_eq_some_iff (sorted : d.Sorted) :
    d.find? key = some value ↔ (key, value) ∈ d := by
  induction d with
  | nil => simp [find?]
  | cons first rest ih =>
      obtain ⟨k, v⟩ := first
      obtain ⟨hfirst, hrest⟩ := List.pairwise_cons.1 sorted
      rw [List.mem_cons, Prod.mk.injEq, ← ih hrest]
      by_cases hkey : key = k
      · subst hkey
        have habsent : find? rest key ≠ some value := by
          intro hfound
          have hless : key < key := hfirst (key, value) ((ih hrest).1 hfound)
          exact String.lt_irrefl key hless
        simp only [habsent, or_false, true_and]
        simp [find?, eq_comm]
      · have hbeq : (key == k) = false := by simpa using hkey
        simp [find?, List.lookup_cons, hbeq, hkey]

theorem sorted_foldl_insert (sorted : d.Sorted) (bindings : List (String × α)) :
    (bindings.foldl (fun d b => d.insert b.1 b.2) d).Sorted := by
  induction bindings generalizing d with
  | nil => exact sorted
  | cons b bindings ih => exact ih (sorted.insert b.1 b.2)

/-- A dictionary of bindings has its keys in order. -/
theorem sorted_ofList (bindings : List (String × α)) : (ofList bindings).Sorted :=
  sorted_foldl_insert List.Pairwise.nil bindings

theorem find?_foldl_insert_of_not_mem (absent : key ∉ bindings.map Prod.fst) :
    (bindings.foldl (fun d b => d.insert b.1 b.2) d).find? key = d.find? key := by
  induction bindings generalizing d with
  | nil => rfl
  | cons b bindings ih =>
      rw [List.map_cons, List.mem_cons, not_or] at absent
      rw [List.foldl_cons, ih absent.2, find?_insert_of_ne absent.1]

theorem find?_foldl_insert_of_mem (nodup : (bindings.map Prod.fst).Nodup)
    (h : (key, value) ∈ bindings) :
    (bindings.foldl (fun d b => d.insert b.1 b.2) d).find? key = some value := by
  induction bindings generalizing d with
  | nil => cases h
  | cons b bindings ih =>
      rw [List.map_cons, List.nodup_cons] at nodup
      rw [List.foldl_cons]
      rcases List.mem_cons.1 h with rfl | h
      · rw [find?_foldl_insert_of_not_mem nodup.1, find?_insert_self]
      · exact ih nodup.2 h

/-- A dictionary of bindings with different keys binds just these. -/
theorem find?_ofList_eq_some_iff (nodup : (bindings.map Prod.fst).Nodup) :
    (ofList bindings).find? key = some value ↔ (key, value) ∈ bindings := by
  constructor
  · intro hfound
    by_cases hkey : key ∈ bindings.map Prod.fst
    · obtain ⟨⟨k, v⟩, hmem, rfl⟩ := List.mem_map.1 hkey
      have hbound : (ofList bindings).find? k = some v := find?_foldl_insert_of_mem nodup hmem
      rw [hbound, Option.some.injEq] at hfound
      exact hfound ▸ hmem
    · have hnone : (ofList bindings).find? key = none := find?_foldl_insert_of_not_mem hkey
      rw [hnone] at hfound
      cases hfound
  · intro hmem
    exact find?_foldl_insert_of_mem nodup hmem

/-! ## Keys that are repeated -/

/-- The value that a key is bound to last. -/
def lastValue? (bindings : List (String × α)) (key : String) : Option α :=
  (bindings.filter (·.1 = key)).getLast?.map Prod.snd

/-- What comes later counts first. -/
theorem lastValue?_cons (b : String × α) (bindings : List (String × α)) (key : String) :
    lastValue? (b :: bindings) key =
      (lastValue? bindings key).or (if b.1 = key then some b.2 else none) := by
  by_cases hkey : b.1 = key
  · rw [lastValue?, lastValue?, List.filter_cons_of_pos (by simpa using hkey), List.getLast?_cons,
      if_pos hkey]
    cases (bindings.filter (·.1 = key)).getLast? <;> rfl
  · rw [lastValue?, lastValue?, List.filter_cons_of_neg (by simpa using hkey), if_neg hkey,
      Option.or_none]

theorem lastValue?_eq_none_iff : lastValue? bindings key = none ↔ ∀ b ∈ bindings, b.1 ≠ key := by
  simp [lastValue?]

theorem find?_foldl_insert (d : Dictionary α) (bindings : List (String × α)) (key : String) :
    (bindings.foldl (fun d b => d.insert b.1 b.2) d).find? key =
      (lastValue? bindings key).or (d.find? key) := by
  induction bindings generalizing d with
  | nil => rfl
  | cons b bindings ih =>
      rw [List.foldl_cons, ih, lastValue?_cons, Option.or_assoc]
      by_cases hkey : b.1 = key
      · rw [if_pos hkey, ← hkey, find?_insert_self, Option.some_or]
      · rw [if_neg hkey, find?_insert_of_ne (Ne.symm hkey), Option.none_or]

/-- A dictionary of bindings binds a key to its last value. -/
theorem find?_ofList (bindings : List (String × α)) (key : String) :
    (ofList bindings).find? key = lastValue? bindings key := by
  rw [ofList, find?_foldl_insert]
  exact Option.or_none

end Dictionary

end Northbound
