import Northbound.FileSystem.Path

/-!
# Paths and their names

A path is its pieces with slashes between them. What the operations on paths do is said in terms of
the names in a path, whether it is absolute and whether it ends in a slash.
-/

namespace Northbound

namespace Path

/-- Names joined by slashes. -/
def joined : List Bytes → Path
  | [] => []
  | [name] => name
  | name :: names => name ++ slash :: joined names

/-- A name that stands for itself in a path. -/
structure Plain (name : Bytes) : Prop where
  nonempty : name ≠ []
  slash : slash ∉ name
  dot : name ≠ dot
  dotDot : name ≠ dotDot

variable {name : Bytes} {names : List Bytes} {p q : Path}

theorem joined_cons (h : names ≠ []) (name : Bytes) :
    joined (name :: names) = name ++ slash :: joined names := by
  cases names with
  | nil => exact absurd rfl h
  | cons n ns => rfl

theorem pieces_ne_nil (p : Path) : pieces p ≠ [] := by
  cases p with
  | nil => simp [pieces]
  | cons b p =>
    simp only [pieces]
    split
    · simp
    · split <;> simp

theorem pieces_cons (b : UInt8) (p : Path) :
    pieces (b :: p) = if b = slash then [] :: pieces p
      else (b :: (pieces p).head (pieces_ne_nil p)) :: (pieces p).tail := by
  have nonempty := pieces_ne_nil p
  rw [pieces]
  split
  next h => exact absurd h nonempty
  next l ls h => simp [h]

/-- A slash separates. -/
theorem pieces_append_slash (p q : Path) : pieces (p ++ slash :: q) = pieces p ++ pieces q := by
  induction p with
  | nil => simp [pieces_cons, pieces]
  | cons b p ih =>
    have nonempty := pieces_ne_nil p
    rw [List.cons_append, pieces_cons, pieces_cons]
    simp only [ih]
    split
    · rfl
    · simp [nonempty]

theorem pieces_of_not_mem (h : slash ∉ p) : pieces p = [p] := by
  induction p with
  | nil => rfl
  | cons b p ih =>
    rw [List.mem_cons, not_or] at h
    have : b ≠ slash := fun e => h.1 e.symm
    simp [pieces_cons, this, ih h.2]

/-- A path is its pieces with slashes between them. -/
theorem joined_pieces (p : Path) : joined (pieces p) = p := by
  induction p with
  | nil => rfl
  | cons b p ih =>
    have nonempty := pieces_ne_nil p
    rw [pieces_cons]
    split
    next h => rw [joined_cons nonempty, ih, h]; rfl
    next =>
      obtain ⟨l, ls, shape⟩ := List.exists_cons_of_ne_nil nonempty
      rw [shape] at ih
      simp only [shape, List.head_cons, List.tail_cons]
      cases ls with
      | nil => simpa [joined] using ih
      | cons k ks =>
        rw [joined_cons (by simp)] at ih ⊢
        rw [List.cons_append, ih]

theorem segments_append_slash (p q : Path) :
    segments (p ++ slash :: q) = segments p ++ segments q := by
  simp [segments, pieces_append_slash]

theorem segments_of_name (nonempty : name ≠ []) (h : slash ∉ name) : segments name = [name] := by
  simp [segments, pieces_of_not_mem h, nonempty]

theorem segments_joined (h : ∀ n ∈ names, n ≠ [] ∧ slash ∉ n) :
    segments (joined names) = names := by
  induction names with
  | nil => rfl
  | cons n ns ih =>
    have first := h n (by simp)
    have others := ih fun m hm => h m (by simp [hm])
    by_cases last : ns = []
    · subst last
      exact segments_of_name first.1 first.2
    · rw [joined_cons last, segments_append_slash, segments_of_name first.1 first.2, others]
      rfl

theorem mem_pieces_of_mem_segments (h : name ∈ segments p) : name ∈ pieces p :=
  (List.mem_filter.1 h).1

theorem not_slash_of_mem_pieces (h : name ∈ pieces p) : slash ∉ name := by
  induction p generalizing name with
  | nil => simp_all [pieces]
  | cons b p ih =>
    rw [pieces_cons] at h
    split at h
    · rcases List.mem_cons.1 h with rfl | h
      · simp
      · exact ih h
    next ne =>
      rcases List.mem_cons.1 h with rfl | h
      · rw [List.mem_cons, not_or]
        exact ⟨fun e => ne e.symm, ih (List.head_mem _)⟩
      · exact ih (List.mem_of_mem_tail h)

theorem segments_nonempty (h : name ∈ segments p) : name ≠ [] ∧ slash ∉ name := by
  refine ⟨?_, not_slash_of_mem_pieces (mem_pieces_of_mem_segments h)⟩
  simpa using (List.mem_filter.1 h).2

theorem unslashed_of_plain (plain : ∀ n ∈ names, Plain n) : ∀ n ∈ names, n ≠ [] ∧ slash ∉ n := by
  intro n hn
  exact ⟨(plain n hn).nonempty, (plain n hn).slash⟩

/-- The bytes that names take with a slash each. -/
def weight (names : List Bytes) : Nat := names.foldr (fun n total => n.length + 1 + total) 0

@[simp] theorem weight_nil : weight [] = 0 := rfl

@[simp] theorem weight_cons (name : Bytes) (names : List Bytes) :
    weight (name :: names) = name.length + 1 + weight names := rfl

theorem weight_append (xs ys : List Bytes) : weight (xs ++ ys) = weight xs + weight ys := by
  induction xs with
  | nil => simp
  | cons x xs ih => simp [ih]; omega

theorem length_le_weight (names : List Bytes) : names.length ≤ weight names := by
  induction names with
  | nil => exact Nat.le_refl 0
  | cons n ns ih => simp; omega

theorem length_joined (h : names ≠ []) : (joined names).length + 1 = weight names := by
  induction names with
  | nil => exact absurd rfl h
  | cons n ns ih =>
    by_cases last : ns = []
    · subst last
      simp [joined]
    · have := ih last
      rw [joined_cons last]
      simp
      omega

theorem weight_le_of_sublist {xs ys : List Bytes} (h : List.Sublist xs ys) :
    weight xs ≤ weight ys := by
  induction h with
  | slnil => exact Nat.le_refl _
  | cons y _ ih => simp; omega
  | cons_cons y _ ih => simp; omega

theorem weight_pieces (p : Path) : weight (pieces p) = p.length + 1 := by
  have := length_joined (pieces_ne_nil p)
  rw [joined_pieces] at this
  omega

/-- An absolute path has one slash more than its names account for. -/
theorem weight_segments_le (p : Path) :
    weight (segments p) + (if p.isAbsolute then 1 else 0) ≤ p.length + 1 := by
  have whole := weight_pieces p
  have fewer : weight (segments p) ≤ weight (pieces p) := weight_le_of_sublist List.filter_sublist
  split
  next absolute =>
    cases p with
    | nil => simp [isAbsolute, slash] at absolute
    | cons b p =>
      have : b = slash := by simpa [isAbsolute] using absolute
      subst this
      have own := weight_pieces p
      have := weight_le_of_sublist (List.filter_sublist (l := pieces p) (p := fun s => !s.isEmpty))
      have : segments (slash :: p) = segments p := by simp [segments, pieces_cons]
      rw [this]
      simp only [segments, List.length_cons]
      omega
  next => omega

theorem mem_joined {b : UInt8} (h : b ∈ joined names) : b = slash ∨ ∃ n ∈ names, b ∈ n := by
  induction names with
  | nil => simp [joined] at h
  | cons n ns ih =>
    by_cases last : ns = []
    · subst last
      exact Or.inr ⟨n, by simp, h⟩
    · rw [joined_cons last] at h
      rcases List.mem_append.1 h with h | h
      · exact Or.inr ⟨n, by simp, h⟩
      · rcases List.mem_cons.1 h with h | h
        · exact Or.inl h
        · rcases ih h with h | ⟨m, hm, h⟩
          · exact Or.inl h
          · exact Or.inr ⟨m, by simp [hm], h⟩

theorem mem_joined_of_mem {b : UInt8} (hn : name ∈ names) (hb : b ∈ name) : b ∈ joined names := by
  induction names with
  | nil => simp at hn
  | cons n ns ih =>
    by_cases last : ns = []
    · subst last
      simp at hn
      subst hn
      exact hb
    · rw [joined_cons last, List.mem_append, List.mem_cons]
      rcases List.mem_cons.1 hn with rfl | hn
      · exact Or.inl hb
      · exact Or.inr (Or.inr (ih hn))

theorem mem_of_mem_segments {b : UInt8} (hn : name ∈ segments p) (hb : b ∈ name) : b ∈ p := by
  have := mem_joined_of_mem (mem_pieces_of_mem_segments hn) hb
  rwa [joined_pieces] at this

theorem joined_ne_nil (h : names ≠ []) (nonempty : ∀ n ∈ names, n ≠ []) : joined names ≠ [] := by
  cases names with
  | nil => exact absurd rfl h
  | cons n ns =>
    have := nonempty n (by simp)
    by_cases last : ns = []
    · subst last
      exact this
    · rw [joined_cons last]
      simp

/-- Joined names neither start nor end in a slash. -/
theorem isAbsolute_joined (h : ∀ n ∈ names, n ≠ [] ∧ slash ∉ n) :
    isAbsolute (joined names) = false := by
  cases names with
  | nil => rfl
  | cons n ns =>
    have first := h n (by simp)
    obtain ⟨b, bs, rfl⟩ := List.exists_cons_of_ne_nil first.1
    have : b ≠ slash := by
      rintro rfl
      simp at first
    by_cases last : ns = []
    · subst last
      simpa [joined, isAbsolute] using this
    · rw [joined_cons last]
      simpa [isAbsolute] using this

theorem endsInSlash_append (h : q ≠ []) : endsInSlash (p ++ q) = endsInSlash q := by
  simp [endsInSlash, List.getLastD_eq_getLast?, List.getLast?_append,
    List.getLast?_eq_some_getLast h]

theorem endsInSlash_of_not_mem (h : slash ∉ name) : endsInSlash name = false := by
  cases last : name.getLast? with
  | none => simp [endsInSlash, List.getLastD_eq_getLast?, last, slash]
  | some b =>
    have : b ∈ name := List.mem_of_getLast? last
    have : b ≠ slash := fun e => h (e ▸ this)
    simpa [endsInSlash, List.getLastD_eq_getLast?, last] using this

theorem endsInSlash_joined (h : ∀ n ∈ names, n ≠ [] ∧ slash ∉ n) :
    endsInSlash (joined names) = false := by
  induction names with
  | nil => rfl
  | cons n ns ih =>
    have first := h n (by simp)
    by_cases last : ns = []
    · subst last
      exact endsInSlash_of_not_mem first.2
    · have others := fun m hm => h m (List.mem_cons_of_mem n hm)
      rw [joined_cons last, endsInSlash_append (by simp)]
      have tail : joined ns ≠ [] := joined_ne_nil last fun m hm => (others m hm).1
      have : slash :: joined ns = [slash] ++ joined ns := rfl
      rw [this, endsInSlash_append tail]
      exact ih others

/-- A relative path put behind another one. -/
theorem join_of_relative (h : q.isAbsolute = false) (p : Path) :
    join p q = if p.isEmpty || p.endsInSlash then p ++ q else p ++ slash :: q := by
  simp [join, h]

theorem exists_of_endsInSlash (h : p.endsInSlash = true) : ∃ front, p = front ++ [slash] := by
  rcases List.eq_nil_or_concat p with rfl | ⟨front, last, rfl⟩
  · simp [endsInSlash, slash] at h
  · refine ⟨front, ?_⟩
    rw [List.concat_eq_append] at h ⊢
    rw [endsInSlash_append (by simp)] at h
    have : last = slash := by simpa [endsInSlash] using h
    rw [this]

theorem segments_join (h : q.isAbsolute = false) (p : Path) :
    segments (join p q) = segments p ++ segments q := by
  rw [join_of_relative h]
  split
  next plain =>
    rcases Bool.or_eq_true_iff.1 plain with empty | ends
    · rw [List.isEmpty_iff.1 empty]
      rfl
    · obtain ⟨front, rfl⟩ := exists_of_endsInSlash ends
      have : segments (front ++ slash :: []) = segments front := by
        rw [segments_append_slash]
        simp [segments, pieces]
      rw [List.append_assoc, List.singleton_append, segments_append_slash, this]
  next => rw [segments_append_slash]

theorem mem_join (h : q.isAbsolute = false) {b : UInt8} (hb : b ∈ join p q) :
    b ∈ p ∨ b = slash ∨ b ∈ q := by
  rw [join_of_relative h] at hb
  split at hb
  · rcases List.mem_append.1 hb with hb | hb
    · exact Or.inl hb
    · exact Or.inr (Or.inr hb)
  · rcases List.mem_append.1 hb with hb | hb
    · exact Or.inl hb
    · exact Or.inr (List.mem_cons.1 hb)

theorem isAbsolute_append (h : p ≠ []) : isAbsolute (p ++ q) = isAbsolute p := by
  cases p with
  | nil => exact absurd rfl h
  | cons b p => rfl

theorem isAbsolute_join (h : q.isAbsolute = false) (nonempty : p ≠ []) :
    isAbsolute (join p q) = isAbsolute p := by
  rw [join_of_relative h]
  split <;> exact isAbsolute_append nonempty

theorem endsInSlash_join (h : q.isAbsolute = false) (nonempty : q ≠ []) :
    endsInSlash (join p q) = endsInSlash q := by
  rw [join_of_relative h]
  split
  · exact endsInSlash_append nonempty
  · rw [endsInSlash_append (by simp)]
    exact endsInSlash_append (p := [slash]) nonempty

theorem join_ne_nil (h : q.isAbsolute = false) (nonempty : q ≠ []) : join p q ≠ [] := by
  rw [join_of_relative h]
  split <;> simp [nonempty]

/-- Names put behind a path one by one. -/
theorem foldl_join (h : ∀ n ∈ names, n ≠ [] ∧ slash ∉ n) (further : names ≠ []) (p : Path) :
    names.foldl join p = join p (joined names) := by
  induction names generalizing p with
  | nil => exact absurd rfl further
  | cons n ns ih =>
    have first := h n (by simp)
    have relative : isAbsolute (joined [n]) = false := isAbsolute_joined (by simpa using first)
    change isAbsolute n = false at relative
    by_cases last : ns = []
    · subst last
      rfl
    · have others := fun m hm => h m (List.mem_cons_of_mem n hm)
      have ends : endsInSlash (join p n) = false := by
        rw [endsInSlash_join relative first.1, endsInSlash_of_not_mem first.2]
      have nonempty : (join p n).isEmpty = false := by
        simpa using join_ne_nil (p := p) relative first.1
      rw [List.foldl_cons, ih others last, join_of_relative (isAbsolute_joined others), ends,
        nonempty, join_of_relative (isAbsolute_joined h), join_of_relative relative,
        joined_cons last]
      simp only [Bool.or_self, Bool.false_eq_true, if_false]
      split <;> simp

end Path

end Northbound
