import Northbound.Proofs.FileSystem.Path

/-!
# Ways to write a path

Taking a path apart drops its dots and repeated slashes, so that the parent of a path may be written
otherwise than the path itself. `Path.Spells` says what all ways to write one place have in common.
-/

namespace Northbound

namespace Path

variable {name : Bytes} {names : List Bytes} {p q dest : Path}

theorem componentBytes_componentOf (s : Bytes) : componentBytes (componentOf s) = s := by
  unfold componentOf
  split
  next h => exact h.symm
  next =>
    split
    next h => exact h.symm
    next => rfl

theorem componentOf_eq_here_iff {s : Bytes} : componentOf s = .here ↔ s = dot := by
  unfold componentOf
  split
  next h => simp [h]
  next h => split <;> simp [h]

theorem componentOf_ne_root (s : Bytes) : componentOf s ≠ .root := by
  unfold componentOf
  split
  · simp
  · split <;> simp

theorem Plain.componentOf (h : Plain name) : componentOf name = .name name := by
  simp [Path.componentOf, h.dot, h.dotDot]

/-- Names without the dots. -/
def undotted (names : List Bytes) : List Bytes := names.filter fun s => s ≠ dot

theorem undotted_cons_dot (names : List Bytes) : undotted (dot :: names) = undotted names := by
  simp [undotted]

theorem undotted_cons_of_ne (h : name ≠ dot) (names : List Bytes) :
    undotted (name :: names) = [name] ++ undotted names := by
  simp [undotted, h]

theorem undotted_append (xs ys : List Bytes) :
    undotted (xs ++ ys) = undotted xs ++ undotted ys := by
  simp [undotted]

theorem undotted_undotted (xs : List Bytes) : undotted (undotted xs) = undotted xs := by
  simp [undotted]

theorem undotted_of_plain (h : ∀ n ∈ names, Plain n) : undotted names = names := by
  rw [undotted, List.filter_eq_self]
  intro n hn
  simpa using (h n hn).dot

/-- The names that are left of those in a path when it is taken apart: a dot counts only at the
start of a relative path. -/
def kept (absolute : Bool) (names : List Bytes) : List Bytes :=
  if absolute = false ∧ names.head? = some dot then dot :: undotted names else undotted names

theorem kept_sublist (absolute : Bool) (names : List Bytes) :
    List.Sublist (kept absolute names) names := by
  unfold kept
  split
  next h =>
    obtain ⟨rest, rfl⟩ := List.head?_eq_some_iff.1 h.2
    simp [undotted]
  next => exact List.filter_sublist

theorem undotted_kept (absolute : Bool) (names : List Bytes) :
    undotted (kept absolute names) = undotted names := by
  unfold kept
  split
  · simp [undotted]
  · exact undotted_undotted names

theorem kept_ne_nil {absolute : Bool} (h : names = [] → absolute = true)
    (empty : kept absolute names = []) : absolute = true := by
  cases absolute with
  | true => rfl
  | false =>
    cases names with
    | nil => exact h rfl
    | cons n ns =>
      by_cases dotted : n = dot
      · simp [kept, dotted] at empty
      · simp [kept, dotted, undotted] at empty

/-- Plain names at the end are kept. -/
theorem kept_append {absolute : Bool} {front : List Bytes} (h : front = [] → absolute = true)
    (plain : ∀ n ∈ names, Plain n) :
    kept absolute (front ++ names) = kept absolute front ++ names := by
  have first : (absolute = false ∧ (front ++ names).head? = some dot) ↔
      (absolute = false ∧ front.head? = some dot) := by
    cases front with
    | nil => simp [h rfl]
    | cons f fs => simp
  unfold kept
  simp only [first, undotted_append, undotted_of_plain plain]
  split <;> simp

/-- Names with no dot but perhaps the first one of a relative path are all kept. -/
theorem kept_eq_self {absolute : Bool} (tail : dot ∉ names.tail)
    (head : names.head? = some dot → absolute = false) : kept absolute names = names := by
  cases names with
  | nil => simp [kept, undotted]
  | cons n ns =>
    have rest : ∀ m ∈ ns, m ≠ dot := fun m hm same => tail (same ▸ hm)
    by_cases dotted : n = dot
    · subst dotted
      simpa [kept, head rfl, undotted] using rest
    · simpa [kept, dotted, undotted] using rest

/-- What is kept of names has no dot but perhaps the first one of a relative path. -/
theorem dot_of_kept (absolute : Bool) (names : List Bytes) :
    dot ∉ (kept absolute names).tail ∧
      ((kept absolute names).head? = some dot → absolute = false) := by
  have gone : dot ∉ undotted names := by simp [undotted]
  unfold kept
  split
  next h => exact ⟨gone, fun _ => h.1⟩
  next => exact ⟨fun h => gone (List.mem_of_mem_tail h), fun h => absurd (List.mem_of_head? h) gone⟩

theorem components_eq (p : Path) :
    components p = (if p.isAbsolute then [.root] else []) ++
      (kept p.isAbsolute (segments p)).map componentOf := by
  have filtered : ((segments p).map componentOf).filter (· ≠ .here) =
      (undotted (segments p)).map componentOf := by
    rw [undotted, List.filter_map]
    congr 1
    apply List.filter_congr
    intro s hs
    simp [componentOf_eq_here_iff]
  have first :
      ((segments p).map componentOf).head? = some .here ↔ (segments p).head? = some dot := by
    rw [List.head?_map]
    cases (segments p).head? with
    | none => simp
    | some s => simp [componentOf_eq_here_iff]
  unfold components kept
  simp only [filtered, first]
  by_cases absolute : p.isAbsolute
  · simp [absolute]
  · by_cases leading : (segments p).head? = some dot
    · simp [absolute, leading, componentOf]
    · simp [absolute, leading]

/-- A name that is left when a path is taken apart is in the path and no dot. -/
theorem mem_components_name (h : Component.name name ∈ components p) :
    name ∈ segments p ∧ name ≠ dot ∧ name ≠ dotDot := by
  rw [components_eq, List.mem_append] at h
  rcases h with h | h
  · split at h <;> simp at h
  · obtain ⟨s, hs, same⟩ := List.mem_map.1 h
    unfold componentOf at same
    split at same
    · cases same
    next dot =>
      split at same
      · cases same
      next dotDot =>
        cases same
        exact ⟨(kept_sublist _ _).subset hs, dot, dotDot⟩

/-- A path with the given names. -/
def ofNames (absolute : Bool) (names : List Bytes) : Path :=
  if absolute then slash :: joined names else joined names

theorem ofComponents_map (absolute : Bool) (h : ∀ n ∈ names, n ≠ [] ∧ slash ∉ n) :
    ofComponents ((if absolute then [Component.root] else []) ++ names.map componentOf) =
      ofNames absolute names := by
  have bytes (start : Path) :
      (names.map componentOf).foldl (fun p c => join p (componentBytes c)) start =
      names.foldl join start := by
    rw [List.foldl_map]
    congr 1
    funext p s
    rw [componentBytes_componentOf]
  by_cases empty : names = []
  · subst empty
    cases absolute <;> rfl
  · cases absolute with
    | true =>
      rw [ofComponents, List.foldl_append, bytes]
      simp only [if_true, List.foldl_cons, List.foldl_nil, ofNames]
      rw [foldl_join h empty]
      exact join_of_relative (isAbsolute_joined h) [slash]
    | false =>
      rw [ofComponents, List.foldl_append, bytes]
      simp only [Bool.false_eq_true, if_false, List.foldl_nil, ofNames]
      rw [foldl_join h empty]
      exact join_of_relative (isAbsolute_joined h) []

theorem segments_ofNames (absolute : Bool) (h : ∀ n ∈ names, n ≠ [] ∧ slash ∉ n) :
    segments (ofNames absolute names) = names := by
  cases absolute with
  | true => exact (segments_append_slash [] (joined names)).trans (by rw [segments_joined h]; rfl)
  | false => exact segments_joined h

theorem isAbsolute_ofNames (absolute : Bool) (h : ∀ n ∈ names, n ≠ [] ∧ slash ∉ n) :
    isAbsolute (ofNames absolute names) = absolute := by
  cases absolute with
  | true => rfl
  | false => exact isAbsolute_joined h

theorem endsInSlash_ofNames {absolute : Bool} (h : ∀ n ∈ names, n ≠ [] ∧ slash ∉ n)
    (ends : endsInSlash (ofNames absolute names) = true) : ofNames absolute names = [slash] := by
  cases absolute with
  | true =>
    by_cases empty : names = []
    · subst empty
      rfl
    · have tail : joined names ≠ [] := joined_ne_nil empty fun n hn => (h n hn).1
      have : endsInSlash (ofNames true names) = endsInSlash (joined names) :=
        endsInSlash_append (p := [slash]) tail
      rw [this, endsInSlash_joined h] at ends
      exact absurd ends (by decide)
  | false =>
    change endsInSlash (joined names) = true at ends
    rw [endsInSlash_joined h] at ends
    exact absurd ends (by decide)

theorem length_ofNames_le (absolute : Bool) (names : List Bytes) :
    (ofNames absolute names).length ≤ weight names + 1 := by
  by_cases empty : names = []
  · subst empty
    cases absolute <;> simp [ofNames, joined]
  · have := length_joined empty
    cases absolute <;> simp [ofNames] <;> omega

/-- A path without names has no parent. -/
theorem parent?_of_kept_eq_nil (top : kept p.isAbsolute (segments p) = []) : parent? p = none := by
  have shape := components_eq p
  rw [top, List.map_nil, List.append_nil] at shape
  rw [parent?, shape]
  cases p.isAbsolute <;> rfl

theorem parent?_of_components {front : List Component} {c : Component}
    (h : components p = front ++ [c]) (ne : c ≠ .root) :
    parent? p = some (ofComponents front) := by
  cases c with
  | root => exact absurd rfl ne
  | _ => simp only [parent?, h, List.getLast?_concat, List.dropLast_concat]

/-- The parent of a path has all the names of the path that are kept, but the last. -/
theorem parent?_of_kept (further : kept p.isAbsolute (segments p) ≠ []) :
    parent? p = some (ofNames p.isAbsolute (kept p.isAbsolute (segments p)).dropLast) := by
  have good : ∀ n ∈ (kept p.isAbsolute (segments p)).dropLast, n ≠ [] ∧ slash ∉ n := by
    intro n hn
    exact segments_nonempty ((kept_sublist _ _).subset ((List.dropLast_sublist _).subset hn))
  have whole : components p = ((if p.isAbsolute then [.root] else []) ++
      (kept p.isAbsolute (segments p)).dropLast.map componentOf) ++
        [componentOf ((kept p.isAbsolute (segments p)).getLast further)] := by
    have last := congrArg (List.map componentOf) (List.dropLast_concat_getLast further)
    rw [List.map_append, List.map_singleton] at last
    rw [components_eq, List.append_assoc, last]
  rw [parent?_of_components whole (componentOf_ne_root _), ofComponents_map _ good]

/-- The parent of a path has all its components but the last. -/
theorem components_of_parent? (h : parent? p = some q) :
    components q = (components p).dropLast := by
  by_cases top : kept p.isAbsolute (segments p) = []
  · rw [parent?_of_kept_eq_nil top] at h
    cases h
  · rw [parent?_of_kept top] at h
    cases h
    obtain ⟨tail, head⟩ := dot_of_kept p.isAbsolute (segments p)
    have good : ∀ n ∈ (kept p.isAbsolute (segments p)).dropLast, n ≠ [] ∧ slash ∉ n := by
      intro n hn
      exact segments_nonempty ((kept_sublist _ _).subset ((List.dropLast_sublist _).subset hn))
    rw [components_eq, components_eq p, isAbsolute_ofNames _ good, segments_ofNames _ good,
      kept_eq_self, List.dropLast_append_of_ne_nil (by simpa using top), List.map_dropLast]
    · rw [List.tail_dropLast]
      exact fun h => tail ((List.dropLast_sublist _).subset h)
    · intro first
      rw [List.head?_dropLast] at first
      split at first
      · exact head first
      · cases first

/-- A path that leads through the names of `dest` and then through `names`. It may be written with
dots that `dest` has not, or without those it has. -/
structure Spells (dest : Path) (names : List Bytes) (p : Path) : Prop where
  absolute : p.isAbsolute = dest.isAbsolute
  segments : ∃ front, segments p = front ++ names ∧
    undotted front = undotted (segments dest) ∧ (front = [] → dest.isAbsolute = true)
  slash : p.endsInSlash = true → p = [slash]

theorem length_segments_pos (nonempty : p ≠ []) (empty : segments p = []) :
    p.isAbsolute = true := by
  cases p with
  | nil => exact absurd rfl nonempty
  | cons b p =>
    by_cases h : b = slash
    · subst h
      rfl
    · simp [segments, pieces_cons, h] at empty

/-- A directory with names behind it. -/
theorem spells_join (nonempty : dest ≠ []) (further : names ≠ []) (plain : ∀ n ∈ names, Plain n) :
    Spells dest names (join dest (joined names)) := by
  have good := unslashed_of_plain plain
  have relative := isAbsolute_joined good
  have tail : joined names ≠ [] := joined_ne_nil further fun n hn => (good n hn).1
  refine ⟨isAbsolute_join relative nonempty, ⟨Path.segments dest, ?_, rfl, ?_⟩, ?_⟩
  · rw [segments_join relative, segments_joined good]
  · exact length_segments_pos nonempty
  · intro ends
    rw [endsInSlash_join relative tail, endsInSlash_joined good] at ends
    exact absurd ends (by decide)

/-- A path to something in a directory does not end in a slash. -/
theorem Spells.endsInSlash (h : Spells dest names p) (further : names ≠ []) :
    p.endsInSlash = false := by
  obtain ⟨front, shape, -⟩ := h.segments
  cases ends : p.endsInSlash with
  | false => rfl
  | true =>
    rw [h.slash ends] at shape
    have : Path.segments [Path.slash] = [] := by decide
    rw [this] at shape
    exact absurd (List.append_eq_nil_iff.1 shape.symm).2 further

/-- The path without its last name. -/
theorem Spells.parent (h : Spells dest (names ++ [name]) p)
    (plain : ∀ n ∈ names ++ [name], Plain n) :
    ∃ q, parent? p = some q ∧ Spells dest names q ∧ q.length ≤ p.length ∧ (0 ∉ p → 0 ∉ q) := by
  obtain ⟨front, shape, dots, start⟩ := h.segments
  rw [← h.absolute] at start
  have plain_names : ∀ n ∈ names, Plain n := fun n hn => plain n (by simp [hn])
  have last : Plain name := plain name (by simp)
  have from_p : List.Sublist (kept p.isAbsolute front ++ names) (Path.segments p) := by
    rw [shape, ← List.append_assoc]
    exact ((kept_sublist _ front).append_right names).trans (List.sublist_append_left _ _)
  have good : ∀ n ∈ kept p.isAbsolute front ++ names, n ≠ [] ∧ Path.slash ∉ n := by
    intro n hn
    exact segments_nonempty (from_p.subset hn)
  have kept_p : kept p.isAbsolute (Path.segments p) =
      kept p.isAbsolute front ++ names ++ [name] := by
    rw [shape, kept_append start plain, List.append_assoc]
  have parent_p : parent? p = some (ofNames p.isAbsolute (kept p.isAbsolute front ++ names)) := by
    rw [parent?_of_kept (by simp [kept_p]), kept_p, List.dropLast_concat]
  refine ⟨_, parent_p, ⟨?_, ⟨kept p.isAbsolute front, ?_, ?_, ?_⟩, ?_⟩, ?_, ?_⟩
  · rw [isAbsolute_ofNames _ good, h.absolute]
  · exact segments_ofNames _ good
  · rw [undotted_kept, dots]
  · rw [← h.absolute]
    exact kept_ne_nil start
  · exact endsInSlash_ofNames good
  · have whole := weight_segments_le p
    have total : Path.segments p = (front ++ names) ++ [name] := by simpa using shape
    have fewer := weight_le_of_sublist ((kept_sublist p.isAbsolute front).append_right names)
    have bound := length_ofNames_le p.isAbsolute (kept p.isAbsolute front ++ names)
    rw [total, weight_append] at whole
    have := last.nonempty
    have : 0 < name.length := List.length_pos_iff.2 last.nonempty
    simp only [weight_cons, weight_nil] at whole
    omega
  · intro clean found
    have : 0 = Path.slash ∨ 0 ∈ joined (kept p.isAbsolute front ++ names) := by
      cases absolute : p.isAbsolute with
      | true =>
        rw [absolute] at found
        simpa [ofNames] using found
      | false =>
        rw [absolute] at found
        exact Or.inr (by simpa [ofNames] using found)
    rcases this with zero | found
    · exact absurd zero (by decide)
    · rcases mem_joined found with zero | ⟨n, hn, zero⟩
      · exact absurd zero (by decide)
      · exact clean (mem_of_mem_segments (from_p.subset hn) zero)

/-- The names that a component adds to those of a path, dots left out. -/
def steps : Component → List Bytes
  | .root => []
  | .here => []
  | .parent => [dotDot]
  | .name s => [s]

theorem steps_componentOf (s : Bytes) : steps (componentOf s) = if s = dot then [] else [s] := by
  unfold componentOf
  split
  · rfl
  · split
    next h => rw [h]; rfl
    · rfl

/-- The components of a path tell its names. -/
theorem undotted_segments (p : Path) : undotted (segments p) = (components p).flatMap steps := by
  have named (ss : List Bytes) : (ss.map componentOf).flatMap steps = undotted ss := by
    induction ss with
    | nil => rfl
    | cons s ss ih =>
      rw [List.map_cons, List.flatMap_cons, ih, steps_componentOf]
      by_cases h : s = dot
      · simp [undotted, h]
      · simp [undotted, h]
  rw [components_eq, List.flatMap_append, named, undotted_kept]
  split <;> rfl

/-- A path that climbs has a component that climbs. -/
theorem parent_mem_components_iff : .parent ∈ components p ↔ dotDot ∈ segments p := by
  have ne : dotDot ≠ dot := by decide
  constructor
  · intro h
    have : dotDot ∈ undotted (segments p) := by
      rw [undotted_segments]
      exact List.mem_flatMap.2 ⟨.parent, h, by simp [steps]⟩
    exact (List.mem_filter.1 this).1
  · intro h
    have climbs : dotDot ∈ undotted (segments p) := by simp [undotted, h, ne]
    rw [undotted_segments] at climbs
    obtain ⟨c, hc, same⟩ := List.mem_flatMap.1 climbs
    cases c with
    | parent => exact hc
    | name s => exact absurd (List.mem_singleton.1 same).symm (mem_components_name hc).2.2
    | root => cases same
    | here => cases same

/-- The components of a path tell whether it is absolute. -/
theorem isAbsolute_iff (p : Path) : p.isAbsolute = true ↔ (components p).head? = some .root := by
  have named (ss : List Bytes) : (ss.map componentOf).head? ≠ some .root := by
    cases ss with
    | nil => simp
    | cons s ss =>
      simp only [List.map_cons, List.head?_cons, ne_eq, Option.some.injEq]
      exact componentOf_ne_root s
  rw [components_eq]
  cases p.isAbsolute with
  | true => simp
  | false => simpa using named _

theorem isAbsolute_of_components (h : components p = components dest ++ names.map .name) :
    p.isAbsolute = dest.isAbsolute := by
  rw [Bool.eq_iff_iff, isAbsolute_iff, isAbsolute_iff, h, List.head?_append]
  cases (components dest).head? with
  | none => cases names <;> simp
  | some c => simp

theorem undotted_of_components (h : components p = components dest ++ names.map .name) :
    undotted (segments p) = undotted (segments dest) ++ names := by
  rw [undotted_segments, undotted_segments, h, List.flatMap_append, List.flatMap_map]
  congr 1
  exact List.flatMap_singleton' names

end Path

end Northbound
