import Northbound.Action
import Northbound.Proofs.FileSystem.Destination

/-!
# Making files and directories in an empty directory

What the operations that change files do to the tree below a directory that was empty, when they
succeed, and when they do.
-/

namespace Northbound

namespace FileSystem

open Northbound.Path (Plain Spells)

theorem withoutEndSlashes_of_spells {dest p : Path} {names : List Bytes}
    (h : Spells dest names p) : withoutEndSlashes p = p := by
  cases ends : p.endsInSlash with
  | true =>
    rw [h.slash ends]
    rfl
  | false =>
    rcases List.eq_nil_or_concat p with rfl | ⟨front, last, rfl⟩
    · rfl
    · rw [List.concat_eq_append] at ends ⊢
      rw [Path.endsInSlash_append (by simp)] at ends
      have ne : ¬last = Path.slash := by simpa [Path.endsInSlash] using ends
      simp [withoutEndSlashes, ne]

/-- What a tree has become when the directories on the way to a place, and one at that place, were
made as far as they were missing. -/
def Made (t : Node) (names : List Bytes) (t' : Node) : Prop :=
  ∀ x, t'.look x = if x <+: names then some .emptyDirectory else t.look x

section Made

variable {t t' : Node} {names : List Bytes}

theorem Made.directory (h : Made t names t') : t'.isDirectory = true := by
  have := h []
  rw [if_pos List.nil_prefix, Node.look_nil] at this
  exact Node.bare_eq_emptyDirectory_iff.1 (Option.some.inj this)

theorem Made.ordinary (h : Made t names t') (ordinary : t.Ordinary) : t'.Ordinary := by
  intro x m found
  rw [h x] at found
  split at found
  · exact Or.inl (Option.some.inj found).symm
  · exact ordinary x m found

/-- Nothing has to be made where a directory stands. -/
theorem Made.of_directory (h : t.look names = some .emptyDirectory) : Made t names t := by
  intro x
  split
  next above =>
    obtain ⟨more, rfl⟩ := above
    cases more with
    | nil => rwa [List.append_nil] at h
    | cons n ns => exact Node.look_of_look_append h (by simp)
  next => rfl

theorem not_prefix_of_concat (front : List Bytes) (last : Bytes) : ¬front ++ [last] <+: front := by
  intro h
  have := h.length_le
  rw [List.length_append, List.length_singleton] at this
  omega

theorem placeable_of_look {front : List Bytes} {last : Bytes}
    (h : t.look front = some .emptyDirectory) : t.Placeable (front ++ [last]) := by
  refine Or.inr ?_
  rwa [List.dropLast_concat]

/-- One directory made. -/
theorem Made.put {front : List Bytes} {last : Bytes} (h : t.look front = some .emptyDirectory)
    (free : t.look (front ++ [last]) = none) :
    Made t (front ++ [last]) (Node.emptyDirectory.put (front ++ [last]) t) := by
  intro x
  rw [Node.look_put (placeable_of_look h)]
  by_cases same : x = front ++ [last]
  · subst same
    simp [Node.bare, Node.emptyDirectory]
  · by_cases above : x <+: front ++ [last]
    · have not_below : ¬front ++ [last] <+: x := by
        intro below
        exact same (above.eq_of_length_le below.length_le)
      have : x <+: front := by
        rcases List.prefix_concat_iff.1 above with e | e
        · exact absurd e same
        · exact e
      rw [if_neg not_below, if_pos above, Made.of_directory h x, if_pos this]
    · rw [if_neg above]
      split
      next below =>
        obtain ⟨more, rfl⟩ := below
        cases more with
        | nil => simp at same
        | cons n ns =>
          rw [Node.look_append_of_eq_none free, List.drop_left, Node.look_cons]
          rfl
      next => rfl

theorem Made.trans_put {front : List Bytes} {last : Bytes} {t₁ : Node}
    (first : Made t front t₁) (second : Made t₁ (front ++ [last]) t') :
    Made t (front ++ [last]) t' := by
  intro x
  rw [second x]
  split
  · rfl
  next apart =>
    rw [first x, if_neg fun above => apart (above.trans (List.prefix_append _ _))]

end Made

section Making

variable {fs fs' : FileSystem} {dest p : Path} {there names : List Bytes} {links : Nat} {t : Node}

theorem put_put (h : EmptyAt fs dest there links) (t n : Node) (names : List Bytes) :
    (fs.put there t).put (there ++ names) n = fs.put there (n.put names t) := by
  obtain ⟨r, empty⟩ := h.empty
  simp only [put]
  rw [Node.put_append_put (Node.placeable_of_get? empty)]

/-- A path that is known to be a directory. -/
theorem look_of_isDirectory (h : EmptyAt fs dest there links) (directory : t.isDirectory = true)
    (ordinary : t.Ordinary) (plain : ∀ n ∈ names, Plain n) (spelled : Spells dest names p)
    (known : (fs.put there t).isDirectory p = true) : t.look names = some .emptyDirectory := by
  obtain ⟨r, empty⟩ := h.empty
  by_cases top : names = []
  · subst top
    rw [Node.look_nil, Node.bare_eq_emptyDirectory_iff.2 directory]
  · cases resolved : (fs.put there t).resolve p with
    | error e => simp [isDirectory, resolved] at known
    | ok found =>
      obtain ⟨place, n⟩ := found
      have dir : n.isDirectory = true := by simpa [isDirectory, resolved] using known
      obtain ⟨located, get⟩ := resolve_eq_ok_iff.1 resolved
      obtain ⟨-, ⟨e, -⟩ | ⟨_, _, -, e, -⟩⟩ :=
        h.locate_cases directory ordinary plain spelled top located
      · cases e
        rw [← look_below empty t names, Node.look]
        simp only [put] at get
        rw [get]
        exact congrArg some (Node.bare_eq_emptyDirectory_iff.2 dir)
      · cases e

/-- No directory can be made in place of the one that is there. -/
theorem newDirectory_there (h : EmptyAt fs dest there links) (directory : t.isDirectory = true)
    (spelled : Spells dest [] p) (nonempty : p ≠ []) :
    (fs.put there t).newDirectory p =
      if 0 ∈ p then .error .nulInPath
      else if maxPath < p.length then .error .nameTooLong
      else .error .exists := by
  obtain ⟨_, -, located⟩ := h.locate_there directory spelled nonempty false
  rw [newDirectory, withoutEndSlashes_of_spells spelled, located]
  by_cases zero : 0 ∈ p
  · simp only [if_pos zero]
  · by_cases long : maxPath < p.length
    · simp only [if_neg zero, if_pos long]
    · simp only [if_neg zero, if_neg long]

/-- A new directory goes where its path says, into a directory that is there. -/
theorem newDirectory_eq_ok (h : EmptyAt fs dest there links) (directory : t.isDirectory = true)
    (ordinary : t.Ordinary) (plain : ∀ n ∈ names, Plain n) (spelled : Spells dest names p)
    {place : List Bytes} (ok : (fs.put there t).newDirectory p = .ok place) :
    ∃ front last, names = front ++ [last] ∧ place = there ++ names ∧
      t.look front = some .emptyDirectory ∧ t.look names = none := by
  rw [newDirectory, withoutEndSlashes_of_spells spelled] at ok
  cases located : (fs.put there t).locate false p with
  | error e =>
    rw [located] at ok
    cases ok
  | ok found =>
    rw [located] at ok
    by_cases top : names = []
    · subst top
      have nonempty : p ≠ [] := by
        rintro rfl
        simp [locate] at located
      have none_made := newDirectory_there h directory spelled nonempty
      rw [newDirectory, withoutEndSlashes_of_spells spelled, located, ok] at none_made
      split at none_made
      · cases none_made
      · split at none_made <;> cases none_made
    · obtain ⟨-, ⟨rfl, -⟩ | ⟨front, last, rfl, rfl, dir, free⟩⟩ :=
        h.locate_cases directory ordinary plain spelled top located
      · cases ok
      · cases ok
        exact ⟨front, last, rfl, List.append_assoc _ _ _, dir, free⟩

theorem ensureDirectory_apply (p : Path) (fs : FileSystem) :
    ensureDirectory p fs = match fs.newDirectory p with
      | .ok names => (.ok (), fs.put names .emptyDirectory)
      | .error e => if fs.isDirectory p then (.ok (), fs) else (.error e, fs) := by
  rw [ensureDirectory, Action.bind_of_ok (Action.get_apply _)]
  cases fs.newDirectory p with
  | ok names => rfl
  | error e =>
    simp only
    rw [Action.bind_of_ok (Action.get_apply _)]
    split <;> rfl

/-- A directory whose parent is not missing is made by itself. -/
theorem makeParents_of_not_missing {fuel : Nat} {p : Path} {fs : FileSystem} (nonempty : p ≠ [])
    (h : fs.newDirectory p ≠ .error .noEntry) :
    makeParents (fuel + 1) p fs = ensureDirectory p fs := by
  rw [makeParents, if_neg (by simpa using nonempty), Action.bind_of_ok (Action.get_apply _),
    ensureDirectory_apply]
  cases new : fs.newDirectory p with
  | ok names => rfl
  | error e =>
    cases e with
    | noEntry => exact absurd new h
    | _ =>
      simp only
      rw [Action.bind_of_ok (Action.get_apply _)]
      split <;> rfl

/-- A missing parent is made first. -/
theorem makeParents_of_missing {fuel : Nat} {p q : Path} {fs : FileSystem} (nonempty : p ≠ [])
    (h : fs.newDirectory p = .error .noEntry) (parent : Path.parent? p = some q) :
    makeParents (fuel + 1) p fs = (makeParents fuel q >>= fun _ => ensureDirectory p) fs := by
  rw [makeParents, if_neg (by simpa using nonempty), Action.bind_of_ok (Action.get_apply _), h]
  simp only [parent]

theorem ensureDirectory_eq_ok (h : EmptyAt fs dest there links) (directory : t.isDirectory = true)
    (ordinary : t.Ordinary) (plain : ∀ n ∈ names, Plain n) (spelled : Spells dest names p)
    (ok : ensureDirectory p (fs.put there t) = (.ok (), fs')) :
    ∃ t', fs' = fs.put there t' ∧ Made t names t' := by
  rw [ensureDirectory_apply] at ok
  cases new : (fs.put there t).newDirectory p with
  | ok place =>
    rw [new] at ok
    obtain ⟨front, last, rfl, rfl, dir, free⟩ :=
      newDirectory_eq_ok h directory ordinary plain spelled new
    cases ok
    exact ⟨_, put_put h t _ _, Made.put dir free⟩
  | error e =>
    rw [new] at ok
    simp only at ok
    split at ok
    next known =>
      cases ok
      exact ⟨t, rfl, Made.of_directory
        (look_of_isDirectory h directory ordinary plain spelled known)⟩
    next => cases ok

/-- Directories are made on the way to a place, and nothing else changes. -/
theorem makeParents_eq_ok (h : EmptyAt fs dest there links) (directory : t.isDirectory = true)
    (ordinary : t.Ordinary) (plain : ∀ n ∈ names, Plain n) (spelled : Spells dest names p)
    {fuel : Nat} (ok : makeParents fuel p (fs.put there t) = (.ok (), fs')) :
    ∃ t', fs' = fs.put there t' ∧ Made t names t' := by
  induction fuel generalizing p names fs' with
  | zero =>
    rw [makeParents] at ok
    cases ok
  | succ fuel ih =>
    by_cases empty : p = []
    · have top : names = [] := by
        obtain ⟨front, shape, -⟩ := spelled.segments
        rw [empty] at shape
        exact (List.append_eq_nil_iff.1 shape.symm).2
      subst top
      rw [makeParents, if_pos (List.isEmpty_iff.2 empty)] at ok
      cases ok
      refine ⟨t, rfl, Made.of_directory ?_⟩
      rw [Node.look_nil, Node.bare_eq_emptyDirectory_iff.2 directory]
    · by_cases missing : (fs.put there t).newDirectory p = .error .noEntry
      · rcases List.eq_nil_or_concat names with rfl | ⟨ns, n, rfl⟩
        · rw [newDirectory_there h directory spelled empty] at missing
          split at missing
          · cases missing
          · split at missing <;> cases missing
        · rw [List.concat_eq_append] at plain spelled ⊢
          obtain ⟨q, parent, spelled_q, -, -⟩ := spelled.parent plain
          rw [makeParents_of_missing empty missing parent] at ok
          obtain ⟨⟨⟩, fs₁, made, ok⟩ := Action.bind_eq_ok ok
          obtain ⟨t₁, rfl, first⟩ := ih (fun m hm => plain m (by simp [hm])) spelled_q made
          obtain ⟨t', rfl, second⟩ := ensureDirectory_eq_ok h first.directory
            (first.ordinary ordinary) plain spelled ok
          exact ⟨t', rfl, first.trans_put second⟩
      · rw [makeParents_of_not_missing empty missing] at ok
        exact ensureDirectory_eq_ok h directory ordinary plain spelled ok

/-- What the system asks of a path and the names in it. -/
structure Acceptable (p : Path) (names : List Bytes) : Prop where
  nul : 0 ∉ p
  length : p.length ≤ maxPath
  plain : ∀ n ∈ names, Plain n
  short : ∀ n ∈ names, n.length ≤ maxName

theorem locate_last (h : EmptyAt fs dest there links) (directory : t.isDirectory = true)
    (ordinary : t.Ordinary) {front : List Bytes} {last : Bytes}
    (spelled : Spells dest (front ++ [last]) p) (acceptable : Acceptable p (front ++ [last]))
    (dir : t.look front = some .emptyDirectory) (follow : Bool) :
    (fs.put there t).locate follow p =
      if t.look (front ++ [last]) = none then .ok (.absent (there ++ front) last)
      else .ok (.present (there ++ (front ++ [last]))) := by
  obtain ⟨r, empty⟩ := h.empty
  rw [h.locate_below directory spelled (by simp), if_neg acceptable.nul,
    if_neg (Nat.not_lt.2 acceptable.length)]
  exact walk_last empty ordinary acceptable.plain acceptable.short dir

theorem isDirectory_of_look (h : EmptyAt fs dest there links) (directory : t.isDirectory = true)
    (ordinary : t.Ordinary) (spelled : Spells dest names p) (acceptable : Acceptable p names)
    (nonempty : p ≠ []) (dir : t.look names = some .emptyDirectory) :
    (fs.put there t).isDirectory p = true := by
  obtain ⟨r, empty⟩ := h.empty
  have located : (fs.put there t).locate true p = .ok (.present (there ++ names)) := by
    rcases List.eq_nil_or_concat names with rfl | ⟨front, last, rfl⟩
    · obtain ⟨found, same, located⟩ := h.locate_there directory spelled nonempty true
      rw [located, if_neg acceptable.nul, if_neg (Nat.not_lt.2 acceptable.length), same rfl,
        List.append_nil]
    · rw [List.concat_eq_append] at *
      rw [locate_last h directory ordinary spelled acceptable
        (Node.look_of_look_append dir (by simp)) true, if_neg (by simp [dir])]
  have seen : (t.put there fs.root).look (there ++ names) = some .emptyDirectory := by
    rw [look_below empty, dir]
  obtain ⟨n, get, bare⟩ := Option.map_eq_some_iff.1 seen
  have resolved : (fs.put there t).resolve p = .ok (there ++ names, n) :=
    resolve_eq_ok_iff.2 ⟨located, get⟩
  simpa [isDirectory, resolved] using Node.bare_eq_emptyDirectory_iff.1 bare

theorem newDirectory_last (h : EmptyAt fs dest there links) (directory : t.isDirectory = true)
    (ordinary : t.Ordinary) {front : List Bytes} {last : Bytes}
    (spelled : Spells dest (front ++ [last]) p) (acceptable : Acceptable p (front ++ [last]))
    (dir : t.look front = some .emptyDirectory) :
    (fs.put there t).newDirectory p =
      if t.look (front ++ [last]) = none then .ok (there ++ (front ++ [last]))
      else .error .exists := by
  rw [newDirectory, withoutEndSlashes_of_spells spelled,
    locate_last h directory ordinary spelled acceptable dir]
  by_cases free : t.look (front ++ [last]) = none
  · simp only [if_pos free, List.append_assoc]
  · simp only [if_neg free]

/-- No file stands on the way to a place, nor at it. -/
def Open (t : Node) (names : List Bytes) : Prop :=
  ∀ x, x <+: names → t.look x = none ∨ t.look x = some .emptyDirectory

theorem Open.front {front more : List Bytes} (h : Open t (front ++ more)) : Open t front :=
  fun x above => h x (above.trans (List.prefix_append _ _))

/-- On the way to a place that is missing there is a first missing name. -/
theorem Open.first_missing (h : Open t names) (missing : t.look names = none) :
    ∃ front name more, names = front ++ name :: more ∧ t.look front = some .emptyDirectory ∧
      t.look (front ++ [name]) = none := by
  -- The names are taken off at their end until a directory is reached, the top at the latest.
  obtain ⟨count, size⟩ : ∃ count, names.length = count := ⟨_, rfl⟩
  induction count generalizing names with
  | zero =>
    rw [List.length_eq_zero_iff.1 size] at missing
    simp at missing
  | succ count ih =>
    rcases List.eq_nil_or_concat names with rfl | ⟨ns, n, rfl⟩
    · simp at missing
    · rw [List.concat_eq_append] at *
      rcases h.front ns (List.prefix_refl _) with gone | dir
      · obtain ⟨front, name, more, rfl, dir, first⟩ := ih h.front gone (by simpa using size)
        exact ⟨front, name, more ++ [n], by simp, dir, first⟩
      · exact ⟨ns, n, [], rfl, dir, missing⟩

theorem newDirectory_past_missing (h : EmptyAt fs dest there links)
    (directory : t.isDirectory = true) (ordinary : t.Ordinary) {front : List Bytes} {last : Bytes}
    (spelled : Spells dest (front ++ [last]) p) (acceptable : Acceptable p (front ++ [last]))
    (open_ : Open t (front ++ [last])) (missing : t.look front = none) :
    (fs.put there t).newDirectory p = .error .noEntry := by
  obtain ⟨r, empty⟩ := h.empty
  obtain ⟨first, name, more, rfl, dir, gone⟩ := open_.front.first_missing missing
  have shape : (first ++ name :: more) ++ [last] = first ++ name :: (more ++ [last]) := by simp
  rw [shape] at spelled acceptable
  rw [newDirectory, withoutEndSlashes_of_spells spelled, h.locate_below directory spelled (by simp),
    if_neg acceptable.nul, if_neg (Nat.not_lt.2 acceptable.length),
    walk_past_missing empty ordinary (by simp) acceptable.plain acceptable.short dir gone]

theorem ensureDirectory_succeeds (h : EmptyAt fs dest there links)
    (directory : t.isDirectory = true) (ordinary : t.Ordinary) {front : List Bytes} {last : Bytes}
    (spelled : Spells dest (front ++ [last]) p) (acceptable : Acceptable p (front ++ [last]))
    (nonempty : p ≠ []) (open_ : Open t (front ++ [last]))
    (dir : t.look front = some .emptyDirectory) :
    ∃ fs', ensureDirectory p (fs.put there t) = (.ok (), fs') := by
  rw [ensureDirectory_apply, newDirectory_last h directory ordinary spelled acceptable dir]
  rcases open_ _ (List.prefix_refl _) with free | there_
  · simp only [if_pos free]
    exact ⟨_, rfl⟩
  · have known := isDirectory_of_look h directory ordinary spelled acceptable nonempty there_
    have taken : ¬t.look (front ++ [last]) = none := by simp [there_]
    simp only [if_neg taken, if_pos known]
    exact ⟨_, rfl⟩

/-- Directories can be made where no file stands in the way. -/
theorem makeParents_succeeds (h : EmptyAt fs dest there links) (directory : t.isDirectory = true)
    (ordinary : t.Ordinary) (spelled : Spells dest names p) (acceptable : Acceptable p names)
    (open_ : Open t names) {fuel : Nat} (enough : names.length < fuel) :
    ∃ fs', makeParents fuel p (fs.put there t) = (.ok (), fs') := by
  induction fuel generalizing p names with
  | zero => omega
  | succ fuel ih =>
    by_cases empty : p = []
    · rw [makeParents, if_pos (List.isEmpty_iff.2 empty)]
      exact ⟨_, rfl⟩
    · rcases List.eq_nil_or_concat names with rfl | ⟨front, last, rfl⟩
      · have there_ := newDirectory_there h directory spelled empty
        rw [if_neg acceptable.nul, if_neg (Nat.not_lt.2 acceptable.length)] at there_
        have known := isDirectory_of_look h directory ordinary spelled acceptable empty
          (by rw [Node.look_nil, Node.bare_eq_emptyDirectory_iff.2 directory])
        rw [makeParents_of_not_missing empty (by simp [there_]), ensureDirectory_apply, there_]
        exact ⟨_, if_pos known⟩
      · rw [List.concat_eq_append] at *
        rcases open_.front _ (List.prefix_refl _) with missing | dir
        · have new :=
            newDirectory_past_missing h directory ordinary spelled acceptable open_ missing
          obtain ⟨q, parent, spelled_q, shorter, clean⟩ := spelled.parent acceptable.plain
          have acceptable_q : Acceptable q front :=
            ⟨clean acceptable.nul, Nat.le_trans shorter acceptable.length,
              fun n hn => acceptable.plain n (by simp [hn]),
              fun n hn => acceptable.short n (by simp [hn])⟩
          obtain ⟨fs₁, made⟩ := ih spelled_q acceptable_q open_.front (by simp at enough; omega)
          obtain ⟨t₁, rfl, first⟩ :=
            makeParents_eq_ok h directory ordinary acceptable_q.plain spelled_q made
          rw [makeParents_of_missing empty new parent, Action.bind_of_ok made]
          refine ensureDirectory_succeeds h first.directory (first.ordinary ordinary) spelled
            acceptable empty ?_ ?_
          · intro x above
            rw [first x]
            split
            · exact Or.inr rfl
            · exact open_ x above
          · rw [first, if_pos (List.prefix_refl _)]
        · have new := newDirectory_last h directory ordinary spelled acceptable dir
          rw [makeParents_of_not_missing empty (by rw [new]; split <;> simp)]
          exact ensureDirectory_succeeds h directory ordinary spelled acceptable empty open_ dir

end Making

end FileSystem

end Northbound
