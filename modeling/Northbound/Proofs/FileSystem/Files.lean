import Northbound.Proofs.FileSystem.Directories

/-!
# Making files in an empty directory

A file that is made and written stands at the place that its path spells, and nothing else is seen
to change.
-/

namespace Northbound

namespace FileSystem

open Northbound.Path (Plain Spells)

variable {fs fs' : FileSystem} {dest p : Path} {there names : List Bytes} {links : Nat} {t : Node}

/-- Whether a place is free for a file, or has one already. -/
def Free (t : Node) (names : List Bytes) : Prop :=
  t.look names = none ∨ ∃ content a, t.look names = some (.file content a)

/-- Nothing is below a place that is free for a file. -/
theorem look_below_free (free : Free t names) {x : List Bytes} (below : names <+: x)
    (ne : x ≠ names) : t.look x = none := by
  obtain ⟨more, rfl⟩ := below
  rcases free with missing | ⟨content, a, file⟩
  · exact Node.look_append_of_eq_none missing more
  · refine Node.look_append_of_not_directory file (by simp [Node.emptyDirectory]) ?_
    rintro rfl
    simp at ne

theorem get?_put_there (h : EmptyAt fs dest there links) (t : Node) (names : List Bytes) :
    (fs.put there t).root.get? (there ++ names) = t.get? names := by
  obtain ⟨r, empty⟩ := h.empty
  exact Node.get?_put_append (Node.placeable_of_get? empty) t names

theorem get?_of_look_file {content : Bytes} {a : FileAttributes}
    (h : t.look names = some (.file content a)) : t.get? names = some (.file content a) := by
  obtain ⟨n, get, bare⟩ := Option.map_eq_some_iff.1 h
  cases n <;> simp_all [Node.bare, Node.emptyDirectory]

/-- A file that is opened for writing is empty, in a directory that was there. -/
theorem createFile_eq_ok (h : EmptyAt fs dest there links) (directory : t.isDirectory = true)
    (ordinary : t.Ordinary) (plain : ∀ n ∈ names, Plain n) (spelled : Spells dest names p)
    (further : names ≠ []) {place : List Bytes}
    (ok : createFile p (fs.put there t) = (.ok place, fs')) :
    p.length ≤ maxPath ∧ place = there ++ names ∧ t.Placeable names ∧ Free t names ∧
      ∃ a, fs' = fs.put there ((Node.file [] a).put names t) := by
  rw [createFile, Action.bind_of_ok (Action.get_apply _), withoutEndSlashes_of_spells spelled] at ok
  cases located : (fs.put there t).locate true p with
  | error e =>
    rw [located] at ok
    cases ok
  | ok found =>
    obtain ⟨fits, ⟨rfl, some_⟩ | ⟨front, last, rfl, rfl, dir, free⟩⟩ :=
      h.locate_cases directory ordinary plain spelled further located
    · rw [located] at ok
      simp only [get?_put_there h] at ok
      obtain ⟨m, seen⟩ := Option.ne_none_iff_exists'.1 some_
      obtain ⟨n, get, bare⟩ := Option.map_eq_some_iff.1 seen
      rw [get] at ok
      cases n with
      | file content a =>
        simp only [spelled.endsInSlash further] at ok
        cases ok
        exact ⟨fits, rfl, Node.placeable_of_get? get,
          Or.inr ⟨content, a, by rw [seen, ← bare]; rfl⟩,
          a, put_put h t _ _⟩
      | directory r cs => cases ok
      | link target => cases ok
      | special => cases ok
    · rw [located] at ok
      simp only [spelled.endsInSlash further] at ok
      cases ok
      refine ⟨fits, List.append_assoc _ _ _, placeable_of_look dir, Or.inl free, {}, ?_⟩
      rw [← put_put h, ← List.append_assoc]

theorem createFile_succeeds (h : EmptyAt fs dest there links) (directory : t.isDirectory = true)
    (ordinary : t.Ordinary) {front : List Bytes} {last : Bytes}
    (spelled : Spells dest (front ++ [last]) p) (acceptable : Acceptable p (front ++ [last]))
    (dir : t.look front = some .emptyDirectory) (free : Free t (front ++ [last])) :
    ∃ place fs', createFile p (fs.put there t) = (.ok place, fs') := by
  rw [createFile, Action.bind_of_ok (Action.get_apply _), withoutEndSlashes_of_spells spelled,
    locate_last h directory ordinary spelled acceptable dir]
  have ends := spelled.endsInSlash (by simp)
  rcases free with none_ | ⟨content, a, file⟩
  · simp only [if_pos none_, ends]
    exact ⟨_, _, rfl⟩
  · have taken : ¬t.look (front ++ [last]) = none := by simp [file]
    simp only [if_neg taken, get?_put_there h, get?_of_look_file file, ends]
    exact ⟨_, _, rfl⟩

theorem writeAt_put (h : EmptyAt fs dest there links) (placeable : t.Placeable names)
    (old content : Bytes) (a : FileAttributes) :
    writeAt (there ++ names) content (fs.put there ((Node.file old a).put names t)) =
      (.ok (), fs.put there ((Node.file content a).put names t)) := by
  have get : ((Node.file old a).put names t).get? names = some (.file old a) :=
    Node.get?_put_self placeable _
  have again := Node.put_append_put placeable (.file old a) (.file content a) []
  rw [List.append_nil, Node.put_nil] at again
  rw [writeAt, Action.modify_apply]
  simp only [get?_put_there h, get]
  rw [put_put h, again]

section Written

variable {content : Bytes} {a : FileAttributes} {mode : Nat}

theorem look_put_file (placeable : t.Placeable names) (content : Bytes) (a : FileAttributes)
    (x : List Bytes) :
    ((Node.file content a).put names t).look x =
      if x = names then some (.file content a) else if names <+: x then none else t.look x := by
  rw [Node.look_put placeable]
  by_cases same : x = names
  · subst same
    simp [Node.bare]
  · rw [if_neg same]
    split
    next below =>
      obtain ⟨more, rfl⟩ := below
      cases more with
      | nil => simp at same
      | cons n ns =>
        rw [List.drop_left, Node.look_cons]
        rfl
    next => rfl

theorem isDirectory_put_file (directory : t.isDirectory = true) (placeable : t.Placeable names)
    (further : names ≠ []) : ((Node.file content a).put names t).isDirectory = true := by
  have top := look_put_file placeable content a []
  have apart : ¬names <+: [] := fun e => further (List.prefix_nil.1 e)
  rw [if_neg (fun e => further e.symm), if_neg apart, Node.look_nil, Node.look_nil,
    Node.bare_eq_emptyDirectory_iff.2 directory] at top
  exact Node.bare_eq_emptyDirectory_iff.1 (Option.some.inj top)

theorem ordinary_put_file (ordinary : t.Ordinary) (placeable : t.Placeable names) :
    ((Node.file content a).put names t).Ordinary := by
  intro x m found
  rw [look_put_file placeable] at found
  split at found
  · exact Or.inr ⟨content, a, (Option.some.inj found).symm⟩
  · split at found
    · cases found
    · exact ordinary x m found

/-- Setting the mode of the file at a place changes its mode. -/
theorem setMode_apply (h : EmptyAt fs dest there links) (placeable : t.Placeable names)
    (located : (fs.put there ((Node.file content a).put names t)).locate true p =
      .ok (.present (there ++ names))) (mode : Nat) :
    setMode p mode (fs.put there ((Node.file content a).put names t)) =
      (.ok (), fs.put there ((Node.file content { a with mode }).put names t)) := by
  have get : ((Node.file content a).put names t).get? names = some (.file content a) :=
    Node.get?_put_self placeable _
  have again := Node.put_append_put placeable (.file content a) (.file content { a with mode }) []
  rw [List.append_nil, Node.put_nil] at again
  have resolved := resolve_eq_ok_iff.2 ⟨located, (get?_put_there h _ names).trans get⟩
  rw [setMode, Action.bind_of_ok (Action.get_apply _), resolved]
  simp only [Action.set_apply]
  rw [put_put h, again]

theorem setMode_eq_ok (h : EmptyAt fs dest there links) (directory : t.isDirectory = true)
    (ordinary : t.Ordinary) (plain : ∀ n ∈ names, Plain n) (spelled : Spells dest names p)
    (further : names ≠ []) (placeable : t.Placeable names)
    (ok : setMode p mode (fs.put there ((Node.file content a).put names t)) = (.ok (), fs')) :
    fs' = fs.put there ((Node.file content { a with mode }).put names t) := by
  cases located : (fs.put there ((Node.file content a).put names t)).locate true p with
  | error e =>
    have refused : (fs.put there ((Node.file content a).put names t)).resolve p = .error e := by
      rw [resolve, located]
      rfl
    rw [setMode, Action.bind_of_ok (Action.get_apply _), refused] at ok
    cases ok
  | ok found =>
    obtain ⟨-, ⟨rfl, -⟩ | ⟨_, _, -, -, -, none_⟩⟩ :=
      h.locate_cases (isDirectory_put_file directory placeable further)
        (ordinary_put_file ordinary placeable) plain spelled further located
    · rw [setMode_apply h placeable located] at ok
      cases ok
      rfl
    · rw [look_put_file placeable, if_pos rfl] at none_
      cases none_

theorem setMode_succeeds (h : EmptyAt fs dest there links) (directory : t.isDirectory = true)
    (ordinary : t.Ordinary) {front : List Bytes} {last : Bytes}
    (spelled : Spells dest (front ++ [last]) p) (acceptable : Acceptable p (front ++ [last]))
    (dir : t.look front = some .emptyDirectory) (content : Bytes) (a : FileAttributes)
    (mode : Nat) :
    ∃ fs', setMode p mode (fs.put there ((Node.file content a).put (front ++ [last]) t)) =
      (.ok (), fs') := by
  have placeable : Node.Placeable _ (front ++ [last]) := placeable_of_look dir
  have still : ((Node.file content a).put (front ++ [last]) t).look front =
      some .emptyDirectory := by
    rw [look_put_file placeable, if_neg (by simp), if_neg (not_prefix_of_concat front last), dir]
  have located := locate_last h (isDirectory_put_file directory placeable (by simp))
    (ordinary_put_file ordinary placeable) spelled acceptable still true
  rw [look_put_file placeable, if_pos rfl, if_neg (by simp)] at located
  exact ⟨_, setMode_apply h placeable located mode⟩

end Written

end FileSystem

end Northbound
