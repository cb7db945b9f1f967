import Northbound.Proofs.FileSystem.Walk
import Northbound.FileSystem.Change

/-!
# Finding places in a tree without links

A directory that was empty holds a tree of files and directories only. A path that spells a place of
that tree leads there, to the free place in a directory where it would be, or nowhere.
-/

namespace Northbound

namespace Node

/-- Whether a tree holds files and directories only. -/
def Ordinary (t : Node) : Prop :=
  ∀ place m, t.look place = some m → m = emptyDirectory ∨ ∃ content a, m = .file content a

end Node

namespace FileSystem

open Northbound.Path (Plain Spells)

section Below

variable {root t : Node} {r follow : Bool} {links : Nat} {there place names : List Bytes}

theorem look_below (empty : root.get? there = some (.directory r [])) (t : Node)
    (place : List Bytes) : (t.put there root).look (there ++ place) = t.look place := by
  rw [Node.look_put (Node.placeable_of_get? empty), if_pos (List.prefix_append _ _),
    List.drop_left]

/-- Names of directories of the tree lead through them. -/
theorem leads_below (place : List Bytes)
    (empty : root.get? there = some (.directory r [])) (links : Nat)
    (plain : ∀ n ∈ names, Plain n) (short : ∀ n ∈ names, n.length ≤ maxName)
    (h : t.look (place ++ names) = some .emptyDirectory) :
    Leads (t.put there root) links (there ++ place) names links (there ++ (place ++ names)) := by
  induction names generalizing place with
  | nil =>
    rw [List.append_nil]
    exact .done _ _
  | cons name names ih =>
    have first := plain name (by simp)
    have here : t.look place = some .emptyDirectory := Node.look_of_look_append h (by simp)
    have step : place ++ name :: names = (place ++ [name]) ++ names := by simp
    have found : t.look (place ++ [name]) = some .emptyDirectory := by
      cases names with
      | nil => exact h
      | cons n ns =>
        rw [step] at h
        exact Node.look_of_look_append h (by simp)
    refine .down first.dot first.dotDot (short name (by simp)) ?_ ?_ (m := .emptyDirectory) ?_ ?_
    · rw [look_below empty, here]
    · rw [List.append_assoc, look_below empty, found]
    · intro target link
      cases link
    · rw [step] at h ⊢
      rw [List.append_assoc]
      exact ih _ (fun n hn => plain n (by simp [hn])) (fun n hn => short n (by simp [hn])) h

/-- One name followed from a directory of the tree. -/
theorem walk_below_cons (empty : root.get? there = some (.directory r [])) (ordinary : t.Ordinary)
    {name : Bytes} (plain : Plain name) (here : t.look place = some .emptyDirectory) :
    walk (t.put there root) follow links (there ++ place) (name :: names) false =
      if maxName < name.length then .error .nameTooLong
      else if t.look (place ++ [name]) = none then
        if names.isEmpty then .ok (.absent (there ++ place) name) else .error .noEntry
      else walk (t.put there root) follow links (there ++ (place ++ [name])) names false := by
  have here' : (t.put there root).look (there ++ place) = some .emptyDirectory := by
    rw [look_below empty, here]
  rw [walk_name here' plain.dot plain.dotDot, List.append_assoc, look_below empty]
  split
  · rfl
  · cases next : t.look (place ++ [name]) with
    | none => simp
    | some child =>
      obtain rfl | ⟨content, a, rfl⟩ := ordinary _ _ next
      · simp [Node.emptyDirectory]
      · simp

/-- Names followed through directories of the tree. -/
theorem walk_below_append (empty : root.get? there = some (.directory r [])) {more : List Bytes}
    (further : more ≠ []) (plain : ∀ n ∈ names, Plain n)
    (short : ∀ n ∈ names, n.length ≤ maxName) (h : t.look names = some .emptyDirectory) :
    walk (t.put there root) follow links there (names ++ more) false =
      walk (t.put there root) follow links (there ++ names) more false := by
  have led := leads_below [] empty links plain short h
  rw [List.append_nil] at led
  exact walk_append led further

/-- What a walk finds at the last of some names. -/
theorem walk_last (empty : root.get? there = some (.directory r [])) (ordinary : t.Ordinary)
    {name : Bytes} (plain : ∀ n ∈ names ++ [name], Plain n)
    (short : ∀ n ∈ names ++ [name], n.length ≤ maxName)
    (h : t.look names = some .emptyDirectory) :
    walk (t.put there root) follow links there (names ++ [name]) false =
      if t.look (names ++ [name]) = none then .ok (.absent (there ++ names) name)
      else .ok (.present (there ++ (names ++ [name]))) := by
  rw [walk_below_append empty (by simp) (fun n hn => plain n (by simp [hn]))
      (fun n hn => short n (by simp [hn])) h,
    walk_below_cons empty ordinary (plain name (by simp)) h,
    if_neg (Nat.not_lt.2 (short name (by simp)))]
  split
  · rfl
  next there_ => rw [walk_nil_false (by rw [look_below empty]; exact there_)]

/-- A walk past a missing directory fails. -/
theorem walk_past_missing (empty : root.get? there = some (.directory r []))
    (ordinary : t.Ordinary) {name : Bytes} {more : List Bytes} (further : more ≠ [])
    (plain : ∀ n ∈ names ++ name :: more, Plain n)
    (short : ∀ n ∈ names ++ name :: more, n.length ≤ maxName)
    (h : t.look names = some .emptyDirectory) (missing : t.look (names ++ [name]) = none) :
    walk (t.put there root) follow links there (names ++ name :: more) false =
      .error .noEntry := by
  rw [walk_below_append empty (by simp) (fun n hn => plain n (by simp [hn]))
      (fun n hn => short n (by simp [hn])) h,
    walk_below_cons empty ordinary (plain name (by simp)) h,
    if_neg (Nat.not_lt.2 (short name (by simp))), if_pos missing, if_neg (by simpa using further)]

/-- Where a walk that succeeds has come to. -/
theorem walk_below_cases (place : List Bytes) (empty : root.get? there = some (.directory r []))
    (ordinary : t.Ordinary) (plain : ∀ n ∈ names, Plain n) {found : Place}
    (h : walk (t.put there root) follow links (there ++ place) names false = .ok found) :
    (found = .present (there ++ (place ++ names)) ∧ t.look (place ++ names) ≠ none) ∨
      ∃ front last, names = front ++ [last] ∧ found = .absent (there ++ (place ++ front)) last ∧
        t.look (place ++ front) = some .emptyDirectory ∧ t.look (place ++ names) = none := by
  cases here : t.look place with
  | none =>
    rw [walk_of_look_eq_none (by rw [look_below empty, here])] at h
    simp at h
  | some m =>
    have here' : (t.put there root).look (there ++ place) = some m := by
      rw [look_below empty, here]
    induction names generalizing place m with
    | nil =>
      rw [walk_nil_false (by simp [here'])] at h
      cases h
      simp [here]
    | cons name names ih =>
      have step : place ++ name :: names = (place ++ [name]) ++ names := by simp
      by_cases directory : m = .emptyDirectory
      · subst directory
        rw [walk_below_cons empty ordinary (plain name (by simp)) here] at h
        split at h
        · simp at h
        · split at h
          next missing =>
            split at h
            next last =>
              cases h
              rw [List.isEmpty_iff.1 last]
              exact Or.inr ⟨[], name, rfl, by simp, by simpa using here, missing⟩
            · simp at h
          next there_ =>
            obtain ⟨child, next⟩ := Option.ne_none_iff_exists'.1 there_
            rw [step]
            rcases ih _ (fun n hn => plain n (by simp [hn])) h child next
                (by rw [look_below empty, next]) with found_ | ⟨front, last, rfl, rfl, dir, gone⟩
            · exact Or.inl found_
            · exact Or.inr ⟨name :: front, last, by simp, by simp, by simpa using dir, gone⟩
      · rw [walk_cons_of_not_directory here' directory] at h
        simp at h

end Below

/-- A path that leads to an empty directory. -/
structure EmptyAt (fs : FileSystem) (dest : Path) (there : List Bytes) (links : Nat) : Prop where
  empty : ∃ r, fs.root.get? there = some (.directory r [])
  nonempty : dest ≠ []
  nul : 0 ∉ dest
  leads : Leads fs.root maxLinks (if Path.isAbsolute dest then [] else fs.workingDirectory)
    (Path.segments dest) links there

theorem resolve_eq_ok_iff {fs : FileSystem} {p : Path} {place : List Bytes} {n : Node} :
    fs.resolve p = .ok (place, n) ↔
      fs.locate true p = .ok (.present place) ∧ fs.root.get? place = some n := by
  unfold resolve
  rcases fs.locate true p with e | ⟨names⟩ | ⟨dir, name⟩
  · simp [Bind.bind, Except.bind]
  · simp only [Bind.bind, Except.bind]
    cases found : fs.root.get? names with
    | none =>
      constructor
      · intro h
        cases h
      · rintro ⟨h, get⟩
        cases h
        rw [found] at get
        cases get
    | some m =>
      constructor
      · intro h
        cases h
        exact ⟨rfl, found⟩
      · rintro ⟨h, get⟩
        cases h
        rw [found] at get
        cases get
        rfl
  · constructor
    · intro h
      cases h
    · rintro ⟨h, -⟩
      cases h

/-- Putting what a path leads to where it leads changes nothing. -/
theorem put_of_resolve {fs : FileSystem} {p : Path} {place : List Bytes} {n : Node}
    (h : fs.resolve p = .ok (place, n)) : fs.put place n = fs := by
  obtain ⟨-, get⟩ := resolve_eq_ok_iff.1 h
  rw [FileSystem.put, Node.put_get? get]

/-- A path that can be looked up is followed from where it starts. -/
theorem locate_eq {fs : FileSystem} {p : Path} (follow : Bool) (nonempty : p ≠ []) :
    fs.locate follow p =
      if 0 ∈ p then .error .nulInPath
      else if maxPath < p.length then .error .nameTooLong
      else walk fs.root follow maxLinks (if Path.isAbsolute p then [] else fs.workingDirectory)
        (Path.segments p) (Path.endsInSlash p) := by
  simp [locate, nonempty]

theorem isDirectory_eq_true_iff {fs : FileSystem} {p : Path} : fs.isDirectory p = true ↔
    ∃ place n, fs.resolve p = .ok (place, n) ∧ n.isDirectory = true := by
  unfold FileSystem.isDirectory
  cases h : fs.resolve p with
  | error e => simp
  | ok found =>
    obtain ⟨place, n⟩ := found
    constructor
    · intro directory
      exact ⟨place, n, rfl, directory⟩
    · rintro ⟨_, _, same, directory⟩
      cases same
      exact directory

/-- A path that leads somewhere has names that lead there. -/
theorem leads_of_resolve {fs : FileSystem} {p : Path} {place : List Bytes} {n : Node}
    (h : fs.resolve p = .ok (place, n)) :
    p ≠ [] ∧ 0 ∉ p ∧ fs.root.get? place = some n ∧
      ∃ links, Leads fs.root maxLinks (if Path.isAbsolute p then [] else fs.workingDirectory)
        (Path.segments p) links place := by
  obtain ⟨located, get⟩ := resolve_eq_ok_iff.1 h
  have nonempty : p ≠ [] := by
    rintro rfl
    simp [locate] at located
  rw [locate_eq true nonempty] at located
  split at located
  · cases located
  next nul =>
    split at located
    · cases located
    · exact ⟨nonempty, nul, get, leads_of_walk located⟩

theorem emptyAt_of_resolve {fs : FileSystem} {dest : Path} {there : List Bytes} {r : Bool}
    (h : fs.resolve dest = .ok (there, .directory r [])) :
    ∃ links, EmptyAt fs dest there links := by
  obtain ⟨nonempty, nul, get, links, leads⟩ := leads_of_resolve h
  exact ⟨links, ⟨r, get⟩, nonempty, nul, leads⟩

namespace EmptyAt

variable {fs : FileSystem} {dest p : Path} {there names : List Bytes} {links : Nat} {t : Node}

theorem look_there (h : EmptyAt fs dest there links) (directory : t.isDirectory = true) :
    (t.put there fs.root).look there = some .emptyDirectory := by
  obtain ⟨r, empty⟩ := h.empty
  have := look_below empty t []
  rwa [List.append_nil, Node.look_nil, Node.bare_eq_emptyDirectory_iff.2 directory] at this

/-- The names in front lead to the directory, whatever is in it. -/
theorem leads_front (h : EmptyAt fs dest there links) (directory : t.isDirectory = true)
    (spelled : Spells dest names p) :
    ∃ front, Path.segments p = front ++ names ∧
      Leads (t.put there fs.root) maxLinks (if Path.isAbsolute p then [] else fs.workingDirectory)
        front links there := by
  obtain ⟨r, empty⟩ := h.empty
  obtain ⟨front, shape, dots, -⟩ := spelled.segments
  refine ⟨front, shape, ?_⟩
  have led := h.leads.put empty directory
  rw [← Leads.undotted_iff (h.look_there directory), ← dots,
    Leads.undotted_iff (h.look_there directory)] at led
  rw [spelled.absolute]
  exact led

theorem locate_below (h : EmptyAt fs dest there links) (directory : t.isDirectory = true)
    (spelled : Spells dest names p) (further : names ≠ []) (follow : Bool) :
    (fs.put there t).locate follow p =
      if 0 ∈ p then .error .nulInPath
      else if maxPath < p.length then .error .nameTooLong
      else walk (t.put there fs.root) follow links there names false := by
  obtain ⟨front, shape, led⟩ := h.leads_front directory spelled
  have nonempty : p ≠ [] := by
    rintro rfl
    simp [Path.segments, Path.pieces] at shape
    exact further shape.2
  rw [locate_eq follow nonempty, shape, spelled.endsInSlash further]
  split
  · rfl
  · split
    · rfl
    · exact walk_append led further

/-- The directory itself is there. -/
theorem locate_there (h : EmptyAt fs dest there links) (directory : t.isDirectory = true)
    (spelled : Spells dest [] p) (nonempty : p ≠ []) (follow : Bool) :
    ∃ found, (follow = true → found = there) ∧
      (fs.put there t).locate follow p =
        if 0 ∈ p then .error .nulInPath
        else if maxPath < p.length then .error .nameTooLong
        else .ok (.present found) := by
  obtain ⟨front, shape, led⟩ := h.leads_front directory spelled
  rw [List.append_nil] at shape
  subst shape
  obtain ⟨found, walked, followed⟩ :=
    walk_of_leads led (h.look_there directory) follow p.endsInSlash
  refine ⟨found, followed, ?_⟩
  rw [locate_eq follow nonempty]
  simp only [FileSystem.put, walked]

/-- Where a path that is found leads in the directory. -/
theorem locate_cases (h : EmptyAt fs dest there links) (directory : t.isDirectory = true)
    (ordinary : t.Ordinary) (plain : ∀ n ∈ names, Plain n) (spelled : Spells dest names p)
    (further : names ≠ []) {follow : Bool} {found : Place}
    (located : (fs.put there t).locate follow p = .ok found) :
    p.length ≤ maxPath ∧
      ((found = .present (there ++ names) ∧ t.look names ≠ none) ∨
        ∃ front last, names = front ++ [last] ∧ found = .absent (there ++ front) last ∧
          t.look front = some .emptyDirectory ∧ t.look names = none) := by
  obtain ⟨r, empty⟩ := h.empty
  rw [h.locate_below directory spelled further follow] at located
  split at located
  · cases located
  · split at located
    · cases located
    next fits =>
      have started : walk (t.put there fs.root) follow links (there ++ []) names false =
          .ok found := by
        rw [List.append_nil]
        exact located
      exact ⟨Nat.not_lt.1 fits, walk_below_cases [] empty ordinary plain started⟩

end EmptyAt

end FileSystem

end Northbound
