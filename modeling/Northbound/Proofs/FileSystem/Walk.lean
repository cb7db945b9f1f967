import Northbound.FileSystem.Lookup
import Northbound.Proofs.FileSystem.Spelling
import Northbound.Proofs.FileSystem.Tree

/-!
# Following names to a directory

`Leads` says, step by step, how names are followed through directories and links to a directory. A
walk along names that lead somewhere goes on from there, however the path is written and whatever is
put into an empty directory at the end of it.
-/

namespace Northbound

namespace FileSystem

open Northbound.Path (undotted)

/-- Following names from a place with a number of links left leads to another place with fewer or
as many links left. -/
inductive Leads (root : Node) : Nat → List Bytes → List Bytes → Nat → List Bytes → Prop
  | done (links : Nat) (place : List Bytes) : Leads root links place [] links place
  | dot {links links' : Nat} {place place' rest : List Bytes}
      (here : root.look place = some .emptyDirectory)
      (next : Leads root links place rest links' place') :
      Leads root links place (Path.dot :: rest) links' place'
  | up {links links' : Nat} {place place' rest : List Bytes}
      (here : root.look place = some .emptyDirectory)
      (next : Leads root links place.dropLast rest links' place') :
      Leads root links place (Path.dotDot :: rest) links' place'
  | down {links links' : Nat} {place place' rest : List Bytes} {name : Bytes} {m : Node}
      (dot : name ≠ Path.dot) (dotDot : name ≠ Path.dotDot) (short : name.length ≤ maxName)
      (here : root.look place = some .emptyDirectory)
      (found : root.look (place ++ [name]) = some m) (plain : ∀ target, m ≠ .link target)
      (next : Leads root links (place ++ [name]) rest links' place') :
      Leads root links place (name :: rest) links' place'
  | link {links links' : Nat} {place place' rest : List Bytes} {name : Bytes} {target : Path}
      (dot : name ≠ Path.dot) (dotDot : name ≠ Path.dotDot) (short : name.length ≤ maxName)
      (here : root.look place = some .emptyDirectory)
      (found : root.look (place ++ [name]) = some (.link target))
      (next : Leads root links (if Path.isAbsolute target then [] else place)
        (Path.segments target ++ rest) links' place') :
      Leads root (links + 1) place (name :: rest) links' place'

namespace Leads

variable {root : Node} {links links' links₁ : Nat} {place place' place₁ : List Bytes}
  {todo more rest : List Bytes}

theorem append (first : Leads root links place todo links₁ place₁)
    (second : Leads root links₁ place₁ more links' place') :
    Leads root links place (todo ++ more) links' place' := by
  induction first with
  | done => exact second
  | dot here _ ih => exact .dot here (ih second)
  | up here _ ih => exact .up here (ih second)
  | down dot dotDot short here found plain _ ih =>
    exact .down dot dotDot short here found plain (ih second)
  | link dot dotDot short here found _ ih =>
    refine .link dot dotDot short here found ?_
    have := ih second
    rwa [List.append_assoc] at this

theorem split (h : Leads root links place todo links' place') :
    ∀ front back : List Bytes, todo = front ++ back →
      ∃ links₁ place₁, Leads root links place front links₁ place₁ ∧
        Leads root links₁ place₁ back links' place' := by
  induction h with
  | done links place =>
    intro front back shape
    obtain ⟨rfl, rfl⟩ := List.append_eq_nil_iff.1 shape.symm
    exact ⟨links, place, .done _ _, .done _ _⟩
  | dot here next ih =>
    intro front back shape
    cases front with
    | nil =>
      subst shape
      exact ⟨_, _, .done _ _, .dot here next⟩
    | cons f front =>
      obtain ⟨rfl, rest⟩ := List.cons.inj shape
      obtain ⟨links₁, place₁, first, second⟩ := ih _ _ rest
      exact ⟨links₁, place₁, .dot here first, second⟩
  | up here next ih =>
    intro front back shape
    cases front with
    | nil =>
      subst shape
      exact ⟨_, _, .done _ _, .up here next⟩
    | cons f front =>
      obtain ⟨rfl, rest⟩ := List.cons.inj shape
      obtain ⟨links₁, place₁, first, second⟩ := ih _ _ rest
      exact ⟨links₁, place₁, .up here first, second⟩
  | down dot dotDot short here found plain next ih =>
    intro front back shape
    cases front with
    | nil =>
      subst shape
      exact ⟨_, _, .done _ _, .down dot dotDot short here found plain next⟩
    | cons f front =>
      obtain ⟨rfl, rest⟩ := List.cons.inj shape
      obtain ⟨links₁, place₁, first, second⟩ := ih _ _ rest
      exact ⟨links₁, place₁, .down dot dotDot short here found plain first, second⟩
  | @link links links' place place' rest name target dot dotDot short here found next ih =>
    intro front back shape
    cases front with
    | nil =>
      subst shape
      exact ⟨_, _, .done _ _, .link dot dotDot short here found next⟩
    | cons f front =>
      obtain ⟨rfl, rfl⟩ := List.cons.inj shape
      obtain ⟨links₁, place₁, first, second⟩ :=
        ih (Path.segments target ++ front) back (List.append_assoc _ _ _).symm
      exact ⟨links₁, place₁, .link dot dotDot short here found first, second⟩

/-- Names that lead on lead on from a directory. -/
theorem directory (h : Leads root links place todo links' place') (further : todo ≠ []) :
    root.look place = some .emptyDirectory := by
  cases h with
  | done => exact absurd rfl further
  | dot here _ => exact here
  | up here _ => exact here
  | down _ _ _ here _ _ _ => exact here
  | link _ _ _ here _ _ => exact here

theorem start (h : Leads root links place todo links' place')
    (directory : root.look place' = some .emptyDirectory) :
    root.look place = some .emptyDirectory := by
  by_cases last : todo = []
  · subst last
    cases h
    exact directory
  · exact h.directory last

/-- No name on the way is too long. -/
theorem short (h : Leads root links place todo links' place') :
    ∀ n ∈ todo, n.length ≤ maxName := by
  induction h with
  | done => simp
  | dot here _ ih =>
    intro n hn
    rcases List.mem_cons.1 hn with rfl | hn
    · decide
    · exact ih n hn
  | up here _ ih =>
    intro n hn
    rcases List.mem_cons.1 hn with rfl | hn
    · decide
    · exact ih n hn
  | down dot dotDot short here found plain _ ih =>
    intro n hn
    rcases List.mem_cons.1 hn with rfl | hn
    · exact short
    · exact ih n hn
  | link dot dotDot short here found _ ih =>
    intro n hn
    rcases List.mem_cons.1 hn with rfl | hn
    · exact short
    · exact ih n (List.mem_append.2 (Or.inr hn))

/-- A name that is neither dots nor a link leads through a node of that name. -/
theorem of_plain {name : Bytes} (h : Leads root links place (name :: rest) links' place')
    (dot : name ≠ Path.dot) (dotDot : name ≠ Path.dotDot)
    (unlinked : ∀ target, root.look (place ++ [name]) ≠ some (.link target)) :
    name.length ≤ maxName ∧ root.look place = some .emptyDirectory ∧
      (∃ m, root.look (place ++ [name]) = some m ∧ ∀ target, m ≠ .link target) ∧
      Leads root links (place ++ [name]) rest links' place' := by
  cases h with
  | dot => exact absurd rfl dot
  | up => exact absurd rfl dotDot
  | down _ _ short here found plain next => exact ⟨short, here, ⟨_, found, plain⟩, next⟩
  | link _ _ _ _ found _ => exact absurd found (unlinked _)

theorem of_dot (h : Leads root links place (Path.dot :: rest) links' place') :
    Leads root links place rest links' place' := by
  cases h with
  | dot _ next => exact next
  | down dot => exact absurd rfl dot
  | link dot => exact absurd rfl dot

/-- Names without their dots lead to the same place. -/
theorem undotted (h : Leads root links place todo links' place') :
    Leads root links place (undotted todo) links' place' := by
  induction todo generalizing links place with
  | nil => exact h
  | cons name rest ih =>
    by_cases dotted : name = Path.dot
    · subst dotted
      rw [Path.undotted_cons_dot]
      exact ih h.of_dot
    · obtain ⟨links₁, place₁, first, second⟩ := h.split [name] rest rfl
      rw [Path.undotted_cons_of_ne dotted]
      exact first.append (ih second)

/-- Dots lead nowhere else. -/
theorem undotted_iff (directory : root.look place' = some .emptyDirectory) :
    Leads root links place (Path.undotted todo) links' place' ↔
      Leads root links place todo links' place' := by
  refine ⟨fun h => ?_, undotted⟩
  induction todo generalizing links place with
  | nil => exact h
  | cons name rest ih =>
    by_cases dotted : name = Path.dot
    · subst dotted
      rw [Path.undotted_cons_dot] at h
      exact .dot (h.start directory) (ih h)
    · rw [Path.undotted_cons_of_ne dotted] at h
      obtain ⟨links₁, place₁, first, second⟩ := h.split [name] _ rfl
      exact first.append (ih second)

end Leads

section Walk

variable {root : Node} {follow slash : Bool} {links links' : Nat} {place place' : List Bytes}
  {todo more rest : List Bytes} {name : Bytes}

theorem walk_nil (h : root.look place = some .emptyDirectory) :
    walk root follow links place [] slash = .ok (.present place) := by
  obtain ⟨n, get, dir⟩ := Option.map_eq_some_iff.1 h
  rw [Node.bare_eq_emptyDirectory_iff] at dir
  rw [walk, get]
  simp [dir]

theorem walk_nil_false (h : root.look place ≠ none) :
    walk root follow links place [] false = .ok (.present place) := by
  rw [walk]
  cases get : root.get? place with
  | none => simp [Node.look, get] at h
  | some n => simp

theorem walk_cons_of_not_directory {n : Node} (found : root.look place = some n)
    (other : n ≠ .emptyDirectory) :
    walk root follow links place (name :: rest) slash = .error .notDirectory := by
  obtain ⟨m, get, rfl⟩ := Option.map_eq_some_iff.1 found
  have : m.isDirectory = false := by
    rw [ne_eq, Node.bare_eq_emptyDirectory_iff] at other
    simpa using other
  rw [walk, get]
  simp [this]

/-- What is seen below a directory is seen through its children. -/
theorem look_append_singleton {r : Bool} {cs : List (Bytes × Node)}
    (h : root.get? place = some (.directory r cs)) (name : Bytes) :
    root.look (place ++ [name]) = (cs.lookup name).map Node.bare := by
  rw [Node.look, Node.get?_append, h, Option.bind_some, Node.get?_singleton]
  rfl

theorem walk_dot (here : root.look place = some .emptyDirectory) :
    walk root follow links place (Path.dot :: rest) slash =
      walk root follow links place rest slash := by
  obtain ⟨m, get, dir⟩ := Option.map_eq_some_iff.1 here
  rw [Node.bare_eq_emptyDirectory_iff] at dir
  conv => lhs; rw [walk, get]
  simp [dir]

theorem walk_up (here : root.look place = some .emptyDirectory) :
    walk root follow links place (Path.dotDot :: rest) slash =
      walk root follow links place.dropLast rest slash := by
  obtain ⟨m, get, dir⟩ := Option.map_eq_some_iff.1 here
  rw [Node.bare_eq_emptyDirectory_iff] at dir
  have ne : ¬Path.dotDot = Path.dot := by decide
  conv => lhs; rw [walk, get]
  simp [dir, ne]

theorem walk_name (here : root.look place = some .emptyDirectory) (dot : name ≠ Path.dot)
    (dotDot : name ≠ Path.dotDot) :
    walk root follow links place (name :: rest) slash =
      if maxName < name.length then .error .nameTooLong
      else
        match root.look (place ++ [name]) with
        | none => if rest.isEmpty then .ok (.absent place name) else .error .noEntry
        | some (.link target) =>
          if rest.isEmpty && !follow && !slash then .ok (.present (place ++ [name]))
          else
            match links with
            | 0 => .error .tooManyLinks
            | links + 1 =>
              walk root follow links (if Path.isAbsolute target then [] else place)
                (Path.segments target ++ rest)
                (slash || (rest.isEmpty && Path.endsInSlash target))
        | some _ => walk root follow links (place ++ [name]) rest slash := by
  obtain ⟨m, get, dir⟩ := Option.map_eq_some_iff.1 here
  rw [Node.bare_eq_emptyDirectory_iff] at dir
  cases m with
  | directory r cs =>
    conv => lhs; rw [walk, get]
    rw [look_append_singleton get]
    simp only [dir, dot, dotDot, Bool.not_true, Bool.false_eq_true, if_false, Node.children]
    split
    · rfl
    · cases cs.lookup name with
      | none => rfl
      | some child => cases child <;> rfl
  | file content a => simp [Node.isDirectory] at dir
  | link target => simp [Node.isDirectory] at dir
  | special => simp [Node.isDirectory] at dir

theorem walk_down {child : Node} (here : root.look place = some .emptyDirectory)
    (dot : name ≠ Path.dot) (dotDot : name ≠ Path.dotDot) (short : name.length ≤ maxName)
    (found : root.look (place ++ [name]) = some child) (plain : ∀ target, child ≠ .link target) :
    walk root follow links place (name :: rest) slash =
      walk root follow links (place ++ [name]) rest slash := by
  rw [walk_name here dot dotDot, if_neg (Nat.not_lt.2 short), found]
  split
  · contradiction
  next target e => exact absurd (Option.some.inj e) (plain target)
  next => rfl

theorem walk_link {target : Path} (here : root.look place = some .emptyDirectory)
    (dot : name ≠ Path.dot) (dotDot : name ≠ Path.dotDot) (short : name.length ≤ maxName)
    (found : root.look (place ++ [name]) = some (.link target)) :
    walk root follow (links + 1) place (name :: rest) slash =
      if rest.isEmpty && !follow && !slash then .ok (.present (place ++ [name]))
      else walk root follow links (if Path.isAbsolute target then [] else place)
        (Path.segments target ++ rest) (slash || (rest.isEmpty && Path.endsInSlash target)) := by
  rw [walk_name here dot dotDot, if_neg (Nat.not_lt.2 short)]
  simp only [found]

/-- A walk goes on from where its first names lead. -/
theorem walk_append (h : Leads root links place todo links' place') (further : more ≠ []) :
    walk root follow links place (todo ++ more) slash =
      walk root follow links' place' more slash := by
  induction h with
  | done => rfl
  | dot here _ ih => exact (walk_dot here).trans ih
  | up here _ ih => exact (walk_up here).trans ih
  | down dot dotDot short here found plain _ ih =>
    exact (walk_down here dot dotDot short found plain).trans ih
  | @link _ _ _ _ rest _ _ dot dotDot short here found _ ih =>
    have going : (rest ++ more).isEmpty = false := by simp [further]
    rw [List.cons_append, walk_link here dot dotDot short found]
    simp only [going, Bool.false_and, Bool.false_eq_true, if_false, Bool.or_false]
    rw [List.append_assoc] at ih
    exact ih

/-- A walk along names that lead to a directory ends there, or at a link to it. -/
theorem walk_of_leads (h : Leads root links place todo links' place')
    (directory : root.look place' = some .emptyDirectory) (follow slash : Bool) :
    ∃ found, walk root follow links place todo slash = .ok (.present found) ∧
      (follow = true → found = place') := by
  induction h generalizing slash with
  | done =>
    exact ⟨_, walk_nil directory, fun _ => rfl⟩
  | dot here _ ih =>
    rw [walk_dot here]
    exact ih directory slash
  | up here _ ih =>
    rw [walk_up here]
    exact ih directory slash
  | down dot dotDot short here found plain _ ih =>
    rw [walk_down here dot dotDot short found plain]
    exact ih directory slash
  | link dot dotDot short here found _ ih =>
    rw [walk_link here dot dotDot short found]
    split
    next stops =>
      refine ⟨_, rfl, ?_⟩
      intro follows
      simp [follows] at stops
    next => exact ih directory _

theorem walk_of_look_eq_none (h : root.look place = none) :
    walk root follow links place todo slash = .error .noEntry := by
  have get : root.get? place = none := by simpa [Node.look] using h
  cases todo with
  | nil => rw [walk, get]
  | cons name rest => rw [walk, get]

theorem look_of_get? {n : Node} (get : root.get? place = some n) (dir : n.isDirectory = true) :
    root.look place = some .emptyDirectory := by
  rw [Node.look, get, Option.map_some, Node.bare_eq_emptyDirectory_iff.2 dir]

theorem look_child {n : Node} (get : root.get? place = some n) (name : Bytes) :
    root.look (place ++ [name]) = (n.children.lookup name).map Node.bare := by
  rw [Node.look, Node.get?_append, get, Option.bind_some, Node.get?_singleton]

/-- A walk that ends at a node was led there. -/
theorem leads_of_walk (h : walk root true links place todo slash = .ok (.present place')) :
    ∃ links', Leads root links place todo links' place' := by
  fun_induction walk root true links place todo slash with
  | case3 links place slash n get _ =>
    cases h
    exact ⟨links, .done links _⟩
  | case6 links place rest slash n get dir ih =>
    obtain ⟨links', next⟩ := ih h
    exact ⟨links', .dot (look_of_get? get (by simpa using dir)) next⟩
  | case7 links place rest slash n get dir _ ih =>
    obtain ⟨links', next⟩ := ih h
    exact ⟨links', .up (look_of_get? get (by simpa using dir)) next⟩
  | case11 links place name rest slash n get dir _ _ _ target found stops => simp at stops
  | case13 place name rest slash n get dir dot dotDot short target found _ links ih =>
    obtain ⟨links', next⟩ := ih h
    refine ⟨links', .link dot dotDot (Nat.not_lt.1 short) (look_of_get? get (by simpa using dir))
      ?_ next⟩
    rw [look_child get, found]
    rfl
  | case14 links place name rest slash n get dir dot dotDot short m plain found ih =>
    obtain ⟨links', next⟩ := ih h
    refine ⟨links', .down (m := m.bare) dot dotDot (Nat.not_lt.1 short)
      (look_of_get? get (by simpa using dir)) ?_ (Node.bare_ne_link plain) next⟩
    rw [look_child get, found]
    rfl
  | _ => simp at h

/-- A walk that finds nothing ends in a directory that could hold it. -/
theorem look_of_walk_absent {directory : List Bytes}
    (h : walk root follow links place todo slash = .ok (.absent directory name)) :
    root.look directory = some .emptyDirectory ∧ root.look (directory ++ [name]) = none := by
  fun_induction walk root follow links place todo slash with
  | case9 links place name' rest slash n get dir dot dotDot short none_ last =>
    cases h
    exact ⟨look_of_get? get (by simpa using dir), by rw [look_child get, none_]; rfl⟩
  | _ => simp_all

/-- Once something stands where a walk found nothing, the names of the walk lead there. -/
theorem leads_of_walk_absent {root' m : Node} {directory : List Bytes}
    (kept : ∀ {x n}, root.look x = some n → root'.look x = some n)
    (h : walk root follow links place todo slash = .ok (.absent directory name))
    (there : root'.look (directory ++ [name]) = some m) (plain : ∀ target, m ≠ .link target) :
    ∃ links', Leads root' links place todo links' (directory ++ [name]) := by
  have here {x : List Bytes} {n : Node} (get : root.get? x = some n)
      (dir : ¬(!n.isDirectory) = true) : root'.look x = some .emptyDirectory :=
    kept (look_of_get? get (by simpa using dir))
  have child {x : List Bytes} {n m : Node} {name : Bytes} (get : root.get? x = some n)
      (found : n.children.lookup name = some m) : root'.look (x ++ [name]) = some m.bare :=
    kept (by rw [look_child get, found]; rfl)
  fun_induction walk root follow links place todo slash with
  | case6 links place rest slash n get dir ih =>
    obtain ⟨links', next⟩ := ih h
    exact ⟨links', .dot (here get dir) next⟩
  | case7 links place rest slash n get dir _ ih =>
    obtain ⟨links', next⟩ := ih h
    exact ⟨links', .up (here get dir) next⟩
  | case9 links place name' rest slash n get dir dot dotDot short none_ last =>
    cases h
    obtain rfl := List.isEmpty_iff.1 last
    exact ⟨links, .down dot dotDot (Nat.not_lt.1 short) (here get dir) there plain (.done _ _)⟩
  | case13 place name rest slash n get dir dot dotDot short target found _ links ih =>
    obtain ⟨links', next⟩ := ih h
    exact ⟨links', .link dot dotDot (Nat.not_lt.1 short) (here get dir) (child get found) next⟩
  | case14 links place name rest slash n get dir dot dotDot short m plain found ih =>
    obtain ⟨links', next⟩ := ih h
    exact ⟨links', .down dot dotDot (Nat.not_lt.1 short) (here get dir) (child get found)
      (Node.bare_ne_link plain) next⟩
  | _ => simp_all

end Walk

theorem look_put_of_some {root t m : Node} {r : Bool} {place x : List Bytes}
    (empty : root.get? place = some (.directory r [])) (directory : t.isDirectory = true)
    (h : root.look x = some m) : (t.put place root).look x = some m := by
  rw [Node.look_put (Node.placeable_of_get? empty)]
  split
  next below =>
    obtain ⟨more, rfl⟩ := below
    cases more with
    | nil =>
      rw [List.append_nil, Node.look, empty] at h
      rw [List.drop_left, Node.look_nil, Node.bare_eq_emptyDirectory_iff.2 directory]
      exact h
    | cons name more =>
      rw [Node.look, Node.get?_append, empty, Option.bind_some, Node.get?_cons] at h
      simp [Node.children] at h
  next => exact h

/-- Whatever stands in an empty directory, names lead as before. -/
theorem Leads.put {root t : Node} {r : Bool} {links links' : Nat} {place place' todo : List Bytes}
    {there : List Bytes} (h : Leads root links place todo links' place')
    (empty : root.get? there = some (.directory r [])) (directory : t.isDirectory = true) :
    Leads (t.put there root) links place todo links' place' := by
  have kept {x : List Bytes} {m : Node} := @look_put_of_some root t m r there x empty directory
  induction h with
  | done => exact .done _ _
  | dot here _ ih => exact .dot (kept here) ih
  | up here _ ih => exact .up (kept here) ih
  | down dot dotDot short here found plain _ ih =>
    exact .down dot dotDot short (kept here) (kept found) plain ih
  | link dot dotDot short here found _ ih =>
    exact .link dot dotDot short (kept here) (kept found) ih

end FileSystem

end Northbound
