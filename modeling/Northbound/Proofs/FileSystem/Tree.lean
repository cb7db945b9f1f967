import Northbound.FileSystem.Node

/-!
# What stands at a place of a tree

`Node.look` tells what stands at a place without what is below it. Putting a node somewhere changes
what is seen there and below, and nothing else.
-/

namespace Northbound

/-- What a name is bound to is in the list. -/
theorem mem_of_lookup {α β : Type} [BEq α] [LawfulBEq α] {l : List (α × β)} {key : α} {b : β}
    (h : l.lookup key = some b) : (key, b) ∈ l := by
  obtain ⟨front, back, rfl, -⟩ := List.lookup_eq_some_iff.1 h
  exact List.mem_append_right front List.mem_cons_self

namespace Node

/-- What holds of a directory if it holds of all its children, and of every other node, holds of all
nodes. -/
@[elab_as_elim] theorem inductionOn {motive : Node → Prop} (n : Node)
    (file : ∀ content a, motive (.file content a))
    (directory : ∀ r cs, (∀ c ∈ cs, motive c.2) → motive (.directory r cs))
    (link : ∀ target, motive (.link target)) (special : motive .special) : motive n := by
  -- Children stand in a list, so the induction is on the size of the node.
  induction hsize : sizeOf n using Nat.strongRecOn generalizing n with
  | ind size ih =>
      cases n with
      | file content a => exact file content a
      | directory r cs =>
          refine directory r cs fun c hc => ih _ ?_ c.2 rfl
          have hinside := List.sizeOf_lt_of_mem hc
          obtain ⟨name, child⟩ := c
          rw [← hsize]
          simp at hinside ⊢
          omega
      | link target => exact link target
      | special => exact special

/-- A node without what is below it. -/
def bare : Node → Node
  | .directory _ _ => emptyDirectory
  | n => n

/-- What stands at a place of a tree. -/
def look (t : Node) (place : List Bytes) : Option Node := (t.get? place).map bare

variable {t n new child : Node} {name other : Bytes} {place : List Bytes}
  {cs : List (Bytes × Node)}

theorem bare_eq_emptyDirectory_iff : n.bare = emptyDirectory ↔ n.isDirectory = true := by
  cases n <;> simp [bare, emptyDirectory, isDirectory]

theorem bare_ne_link (plain : ∀ target, n ≠ .link target) (target : Path) :
    n.bare ≠ .link target := by
  cases n with
  | link other => exact fun _ => plain other rfl
  | _ => simp [bare, emptyDirectory]

@[simp] theorem get?_nil (t : Node) : t.get? [] = some t := by rw [get?]

theorem get?_cons (t : Node) (name : Bytes) (place : List Bytes) :
    t.get? (name :: place) = (t.children.lookup name).bind (·.get? place) := by
  rw [get?]
  rfl

/-- A name leads further in a directory only. -/
theorem exists_directory_of_get?_cons {t n : Node} {name : Bytes} {place : List Bytes}
    (h : t.get? (name :: place) = some n) : ∃ r cs child,
      t = .directory r cs ∧ cs.lookup name = some child ∧ child.get? place = some n := by
  rw [get?_cons] at h
  obtain ⟨child, found, below⟩ := Option.bind_eq_some_iff.1 h
  cases t with
  | directory r cs => exact ⟨r, cs, child, rfl, found, below⟩
  | file content a => cases found
  | link target => cases found
  | special => cases found

theorem get?_append (t : Node) (place more : List Bytes) :
    t.get? (place ++ more) = (t.get? place).bind (·.get? more) := by
  induction place generalizing t with
  | nil => simp
  | cons name place ih =>
    rw [List.cons_append, get?_cons, get?_cons, Option.bind_assoc]
    exact congrArg _ (funext fun child => ih child)

theorem get?_singleton (t : Node) (name : Bytes) : t.get? [name] = t.children.lookup name := by
  rw [get?_cons]
  cases t.children.lookup name <;> simp

@[simp] theorem look_nil (t : Node) : t.look [] = some t.bare := by simp [look]

theorem look_cons (t : Node) (name : Bytes) (place : List Bytes) :
    t.look (name :: place) = (t.children.lookup name).bind (·.look place) := by
  rw [look, get?_cons]
  cases t.children.lookup name <;> rfl

/-- Only directories have anything below them. -/
theorem look_append_of_not_directory {m : Node} (h : t.look place = some m)
    (plain : m ≠ emptyDirectory) {more : List Bytes} (further : more ≠ []) :
    t.look (place ++ more) = none := by
  cases more with
  | nil => exact absurd rfl further
  | cons name more =>
    obtain ⟨n, found, rfl⟩ := Option.map_eq_some_iff.1 h
    have : n.children = [] := by
      cases n with
      | directory r cs => exact absurd rfl plain
      | file content a => rfl
      | link target => rfl
      | special => rfl
    rw [look, get?_append, found, Option.bind_some, get?_cons, this]
    rfl

/-- Nothing is below a place where nothing stands. -/
theorem look_append_of_eq_none (h : t.look place = none) (more : List Bytes) :
    t.look (place ++ more) = none := by
  rw [look, Option.map_eq_none_iff] at h ⊢
  rw [get?_append, h]
  rfl

/-- What is found below a place is found below a directory. -/
theorem look_of_look_append {more : List Bytes} {m : Node} (h : t.look (place ++ more) = some m)
    (further : more ≠ []) : t.look place = some emptyDirectory := by
  cases here : t.look place with
  | none =>
    rw [look_append_of_eq_none here] at h
    cases h
  | some k =>
    by_cases dir : k = emptyDirectory
    · rw [dir]
    · rw [look_append_of_not_directory here dir further] at h
      simp at h

theorem lookup_replaceChild_self (name : Bytes) (n : Node) (cs : List (Bytes × Node)) :
    (replaceChild name n cs).lookup name = some n := by
  induction cs with
  | nil => simp [replaceChild]
  | cons c cs ih =>
    obtain ⟨k, m⟩ := c
    simp only [replaceChild]
    by_cases h : k = name
    · subst h
      simp
    · have : (name == k) = false := by simpa using fun e : name = k => h e.symm
      simp [h, List.lookup_cons, this, ih]

theorem lookup_replaceChild_of_ne (h : other ≠ name) (n : Node) (cs : List (Bytes × Node)) :
    (replaceChild name n cs).lookup other = cs.lookup other := by
  have ne : (other == name) = false := by simpa using h
  induction cs with
  | nil => simp [replaceChild, List.lookup_cons, ne]
  | cons c cs ih =>
    obtain ⟨k, m⟩ := c
    simp only [replaceChild]
    by_cases hk : k = name
    · subst hk
      simp [List.lookup_cons, ne]
    · simp only [hk, if_false, List.lookup_cons, ih]

theorem replaceChild_replaceChild (name : Bytes) (m n : Node) (cs : List (Bytes × Node)) :
    replaceChild name m (replaceChild name n cs) = replaceChild name m cs := by
  induction cs with
  | nil => simp [replaceChild]
  | cons c cs ih =>
    obtain ⟨k, l⟩ := c
    by_cases hk : k = name
    · simp [replaceChild, hk]
    · simp [replaceChild, hk, ih]

theorem replaceChild_of_lookup (h : cs.lookup name = some n) : replaceChild name n cs = cs := by
  induction cs with
  | nil => simp at h
  | cons c cs ih =>
    obtain ⟨k, m⟩ := c
    by_cases hk : k = name
    · subst hk
      simp at h
      simp [replaceChild, h]
    · have ne : (name == k) = false := by simpa using fun e : name = k => hk e.symm
      rw [List.lookup_cons, ne] at h
      simp [replaceChild, hk, ih h]

/-- Whether a node can be put at a place: at the top, or into a directory. -/
def Placeable (t : Node) (place : List Bytes) : Prop :=
  place = [] ∨ t.look place.dropLast = some emptyDirectory

/-- A node that can be put below a child of a directory can be put below that child. -/
theorem placeable_cons_iff :
    t.Placeable (name :: place) ↔
      if place = [] then t.isDirectory = true
      else ∃ child, t.children.lookup name = some child ∧ child.Placeable place := by
  cases place with
  | nil => simp [Placeable, bare_eq_emptyDirectory_iff]
  | cons x xs =>
    simp only [Placeable, List.dropLast_cons_cons, look_cons, reduceCtorEq, false_or, if_false]
    cases t.children.lookup name with
    | none => simp
    | some child => simp

theorem put_nil (new t : Node) : put new [] t = new := by
  cases t <;> rfl

theorem put_cons_of_lookup {r : Bool} (h : cs.lookup name = some child) (new : Node)
    (place : List Bytes) :
    put new (name :: place) (.directory r cs) =
      .directory r (replaceChild name (put new place child) cs) := by
  simp [put, h]

theorem put_singleton_of_lookup {r : Bool} (h : cs.lookup name = none) (new : Node) :
    put new [name] (.directory r cs) = .directory r (replaceChild name new cs) := by
  simp [put, h]

/-- The cases of a place in a directory that a node can be put at. -/
theorem placeable_cases (h : t.Placeable (name :: place)) :
    ∃ r cs, t = .directory r cs ∧
      ((∃ child, cs.lookup name = some child ∧ child.Placeable place ∧
          ∀ new, put new (name :: place) t =
            .directory r (replaceChild name (put new place child) cs)) ∨
        (place = [] ∧ cs.lookup name = none ∧
          ∀ new, put new (name :: place) t = .directory r (replaceChild name new cs))) := by
  rw [placeable_cons_iff] at h
  have dir : t.isDirectory = true := by
    split at h
    · exact h
    · obtain ⟨child, found, -⟩ := h
      cases t <;> simp_all [children, isDirectory]
  cases t with
  | directory r cs =>
    refine ⟨r, cs, rfl, ?_⟩
    cases found : cs.lookup name with
    | some child =>
      refine Or.inl ⟨child, rfl, ?_, fun new => put_cons_of_lookup found new place⟩
      split at h
      next top => exact Or.inl top
      next => simpa [children, found] using h
    | none =>
      split at h
      next top =>
        subst top
        exact Or.inr ⟨rfl, rfl, fun new => put_singleton_of_lookup found new⟩
      next => simp [children, found] at h
  | file content a => simp [isDirectory] at dir
  | link target => simp [isDirectory] at dir
  | special => simp [isDirectory] at dir

/-- Below the place of a node that was put, there is what is below the node. -/
theorem get?_put_append (h : t.Placeable place) (new : Node) (more : List Bytes) :
    (put new place t).get? (place ++ more) = new.get? more := by
  induction place generalizing t with
  | nil => simp [put_nil]
  | cons name place ih =>
    obtain ⟨r, cs, rfl, ⟨child, -, below, shape⟩ | ⟨rfl, -, shape⟩⟩ := placeable_cases h
    · rw [shape, List.cons_append, get?_cons]
      simp [children, lookup_replaceChild_self, ih below]
    · rw [shape, List.cons_append, get?_cons]
      simp [children, lookup_replaceChild_self]

theorem get?_put_self (h : t.Placeable place) (new : Node) :
    (put new place t).get? place = some new := by
  have := get?_put_append h new []
  rwa [List.append_nil, get?_nil] at this

/-- Elsewhere nothing is seen to change. -/
theorem look_put_of_not_prefix (h : t.Placeable place) (new : Node) {elsewhere : List Bytes}
    (apart : ¬place <+: elsewhere) : (put new place t).look elsewhere = t.look elsewhere := by
  induction place generalizing t elsewhere with
  | nil => exact absurd (List.nil_prefix) apart
  | cons name place ih =>
    obtain ⟨r, cs, rfl, cases_⟩ := placeable_cases h
    cases elsewhere with
    | nil =>
      obtain ⟨child, -, -, shape⟩ | ⟨-, -, shape⟩ := cases_
      · simp [shape, bare]
      · simp [shape, bare]
    | cons x xs =>
      by_cases same : x = name
      · subst same
        have apart' : ¬place <+: xs := fun e => apart (by simpa using e)
        obtain ⟨child, found, below, shape⟩ | ⟨top, missing, shape⟩ := cases_
        · rw [shape, look_cons, look_cons]
          simp [children, lookup_replaceChild_self, found, ih below apart']
        · subst top
          exact absurd List.nil_prefix apart'
      · obtain ⟨child, -, -, shape⟩ | ⟨-, -, shape⟩ := cases_
        · rw [shape, look_cons, look_cons]
          simp [children, lookup_replaceChild_of_ne same]
        · rw [shape, look_cons, look_cons]
          simp [children, lookup_replaceChild_of_ne same]

theorem look_put (h : t.Placeable place) (new : Node) (x : List Bytes) :
    (put new place t).look x =
      if place <+: x then new.look (x.drop place.length) else t.look x := by
  split
  next below =>
    obtain ⟨more, rfl⟩ := below
    rw [look, get?_put_append h, List.drop_left]
    rfl
  next apart => exact look_put_of_not_prefix h new apart

/-- Putting a node below one that was put is putting a changed one. -/
theorem put_append_put (h : t.Placeable place) (n new : Node) (more : List Bytes) :
    put new (place ++ more) (put n place t) = put (put new more n) place t := by
  induction place generalizing t with
  | nil => simp [put_nil]
  | cons name place ih =>
    obtain ⟨r, cs, rfl, ⟨child, -, below, shape⟩ | ⟨rfl, -, shape⟩⟩ := placeable_cases h
    · rw [shape, shape, List.cons_append, put_cons_of_lookup (lookup_replaceChild_self _ _ _),
        replaceChild_replaceChild, ih below]
    · rw [shape, shape, List.cons_append, List.nil_append,
        put_cons_of_lookup (lookup_replaceChild_self _ _ _), replaceChild_replaceChild]

/-- Putting what is there changes nothing. -/
theorem put_get? (h : t.get? place = some n) : put n place t = t := by
  induction place generalizing t with
  | nil =>
    rw [get?_nil] at h
    rw [put_nil, Option.some.inj h]
  | cons name place ih =>
    obtain ⟨r, cs, child, rfl, found, below⟩ := exists_directory_of_get?_cons h
    rw [put_cons_of_lookup found, ih below, replaceChild_of_lookup found]

theorem placeable_of_get? (h : t.get? place = some n) : t.Placeable place := by
  rcases List.eq_nil_or_concat place with rfl | ⟨init, last, rfl⟩
  · exact Or.inl rfl
  · rw [List.concat_eq_append] at h ⊢
    refine Or.inr ?_
    rw [List.dropLast_concat]
    exact look_of_look_append (by rw [look, h]; rfl) (List.cons_ne_nil last [])

end Node

end Northbound
