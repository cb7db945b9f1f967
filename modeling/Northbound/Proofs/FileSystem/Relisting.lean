import Northbound.Proofs.FileSystem.LegalTree

/-!
# Listing a tree in another order

A file system lists the children of a directory in no particular order. Two listings of one tree
differ in the order of children, at any depth. While no name stands twice in a directory, names lead
to the same places in both.
-/

namespace Northbound

namespace Node

/-- Whether two trees differ only in the order in which directories list their children. The
children are first listed anew one by one, then put in another order. -/
inductive Relisted : Node → Node → Prop
  | file (content : Bytes) (a : FileAttributes) : Relisted (.file content a) (.file content a)
  | directory (readable : Bool) {cs ds es : List (Bytes × Node)}
      (names : cs.map Prod.fst = ds.map Prod.fst)
      (each : ∀ p ∈ cs.zip ds, Relisted p.1.2 p.2.2) (order : ds.Perm es) :
      Relisted (.directory readable cs) (.directory readable es)
  | link (target : Path) : Relisted (.link target) (.link target)
  | special : Relisted .special .special

/-- Whether no directory of a tree lists a name twice. -/
def Distinct (t : Node) : Prop :=
  ∀ place r cs, t.get? place = some (.directory r cs) → (cs.map Prod.fst).Nodup

variable {t t' child : Node} {cs ds es : List (Bytes × Node)} {name : Bytes} {place : List Bytes}

theorem Legal.distinct (legal : t.Legal) : t.Distinct := by
  intro place r cs h
  exact (legal.names place r cs h).1

theorem Distinct.nodup {r : Bool} (distinct : (Node.directory r cs).Distinct) :
    (cs.map Prod.fst).Nodup :=
  distinct [] r cs (get?_nil _)

theorem Distinct.get? (distinct : t.Distinct) (h : t.get? place = some child) :
    child.Distinct := by
  intro below r cs hbelow
  apply distinct (place ++ below) r cs
  rw [get?_append, h]
  exact hbelow

theorem Distinct.of_lookup (distinct : t.Distinct) (h : t.children.lookup name = some child) :
    child.Distinct :=
  distinct.get? ((get?_singleton t name).trans h)

theorem Distinct.of_mem {r : Bool} (distinct : (Node.directory r cs).Distinct)
    {c : Bytes × Node} (h : c ∈ cs) : c.2.Distinct :=
  distinct.of_lookup ((lookup_eq_some_iff_mem distinct.nodup).2 h)

/-- The order of a directory does not matter to what a name stands for. -/
theorem lookup_of_perm (nodup : (ds.map Prod.fst).Nodup) (order : ds.Perm es) (name : Bytes) :
    ds.lookup name = es.lookup name := by
  have nodup' : (es.map Prod.fst).Nodup := (order.map Prod.fst).nodup_iff.1 nodup
  ext child
  rw [lookup_eq_some_iff_mem nodup, lookup_eq_some_iff_mem nodup', order.mem_iff]

/-- A name stands for related nodes if the nodes of two lists are related one by one. -/
theorem rel_lookup_of_zip {R : Node → Node → Prop} (names : cs.map Prod.fst = ds.map Prod.fst)
    (each : ∀ p ∈ cs.zip ds, R p.1.2 p.2.2) (name : Bytes) :
    Option.Rel R (cs.lookup name) (ds.lookup name) := by
  induction cs generalizing ds with
  | nil =>
      have hds : ds = [] := List.map_eq_nil_iff.1 names.symm
      rw [hds]
      exact .none
  | cons c cs ih =>
      cases ds with
      | nil => cases names
      | cons d ds =>
          obtain ⟨k, m⟩ := c
          obtain ⟨l, n⟩ := d
          obtain ⟨hkey, hrest⟩ := List.cons.inj names
          have hkey : k = l := hkey
          rw [List.zip_cons_cons, List.forall_mem_cons] at each
          rw [List.lookup_cons, List.lookup_cons, hkey]
          split
          · exact .some each.1
          · exact ih hrest each.2

theorem rel_cases {R : Node → Node → Prop} {found found' : Option Node}
    (h : Option.Rel R found found') :
    (found = none ∧ found' = none) ∨ ∃ n n', found = some n ∧ found' = some n' ∧ R n n' := by
  cases h with
  | none => exact Or.inl ⟨rfl, rfl⟩
  | some hnodes => exact Or.inr ⟨_, _, rfl, rfl, hnodes⟩

namespace Relisted

/-- Listing children anew changes nothing that is seen of a node by itself. -/
theorem bare_eq (h : t.Relisted t') : t.bare = t'.bare := by
  cases h <;> rfl

theorem rel_lookup (h : t.Relisted t') (distinct : t.Distinct) (name : Bytes) :
    Option.Rel Relisted (t.children.lookup name) (t'.children.lookup name) := by
  cases h with
  | file content a => exact .none
  | link target => exact .none
  | special => exact .none
  | @directory r cs ds es names each order =>
      have nodup : (cs.map Prod.fst).Nodup := distinct.nodup
      rw [names] at nodup
      have hsame : ds.lookup name = es.lookup name := lookup_of_perm nodup order name
      have hrel := rel_lookup_of_zip names each name
      rwa [hsame] at hrel

/-- Names lead to two listings of one node, or in both trees to nothing. -/
theorem rel_get? (h : t.Relisted t') (distinct : t.Distinct) (place : List Bytes) :
    Option.Rel Relisted (t.get? place) (t'.get? place) := by
  induction place generalizing t t' with
  | nil =>
      rw [get?_nil, get?_nil]
      exact .some h
  | cons name place ih =>
      rw [get?_cons, get?_cons]
      obtain ⟨none, none'⟩ | ⟨child, child', found, found', hchild⟩ :=
        rel_cases (h.rel_lookup distinct name)
      · rw [none, none']
        exact .none
      · rw [found, found']
        exact ih hchild (distinct.of_lookup found)

/-- The same is seen at every place of two listings of one tree. -/
theorem look_eq (h : t.Relisted t') (distinct : t.Distinct) (place : List Bytes) :
    t.look place = t'.look place := by
  rw [look, look]
  obtain ⟨none, none'⟩ | ⟨n, n', found, found', hnode⟩ := rel_cases (h.rel_get? distinct place)
  · rw [none, none']
  · rw [found, found', Option.map_some, Option.map_some, hnode.bare_eq]

end Relisted

end Node

namespace FileSystem

/-- A walk depends on what is seen at places, not on how directories list it. -/
theorem walk_congr {root root' : Node} (alike : ∀ place, root.look place = root'.look place)
    (follow : Bool) (links : Nat) (place todo : List Bytes) (slash : Bool) :
    walk root follow links place todo slash = walk root' follow links place todo slash := by
  cases here : root.look place with
  | none =>
      have here' := (alike place).symm.trans here
      rw [walk_of_look_eq_none here, walk_of_look_eq_none here']
  | some n =>
      have here' := (alike place).symm.trans here
      cases todo with
      | nil =>
          obtain ⟨m, get, bare⟩ := Option.map_eq_some_iff.1 here
          obtain ⟨m', get', bare'⟩ := Option.map_eq_some_iff.1 here'
          have hdirectory : m.isDirectory = m'.isDirectory := by
            rw [Bool.eq_iff_iff, ← Node.bare_eq_emptyDirectory_iff,
              ← Node.bare_eq_emptyDirectory_iff, bare, bare']
          rw [walk, walk, get, get']
          simp only [hdirectory]
      | cons name rest =>
          by_cases directory : n = .emptyDirectory
          · subst directory
            by_cases dot : name = Path.dot
            · subst dot
              rw [walk_dot here, walk_dot here']
              exact walk_congr alike follow links place rest slash
            · by_cases dotDot : name = Path.dotDot
              · subst dotDot
                rw [walk_up here, walk_up here']
                exact walk_congr alike follow links place.dropLast rest slash
              · rw [walk_name here dot dotDot, walk_name here' dot dotDot,
                  ← alike (place ++ [name])]
                split
                · rfl
                · split
                  · rfl
                  next target _ =>
                    cases links with
                    | zero => rfl
                    | succ links =>
                        simp only [walk_congr alike follow links]
                  · exact walk_congr alike follow links (place ++ [name]) rest slash
          · rw [walk_cons_of_not_directory here directory,
              walk_cons_of_not_directory here' directory]
termination_by (links, todo.length)

/-- Whether two file systems differ only in the order in which directories list their children. -/
structure Relisted (fs fs' : FileSystem) : Prop where
  root : fs.root.Relisted fs'.root
  workingDirectory : fs.workingDirectory = fs'.workingDirectory

/-- How a path is resolved to two listings of one node, or refused for the same reason. -/
inductive ResolvedAlike : (found found' : Except FileError (List Bytes × Node)) → Prop
  | found (place : List Bytes) {n n' : Node} (relisted : n.Relisted n') (distinct : n.Distinct) :
      ResolvedAlike (.ok (place, n)) (.ok (place, n'))
  | refused (e : FileError) : ResolvedAlike (.error e) (.error e)

namespace Relisted

variable {fs fs' : FileSystem}

theorem workingPath_eq (h : fs.Relisted fs') : fs.workingPath = fs'.workingPath := by
  rw [workingPath, workingPath, h.workingDirectory]

theorem locate_eq (h : fs.Relisted fs') (distinct : fs.root.Distinct) (follow : Bool) (p : Path) :
    fs.locate follow p = fs'.locate follow p := by
  simp only [locate, h.workingDirectory, walk_congr (h.root.look_eq distinct)]

/-- A path leads to the same place under both listings. -/
theorem resolve (h : fs.Relisted fs') (distinct : fs.root.Distinct) (p : Path) :
    ResolvedAlike (fs.resolve p) (fs'.resolve p) := by
  simp only [FileSystem.resolve, ← h.locate_eq distinct, Bind.bind, Except.bind]
  split
  · exact .refused _
  · split
    next place _ =>
      obtain ⟨none, none'⟩ | ⟨n, n', found, found', hnode⟩ :=
        Node.rel_cases (h.root.rel_get? distinct place)
      · rw [none, none']
        exact .refused _
      · rw [found, found']
        exact .found place hnode (distinct.get? found)
    · exact .refused _

end Relisted

end FileSystem

end Northbound
