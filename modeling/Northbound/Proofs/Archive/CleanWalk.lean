import Northbound.Proofs.Archive.WalkedFiles

/-!
# Walks that do not fail

A walk fails at a node that is neither a file nor a directory, at one that cannot be read, and at
one whose name is no text. Main statement: it does not fail exactly if there is no such node.
-/

namespace Northbound

namespace Node

/-- Whether a node is a file or a directory that can be read. -/
def isReadable : Node → Bool
  | .file _ a => a.readable
  | .directory r _ => r
  | _ => false

/-- A tree of files and directories that can be read, with names that are texts. -/
structure Packable (t : Node) : Prop where
  readable : ∀ place n, t.get? place = some n → n.isReadable = true
  texts : ∀ place n, t.get? place = some n → ∀ name ∈ place, IsText name

theorem packable_file {content : Bytes} {a : FileAttributes} (readable : a.readable = true) :
    (Node.file content a).Packable where
  readable := by
    intro place n get
    cases place with
    | nil =>
        rw [get?_nil, Option.some.injEq] at get
        rw [← get]
        exact readable
    | cons name place =>
        rw [get?_cons] at get
        cases get
  texts := by
    intro place n get
    cases place with
    | nil => simp
    | cons name place =>
        rw [get?_cons] at get
        cases get

/-- A directory that can be read can be packed if its children can be and have texts as names. -/
theorem packable_directory {cs : List (Bytes × Node)} (names : ∀ c ∈ cs, IsText c.1)
    (children : ∀ c ∈ cs, c.2.Packable) : (Node.directory true cs).Packable where
  readable := by
    intro place n get
    cases place with
    | nil =>
        rw [get?_nil, Option.some.injEq] at get
        rw [← get]
        rfl
    | cons name place =>
        rw [get?_cons] at get
        obtain ⟨child, found, below⟩ := Option.bind_eq_some_iff.1 get
        exact (children _ (mem_of_lookup found)).readable place n below
  texts := by
    intro place n get
    cases place with
    | nil => simp
    | cons name place =>
        rw [get?_cons] at get
        obtain ⟨child, found, below⟩ := Option.bind_eq_some_iff.1 get
        have member := mem_of_lookup found
        exact List.forall_mem_cons.2
          ⟨names _ member, (children _ member).texts place n below⟩

end Node

namespace WalkStep

variable {root path : Path} {cs : List (Bytes × Node)} {n : Node}

theorem not_clean_singleton (e : ArchiveError) : ¬Clean [.failure e] := by
  intro clean
  exact clean e (List.mem_singleton_self _)

/-- A node that is visited without a failure can be read, and its names are texts. -/
theorem readable_of_clean (nonempty : root ≠ []) {front : List Bytes}
    (plain : ∀ m ∈ front, Path.Plain m)
    (clean : Clean (ofNode root (front.foldl Path.join root) n)) :
    n.isReadable = true ∧ ∀ m ∈ front, IsText m := by
  rw [← exists_relativeArchivePath_iff nonempty plain]
  cases n with
  | file content a =>
      rw [ofNode] at clean
      split at clean
      next => exact absurd clean (not_clean_singleton _)
      next s found =>
        split at clean
        next readable => exact ⟨readable, s, found⟩
        next => exact absurd clean (not_clean_singleton _)
  | directory r cs =>
      rw [ofNode] at clean
      split at clean
      next => exact absurd clean (not_clean_singleton _)
      next s found =>
        split at clean
        next readable => exact ⟨readable, s, found⟩
        next => exact absurd (List.mem_cons_of_mem _ (List.mem_singleton_self _)) (clean _)
  | link target =>
      rw [ofNode, unsupported] at clean
      split at clean
      · exact absurd clean (not_clean_singleton _)
      · exact absurd clean (not_clean_singleton _)
  | special =>
      rw [ofNode, unsupported] at clean
      split at clean
      · exact absurd clean (not_clean_singleton _)
      · exact absurd clean (not_clean_singleton _)

/-- Below a directory that is walked without a failure, each node is visited without one. -/
theorem clean_child {front : List Bytes} {r : Bool} {c : Bytes × Node} (hc : c ∈ cs)
    (clean : Clean (ofNode root (front.foldl Path.join root) (.directory r cs))) :
    Clean (ofNode root ((front ++ [c.1]).foldl Path.join root) c.2) := by
  obtain ⟨s, shape⟩ := ofNode_directory_of_clean clean
  intro e h
  apply clean e
  rw [shape]
  rw [← join_foldl_join] at h
  exact List.mem_cons_of_mem _ (mem_inOrder_ofChildren.2 ⟨c, hc, h⟩)

/-- Where a node and all below it are visited without a failure, they can be read, and their names
are texts. -/
theorem readable_below_of_clean (nonempty : root ≠ []) (front : List Bytes) (legal : n.Legal)
    (plain : ∀ m ∈ front, Path.Plain m)
    (clean : Clean (ofNode root (front.foldl Path.join root) n)) {place : List Bytes} {m : Node}
    (h : n.get? place = some m) : m.isReadable = true ∧ ∀ name ∈ front ++ place, IsText name := by
  induction place generalizing n front with
  | nil =>
      rw [Node.get?_nil, Option.some.injEq] at h
      rw [← h, List.append_nil]
      exact readable_of_clean nonempty plain clean
  | cons name place ih =>
      obtain ⟨r, cs, child, rfl, found, below⟩ := Node.exists_directory_of_get?_cons h
      have member := mem_of_lookup found
      obtain ⟨-, name_legal, child_legal⟩ := legal.of_mem member
      rw [← List.singleton_append, ← List.append_assoc]
      exact ih (front ++ [name]) child_legal (plain_concat plain name_legal.toPlain)
        (clean_child member clean) below

/-- Nodes that can be read and have texts as names are visited without a failure. -/
theorem clean_of_readable_below (nonempty : root ≠ []) (front : List Bytes) (legal : n.Legal)
    (plain : ∀ m ∈ front, Path.Plain m)
    (nodes : ∀ place m, n.get? place = some m →
      m.isReadable = true ∧ ∀ name ∈ front ++ place, IsText name) :
    Clean (ofNode root (front.foldl Path.join root) n) := by
  induction n using Node.inductionOn generalizing front with
  | file content a =>
      obtain ⟨readable, texts⟩ := nodes [] _ (Node.get?_nil _)
      rw [List.append_nil] at texts
      obtain ⟨s, relative⟩ := (exists_relativeArchivePath_iff nonempty plain).2 texts
      have readable : a.readable = true := readable
      intro e
      simp [ofNode, relative, readable]
  | directory r cs ih =>
      obtain ⟨readable, texts⟩ := nodes [] _ (Node.get?_nil _)
      rw [List.append_nil] at texts
      obtain ⟨s, relative⟩ := (exists_relativeArchivePath_iff nonempty plain).2 texts
      have readable : r = true := readable
      intro e mem
      rw [ofNode, relative, if_pos readable] at mem
      rcases List.mem_cons.1 mem with same | mem
      · cases same
      · obtain ⟨⟨name, child⟩, hc, mem⟩ := mem_inOrder_ofChildren.1 mem
        obtain ⟨found, name_legal, child_legal⟩ := legal.of_mem hc
        rw [join_foldl_join] at mem
        refine ih _ hc (front ++ [name]) child_legal
          (plain_concat plain name_legal.toPlain) ?_ e mem
        intro place m below
        have inside : (Node.directory r cs).get? (name :: place) = some m := by
          rw [Node.get?_cons, Node.children, found]
          exact below
        rw [List.append_assoc]
        exact nodes (name :: place) m inside
  | link target => cases (nodes [] _ (Node.get?_nil _)).1
  | special => cases (nodes [] _ (Node.get?_nil _)).1

/-- A walk from a directory does not fail exactly if its tree can be packed. -/
theorem clean_ofSource_iff {fs : FileSystem} {source : Path} {place : List Bytes} {tree : Node}
    (resolved : fs.resolve source = .ok (place, tree)) (directory : tree.isDirectory = true)
    (legal : tree.Legal) : Clean (ofSource fs source) ↔ tree.Packable := by
  obtain ⟨nonempty, -⟩ := FileSystem.leads_of_resolve resolved
  cases tree with
  | directory r cs =>
      have whole : Clean (ofNode source source (.directory r cs)) ↔ Clean (ofSource fs source) := by
        rw [ofNode_eq_cons_ofSource resolved]
        simp [Clean]
      rw [← whole]
      constructor
      · intro clean
        have nodes {place : List Bytes} {n : Node} (h : (Node.directory r cs).get? place = some n) :
            n.isReadable = true ∧ ∀ name ∈ [] ++ place, IsText name :=
          readable_below_of_clean nonempty [] legal (by simp) clean h
        exact ⟨fun place n h => (nodes h).1, fun place n h => (nodes h).2⟩
      · intro packable
        apply clean_of_readable_below nonempty [] legal (by simp)
        intro place n h
        exact ⟨packable.readable place n h, packable.texts place n h⟩
  | file content a => cases directory
  | link target => cases directory
  | special => cases directory

end WalkStep

end Northbound
