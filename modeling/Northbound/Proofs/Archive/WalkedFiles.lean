import Northbound.Archive.Walk
import Northbound.Proofs.Archive.RelativePath
import Northbound.Proofs.FileSystem.LegalTree

/-!
# The files of a walk

A walk over a legal tree that does not fail visits every file of the tree, each under the names that
lead to it, and nothing else.
-/

namespace Northbound

namespace WalkStep

/-- Whether no step is a failure. -/
def Clean (steps : List WalkStep) : Prop := ∀ e, .failure e ∉ steps

variable {root path : Path} {cs : List (Bytes × Node)} {n : Node} {step : WalkStep} {s : String}
  {content : Bytes} {a : FileAttributes}

theorem ofChildren_eq_map (root path : Path) (cs : List (Bytes × Node)) :
    ofChildren root path cs = cs.map fun c => (c.1, ofNode root (Path.join path c.1) c.2) := by
  induction cs with
  | nil => rfl
  | cons c cs ih => rw [ofChildren, ih, List.map_cons]

/-- The order in which children are visited does not matter to what is visited. -/
theorem mem_inOrder_ofChildren :
    step ∈ inOrder (ofChildren root path cs) ↔
      ∃ c ∈ cs, step ∈ ofNode root (Path.join path c.1) c.2 := by
  rw [inOrder, ofChildren_eq_map, List.mem_flatMap]
  constructor
  · rintro ⟨named, mem, inside⟩
    obtain ⟨c, hc, rfl⟩ := List.mem_map.1 (List.mem_mergeSort.1 mem)
    exact ⟨c, hc, inside⟩
  · rintro ⟨c, hc, inside⟩
    exact ⟨_, List.mem_mergeSort.2 (List.mem_map.2 ⟨c, hc, rfl⟩), inside⟩

/-- The steps of a directory, if it can be listed. -/
theorem mem_ofNode_directory {r : Bool} (h : step ∈ ofNode root path (.directory r cs)) :
    (∃ s, relativeArchivePath root path = .ok s ∧ step = .directory s) ∨
      (∃ e, step = .failure e) ∨
      r = true ∧ step ∈ inOrder (ofChildren root path cs) := by
  rw [ofNode] at h
  split at h
  · exact Or.inr (Or.inl ⟨_, List.mem_singleton.1 h⟩)
  next s relative =>
    rcases List.mem_cons.1 h with first | h
    · exact Or.inl ⟨s, relative, first⟩
    · split at h
      next readable => exact Or.inr (Or.inr ⟨readable, h⟩)
      next => exact Or.inr (Or.inl ⟨_, List.mem_singleton.1 h⟩)

theorem not_file_of_mem_unsupported (h : step ∈ unsupported root path) :
    ∃ e, step = .failure e := by
  rw [unsupported] at h
  split at h <;> exact ⟨_, List.mem_singleton.1 h⟩

/-- A directory that is walked without a failure is passed through. -/
theorem ofNode_directory_of_clean {r : Bool}
    (clean : Clean (ofNode root path (.directory r cs))) :
    ∃ s, ofNode root path (.directory r cs) =
      .directory s :: inOrder (ofChildren root path cs) := by
  rw [ofNode] at clean ⊢
  split
  next e relative => exact absurd (by rw [relative]; simp) (clean e)
  next s relative =>
    split
    · exact ⟨s, rfl⟩
    next unreadable =>
      exact absurd (by simp [relative, unreadable]) (clean (.walk path .permission))

theorem join_foldl_join (root : Path) (front : List Bytes) (name : Bytes) :
    Path.join (front.foldl Path.join root) name = (front ++ [name]).foldl Path.join root := by
  simp

theorem plain_concat {front : List Bytes} {name : Bytes} (plain : ∀ m ∈ front, Path.Plain m)
    (last : Path.Plain name) : ∀ m ∈ front ++ [name], Path.Plain m := by
  intro m hm
  rcases List.mem_append.1 hm with hm | hm
  · exact plain m hm
  · rw [List.mem_singleton.1 hm]
    exact last

/-- A file that is visited is in the tree. -/
theorem get?_of_mem_ofNode (nonempty : root ≠ []) (front : List Bytes) (legal : n.Legal)
    (plain : ∀ m ∈ front, Path.Plain m)
    (h : .file s content a ∈ ofNode root (front.foldl Path.join root) n) :
    ∃ rel, n.get? rel = some (.file content a) ∧ utf8 s = Path.joined (front ++ rel) := by
  induction n using Node.inductionOn generalizing front with
  | file c b =>
    rw [ofNode] at h
    split at h
    · cases List.mem_singleton.1 h
    next relative found =>
      split at h
      · cases List.mem_singleton.1 h
        refine ⟨[], Node.get?_nil _, ?_⟩
        rw [List.append_nil]
        exact relativeArchivePath_eq_ok nonempty plain found
      · cases List.mem_singleton.1 h
  | link target =>
    rw [ofNode] at h
    obtain ⟨e, same⟩ := not_file_of_mem_unsupported h
    cases same
  | special =>
    rw [ofNode] at h
    obtain ⟨e, same⟩ := not_file_of_mem_unsupported h
    cases same
  | directory r cs ih =>
    rcases mem_ofNode_directory h with ⟨_, -, same⟩ | ⟨e, same⟩ | ⟨-, h⟩
    · cases same
    · cases same
    · obtain ⟨⟨name, child⟩, hc, h⟩ := mem_inOrder_ofChildren.1 h
      obtain ⟨found, name_legal, child_legal⟩ := legal.of_mem hc
      rw [join_foldl_join] at h
      have plain' := plain_concat plain name_legal.toPlain
      obtain ⟨rel, get, text⟩ := ih _ hc _ child_legal plain' h
      refine ⟨name :: rel, ?_, ?_⟩
      · rw [Node.get?_cons, Node.children, found]
        exact get
      · rw [text, List.append_assoc, List.singleton_append]

/-- A file of the tree is visited under the names that lead to it, unless the walk fails. -/
theorem mem_ofNode_of_get? (nonempty : root ≠ []) (front : List Bytes) (legal : n.Legal)
    (plain : ∀ m ∈ front, Path.Plain m) {rel : List Bytes}
    (clean : Clean (ofNode root (front.foldl Path.join root) n))
    (h : n.get? rel = some (.file content a)) :
    ∃ s, .file s content a ∈ ofNode root (front.foldl Path.join root) n ∧
      utf8 s = Path.joined (front ++ rel) := by
  induction rel generalizing n front with
  | nil =>
    rw [Node.get?_nil] at h
    cases h
    rw [ofNode] at clean ⊢
    split
    next e relative => exact absurd (by rw [relative]; simp) (clean e)
    next s relative =>
      split
      · refine ⟨s, by simp, ?_⟩
        rw [List.append_nil]
        exact relativeArchivePath_eq_ok nonempty plain relative
      next unreadable => exact absurd (by simp [relative, unreadable]) (clean (.file .permission))
  | cons name rel ih =>
    obtain ⟨r, cs, child, rfl, found, below⟩ := Node.exists_directory_of_get?_cons h
    have member := mem_of_lookup found
    obtain ⟨-, name_legal, child_legal⟩ := legal.of_mem member
    obtain ⟨s, shape⟩ := ofNode_directory_of_clean clean
    have inside {step : WalkStep}
        (h : step ∈ ofNode root ((front ++ [name]).foldl Path.join root) child) :
        step ∈ ofNode root (front.foldl Path.join root) (.directory r cs) := by
      rw [← join_foldl_join] at h
      rw [shape]
      exact List.mem_cons_of_mem _ (mem_inOrder_ofChildren.2 ⟨_, member, h⟩)
    have plain' := plain_concat plain name_legal.toPlain
    obtain ⟨text, mem, same⟩ :=
      ih (front ++ [name]) child_legal plain' (fun e mem => clean e (inside mem)) below
    refine ⟨text, inside mem, ?_⟩
    rw [same, List.append_assoc, List.singleton_append]

/-- A walk from a directory visits what is visited at its node, apart from the directory itself. -/
theorem ofNode_eq_cons_ofSource {fs : FileSystem} {source : Path} {place : List Bytes} {r : Bool}
    (h : fs.resolve source = .ok (place, .directory r cs)) :
    ofNode source source (.directory r cs) = .directory "" :: ofSource fs source := by
  have own : relativeArchivePath source source = .ok "" := by
    have below : Path.below? source source = some [] := by simp [Path.below?]
    simp only [relativeArchivePath, below]
    rfl
  rw [ofNode, own, ofSource, h]

/-- A walk that does not fail visits the files of the tree it starts at, and no others. -/
theorem file_mem_ofSource {fs : FileSystem} {source : Path} {place : List Bytes} {tree : Node}
    (resolved : fs.resolve source = .ok (place, tree)) (directory : tree.isDirectory = true)
    (legal : tree.Legal) (clean : Clean (ofSource fs source)) :
    (∀ s content a, .file s content a ∈ ofSource fs source →
      ∃ rel, tree.get? rel = some (.file content a) ∧ utf8 s = Path.joined rel) ∧
    ∀ rel content a, tree.get? rel = some (.file content a) →
      ∃ s, .file s content a ∈ ofSource fs source ∧ utf8 s = Path.joined rel := by
  obtain ⟨nonempty, -⟩ := FileSystem.leads_of_resolve resolved
  cases tree with
  | directory r cs =>
    have whole := ofNode_eq_cons_ofSource resolved
    constructor
    · intro s content a h
      have mem : .file s content a ∈ ofNode source source (.directory r cs) := by
        rw [whole]
        exact List.mem_cons_of_mem _ h
      exact get?_of_mem_ofNode nonempty [] legal (by simp) mem
    · intro rel content a get
      have clean' : Clean (ofNode source source (.directory r cs)) := by
        intro e mem
        rw [whole] at mem
        rcases List.mem_cons.1 mem with same | mem
        · cases same
        · exact clean e mem
      obtain ⟨s, mem, text⟩ := mem_ofNode_of_get? nonempty [] legal (by simp) clean' get
      rw [List.foldl_nil, whole] at mem
      rcases List.mem_cons.1 mem with same | mem
      · cases same
      · exact ⟨s, mem, text⟩
  | file content a => simp [Node.isDirectory] at directory
  | link target => simp [Node.isDirectory] at directory
  | special => simp [Node.isDirectory] at directory

end WalkStep

end Northbound
