import Northbound.Proofs.Archive.CleanWalk
import Northbound.Proofs.Archive.NodeOrder
import Northbound.Proofs.Archive.StreamLayout

/-!
# The course of a walk

A walk from a directory passes the nodes below it in pre-order, archives the files among them and
tells of each node, until none is left or one of them ends it. What ends it is decided by the first
node that cannot be passed: by its name, then by what it is, then by whether it can be read, and at
last by the answer of whoever is told. Main statement: what comes of a walk from a directory is what
its course says, and nothing else.
-/

namespace Northbound

namespace TreeNode

variable {σ : Type}

/-- The path of a node below the directory at which a walk starts. -/
def path (source : Path) (n : TreeNode) : Path := n.names.foldl Path.join source

/-- The names that lead to a node, joined by slashes. -/
def relative (n : TreeNode) : String := String.intercalate "/" (n.names.map Text.lossy)

/-- What is told of a node: the content of a file, or that it is a directory. -/
def visit (n : TreeNode) : Visit :=
  match n.node with
  | .file content _ => .file content
  | _ => .directory

/-- What is archived of a node below a base directory. Only files are archived. -/
def archived? (base : String) (n : TreeNode) : Option ArchivedFile :=
  match n.node with
  | .file content a =>
    some { path := joinArchivePath base n.relative, header := TarballWriter.fileHeader a, content,
           mode := TarballWriter.regularFileBits + a.mode }
  | _ => none

/-- The entry of a file below a base directory: its path there, and its content. -/
def entryFor? (base : String) (n : TreeNode) : Option (String × Bytes) :=
  match n.node with
  | .file content _ => some (joinArchivePath base n.relative, content)
  | _ => none

/-- Tells of nodes one after the other, up to the first answer that refuses to go on. -/
def tellAll (onVisit : OnVisit σ) : List TreeNode → σ → Except ArchiveError Unit × σ
  | [], s => (.ok (), s)
  | n :: nodes, s =>
    match onVisit n.relative n.visit s with
    | (.error e, s) => (.error e, s)
    | (.ok (), s) => tellAll onVisit nodes s

/-- Whether all names that lead to a node are texts. -/
def Named (n : TreeNode) : Prop := ∀ name ∈ n.names, IsText name

/-- What is told of: a directory, or a file that can be read. -/
inductive Visited : Node → Prop where
  | file {content : Bytes} {a : FileAttributes} (readable : a.readable = true) :
      Visited (.file content a)
  | directory {r : Bool} {cs : List (Bytes × Node)} : Visited (.directory r cs)

end TreeNode

variable {σ : Type}

/-- How a walk ends at the nodes that are left of it: which of them are told of nevertheless, what
comes of the walk, and what is kept by whoever is told. -/
inductive WalkEnd (onVisit : OnVisit σ) (source : Path) :
    List TreeNode → σ → List TreeNode → Except ArchiveError Unit → σ → Prop where
  /-- No node is left. -/
  | finished {s : σ} : WalkEnd onVisit source [] s [] (.ok ()) s
  /-- The name of a node is no text, whatever the node is. -/
  | unnamed {n : TreeNode} {rest : List TreeNode} {front : List Bytes} {name : Bytes} {s : σ}
      (names : n.names = front ++ [name]) (above : ∀ m ∈ front, IsText m)
      (unnamed : ¬IsText name) :
      WalkEnd onVisit source (n :: rest) s [] (.error (.invalidPath (n.path source))) s
  /-- A node is neither a file nor a directory. -/
  | unsupported {n : TreeNode} {rest : List TreeNode} {s : σ} (named : n.Named)
      (file : n.node.isFile = false) (directory : n.node.isDirectory = false) :
      WalkEnd onVisit source (n :: rest) s [] (.error (.unsupportedEntry (n.path source))) s
  /-- A file cannot be read. -/
  | unreadable {n : TreeNode} {rest : List TreeNode} {content : Bytes} {a : FileAttributes} {s : σ}
      (named : n.Named) (node : n.node = .file content a) (unreadable : a.readable = false) :
      WalkEnd onVisit source (n :: rest) s [] (.error (.file .permission)) s
  /-- Whoever is told of a node refuses to go on. -/
  | refused {n : TreeNode} {rest : List TreeNode} {e : ArchiveError} {s s' : σ} (named : n.Named)
      (visited : TreeNode.Visited n.node)
      (refused : onVisit n.relative n.visit s = (.error e, s')) :
      WalkEnd onVisit source (n :: rest) s [n] (.error e) s'
  /-- A directory is told of, and then cannot be listed. -/
  | unlisted {n : TreeNode} {rest : List TreeNode} {cs : List (Bytes × Node)} {s s' : σ}
      (named : n.Named) (node : n.node = .directory false cs)
      (accepted : onVisit n.relative n.visit s = (.ok (), s')) :
      WalkEnd onVisit source (n :: rest) s [n] (.error (.walk (n.path source) .permission)) s'

/-- A walk over nodes: those that it passes are told of, and how it ends at the others. -/
inductive Passage (onVisit : OnVisit σ) (source : Path) (nodes : List TreeNode) (s : σ) :
    List TreeNode → Except ArchiveError Unit → σ → Prop where
  | mk {passed rest last : List TreeNode} {result : Except ArchiveError Unit} {s₁ s₂ : σ}
      (parts : nodes = passed ++ rest)
      (passable : ∀ n ∈ passed, n.Named ∧ n.node.isReadable = true ∧ TreeNode.Visited n.node)
      (accepted : TreeNode.tellAll onVisit passed s = (.ok (), s₁))
      (ends : WalkEnd onVisit source rest s₁ last result s₂) :
      Passage onVisit source nodes s (passed ++ last) result s₂

namespace TarballWriter

/-- A writer to which the files among some nodes were appended. -/
def extended (w : TarballWriter) (nodes : List TreeNode) : TarballWriter :=
  { w with blocks := w.blocks ++ (nodes.filterMap (·.archived? w.base)).flatMap ArchivedFile.bytes }

/-- The entries of the files among some nodes, in their order. -/
def entries (w : TarballWriter) (nodes : List TreeNode) : List (String × Bytes) :=
  nodes.filterMap (·.entryFor? w.base)

/-- A writer becomes another one when the files among some nodes are appended. What is added to the
archive are their entries, whatever is appended behind them. -/
structure Appends (w : TarballWriter) (nodes : List TreeNode) (w' : TarballWriter) : Prop where
  extended : w' = w.extended nodes
  front : (∀ e ∈ w.entries nodes, Tarball.Holdable e) →
    ∃ added, w'.blocks = w.blocks ++ added ∧ Tar.Front (w.entries nodes) added

end TarballWriter

/-- The course of a walk from a directory: it cannot be listed, or the nodes below it are walked
over in pre-order, and the files among those that are told of are appended. -/
inductive WalkCourse (onVisit : OnVisit σ) (source : Path) (w : TarballWriter) (s : σ) :
    Node → Except ArchiveError Unit × TarballWriter × σ → Prop where
  | unlisted {cs : List (Bytes × Node)} : WalkCourse onVisit source w s (.directory false cs)
      (.error (.walk source .permission), w, s)
  | listed {cs : List (Bytes × Node)} {nodes told : List TreeNode} {w' : TarballWriter}
      {result : Except ArchiveError Unit} {s' : σ} (order : InPreorder (.directory true cs) nodes)
      (passage : Passage onVisit source nodes s told result s') (appends : w.Appends told w') :
      WalkCourse onVisit source w s (.directory true cs) (result, w', s')

variable {onVisit : OnVisit σ} {source : Path}

namespace TarballWriter

variable {w : TarballWriter} {s : σ}

@[simp] theorem extended_nil (w : TarballWriter) : w.extended [] = w := by simp [extended]

theorem extended_append (w : TarballWriter) (xs ys : List TreeNode) :
    (w.extended xs).extended ys = w.extended (xs ++ ys) := by
  simp [extended]

/-- What comes after some steps is done once they were done without a failure. -/
theorem addSteps_append (xs ys : List WalkStep) (w : TarballWriter) (s : σ) :
    addSteps onVisit (xs ++ ys) w s =
      match addSteps onVisit xs w s with
      | (.error e, w, s) => (.error e, w, s)
      | (.ok (), w, s) => addSteps onVisit ys w s := by
  induction xs generalizing w s with
  | nil => rfl
  | cons x xs ih =>
      cases x with
      | failure e => rfl
      | directory relative =>
          simp only [List.cons_append, addSteps]
          split
          · rfl
          · exact ih w _
      | file relative content a =>
          simp only [List.cons_append, addSteps]
          split
          · rfl
          · split
            · rfl
            · exact ih _ _

end TarballWriter

/-- Steps that come to the same. -/
def SameSteps (onVisit : OnVisit σ) (xs ys : List WalkStep) : Prop :=
  ∀ w s, TarballWriter.addSteps onVisit xs w s = TarballWriter.addSteps onVisit ys w s

namespace SameSteps

open TarballWriter

theorem append {xs xs' ys ys' : List WalkStep} (first : SameSteps onVisit xs xs')
    (second : SameSteps onVisit ys ys') : SameSteps onVisit (xs ++ ys) (xs' ++ ys') := by
  intro w s
  rw [addSteps_append, addSteps_append, first w s]
  split
  · rfl
  · exact second _ _

theorem flatMap {α : Type} {l : List α} {f g : α → List WalkStep}
    (each : ∀ x ∈ l, SameSteps onVisit (f x) (g x)) :
    SameSteps onVisit (l.flatMap f) (l.flatMap g) := by
  induction l with
  | nil => exact fun w s => rfl
  | cons x l ih =>
      rw [List.forall_mem_cons] at each
      rw [List.flatMap_cons, List.flatMap_cons]
      exact append each.1 (ih each.2)

end SameSteps

namespace TreeNode

open TarballWriter WalkStep

variable {n : TreeNode} {w : TarballWriter} {s : σ}

/-- The steps at a node without those below it. -/
def steps (source : Path) (n : TreeNode) : List WalkStep :=
  match n.node with
  | .directory r _ => ofNode source (n.path source) (.directory r [])
  | node => ofNode source (n.path source) node

theorem steps_of_directory {r : Bool} {cs : List (Bytes × Node)} (node : n.node = .directory r cs)
    {relative : String} (found : relativeArchivePath source (n.path source) = .ok relative) :
    n.steps source = .directory relative ::
      if r then [] else [.failure (.walk (n.path source) .permission)] := by
  have hnone : inOrder (ofChildren source (n.path source) []) = [] := by simp [inOrder, ofChildren]
  simp only [steps, node, ofNode, found, hnone]

/-- A node whose path is refused is not looked at. -/
theorem steps_of_refused {e : ArchiveError}
    (refused : relativeArchivePath source (n.path source) = .error e) :
    n.steps source = [.failure e] := by
  rw [steps]
  cases n.node <;> simp [ofNode, unsupported, refused]

/-- The steps below a directory are those at each of the nodes there, if this is so below each
child. -/
theorem sameSteps_inOrder (front : List Bytes) {r : Bool} {cs : List (Bytes × Node)}
    (each : ∀ c ∈ cs, SameSteps onVisit
      (ofNode source ((front ++ [c.1]).foldl Path.join source) c.2)
      ((Node.preorderAt front c).flatMap (steps source))) :
    SameSteps onVisit (inOrder (ofChildren source (front.foldl Path.join source) cs))
      (((Node.directory r cs).preorder front).flatMap (steps source)) := by
  rw [inOrder_ofChildren, Node.preorder_directory, List.flatMap_assoc]
  apply SameSteps.flatMap
  intro c hc
  rw [join_foldl_join]
  exact each c (Node.mem_sortedChildren.1 hc)

/-- The steps at a node and below it are those at each of the nodes there, in pre-order. -/
theorem sameSteps_ofNode (onVisit : OnVisit σ) (source : Path) (front : List Bytes) (n : Node) :
    SameSteps onVisit (ofNode source (front.foldl Path.join source) n)
      ((⟨front, n⟩ :: n.preorder front : List TreeNode).flatMap (steps source)) := by
  induction n using Node.inductionOn generalizing front with
  | file content a =>
      rw [Node.preorder_leaf rfl, List.flatMap_singleton]
      exact fun w s => rfl
  | link target =>
      rw [Node.preorder_leaf rfl, List.flatMap_singleton]
      exact fun w s => rfl
  | special =>
      rw [Node.preorder_leaf rfl, List.flatMap_singleton]
      exact fun w s => rfl
  | directory r cs ih =>
      rw [List.flatMap_cons]
      rcases hpath : relativeArchivePath source (front.foldl Path.join source) with e | relative
      · -- What is below is not reached, neither here nor there.
        rw [steps_of_refused hpath, ofNode, hpath]
        exact fun w s => rfl
      · rw [steps_of_directory rfl hpath, ofNode, hpath]
        cases r with
        | true =>
            have hhere : SameSteps onVisit [directory relative] [directory relative] :=
              fun w s => rfl
            have hbelow := @sameSteps_inOrder _ onVisit source front true cs
              fun c hc => ih c hc (front ++ [c.1])
            simpa using hhere.append hbelow
        | false =>
            intro w s
            simp only [addSteps, List.cons_append, Bool.false_eq_true, if_false, path]

/-- A path of names of which one is no text is refused. -/
theorem relativeArchivePath_of_not_named (nonempty : source ≠ [])
    (plain : ∀ m ∈ n.names, Path.Plain m) (unnamed : ¬n.Named) :
    relativeArchivePath source (n.path source) = .error (.invalidPath (n.path source)) := by
  cases hpath : relativeArchivePath source (n.path source) with
  | error e => rw [eq_invalidPath_of_relativeArchivePath hpath]
  | ok relative =>
      exact absurd ((exists_relativeArchivePath_iff nonempty plain).1 ⟨relative, hpath⟩) unnamed

theorem append_of_file {content : Bytes} {a : FileAttributes} (unlimited : w.capacity? = none)
    (node : n.node = .file content a) :
    w.append n.relative (fileHeader a) content = .ok (w.extended [n]) := by
  rw [ArchivedFile.append_of_unlimited unlimited _ _ _ (regularFileBits + a.mode)]
  simp [extended, archived?, node]

theorem extended_of_directory {r : Bool} {cs : List (Bytes × Node)}
    (node : n.node = .directory r cs) :
    w.extended [n] = w := by
  simp [extended, archived?, node]

section Equations

variable (hpath : relativeArchivePath source (n.path source) = .ok n.relative)

include hpath

theorem steps_of_file {content : Bytes} {a : FileAttributes} (node : n.node = .file content a) :
    n.steps source =
      if a.readable then [.file n.relative content a] else [.failure (.file .permission)] := by
  simp only [steps, node, ofNode, hpath]

theorem steps_of_other (file : n.node.isFile = false) (directory : n.node.isDirectory = false) :
    n.steps source = [.failure (.unsupportedEntry (n.path source))] := by
  rw [steps]
  cases hnode : n.node with
  | file content a =>
      rw [hnode] at file
      cases file
  | directory r cs =>
      rw [hnode] at directory
      cases directory
  | link target => simp only [ofNode, unsupported, hpath]
  | special => simp only [ofNode, unsupported, hpath]

/-- A node that is told of is archived first if it is a file, and left at once if it is a directory
that cannot be listed. -/
theorem addSteps_visited (unlimited : w.capacity? = none) (visited : Visited n.node)
    (more : List WalkStep) (s : σ) :
    addSteps onVisit (n.steps source ++ more) w s =
      match onVisit n.relative n.visit s with
      | (.error e, s) => (.error e, w.extended [n], s)
      | (.ok (), s) =>
        if n.node.isReadable then addSteps onVisit more (w.extended [n]) s
        else (.error (.walk (n.path source) .permission), w.extended [n], s) := by
  cases hnode : n.node with
  | file content a =>
      rw [hnode] at visited
      have hreadable : a.readable = true := by
        cases visited with
        | file readable => exact readable
      have hvisit : n.visit = .file content := by rw [visit, hnode]
      rw [steps_of_file hpath hnode, if_pos hreadable, List.singleton_append, addSteps,
        append_of_file unlimited hnode, hvisit]
      rcases onVisit n.relative (.file content) s with ⟨e | ⟨⟩, s'⟩
      · rfl
      · exact (if_pos hreadable).symm
  | directory r cs =>
      have hvisit : n.visit = .directory := by rw [visit, hnode]
      rw [steps_of_directory hnode hpath, List.cons_append, addSteps, extended_of_directory hnode,
        hvisit]
      cases r <;> rfl
  | link target =>
      rw [hnode] at visited
      cases visited
  | special =>
      rw [hnode] at visited
      cases visited

end Equations

theorem tellAll_cons_eq_ok {nodes : List TreeNode} {s₁ : σ}
    (accepted : tellAll onVisit (n :: nodes) s = (.ok (), s₁)) :
    ∃ s', onVisit n.relative n.visit s = (.ok (), s') ∧
      tellAll onVisit nodes s' = (.ok (), s₁) := by
  rw [tellAll] at accepted
  split at accepted
  · cases accepted
  next s' told => exact ⟨s', told, accepted⟩

theorem Visited.eq_directory {node : Node} (visited : Visited node)
    (unreadable : node.isReadable = false) : ∃ cs, node = .directory false cs := by
  cases visited with
  | file readable =>
      rw [Node.isReadable, readable] at unreadable
      cases unreadable
  | @directory r cs =>
      obtain rfl : r = false := unreadable
      exact ⟨cs, rfl⟩

/-- A node to which texts lead is told of, or ends the walk in silence. -/
theorem visited_or_ends (named : n.Named) (onVisit : OnVisit σ) (source : Path) :
    Visited n.node ∨ ∃ result, ∀ rest s, WalkEnd onVisit source (n :: rest) s [] result s := by
  cases hnode : n.node with
  | file content a =>
      cases hreadable : a.readable with
      | false => exact Or.inr ⟨_, fun rest s => .unreadable named hnode hreadable⟩
      | true => exact Or.inl (.file hreadable)
  | directory r cs => exact Or.inl .directory
  | link target =>
      exact Or.inr ⟨_, fun rest s => .unsupported named (by rw [hnode]; rfl) (by rw [hnode]; rfl)⟩
  | special =>
      exact Or.inr ⟨_, fun rest s => .unsupported named (by rw [hnode]; rfl) (by rw [hnode]; rfl)⟩

end TreeNode

open TarballWriter TreeNode

variable {w : TarballWriter} {s s' : σ} {n : TreeNode} {nodes rest told : List TreeNode}
  {result : Except ArchiveError Unit} {outcome : Except ArchiveError Unit × TarballWriter × σ}

/-- The nodes that are told of where a walk ends are among those that are left. -/
theorem WalkEnd.subset (ends : WalkEnd onVisit source nodes s told result s') : told ⊆ nodes := by
  cases ends with
  | refused named visited refused => exact List.cons_subset_cons _ (List.nil_subset _)
  | unlisted named node accepted => exact List.cons_subset_cons _ (List.nil_subset _)
  | _ => exact List.nil_subset _

/-- What is done at the nodes where a walk ends. -/
theorem WalkEnd.addSteps_eq (nonempty : source ≠ []) (unlimited : w.capacity? = none)
    (plain : ∀ n ∈ nodes, ∀ m ∈ n.names, Path.Plain m)
    (ends : WalkEnd onVisit source nodes s told result s') :
    addSteps onVisit (nodes.flatMap (steps source)) w s = (result, w.extended told, s') := by
  have hpath {n : TreeNode} (hn : n ∈ nodes) (named : n.Named) :
      relativeArchivePath source (n.path source) = .ok n.relative :=
    relativeArchivePath_of_texts nonempty (plain n hn) named
  cases ends with
  | finished => simp [addSteps]
  | @unnamed n rest front name _ names above unnamed =>
      have hunnamed : ¬n.Named := by
        intro hnamed
        exact unnamed (hnamed name (by simp [names]))
      rw [List.flatMap_cons, extended_nil,
        steps_of_refused (relativeArchivePath_of_not_named nonempty (plain n (by simp)) hunnamed)]
      rfl
  | unsupported named file directory =>
      rw [List.flatMap_cons, extended_nil, steps_of_other (hpath (by simp) named) file directory]
      rfl
  | unreadable named node unreadable =>
      rw [List.flatMap_cons, extended_nil, steps_of_file (hpath (by simp) named) node, unreadable]
      rfl
  | refused named visited refused =>
      rw [List.flatMap_cons, addSteps_visited (hpath (by simp) named) unlimited visited, refused]
  | @unlisted n rest cs _ _ named node accepted =>
      have hvisited : Visited n.node := by
        rw [node]
        exact .directory
      rw [List.flatMap_cons, addSteps_visited (hpath (by simp) named) unlimited hvisited, accepted,
        node]
      rfl

namespace Passage

/-- A walk that ends at its first node passes none. -/
theorem of_end (ends : WalkEnd onVisit source nodes s told result s') :
    Passage onVisit source nodes s told result s' := by
  have hparts : nodes = [] ++ nodes := rfl
  exact .mk hparts (by simp) rfl ends

/-- A node that is passed comes before a walk over the others. -/
theorem cons {s₂ : σ} (named : n.Named) (readable : n.node.isReadable = true)
    (visited : Visited n.node) (accepted : onVisit n.relative n.visit s = (.ok (), s'))
    (passage : Passage onVisit source rest s' told result s₂) :
    Passage onVisit source (n :: rest) s (n :: told) result s₂ := by
  obtain @⟨passed, left, last, _, s₁, _, hparts, hpassable, haccepted, hends⟩ := passage
  have hwhole : n :: rest = (n :: passed) ++ left := by rw [hparts, List.cons_append]
  refine .mk hwhole ?_ ?_ hends
  · exact List.forall_mem_cons.2 ⟨⟨named, readable, visited⟩, hpassable⟩
  · rw [tellAll, accepted]
    exact haccepted

/-- The nodes that are told of are among those that are walked over. -/
theorem subset (passage : Passage onVisit source nodes s told result s') : told ⊆ nodes := by
  obtain @⟨passed, rest, last, _, _, _, rfl, -, -, hends⟩ := passage
  refine List.append_subset.2 ⟨List.subset_append_left passed rest, ?_⟩
  exact List.Subset.trans hends.subset (List.subset_append_right passed rest)

/-- What is done at nodes is what their passage says. The induction is on the nodes that are
passed. -/
theorem addSteps_eq (nonempty : source ≠ []) (unlimited : w.capacity? = none)
    (plain : ∀ n ∈ nodes, ∀ m ∈ n.names, Path.Plain m)
    (passage : Passage onVisit source nodes s told result s') :
    addSteps onVisit (nodes.flatMap (steps source)) w s = (result, w.extended told, s') := by
  obtain @⟨passed, rest, last, _, s₁, _, rfl, hpassable, haccepted, hends⟩ := passage
  induction passed generalizing w s with
  | nil =>
      cases haccepted
      exact hends.addSteps_eq nonempty unlimited plain
  | cons n passed ih =>
      obtain ⟨⟨hnamed, hreadable, hvisited⟩, hothers⟩ := List.forall_mem_cons.1 hpassable
      obtain ⟨s₂, htold, hlater⟩ := tellAll_cons_eq_ok haccepted
      have hpath := relativeArchivePath_of_texts nonempty (plain n (by simp)) hnamed
      have hplain : ∀ m ∈ passed ++ rest, ∀ name ∈ m.names, Path.Plain name := by
        intro m hm
        exact plain m (List.mem_cons_of_mem n hm)
      have hrest : addSteps onVisit ((passed ++ rest).flatMap (steps source)) (w.extended [n]) s₂ =
          (result, (w.extended [n]).extended (passed ++ last), s') :=
        ih unlimited hothers hlater hplain
      rw [List.cons_append, List.flatMap_cons, addSteps_visited hpath unlimited hvisited, htold]
      simp only [if_pos hreadable]
      rw [hrest, extended_append]
      rfl

end Passage

/-- A node whose names are not all texts, behind nodes whose names are, has a last name that is
none. -/
theorem InPreorder.last_unnamed {tree : Node} {before : List TreeNode}
    (order : InPreorder tree (before ++ n :: rest)) (named : ∀ m ∈ before, m.Named)
    (unnamed : ¬n.Named) :
    ∃ front name, n.names = front ++ [name] ∧ (∀ m ∈ front, IsText m) ∧ ¬IsText name := by
  obtain ⟨hfurther, -⟩ := (order.mem_iff n).1 (by simp)
  obtain hnone | ⟨front, name, hnames⟩ := List.eq_nil_or_concat n.names
  · exact absurd hnone hfurther
  rw [List.concat_eq_append] at hnames
  have hfront : ∀ m ∈ front, IsText m := by
    by_cases htop : front = []
    · simp [htop]
    · obtain ⟨m, hm, hparent⟩ := order.directory_before htop hnames
      rw [← hparent]
      exact named m hm
  refine ⟨front, name, hnames, hfront, ?_⟩
  intro htext
  apply unnamed
  rw [Named, hnames]
  exact List.forall_mem_append.2 ⟨hfront, by simpa using htext⟩

/-- Nodes that are left of a tree, behind nodes to which texts lead, have a passage. The induction
is on what is left. -/
theorem exists_passage {tree : Node} {before : List TreeNode}
    (order : InPreorder tree (before ++ rest)) (named : ∀ n ∈ before, n.Named)
    (onVisit : OnVisit σ) (source : Path) (s : σ) :
    ∃ told result s', Passage onVisit source rest s told result s' := by
  induction rest generalizing before s with
  | nil => exact ⟨_, _, _, .of_end .finished⟩
  | cons n rest ih =>
      by_cases hnamed : n.Named
      · rcases visited_or_ends hnamed onVisit source with hvisited | ⟨result, hends⟩
        · rcases htold : onVisit n.relative n.visit s with ⟨e | ⟨⟩, s'⟩
          · exact ⟨_, _, _, .of_end (.refused hnamed hvisited htold)⟩
          · cases hreadable : n.node.isReadable with
            | false =>
                obtain ⟨cs, hnode⟩ := hvisited.eq_directory hreadable
                exact ⟨_, _, _, .of_end (.unlisted hnamed hnode htold)⟩
            | true =>
                have horder : InPreorder tree ((before ++ [n]) ++ rest) := by simpa using order
                have hall : ∀ m ∈ before ++ [n], m.Named :=
                  List.forall_mem_append.2 ⟨named, by simpa using hnamed⟩
                obtain ⟨told, result, s₂, hpassage⟩ := ih horder hall s'
                exact ⟨_, _, _, .cons hnamed hreadable hvisited htold hpassage⟩
        · exact ⟨_, _, _, .of_end (hends rest s)⟩
      · obtain ⟨front, name, hnames, habove, hunnamed⟩ := order.last_unnamed named hnamed
        exact ⟨_, _, _, .of_end (.unnamed hnames habove hunnamed)⟩

namespace TarballWriter

/-- The entries of nodes are those of the files that are archived. -/
theorem entries_eq (w : TarballWriter) (nodes : List TreeNode) :
    w.entries nodes = (nodes.filterMap (·.archived? w.base)).map ArchivedFile.entry := by
  rw [entries, List.map_filterMap]
  apply List.filterMap_congr
  intro n _
  cases hnode : n.node <;> simp [entryFor?, archived?, hnode, ArchivedFile.entry]

/-- Nodes of a tree are appended as the entries of their files. -/
theorem appends_extended {tree : Node} (legal : tree.Legal)
    (inside : ∀ n ∈ nodes, tree.get? n.names = some n.node) (w : TarballWriter) :
    w.Appends nodes (w.extended nodes) where
  extended := rfl
  front := by
    intro holdable
    rw [entries_eq] at holdable ⊢
    refine ⟨_, rfl, ArchivedFile.front_flatMap_bytes ?_ holdable⟩
    intro f hf
    obtain ⟨n, hn, harchived⟩ := List.mem_filterMap.1 hf
    cases hnode : n.node with
    | file content a =>
        have hmode := legal.modes n.names content a (by rw [inside n hn, hnode])
        simp only [archived?, hnode, Option.some.injEq] at harchived
        rw [← harchived]
        exact ArchivedFile.fitting_fileHeader hmode
    | directory r cs => simp [archived?, hnode] at harchived
    | link target => simp [archived?, hnode] at harchived
    | special => simp [archived?, hnode] at harchived

end TarballWriter

section Course

variable {fs : FileSystem} {place : List Bytes} {tree : Node}

/-- What is done on a walk from a directory is what its course says. -/
theorem WalkCourse.addTree_eq (resolved : fs.resolve source = .ok (place, tree))
    (legal : tree.Legal) (unlimited : w.capacity? = none)
    (course : WalkCourse onVisit source w s tree outcome) :
    w.addTree fs source onVisit s = outcome := by
  obtain ⟨hnonempty, -⟩ := FileSystem.leads_of_resolve resolved
  rw [addTree, WalkStep.ofSource, resolved]
  cases course with
  | unlisted => rfl
  | @listed cs nodes told _ result s' order passage appends =>
      have hplain : ∀ n ∈ nodes, ∀ m ∈ n.names, Path.Plain m := by
        intro n hn m hm
        obtain ⟨-, hget⟩ := (order.mem_iff n).1 hn
        exact (legal.legalName hget m hm).toPlain
      have hsteps := @sameSteps_inOrder _ onVisit source [] true cs
        fun c hc => sameSteps_ofNode onVisit source [c.1] c.2
      rw [← order.unique (Node.inPreorder_preorder legal)] at hsteps
      rw [appends.extended]
      exact (hsteps w s).trans (passage.addSteps_eq hnonempty unlimited hplain)

/-- Every walk from a directory has a course. -/
theorem exists_walkCourse (directory : tree.isDirectory = true) (legal : tree.Legal)
    (onVisit : OnVisit σ) (source : Path) (w : TarballWriter) (s : σ) :
    ∃ outcome, WalkCourse onVisit source w s tree outcome := by
  cases tree with
  | directory r cs =>
      cases r with
      | false => exact ⟨_, .unlisted⟩
      | true =>
          have horder : InPreorder _ ([] ++ _) := Node.inPreorder_preorder legal
          obtain ⟨told, result, s', hpassage⟩ := exists_passage horder (by simp) onVisit source s
          refine ⟨_, .listed horder hpassage (appends_extended legal ?_ w)⟩
          intro n hn
          exact ((horder.mem_iff n).1 (hpassage.subset hn)).2
  | file content a => cases directory
  | link target => cases directory
  | special => cases directory

/-- What comes of a walk from a directory is what its course says and nothing else: the nodes below
the directory are passed in pre-order, siblings by the byte order of their names, the files among
them are archived, each an entry with its path and its content, each node is told of, and the first
that cannot be passed ends the walk. -/
theorem TarballWriter.addTree_eq_iff (resolved : fs.resolve source = .ok (place, tree))
    (directory : tree.isDirectory = true) (legal : tree.Legal) (onVisit : OnVisit σ)
    (w : TarballWriter) (unlimited : w.capacity? = none) (s : σ)
    (outcome : Except ArchiveError Unit × TarballWriter × σ) :
    w.addTree fs source onVisit s = outcome ↔ WalkCourse onVisit source w s tree outcome := by
  obtain ⟨taken, hcourse⟩ := exists_walkCourse directory legal onVisit source w s
  have htaken := hcourse.addTree_eq resolved legal unlimited
  rw [htaken]
  constructor
  · rintro rfl
    exact hcourse
  · intro hother
    exact htaken.symm.trans (hother.addTree_eq resolved legal unlimited)

end Course

/-- A tree with a link between a directory and a file. -/
def haltingTree : Node :=
  .directory true
    [(utf8 "a", .directory true [(utf8 "x", .file [1] {})]), (utf8 "b", .link (utf8 "/")),
      (utf8 "c", .file [2] {})]

/-- A file system with that tree in a directory. -/
def haltingSample : FileSystem := { root := .directory true [(utf8 "d", haltingTree)] }

theorem legal_haltingTree : haltingTree.Legal := by
  have hfile (content : Bytes) : (Node.file content {}).Legal := Node.legal_file (by decide)
  have hinner : (Node.directory true [(utf8 "x", .file [1] {})]).Legal := by
    apply Node.legal_directory (by decide) (by decide)
    simpa using hfile [1]
  apply Node.legal_directory (by decide) (by decide)
  simpa using ⟨hinner, Node.legal_link _, hfile [2]⟩

/-- The nodes of that tree that are passed. -/
def haltingPassed : List TreeNode :=
  [⟨[utf8 "a"], .directory true [(utf8 "x", .file [1] {})]⟩, ⟨[utf8 "a", utf8 "x"], .file [1] {}⟩]

theorem inPreorder_haltingTree : InPreorder haltingTree (haltingPassed ++
    [⟨[utf8 "b"], .link (utf8 "/")⟩, ⟨[utf8 "c"], .file [2] {}⟩]) := by
  have hsorted : Node.sortedChildren haltingTree.children = haltingTree.children :=
    List.mergeSort_of_pairwise (by simp [haltingTree, Node.children]; decide)
  have hpreorder : haltingTree.preorder [] = haltingPassed ++
      [⟨[utf8 "b"], .link (utf8 "/")⟩, ⟨[utf8 "c"], .file [2] {}⟩] := by
    have hinner :
        Node.sortedChildren [(utf8 "x", Node.file [1] {})] = [(utf8 "x", Node.file [1] {})] :=
      List.mergeSort_singleton _
    have hfile (content : Bytes) (front : List Bytes) :
        (Node.file content {}).preorder front = [] :=
      Node.preorder_leaf rfl
    have hlink (front : List Bytes) : (Node.link (utf8 "/")).preorder front = [] :=
      Node.preorder_leaf rfl
    simp only [haltingTree, Node.children] at hsorted
    rw [haltingTree, Node.preorder_directory, hsorted]
    simp [Node.preorderAt, Node.preorder_directory, hinner, hfile, hlink, haltingPassed]
  rw [← hpreorder]
  exact Node.inPreorder_preorder legal_haltingTree

/-- The writer that archives below the name of that directory. -/
def haltingWriter : TarballWriter := { base := "d" }

theorem appends_haltingPassed :
    haltingWriter.Appends haltingPassed (haltingWriter.extended haltingPassed) := by
  apply appends_extended legal_haltingTree
  intro n hn
  exact ((inPreorder_haltingTree.mem_iff n).1 (List.mem_append_left _ hn)).2

/-- The file in the directory is the only entry among them. -/
theorem layout_haltingPassed :
    Tar.Layout [("d/a/x", [1])] (haltingWriter.extended haltingPassed).tarStream := by
  have hentries : haltingWriter.entries haltingPassed = [("d/a/x", [1])] := by
    simp [TarballWriter.entries, haltingWriter, haltingPassed, entryFor?, relative, lossy_utf8,
      joinArchivePath]
  have hholdable : ∀ e ∈ haltingWriter.entries haltingPassed, Tarball.Holdable e := by
    rw [hentries, List.forall_mem_singleton]
    exact ⟨by decide, by decide⟩
  obtain ⟨added, hblocks, hfront⟩ := appends_haltingPassed.front hholdable
  rw [tarStream, hblocks, ← hentries]
  exact hfront.layout

/-- A walk over that tree ends at the link, and of the files only the one in the directory is
archived. The one who is told keeps all. -/
theorem TarballWriter.addTree_haltingTree :
    haltingSample.resolve (utf8 "/d") = .ok ([utf8 "d"], haltingTree) ∧
      haltingTree.isDirectory = true ∧ haltingTree.Legal ∧ haltingWriter.capacity? = none ∧
      haltingWriter.addTree haltingSample (utf8 "/d")
          (fun relative visit told => (.ok (), told ++ [(relative, visit)])) [] =
        (.error (.unsupportedEntry (utf8 "/d/b")), haltingWriter.extended haltingPassed,
          [("a", .directory), ("a/x", .file [1])]) ∧
      Tar.Layout [("d/a/x", [1])] (haltingWriter.extended haltingPassed).tarStream := by
  have hresolved : haltingSample.resolve (utf8 "/d") = .ok ([utf8 "d"], haltingTree) :=
    FileSystem.resolve_child (by decide) (by rw [Node.get?_singleton]; rfl)
  refine ⟨hresolved, rfl, legal_haltingTree, rfl, ?_, layout_haltingPassed⟩
  have hpassable : ∀ n ∈ haltingPassed, n.Named ∧ n.node.isReadable = true ∧ Visited n.node := by
    intro n hn
    simp only [haltingPassed, List.mem_cons, List.not_mem_nil, or_false] at hn
    rcases hn with rfl | rfl
    · exact ⟨by simp [Named, isText_utf8], rfl, .directory⟩
    · exact ⟨by simp [Named, isText_utf8], rfl, .file rfl⟩
  have haccepted : tellAll (fun relative visit told => (.ok (), told ++ [(relative, visit)]))
      haltingPassed [] = (.ok (), [("a", .directory), ("a/x", .file [1])]) := by
    simp [tellAll, haltingPassed, relative, visit, lossy_utf8]
  have hlink : Named ⟨[utf8 "b"], .link (utf8 "/")⟩ := by simp [Named, isText_utf8]
  apply (addTree_eq_iff hresolved rfl legal_haltingTree _ haltingWriter rfl _ _).2
  exact .listed inPreorder_haltingTree
    (.mk rfl hpassable haccepted (.unsupported hlink rfl rfl)) appends_haltingPassed

end Northbound
