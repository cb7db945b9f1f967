import Northbound.Proofs.Archive.WalkOrder

/-!
# The nodes of a tree in pre-order

A node below a tree is told by the names that lead to it. Pre-order, with the nodes of one directory
by the byte order of their names, is the order of these lists of names: a directory comes before
what is in it, since there are more names behind its own, and what is in two directories is ordered
by where the ways part.
-/

namespace Northbound

/-- A node in a tree, by the names that lead to it. -/
structure TreeNode where
  names : List Bytes
  node : Node

/-- All nodes below a tree in pre-order, siblings by the byte order of their names. -/
structure InPreorder (tree : Node) (nodes : List TreeNode) : Prop where
  mem_iff : ∀ n, n ∈ nodes ↔ n.names ≠ [] ∧ tree.get? n.names = some n.node
  ordered : nodes.Pairwise fun m n => m.names < n.names

theorem lt_append_of_ne_nil (front : List Bytes) {more : List Bytes} (further : more ≠ []) :
    front < front ++ more := by
  obtain ⟨name, names, rfl⟩ := List.exists_cons_of_ne_nil further
  calc front
    _ = front ++ [] := (List.append_nil front).symm
    _ < front ++ name :: names := List.append_left_lt (List.nil_lt_cons _ _)

/-- The nodes below a tree have one pre-order. -/
theorem InPreorder.unique {tree : Node} {nodes nodes' : List TreeNode}
    (order : InPreorder tree nodes) (order' : InPreorder tree nodes') : nodes = nodes' := by
  apply eq_of_increasing order.ordered order'.ordered
  intro n
  exact (order.mem_iff n).trans (order'.mem_iff n).symm

/-- The directory of a node comes before it. -/
theorem InPreorder.directory_before {tree : Node} {before rest : List TreeNode} {n : TreeNode}
    (order : InPreorder tree (before ++ n :: rest)) {front : List Bytes} {name : Bytes}
    (further : front ≠ []) (names : n.names = front ++ [name]) : ∃ m ∈ before, m.names = front := by
  obtain ⟨-, hget⟩ := (order.mem_iff n).1 (by simp)
  rw [names, Node.get?_append] at hget
  obtain ⟨parent, hparent, -⟩ := Option.bind_eq_some_iff.1 hget
  have hless : front < n.names := by
    rw [names]
    exact lt_append_of_ne_nil front (by simp)
  have hmem : (⟨front, parent⟩ : TreeNode) ∈ before ++ n :: rest :=
    (order.mem_iff _).2 ⟨further, hparent⟩
  rcases List.mem_append.1 hmem with hbefore | hmem
  · exact ⟨_, hbefore, rfl⟩
  · obtain ⟨-, hrest, -⟩ := List.pairwise_append.1 order.ordered
    rcases List.mem_cons.1 hmem with hsame | hafter
    · rw [← hsame] at hless
      exact absurd hless (List.lt_irrefl _)
    · have hgreater : n.names < front := (List.pairwise_cons.1 hrest).1 _ hafter
      exact absurd (List.lt_trans hless hgreater) (List.lt_irrefl _)

namespace Node

variable {front : List Bytes} {n : Node} {m : TreeNode} {cs : List (Bytes × Node)}

/-- The nodes below a node to which some names lead, in pre-order. -/
def preorder (front : List Bytes) : Node → List TreeNode
  | .directory _ cs => (sortedChildren cs).attach.flatMap fun ⟨c, _⟩ =>
      ⟨front ++ [c.1], c.2⟩ :: c.2.preorder (front ++ [c.1])
  | _ => []
termination_by n => sizeOf n
decreasing_by
  have hinside := List.sizeOf_lt_of_mem (mem_sortedChildren.1 ‹c ∈ sortedChildren cs›)
  obtain ⟨name, child⟩ := c
  simp at hinside ⊢
  omega

/-- A node of a directory with all that is below it, in pre-order. -/
def preorderAt (front : List Bytes) (c : Bytes × Node) : List TreeNode :=
  ⟨front ++ [c.1], c.2⟩ :: c.2.preorder (front ++ [c.1])

theorem preorder_directory (front : List Bytes) (r : Bool) (cs : List (Bytes × Node)) :
    (directory r cs).preorder front = (sortedChildren cs).flatMap (preorderAt front) := by
  rw [preorder, List.flatMap_subtype fun _ _ => rfl, List.unattach_attach]
  rfl

theorem mem_preorder_directory {r : Bool} :
    m ∈ (directory r cs).preorder front ↔
      ∃ c ∈ cs, m = ⟨front ++ [c.1], c.2⟩ ∨ m ∈ c.2.preorder (front ++ [c.1]) := by
  simp [preorder_directory, preorderAt, List.mem_flatMap, mem_sortedChildren]

/-- There is nothing below a node that is no directory. -/
theorem preorder_leaf (leaf : n.isDirectory = false) : n.preorder front = [] := by
  cases n with
  | directory r cs => cases leaf
  | file content a => simp [preorder]
  | link target => simp [preorder]
  | special => simp [preorder]

theorem get?_leaf (leaf : n.isDirectory = false) {rel : List Bytes} (further : rel ≠ []) :
    n.get? rel = none := by
  obtain ⟨name, rel, rfl⟩ := List.exists_cons_of_ne_nil further
  rw [get?_cons]
  cases n with
  | directory r cs => cases leaf
  | file content a => rfl
  | link target => rfl
  | special => rfl

theorem mem_preorder_leaf (leaf : n.isDirectory = false) :
    m ∈ n.preorder front ↔ ∃ rel, rel ≠ [] ∧ m.names = front ++ rel ∧ n.get? rel = some m.node := by
  rw [preorder_leaf leaf]
  constructor
  · exact fun h => absurd h List.not_mem_nil
  · rintro ⟨rel, hfurther, -, hget⟩
    rw [get?_leaf leaf hfurther] at hget
    cases hget

/-- The nodes below a node are those to which further names lead. -/
theorem mem_preorder (legal : n.Legal) :
    m ∈ n.preorder front ↔ ∃ rel, rel ≠ [] ∧ m.names = front ++ rel ∧ n.get? rel = some m.node := by
  induction n using Node.inductionOn generalizing front with
  | directory r cs ih =>
      rw [mem_preorder_directory]
      constructor
      · rintro ⟨⟨name, child⟩, hc, rfl | hbelow⟩
        · obtain ⟨hfound, -, -⟩ := legal.of_mem hc
          exact ⟨[name], by simp, rfl, (get?_singleton _ name).trans hfound⟩
        · obtain ⟨hfound, -, hlegal⟩ := legal.of_mem hc
          obtain ⟨rel, -, hnames, hget⟩ := (ih _ hc hlegal).1 hbelow
          refine ⟨name :: rel, by simp, ?_, ?_⟩
          · rw [hnames, List.append_assoc, List.singleton_append]
          · rw [get?_cons, children, hfound]
            exact hget
      · rintro ⟨rel, hfurther, hnames, hget⟩
        obtain ⟨name, rel, rfl⟩ := List.exists_cons_of_ne_nil hfurther
        rw [get?_cons] at hget
        obtain ⟨child, hfound, hget⟩ := Option.bind_eq_some_iff.1 hget
        have hc : (name, child) ∈ cs := mem_of_lookup hfound
        obtain ⟨-, -, hlegal⟩ := legal.of_mem hc
        refine ⟨(name, child), hc, ?_⟩
        by_cases hlast : rel = []
        · obtain ⟨names, node⟩ := m
          subst hlast hnames
          rw [get?_nil, Option.some.injEq] at hget
          rw [hget]
          exact Or.inl rfl
        · refine Or.inr ((ih _ hc hlegal).2 ⟨rel, hlast, ?_, hget⟩)
          rw [hnames, List.append_assoc, List.singleton_append]
  | file content a => exact mem_preorder_leaf rfl
  | link target => exact mem_preorder_leaf rfl
  | special => exact mem_preorder_leaf rfl

theorem isPrefix_of_mem_preorder (legal : n.Legal) (h : m ∈ n.preorder front) :
    front <+: m.names := by
  obtain ⟨rel, -, hnames, -⟩ := (mem_preorder legal).1 h
  rw [hnames]
  exact List.prefix_append front rel

/-- Names grow along the pre-order. -/
theorem pairwise_preorder (legal : n.Legal) :
    (n.preorder front).Pairwise fun m k => m.names < k.names := by
  induction n using Node.inductionOn generalizing front with
  | directory r cs ih =>
      obtain ⟨hnodup, -⟩ := legal.names [] r cs (get?_nil _)
      rw [preorder_directory, List.pairwise_flatMap]
      constructor
      · intro c hc
        obtain ⟨-, -, hlegal⟩ := legal.of_mem (mem_sortedChildren.1 hc)
        rw [preorderAt, List.pairwise_cons]
        refine ⟨?_, ih c (mem_sortedChildren.1 hc) hlegal⟩
        intro m hm
        obtain ⟨rel, hfurther, hnames, -⟩ := (mem_preorder hlegal).1 hm
        rw [hnames]
        exact lt_append_of_ne_nil _ hfurther
      · have hstarts (c : Bytes × Node) (hc : c ∈ sortedChildren cs) :
            ∀ m ∈ preorderAt front c, front ++ [c.1] <+: m.names := by
          obtain ⟨-, -, hlegal⟩ := legal.of_mem (mem_sortedChildren.1 hc)
          intro m hm
          rcases List.mem_cons.1 hm with rfl | hm
          · exact List.prefix_rfl
          · exact isPrefix_of_mem_preorder hlegal hm
        apply (pairwise_sortedChildren hnodup).imp_of_mem
        intro c d hc hd hless m hm k hk
        exact WalkStep.lt_of_parted hless (hstarts c hc m hm) (hstarts d hd k hk)
  | file content a =>
      rw [preorder_leaf rfl]
      exact List.Pairwise.nil
  | link target =>
      rw [preorder_leaf rfl]
      exact List.Pairwise.nil
  | special =>
      rw [preorder_leaf rfl]
      exact List.Pairwise.nil

theorem inPreorder_preorder (legal : n.Legal) : InPreorder n (n.preorder []) where
  mem_iff m := by
    rw [mem_preorder legal]
    constructor
    · rintro ⟨rel, hfurther, hnames, hget⟩
      rw [hnames]
      exact ⟨hfurther, hget⟩
    · rintro ⟨hfurther, hget⟩
      exact ⟨m.names, hfurther, rfl, hget⟩
  ordered := pairwise_preorder legal

end Node

end Northbound
