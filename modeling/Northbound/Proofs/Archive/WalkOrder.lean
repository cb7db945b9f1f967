import Mathlib.Data.List.Sort
import Northbound.Proofs.Archive.WalkedFiles
import Northbound.Proofs.FileSystem.LegalTree

/-!
# The order of a walk

A walk visits the files of a tree by increasing names: a file comes before another one if, where the
ways to them part, its name comes first byte by byte.
-/

namespace Northbound

theorem Bytes.le_iff {as bs : Bytes} : Bytes.le as bs = true ↔ as ≤ bs := by
  induction as generalizing bs with
  | nil => simp [Bytes.le]
  | cons a as ih =>
      cases bs with
      | nil => simp [Bytes.le]
      | cons b bs =>
          rw [List.cons_le_cons_iff, ← ih]
          simp [Bytes.le]

/-- Lists that increase strictly are the same if they have the same members. -/
theorem eq_of_increasing {α β : Type} [LT β] [Std.Irrefl (α := β) (· < ·)]
    [Std.Asymm (α := β) (· < ·)] {key : α → List β} {xs ys : List α}
    (increasing : xs.Pairwise fun a b => key a < key b)
    (increasing' : ys.Pairwise fun a b => key a < key b) (same : ∀ a, a ∈ xs ↔ a ∈ ys) :
    xs = ys := by
  have hirrefl : Std.Irrefl fun a b : α => key a < key b := ⟨fun a => List.lt_irrefl (key a)⟩
  have hantisymm : Std.Antisymm fun a b : α => key a < key b :=
    ⟨fun a b hless hgreater => absurd hgreater (List.lt_asymm hless)⟩
  exact increasing.eq_of_mem_iff increasing' same

/-- A file in a tree, by the names that lead to it. -/
structure TreeFile where
  names : List Bytes
  content : Bytes
  attributes : FileAttributes

/-- Children by the byte order of their names. -/
def Node.sortedChildren (cs : List (Bytes × Node)) : List (Bytes × Node) :=
  cs.mergeSort fun a b => Bytes.le a.1 b.1

namespace Node

variable {cs : List (Bytes × Node)} {c : Bytes × Node}

theorem mem_sortedChildren : c ∈ sortedChildren cs ↔ c ∈ cs := List.mem_mergeSort

/-- Children with different names are sorted into strictly increasing order. -/
theorem pairwise_sortedChildren (nodup : (cs.map Prod.fst).Nodup) :
    (sortedChildren cs).Pairwise fun a b => a.1 < b.1 := by
  have hsorted : (sortedChildren cs).Pairwise fun a b => Bytes.le a.1 b.1 = true := by
    apply List.pairwise_mergeSort
    · intro a b c hab hbc
      exact Bytes.le_iff.2 (List.le_trans (Bytes.le_iff.1 hab) (Bytes.le_iff.1 hbc))
    · intro a b
      rw [Bool.or_eq_true, Bytes.le_iff, Bytes.le_iff]
      exact List.le_total a.1 b.1
  have hdiffer : (sortedChildren cs).Pairwise fun a b => a.1 ≠ b.1 := by
    have hperm := (List.mergeSort_perm cs fun a b => Bytes.le a.1 b.1).map Prod.fst
    exact List.pairwise_map.1 (hperm.nodup_iff.2 nodup)
  apply hsorted.imp₂ _ hdiffer
  intro a b hle hne
  apply List.not_le.1
  intro hge
  exact hne (List.le_antisymm (Bytes.le_iff.1 hle) hge)

end Node

namespace WalkStep

variable {root path : Path} {cs : List (Bytes × Node)} {n : Node} {step : WalkStep} {f : TreeFile}

/-- The file that a step visits. -/
def file? : WalkStep → Option TreeFile
  | .file relative content a => some ⟨Path.segments (utf8 relative), content, a⟩
  | _ => none

/-- The files that steps visit. -/
def filesOf (steps : List WalkStep) : List TreeFile := steps.filterMap file?

/-- The children of a directory are visited in their order. -/
theorem inOrder_ofChildren (root path : Path) (cs : List (Bytes × Node)) :
    inOrder (ofChildren root path cs) =
      (Node.sortedChildren cs).flatMap fun c => ofNode root (Path.join path c.1) c.2 := by
  rw [inOrder, ofChildren_eq_map, Node.sortedChildren,
    ← List.map_mergeSort (r := fun a b => Bytes.le a.1 b.1) (fun _ _ _ _ => rfl), List.flatMap_map]

/-- A file that is visited below some names has these at the front of its own. -/
theorem names_of_mem_ofNode (nonempty : root ≠ []) (front : List Bytes) (legal : n.Legal)
    (plain : ∀ m ∈ front, Path.Plain m)
    (h : f ∈ filesOf (ofNode root (front.foldl Path.join root) n)) : front <+: f.names := by
  obtain ⟨step, hstep, hfile⟩ := List.mem_filterMap.1 h
  cases step with
  | file s content a =>
      cases hfile
      obtain ⟨rel, hget, htext⟩ := get?_of_mem_ofNode nonempty front legal plain hstep
      have hplain : ∀ m ∈ front ++ rel, Path.Plain m := by
        intro m hm
        rcases List.mem_append.1 hm with hm | hm
        · exact plain m hm
        · exact (legal.legalName hget m hm).toPlain
      rw [htext, Path.segments_joined (Path.unslashed_of_plain hplain)]
      exact List.prefix_append front rel
  | directory s => cases hfile
  | failure e => cases hfile

/-- Names that go on differently are ordered by where they part. -/
theorem lt_of_parted {front xs ys : List Bytes} {x y : Bytes} (less : x < y)
    (hx : front ++ [x] <+: xs) (hy : front ++ [y] <+: ys) : xs < ys := by
  obtain ⟨xs, rfl⟩ := hx
  obtain ⟨ys, rfl⟩ := hy
  rw [List.append_assoc, List.append_assoc]
  apply List.append_left_lt
  exact List.cons_lt_cons_iff.2 (Or.inl less)

/-- The files below a directory are visited by increasing names if those of each child are. -/
theorem pairwise_inOrder (nonempty : root ≠ []) (front : List Bytes) {r : Bool}
    (legal : (Node.directory r cs).Legal) (plain : ∀ m ∈ front, Path.Plain m)
    (each : ∀ c ∈ cs, (filesOf (ofNode root ((front ++ [c.1]).foldl Path.join root) c.2)).Pairwise
      fun f g => f.names < g.names) :
    (filesOf (inOrder (ofChildren root (front.foldl Path.join root) cs))).Pairwise fun f g =>
      f.names < g.names := by
  have hplain (c : Bytes × Node) (hc : c ∈ cs) : ∀ m ∈ front ++ [c.1], Path.Plain m := by
    obtain ⟨-, hname, -⟩ := legal.of_mem hc
    exact plain_concat plain hname.toPlain
  obtain ⟨hnodup, -⟩ := legal.names [] r cs (Node.get?_nil _)
  rw [inOrder_ofChildren, filesOf, List.filterMap_flatMap, List.pairwise_flatMap]
  constructor
  · intro c hc
    rw [join_foldl_join]
    exact each c (Node.mem_sortedChildren.1 hc)
  · apply (Node.pairwise_sortedChildren hnodup).imp_of_mem
    intro c₁ c₂ hc₁ hc₂ hless f hf g hg
    have hmem₁ := Node.mem_sortedChildren.1 hc₁
    have hmem₂ := Node.mem_sortedChildren.1 hc₂
    rw [join_foldl_join] at hf hg
    apply lt_of_parted hless
    · exact names_of_mem_ofNode nonempty _ (legal.of_mem hmem₁).2.2 (hplain c₁ hmem₁) hf
    · exact names_of_mem_ofNode nonempty _ (legal.of_mem hmem₂).2.2 (hplain c₂ hmem₂) hg

/-- The files at a node and below it are visited by increasing names. -/
theorem pairwise_ofNode (nonempty : root ≠ []) (front : List Bytes) (legal : n.Legal)
    (plain : ∀ m ∈ front, Path.Plain m) :
    (filesOf (ofNode root (front.foldl Path.join root) n)).Pairwise fun f g =>
      f.names < g.names := by
  induction n using Node.inductionOn generalizing front with
  | file c b =>
    rw [ofNode]
    split
    · exact List.Pairwise.nil
    · split
      · exact List.pairwise_singleton _ _
      · exact List.Pairwise.nil
  | link target =>
    rw [ofNode, unsupported]
    split <;> exact List.Pairwise.nil
  | special =>
    rw [ofNode, unsupported]
    split <;> exact List.Pairwise.nil
  | directory r cs ih =>
    rw [ofNode]
    split
    · exact List.Pairwise.nil
    · split
      · apply pairwise_inOrder nonempty front legal plain
        intro c hc
        obtain ⟨-, hname, hchild⟩ := legal.of_mem hc
        exact ih c hc _ hchild (plain_concat plain hname.toPlain)
      · exact List.Pairwise.nil

/-- A walk visits files by increasing names. -/
theorem pairwise_ofSource {fs : FileSystem} {source : Path} {place : List Bytes} {tree : Node}
    (resolved : fs.resolve source = .ok (place, tree)) (directory : tree.isDirectory = true)
    (legal : tree.Legal) :
    (filesOf (ofSource fs source)).Pairwise fun f g => f.names < g.names := by
  obtain ⟨hnonempty, -⟩ := FileSystem.leads_of_resolve resolved
  cases tree with
  | directory r cs =>
      have hordered := pairwise_ofNode hnonempty [] legal (by simp)
      rw [List.foldl_nil, ofNode_eq_cons_ofSource resolved] at hordered
      exact hordered
  | file content a => cases directory
  | link target => cases directory
  | special => cases directory

/-- What is in a directory comes before a file beside it with a longer name, whereas its whole path
comes after that of the file. -/
example : [utf8 "a", utf8 "x"] < [utf8 "a.txt"] ∧ utf8 "a.txt" < utf8 "a/x" := by decide

end WalkStep

end Northbound
