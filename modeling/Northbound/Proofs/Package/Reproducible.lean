import Northbound.Proofs.Archive.WalkOrder
import Northbound.Proofs.FileSystem.Relisting
import Northbound.Proofs.Package.Packing

/-!
# Packing the same tree twice

What is packed does not depend on the order in which the file system lists directories: a walk sorts
the children of each directory, and no two of them have the same name.
-/

namespace Northbound

open FileSystem

namespace WalkStep

variable {n n' : Node} {cs ds es : List (Bytes × Node)}

/-- Children with different names are sorted in one way only. -/
theorem sortedChildren_of_perm (nodup : (ds.map Prod.fst).Nodup) (order : ds.Perm es) :
    Node.sortedChildren ds = Node.sortedChildren es := by
  have nodup' : (es.map Prod.fst).Nodup := (order.map Prod.fst).nodup_iff.1 nodup
  have hperm : (Node.sortedChildren ds).Perm (Node.sortedChildren es) :=
    (List.mergeSort_perm ds _).trans (order.trans (List.mergeSort_perm es _).symm)
  apply List.Perm.eq_of_pairwise _ (Node.pairwise_sortedChildren nodup)
    (Node.pairwise_sortedChildren nodup') hperm
  intro a b _ _ hab hba
  exact absurd hba (List.lt_asymm hab)

/-- The steps of children are known from their names and from the steps of each. -/
theorem ofChildren_congr (root path : Path) (names : cs.map Prod.fst = ds.map Prod.fst)
    (each : ∀ p ∈ cs.zip ds, ∀ path, ofNode root path p.1.2 = ofNode root path p.2.2) :
    ofChildren root path cs = ofChildren root path ds := by
  induction cs generalizing ds with
  | nil =>
      have hds : ds = [] := List.map_eq_nil_iff.1 names.symm
      rw [hds]
  | cons c cs ih =>
      cases ds with
      | nil => cases names
      | cons d ds =>
          obtain ⟨k, m⟩ := c
          obtain ⟨l, n⟩ := d
          obtain ⟨hkey, hrest⟩ := List.cons.inj names
          have hkey : k = l := hkey
          rw [List.zip_cons_cons, List.forall_mem_cons] at each
          rw [ofChildren, ofChildren, ih hrest each.2, hkey, each.1]

/-- The steps of a directory are those of its children one by one, whatever order they stand in. -/
theorem inOrder_relisted (root path : Path) (nodup : (cs.map Prod.fst).Nodup)
    (names : cs.map Prod.fst = ds.map Prod.fst)
    (each : ∀ p ∈ cs.zip ds, ∀ path, ofNode root path p.1.2 = ofNode root path p.2.2)
    (order : ds.Perm es) :
    inOrder (ofChildren root path cs) = inOrder (ofChildren root path es) := by
  rw [names] at nodup
  calc
    inOrder (ofChildren root path cs) = inOrder (ofChildren root path ds) := by
      rw [ofChildren_congr root path names each]
    _ = (Node.sortedChildren ds).flatMap fun c => ofNode root (Path.join path c.1) c.2 :=
      inOrder_ofChildren root path ds
    _ = (Node.sortedChildren es).flatMap fun c => ofNode root (Path.join path c.1) c.2 := by
      rw [sortedChildren_of_perm nodup order]
    _ = inOrder (ofChildren root path es) := (inOrder_ofChildren root path es).symm

/-- The steps at a node and below it are the same however its directories are listed. -/
theorem ofNode_relisted (root : Path) (h : n.Relisted n') (distinct : n.Distinct) (path : Path) :
    ofNode root path n = ofNode root path n' := by
  induction h generalizing path with
  | file content a => rfl
  | link target => rfl
  | special => rfl
  | @directory r cs ds es names each order ih =>
      have heach : ∀ p ∈ cs.zip ds, ∀ path, ofNode root path p.1.2 = ofNode root path p.2.2 :=
        fun p hp => ih p hp (distinct.of_mem (List.of_mem_zip hp).1)
      rw [ofNode, ofNode, inOrder_relisted root path distinct.nodup names heach order]

/-- A walk takes the same steps, up to the same failure, however directories are listed. -/
theorem ofSource_relisted {fs fs' : FileSystem} (h : fs.Relisted fs')
    (distinct : fs.root.Distinct) (source : Path) : ofSource fs source = ofSource fs' source := by
  have hresolve := h.resolve distinct source
  unfold ofSource
  generalize fs.resolve source = found at hresolve ⊢
  generalize fs'.resolve source = found' at hresolve ⊢
  cases hresolve with
  | refused e => rfl
  | @found place n n' hnode hdistinct =>
      cases hnode with
      | file content a => rfl
      | link target => rfl
      | special => rfl
      | @directory r cs ds es names each order =>
          have heach : ∀ p ∈ cs.zip ds, ∀ path,
              ofNode source path p.1.2 = ofNode source path p.2.2 := by
            intro p hp
            exact ofNode_relisted source (each p hp) (hdistinct.of_mem (List.of_mem_zip hp).1)
          simp only [inOrder_relisted source source hdistinct.nodup names heach order]

end WalkStep

/-- An archive is written the same, and whoever is told of its entries is told the same, however
directories are listed. -/
theorem TarballWriter.addTree_relisted {σ : Type} {fs fs' : FileSystem} (h : fs.Relisted fs')
    (distinct : fs.root.Distinct) (w : TarballWriter) (source : Path)
    (onVisit : OnVisit σ) (s : σ) :
    w.addTree fs source onVisit s = w.addTree fs' source onVisit s := by
  rw [addTree, addTree, WalkStep.ofSource_relisted h distinct]

namespace Package

variable {fs fs' : FileSystem}

/-- A path made absolute does not depend on the tree. -/
theorem absoluteSource_relisted (h : fs.Relisted fs') (path : Path) :
    absoluteSource fs path = absoluteSource fs' path := by
  rw [absoluteSource, absoluteSource, h.workingPath_eq]

theorem isDirectory_relisted (h : fs.Relisted fs') (distinct : fs.root.Distinct) (p : Path) :
    fs.isDirectory p = fs'.isDirectory p := by
  have hresolve := h.resolve distinct p
  unfold isDirectory
  generalize fs.resolve p = found at hresolve ⊢
  generalize fs'.resolve p = found' at hresolve ⊢
  cases hresolve with
  | refused e => rfl
  | found place hnode => cases hnode <;> rfl

/-- Two listings of one tree are packed alike: packing fails with the same error, or makes the same
package from the same stream of entries. -/
theorem pack_reproducible (relisted : fs.Relisted fs') (distinct : fs.root.Distinct) (path : Path) :
    pack fs path = pack fs' path ∧
      ∀ p, pack fs path = .ok p →
        Tarball.streamOf (p.files fs) = Tarball.streamOf (p.files fs') ∧
          p.data = Gzip.gzip (Tarball.streamOf (p.files fs)) := by
  have hpackAs (source : Path) (name : String) :
      packAs fs source name = packAs fs' source name := by
    rw [packAs, packAs, TarballWriter.addTree_relisted relisted distinct]
  constructor
  · rw [pack, pack, absoluteSource_relisted relisted]
    simp only [isDirectory_relisted relisted distinct, hpackAs]
  · intro p packed
    constructor
    · rw [files, files, WalkStep.ofSource_relisted relisted distinct]
    · exact (pack_eq_ok packed).2.2.2

/-- The same file system as the nested sample, whose package lists its directory first. -/
def nestedRelisted : FileSystem :=
  { root := .directory true
      [(utf8 "p_ns", .directory true
        [(utf8 "a", .directory true [(utf8 "x", .file [1] {})]), (utf8 "a.txt", .file [2] {})])] }

theorem relisted_nestedSample : nestedSample.Relisted nestedRelisted where
  workingDirectory := rfl
  root := by
    have hinner : (Node.directory true [(utf8 "x", .file [1] {})]).Relisted
        (.directory true [(utf8 "x", .file [1] {})]) := by
      apply Node.Relisted.directory true rfl _ (.refl [(utf8 "x", .file [1] {})])
      simpa using Node.Relisted.file [1] {}
    have htree : nestedTree.Relisted (.directory true
        [(utf8 "a", .directory true [(utf8 "x", .file [1] {})]),
          (utf8 "a.txt", .file [2] {})]) := by
      apply Node.Relisted.directory true rfl _ (.swap _ _ [])
      simpa using ⟨Node.Relisted.file [2] {}, hinner⟩
    refine Node.Relisted.directory true ?_ ?_ (.refl _)
    · rfl
    · simpa using htree

/-- The package in the nested sample is packed, and from the other listing the same. -/
theorem pack_nestedRelisted :
    ∃ p, pack nestedSample (utf8 "/p_ns") = .ok p ∧ pack nestedRelisted (utf8 "/p_ns") = .ok p := by
  obtain ⟨hsame, -⟩ := pack_reproducible relisted_nestedSample legal_nestedSample.distinct
    (utf8 "/p_ns")
  have hnamed : nameOf? (utf8 "/p_ns") = some "p_ns" := nameOf?_of_fileName? (by decide)
  have hclean := (WalkStep.clean_ofSource_iff resolve_nestedSample rfl
    (legal_nestedSample.of_resolve resolve_nestedSample)).2 packable_nestedTree
  have hdirectory := isDirectory_eq_true_iff.2 ⟨_, _, resolve_nestedSample, rfl⟩
  have habsolute : absoluteSource nestedSample (utf8 "/p_ns") = .ok (utf8 "/p_ns") := rfl
  have hpacked := pack_eq_ok_iff.2 ⟨_, _, habsolute, hdirectory, hnamed, hclean, rfl⟩
  exact ⟨_, hpacked, hsame.symm.trans hpacked⟩

end Package

end Northbound
