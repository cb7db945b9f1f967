import Northbound.Proofs.Dictionary
import Northbound.Proofs.FileSystem.Destination

/-!
# Trees that a file system can hold

Names in a directory are legal and differ from each other. What holds of a whole tree holds of every
node in it.
-/

namespace Northbound

/-- A name that a file or directory can have. -/
structure LegalName (name : Bytes) : Prop extends Path.Plain name where
  nul : 0 ∉ name
  short : name.length ≤ FileSystem.maxName

instance (name : Bytes) : Decidable (LegalName name) :=
  decidable_of_iff (((name ≠ [] ∧ Path.slash ∉ name) ∧ name ≠ Path.dot ∧ name ≠ Path.dotDot) ∧
      0 ∉ name ∧ name.length ≤ FileSystem.maxName)
    ⟨fun ⟨⟨⟨a, b⟩, c, d⟩, e, f⟩ => ⟨⟨a, b, c, d⟩, e, f⟩,
      fun ⟨⟨a, b, c, d⟩, e, f⟩ => ⟨⟨⟨a, b⟩, c, d⟩, e, f⟩⟩

/-- A tree that a file system can hold: the names in a directory are legal and differ from each
other, and a file has twelve permission bits. -/
structure Node.Legal (t : Node) : Prop where
  names : ∀ place r cs, t.get? place = some (.directory r cs) →
    (cs.map Prod.fst).Nodup ∧ ∀ c ∈ cs, LegalName c.1
  modes : ∀ place content a, t.get? place = some (.file content a) → a.mode < 0o10000

section Children

variable {cs : List (Bytes × Node)} {name : Bytes} {child : Node}

/-- What is in a directory of a legal tree is found by its name, and is legal too. -/
theorem Node.Legal.of_mem {r : Bool} (legal : (Node.directory r cs).Legal)
    (h : (name, child) ∈ cs) :
    cs.lookup name = some child ∧ LegalName name ∧ child.Legal := by
  obtain ⟨nodup, names⟩ := legal.names [] r cs (Node.get?_nil _)
  have found := (lookup_eq_some_iff_mem nodup).2 h
  have below (place : List Bytes) :
      (Node.directory r cs).get? (name :: place) = child.get? place := by
    rw [Node.get?_cons, Node.children, found]
    rfl
  exact ⟨found, names _ h, fun place r' cs' get => legal.names _ r' cs' ((below place).trans get),
    fun place content a get => legal.modes _ content a ((below place).trans get)⟩

/-- Whatever stands in a legal tree is a legal tree. -/
theorem Node.Legal.get? {t n : Node} (legal : t.Legal) {place : List Bytes}
    (h : t.get? place = some n) : n.Legal where
  names := by
    intro below r cs get
    apply legal.names (place ++ below) r cs
    rw [Node.get?_append, h]
    exact get
  modes := by
    intro below content a get
    apply legal.modes (place ++ below) content a
    rw [Node.get?_append, h]
    exact get

/-- A path leads to a legal tree. -/
theorem Node.Legal.of_resolve {fs : FileSystem} {p : Path} {place : List Bytes} {n : Node}
    (legal : fs.root.Legal) (h : fs.resolve p = .ok (place, n)) : n.Legal := by
  obtain ⟨-, found⟩ := FileSystem.resolve_eq_ok_iff.1 h
  exact legal.get? found

/-- The names that lead anywhere in a legal tree are legal. -/
theorem Node.Legal.legalName {t n : Node} (legal : t.Legal) {place : List Bytes}
    (h : t.get? place = some n) : ∀ m ∈ place, LegalName m := by
  induction place generalizing t with
  | nil => simp
  | cons name place ih =>
    obtain ⟨r, cs, child, rfl, found, below⟩ := Node.exists_directory_of_get?_cons h
    obtain ⟨-, name_legal, child_legal⟩ := legal.of_mem (mem_of_lookup found)
    intro m hm
    rcases List.mem_cons.1 hm with rfl | hm
    · exact name_legal
    · exact ih child_legal below m hm

end Children

/-- A file is legal by itself. -/
theorem Node.legal_file {content : Bytes} {a : FileAttributes} (mode : a.mode < 0o10000) :
    (Node.file content a).Legal where
  names := by
    intro place r cs get
    cases place with
    | nil =>
      rw [Node.get?_nil] at get
      cases get
    | cons name place =>
      rw [Node.get?_cons] at get
      cases get
  modes := by
    intro place content' a' get
    cases place with
    | nil =>
      rw [Node.get?_nil] at get
      cases get
      exact mode
    | cons name place =>
      rw [Node.get?_cons] at get
      cases get

/-- A link is legal wherever it leads. -/
theorem Node.legal_link (target : Path) : (Node.link target).Legal where
  names := by
    intro place r cs get
    cases place with
    | nil =>
      rw [Node.get?_nil] at get
      cases get
    | cons name place =>
      rw [Node.get?_cons] at get
      cases get
  modes := by
    intro place content a get
    cases place with
    | nil =>
      rw [Node.get?_nil] at get
      cases get
    | cons name place =>
      rw [Node.get?_cons] at get
      cases get

/-- A directory is legal if its names and its children are. -/
theorem Node.legal_directory {r : Bool} {cs : List (Bytes × Node)} (nodup : (cs.map Prod.fst).Nodup)
    (names : ∀ c ∈ cs, LegalName c.1) (children : ∀ c ∈ cs, c.2.Legal) :
    (Node.directory r cs).Legal where
  names := by
    intro place r' cs' get
    cases place with
    | nil =>
      rw [Node.get?_nil] at get
      cases get
      exact ⟨nodup, names⟩
    | cons name place =>
      rw [Node.get?_cons] at get
      obtain ⟨child, found, below⟩ := Option.bind_eq_some_iff.1 get
      exact (children _ (mem_of_lookup found)).names place r' cs' below
  modes := by
    intro place content a get
    cases place with
    | nil =>
      rw [Node.get?_nil] at get
      cases get
    | cons name place =>
      rw [Node.get?_cons] at get
      obtain ⟨child, found, below⟩ := Option.bind_eq_some_iff.1 get
      exact (children _ (mem_of_lookup found)).modes place content a below

namespace FileSystem

/-- A path of one name behind the root leads to a directory there. -/
theorem resolve_child {fs : FileSystem} {name : Bytes} {r : Bool} {cs : List (Bytes × Node)}
    (legal : LegalName name) (directory : fs.root.get? [name] = some (.directory r cs)) :
    fs.resolve (Path.slash :: name) = .ok ([name], .directory r cs) := by
  have seen : fs.root.look [name] = some .emptyDirectory := by
    rw [Node.look, directory]
    rfl
  have top : fs.root.look [] = some .emptyDirectory := Node.look_of_look_append seen (by simp)
  have names : Path.segments (Path.slash :: name) = [name] := by
    have := Path.segments_append_slash [] name
    rwa [Path.segments_of_name legal.nonempty legal.slash] at this
  have absolute : Path.isAbsolute (Path.slash :: name) = true := rfl
  refine resolve_eq_ok_iff.2 ⟨?_, directory⟩
  have nul : 0 ∉ Path.slash :: name := by
    rw [List.mem_cons, not_or]
    exact ⟨by decide, legal.nul⟩
  have fits : (Path.slash :: name).length ≤ maxPath := by
    have := legal.short
    simp only [maxName, maxPath, List.length_cons] at this ⊢
    omega
  rw [locate_eq true (by simp), if_neg nul, if_neg (Nat.not_lt.2 fits), names, absolute, if_pos rfl,
    walk_down top legal.dot legal.dotDot legal.short seen (by simp [Node.emptyDirectory])]
  exact walk_nil seen

end FileSystem

end Northbound
