import Northbound.Proofs.FileSystem.Destination

/-!
# Places in a file system that grows

A file system grows where directories and files are made and files are changed, but nothing is taken
away and no link is added. Names that lead to a place lead there in every file system grown from it,
so that a path can be followed after the fact: where something was made is where its path leads once
all is done.
-/

namespace Northbound

namespace FileSystem

open Northbound.Path (Plain undotted segments components)

/-- What is there stays, a file as some file, and what is new are directories and files. -/
structure Grown (fs fs' : FileSystem) : Prop where
  workingDirectory : fs'.workingDirectory = fs.workingDirectory
  kept : ∀ {x n}, fs.root.look x = some n →
    fs'.root.look x = some n ∨ n.isFile = true ∧ ∃ m, fs'.root.look x = some m ∧ m.isFile = true
  made : ∀ {x n}, fs'.root.look x = some n →
    fs.root.look x = some n ∨ n = .emptyDirectory ∨ n.isFile = true

variable {fs fs' fs'' : FileSystem} {dest p : Path} {place there names : List Bytes}

namespace Grown

theorem refl (fs : FileSystem) : Grown fs fs := ⟨rfl, Or.inl, Or.inl⟩

theorem trans (first : Grown fs fs') (second : Grown fs' fs'') : Grown fs fs'' where
  workingDirectory := second.workingDirectory.trans first.workingDirectory
  kept := by
    intro x n found
    rcases first.kept found with same | ⟨file, m, found, file'⟩
    · exact second.kept same
    · rcases second.kept found with same | ⟨-, other⟩
      · exact Or.inr ⟨file, m, same, file'⟩
      · exact Or.inr ⟨file, other⟩
  made := by
    intro x n found
    rcases second.made found with same | new
    · exact first.made same
    · exact Or.inr new

theorem look_directory (h : Grown fs fs') (here : fs.root.look place = some .emptyDirectory) :
    fs'.root.look place = some .emptyDirectory := by
  rcases h.kept here with same | ⟨file, -⟩
  · exact same
  · cases file

theorem look_link {target : Path} (h : Grown fs fs')
    (here : fs.root.look place = some (.link target)) :
    fs'.root.look place = some (.link target) := by
  rcases h.kept here with same | ⟨file, -⟩
  · exact same
  · cases file

/-- No link is new. -/
theorem look_link_iff {target : Path} (h : Grown fs fs') :
    fs'.root.look place = some (.link target) ↔ fs.root.look place = some (.link target) := by
  refine ⟨fun found => ?_, h.look_link⟩
  rcases h.made found with same | new | file
  · exact same
  · cases new
  · cases file

end Grown

/-- Names lead where they led before. -/
theorem Leads.grown {links links' : Nat} {todo : List Bytes} (h : Grown fs fs')
    (led : Leads fs.root links there todo links' place) :
    Leads fs'.root links there todo links' place := by
  induction led with
  | done => exact .done _ _
  | dot here _ ih => exact .dot (h.look_directory here) ih
  | up here _ ih => exact .up (h.look_directory here) ih
  | down dot dotDot short here found plain _ ih =>
    rcases h.kept found with same | ⟨-, m, same, file⟩
    · exact .down dot dotDot short (h.look_directory here) same plain ih
    · refine .down dot dotDot short (h.look_directory here) same ?_ ih
      rintro target rfl
      cases file
  | link dot dotDot short here found _ ih =>
    exact .link dot dotDot short (h.look_directory here) (h.look_link found) ih

/-- Names lead to one place only. -/
theorem Leads.unique {root : Node} {links links' links₁ : Nat} {todo place₁ : List Bytes}
    (led : Leads root links there todo links' place)
    (led₁ : Leads root links there todo links₁ place₁) : place = place₁ := by
  induction led with
  | done =>
    cases led₁
    rfl
  | dot _ _ ih =>
    cases led₁ with
    | dot _ next => exact ih next
    | down dot => exact absurd rfl dot
    | link dot => exact absurd rfl dot
  | up _ _ ih =>
    cases led₁ with
    | up _ next => exact ih next
    | down _ dotDot => exact absurd rfl dotDot
    | link _ dotDot => exact absurd rfl dotDot
  | down dot dotDot _ _ found plain _ ih =>
    cases led₁ with
    | dot => exact absurd rfl dot
    | up => exact absurd rfl dotDot
    | down _ _ _ _ _ _ next => exact ih next
    | link _ _ _ _ link _ => exact absurd (Option.some.inj (found.symm.trans link)) (plain _)
  | link dot dotDot _ _ found _ ih =>
    cases led₁ with
    | dot => exact absurd rfl dot
    | up => exact absurd rfl dotDot
    | down _ _ _ _ other plain _ =>
        exact absurd (Option.some.inj (other.symm.trans found)) (plain _)
    | link _ _ _ _ same next =>
      cases found.symm.trans same
      exact ih next

/-- The names of a path lead to a place. -/
def Reaches (fs : FileSystem) (p : Path) (place : List Bytes) : Prop :=
  ∃ links, Leads fs.root maxLinks (if p.isAbsolute then [] else fs.workingDirectory) (segments p)
    links place

theorem Reaches.grown (h : Grown fs fs') (reached : fs.Reaches p place) : fs'.Reaches p place := by
  obtain ⟨links, led⟩ := reached
  rw [Reaches, h.workingDirectory]
  exact ⟨links, led.grown h⟩

theorem Reaches.unique {place₁ : List Bytes} (reached : fs.Reaches p place)
    (reached₁ : fs.Reaches p place₁) : place = place₁ := by
  obtain ⟨links, led⟩ := reached
  obtain ⟨links₁, led₁⟩ := reached₁
  exact led.unique led₁

/-- No link stands below a place. -/
def Unlinked (fs : FileSystem) (place : List Bytes) : Prop :=
  ∀ more, more ≠ [] → ∀ target, fs.root.look (place ++ more) ≠ some (.link target)

/-- Where a path leads at once, it leads later, so that it is enough to know of no links there. -/
theorem Unlinked.of_reaches (h : Grown fs fs') (reached : fs.Reaches p there)
    (unlinked : fs.Unlinked there) (later : fs'.Reaches p place) : fs.Unlinked place :=
  (reached.grown h).unique later ▸ unlinked

theorem Unlinked.grown (h : Grown fs fs') (unlinked : fs.Unlinked place) : fs'.Unlinked place :=
  fun more further target found => unlinked more further target (h.look_link_iff.1 found)

/-- Where there are no links, plain names lead to the place that they name. -/
theorem Unlinked.place_eq {links links' : Nat} (unlinked : fs.Unlinked there)
    (plain : ∀ n ∈ names, Plain n) (front : List Bytes)
    (led : Leads fs.root links (there ++ front) names links' place) :
    place = there ++ (front ++ names) := by
  induction names generalizing front links with
  | nil =>
    cases led
    rw [List.append_nil]
  | cons name names ih =>
    have first := plain name (by simp)
    obtain ⟨-, -, -, next⟩ := led.of_plain first.dot first.dotDot fun target => by
      rw [List.append_assoc]
      exact unlinked _ (by simp) target
    rw [List.append_assoc] at next
    have := ih (fun n hn => plain n (by simp [hn])) (front ++ [name]) next
    rwa [List.append_assoc, List.singleton_append] at this

/-- A path below another one leads on from where that one leads. -/
theorem Reaches.below (reached : fs.Reaches p place) (further : names ≠ [])
    (spelled : Path.components p = Path.components dest ++ names.map .name) :
    ∃ there links links', fs.Reaches dest there ∧ Leads fs.root links there names links' place := by
  obtain ⟨links', led⟩ := reached
  have names_eq := Path.undotted_of_components spelled
  have led := led.undotted
  rw [names_eq, Path.isAbsolute_of_components spelled] at led
  obtain ⟨links₁, there, first, second⟩ := led.split _ _ rfl
  have directory := second.directory further
  exact ⟨there, links₁, links', ⟨links₁, (Leads.undotted_iff directory).1 first⟩, second⟩

end FileSystem

end Northbound
