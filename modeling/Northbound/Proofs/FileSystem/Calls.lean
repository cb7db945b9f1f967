import Northbound.Proofs.FileSystem.Files
import Northbound.Proofs.FileSystem.Growth

/-!
# Calls that make and change files

What operations do to a file system is done by successful calls: a directory is made, a file is
written, its mode is set. A call changes what is seen at its one place, which is where its path
leads afterwards. `Only` says of an operation that it does nothing but calls of some kind.
-/

namespace Northbound

namespace FileSystem

open Northbound.Path (segments)

/-- A call that succeeded, with its path and the place where it did its work. -/
inductive Call where
  | makeDirectory (path : Path) (place : List Bytes)
  /-- Makes or empties a file and writes its content. -/
  | writeFile (path : Path) (place : List Bytes) (content : Bytes)
  | setMode (path : Path) (place : List Bytes) (mode : Nat)
deriving DecidableEq, Repr

namespace Call

def path : Call → Path
  | makeDirectory p _ => p
  | writeFile p _ _ => p
  | setMode p _ _ => p

def place : Call → List Bytes
  | makeDirectory _ place => place
  | writeFile _ place _ => place
  | setMode _ place _ => place

/-- What a call does to a file system in which it succeeds. -/
inductive Does : Call → FileSystem → FileSystem → Prop
  | makeDirectory {p : Path} {place : List Bytes} {fs : FileSystem}
      (free : fs.newDirectory p = .ok place) :
      Does (makeDirectory p place) fs (fs.put place .emptyDirectory)
  | writeFile {p : Path} {place : List Bytes} {content : Bytes} {fs fs₁ fs' : FileSystem}
      (opened : createFile p fs = (.ok place, fs₁))
      (written : writeAt place content fs₁ = (.ok (), fs')) :
      Does (writeFile p place content) fs fs'
  | setMode {p : Path} {place : List Bytes} {mode : Nat} {fs : FileSystem} {content : Bytes}
      {a : FileAttributes} (found : fs.resolve p = .ok (place, .file content a)) :
      Does (setMode p place mode) fs (fs.put place (.file content { a with mode }))

end Call

/-- Calls one after the other. -/
inductive Calls : FileSystem → List Call → FileSystem → Prop
  | nil (fs : FileSystem) : Calls fs [] fs
  | cons {fs fs₁ fs' : FileSystem} {c : Call} {cs : List Call} (first : c.Does fs fs₁)
      (rest : Calls fs₁ cs fs') : Calls fs (c :: cs) fs'

section Paths

variable {fs : FileSystem} {p : Path} {found : Place} {follow : Bool}

theorem eq_replicate_of_all {bs : Bytes} (h : bs.all (· == Path.slash) = true) :
    bs = List.replicate bs.length Path.slash :=
  List.eq_replicate_of_mem fun b hb => by simpa using List.all_eq_true.1 h b hb

/-- Only slashes are taken off at the end of a path, and the root is left. -/
theorem exists_withoutEndSlashes (p : Path) :
    ∃ k, p = withoutEndSlashes p ++ List.replicate k Path.slash ∧
      (withoutEndSlashes p = [] → p = []) := by
  unfold withoutEndSlashes
  split
  next slashes =>
    cases p with
    | nil => exact ⟨0, rfl, fun _ => rfl⟩
    | cons b rest =>
      rw [List.all_cons, Bool.and_eq_true] at slashes
      refine ⟨rest.length, ?_, fun h => by simp at h⟩
      conv => lhs; rw [eq_replicate_of_all slashes.2]
      rfl
  next other =>
    have shape := List.takeWhile_append_dropWhile (p := (· == Path.slash)) (l := p.reverse)
    have slashes := List.all_takeWhile (p := (· == Path.slash)) (l := p.reverse)
    refine ⟨(p.reverse.takeWhile (· == Path.slash)).length, ?_, fun h => ?_⟩
    · rw [← List.reverse_replicate, ← eq_replicate_of_all slashes, ← List.reverse_append, shape,
        List.reverse_reverse]
    · rw [List.reverse_eq_nil_iff.1 h, List.append_nil] at shape
      rw [shape, List.all_reverse] at slashes
      exact absurd slashes other

theorem segments_append_slashes (p : Path) (k : Nat) :
    segments (p ++ List.replicate k Path.slash) = segments p := by
  induction k with
  | zero => rw [List.replicate_zero, List.append_nil]
  | succ k ih =>
    have empty : segments [] = [] := rfl
    rw [List.replicate_succ', ← List.append_assoc, Path.segments_append_slash, ih, empty,
      List.append_nil]

theorem segments_withoutEndSlashes (p : Path) : segments (withoutEndSlashes p) = segments p := by
  obtain ⟨k, shape, -⟩ := exists_withoutEndSlashes p
  conv => rhs; rw [shape, segments_append_slashes]

theorem isAbsolute_withoutEndSlashes (p : Path) :
    (withoutEndSlashes p).isAbsolute = p.isAbsolute := by
  obtain ⟨k, shape, nonempty⟩ := exists_withoutEndSlashes p
  by_cases empty : withoutEndSlashes p = []
  · rw [empty, nonempty empty]
  · conv => rhs; rw [shape, Path.isAbsolute_append empty]

/-- A path that is found is found by a walk along its names. -/
theorem walk_of_locate (h : fs.locate follow p = .ok found) :
    walk fs.root follow maxLinks (if p.isAbsolute then [] else fs.workingDirectory) (segments p)
      p.endsInSlash = .ok found := by
  unfold locate at h
  split at h
  · cases h
  · split at h
    · cases h
    · split at h
      · cases h
      · exact h

end Paths

/-- A node was put at a place: a directory where nothing was, or a file where nothing or a file
was. -/
structure Sets (fs : FileSystem) (place : List Bytes) (n : Node) (fs' : FileSystem) : Prop where
  workingDirectory : fs'.workingDirectory = fs.workingDirectory
  kind : n = .emptyDirectory ∨ n.isFile = true
  before : fs.root.look place = none ∨
    n.isFile = true ∧ ∃ m, fs.root.look place = some m ∧ m.isFile = true
  look : ∀ x, fs'.root.look x = if x = place then some n else fs.root.look x

section Sets

variable {fs fs₁ fs' : FileSystem} {place : List Bytes} {n : Node}

theorem Sets.look_place (h : Sets fs place n fs') : fs'.root.look place = some n := by
  rw [h.look, if_pos rfl]

theorem Sets.not_link (h : Sets fs place n fs') (target : Path) : n ≠ .link target := by
  rintro rfl
  rcases h.kind with other | other <;> cases other

theorem Sets.grown (h : Sets fs place n fs') : Grown fs fs' where
  workingDirectory := h.workingDirectory
  kept := by
    intro x m found
    rw [h.look]
    split
    next same =>
      subst same
      rcases h.before with none_ | ⟨file, old, found', file'⟩
      · rw [none_] at found
        cases found
      · rw [found] at found'
        cases found'
        exact Or.inr ⟨file', n, rfl, file⟩
    next => exact Or.inl found
  made := by
    intro x m found
    rw [h.look] at found
    split at found
    · cases found
      exact Or.inr h.kind
    · exact Or.inl found

/-- A file that was put is replaced. -/
theorem Sets.again {m : Node} (first : Sets fs place n fs₁) (second : Sets fs₁ place m fs')
    (file : m.isFile = true) : Sets fs place m fs' where
  workingDirectory := second.workingDirectory.trans first.workingDirectory
  kind := Or.inr file
  before := by
    rcases first.before with none_ | ⟨-, old⟩
    · exact Or.inl none_
    · exact Or.inr ⟨file, old⟩
  look := by
    intro x
    rw [second.look, first.look]
    split <;> rfl

/-- A node without children that is put where nothing or a file was changes what is seen at its
place only. -/
theorem look_put_leaf {t : Node} (placeable : t.Placeable place) (free : Free t place)
    (leaf : n.children = []) (x : List Bytes) :
    (n.put place t).look x = if x = place then some n.bare else t.look x := by
  rw [Node.look_put placeable]
  split
  next below =>
    obtain ⟨more, rfl⟩ := below
    rw [List.drop_left]
    cases more with
    | nil => rw [List.append_nil, if_pos rfl, Node.look_nil]
    | cons name more =>
      rw [Node.look_cons, leaf, if_neg (by simp),
        look_below_free free (List.prefix_append _ _) (by simp)]
      rfl
  next apart =>
    rw [if_neg]
    rintro rfl
    exact apart (List.prefix_refl _)

theorem sets_directory (placeable : fs.root.Placeable place) (free : fs.root.look place = none) :
    Sets fs place .emptyDirectory (fs.put place .emptyDirectory) :=
  ⟨rfl, Or.inl rfl, Or.inl free, look_put_leaf placeable (Or.inl free) rfl⟩

theorem sets_file (placeable : fs.root.Placeable place) (free : Free fs.root place)
    (content : Bytes) (a : FileAttributes) :
    Sets fs place (.file content a) (fs.put place (.file content a)) := by
  refine ⟨rfl, Or.inr rfl, ?_, look_put_leaf placeable free rfl⟩
  rcases free with none_ | ⟨content, a, file⟩
  · exact Or.inl none_
  · exact Or.inr ⟨rfl, _, file, rfl⟩

/-- A file is put in place of another one. -/
theorem sets_file_of_get? {old : Bytes} {b : FileAttributes}
    (get : fs.root.get? place = some (.file old b)) (content : Bytes) (a : FileAttributes) :
    Sets fs place (.file content a) (fs.put place (.file content a)) :=
  sets_file (Node.placeable_of_get? get) (Or.inr ⟨old, b, by rw [Node.look, get]; rfl⟩) content a

end Sets

section Does

variable {fs fs₁ fs' : FileSystem} {p : Path} {place : List Bytes} {c : Call}

/-- Where a path finds a free place, that is where it leads once something stands there. -/
theorem Reaches.of_absent {n : Node} {directory : List Bytes} {name : Bytes} {follow : Bool}
    (located : fs.locate follow (withoutEndSlashes p) = .ok (.absent directory name))
    (set : Sets fs (directory ++ [name]) n fs') : fs'.Reaches p (directory ++ [name]) := by
  have walked := walk_of_locate located
  rw [segments_withoutEndSlashes, isAbsolute_withoutEndSlashes] at walked
  rw [Reaches, set.workingDirectory]
  refine leads_of_walk_absent ?_ walked set.look_place set.not_link
  intro x m found
  rw [set.look, if_neg, found]
  rintro rfl
  rw [(look_of_walk_absent walked).2] at found
  cases found

/-- A new directory stands where its path leads. -/
theorem newDirectory_sets (h : fs.newDirectory p = .ok place) :
    Sets fs place .emptyDirectory (fs.put place .emptyDirectory) ∧
      (fs.put place .emptyDirectory).Reaches p place := by
  unfold newDirectory at h
  split at h
  next directory name located =>
    cases h
    obtain ⟨here, free⟩ := look_of_walk_absent (walk_of_locate located)
    have set := sets_directory (placeable_of_look here) free
    exact ⟨set, .of_absent located set⟩
  · cases h
  · cases h

theorem createFile_apply (p : Path) (fs : FileSystem) :
    createFile p fs = match fs.locate true (withoutEndSlashes p) with
      | .error e => (.error e, fs)
      | .ok (.absent directory name) =>
        if Path.endsInSlash p then (.error .isDirectory, fs)
        else (.ok (directory ++ [name]), fs.put (directory ++ [name]) (.file [] {}))
      | .ok (.present names) =>
        match fs.root.get? names with
        | some (.file _ a) =>
          if Path.endsInSlash p then (.error .isDirectory, fs)
          else (.ok names, fs.put names (.file [] a))
        | some (.directory _ _) => (.error .isDirectory, fs)
        | _ => (.error .noDevice, fs) := by
  rw [createFile, Action.bind_of_ok (Action.get_apply _)]
  rcases fs.locate true (withoutEndSlashes p) with e | place | ⟨directory, name⟩
  · rfl
  · simp only
    rcases fs.root.get? place with _ | ⟨content, a⟩ | _ | _ | _
    · rfl
    · simp only
      split <;> rfl
    · rfl
    · rfl
    · rfl
  · simp only
    split <;> rfl

/-- A file that is opened for writing is empty, and stands where its path leads. -/
theorem createFile_sets (h : createFile p fs = (.ok place, fs')) :
    ∃ a, fs'.root.get? place = some (.file [] a) ∧ Sets fs place (.file [] a) fs' ∧
      fs'.Reaches p place := by
  rw [createFile_apply] at h
  split at h
  · cases h
  next directory name located =>
    split at h
    · cases h
    · cases h
      obtain ⟨here, free⟩ := look_of_walk_absent (walk_of_locate located)
      have placeable : fs.root.Placeable (directory ++ [name]) := placeable_of_look here
      have set := sets_file placeable (Or.inl free) [] {}
      exact ⟨{}, Node.get?_put_self placeable _, set, .of_absent located set⟩
  next names located =>
    split at h
    next content a get =>
      split at h
      · cases h
      · cases h
        have set := sets_file_of_get? get [] a
        obtain ⟨links, led⟩ := leads_of_walk (walk_of_locate located)
        rw [segments_withoutEndSlashes, isAbsolute_withoutEndSlashes] at led
        exact ⟨a, Node.get?_put_self (Node.placeable_of_get? get) _, set,
          Reaches.grown set.grown ⟨links, led⟩⟩
    · cases h
    · cases h

theorem writeAt_sets {content old : Bytes} {a : FileAttributes}
    (get : fs.root.get? place = some (.file old a))
    (h : writeAt place content fs = (.ok (), fs')) : Sets fs place (.file content a) fs' := by
  rw [writeAt, Action.modify_apply] at h
  simp only [get] at h
  cases h
  exact sets_file_of_get? get content a

/-- A call changes what is seen at its place only, and that is where its path leads afterwards. -/
theorem Call.Does.sets (h : c.Does fs fs') :
    ∃ n, Sets fs c.place n fs' ∧ fs'.Reaches c.path c.place := by
  cases h with
  | makeDirectory free => exact ⟨_, newDirectory_sets free⟩
  | writeFile opened written =>
    obtain ⟨a, get, first, reached⟩ := createFile_sets opened
    have second := writeAt_sets get written
    exact ⟨_, first.again second rfl, reached.grown second.grown⟩
  | setMode found =>
    obtain ⟨-, -, get, reached⟩ := leads_of_resolve found
    exact ⟨_, sets_file_of_get? get _ _, Reaches.grown (sets_file_of_get? get _ _).grown reached⟩

theorem Call.Does.grown (h : c.Does fs fs') : Grown fs fs' := by
  obtain ⟨n, set, -⟩ := h.sets
  exact set.grown

end Does

namespace Calls

variable {fs fs₁ fs' : FileSystem} {c : Call} {cs cs' : List Call}

theorem one (h : c.Does fs fs') : Calls fs [c] fs' := .cons h (.nil _)

theorem append (first : Calls fs cs fs₁) (second : Calls fs₁ cs' fs') :
    Calls fs (cs ++ cs') fs' := by
  induction first with
  | nil => exact second
  | cons done _ ih => exact .cons done (ih second)

theorem grown (h : Calls fs cs fs') : Grown fs fs' := by
  induction h with
  | nil => exact .refl _
  | cons done _ ih => exact done.grown.trans ih

/-- In the end, the path of every call leads to its place. -/
theorem reaches (h : Calls fs cs fs') : ∀ c ∈ cs, fs'.Reaches c.path c.place := by
  induction h with
  | nil => simp
  | cons done rest ih =>
    intro c hc
    rcases List.mem_cons.1 hc with rfl | hc
    · obtain ⟨n, -, reached⟩ := done.sets
      exact reached.grown rest.grown
    · exact ih c hc

/-- Where no call has its place, nothing changes, and what they leave at their places are
directories and files. -/
theorem look (h : Calls fs cs fs') (x : List Bytes) :
    fs'.root.look x = fs.root.look x ∨
      ∃ c ∈ cs, c.place = x ∧ ∃ n, fs'.root.look x = some n ∧
        (n = .emptyDirectory ∨ n.isFile = true) := by
  induction h with
  | nil => exact Or.inl rfl
  | @cons fs fs₁ fs' c cs done rest ih =>
    rcases ih with same | ⟨d, hd, change⟩
    · obtain ⟨n, set, -⟩ := done.sets
      by_cases there : x = c.place
      · subst there
        exact Or.inr ⟨c, by simp, rfl, n, by rw [same, set.look_place], set.kind⟩
      · exact Or.inl (by rw [same, set.look, if_neg there])
    · exact Or.inr ⟨d, by simp [hd], change⟩

end Calls

section Only

variable {ε α β : Type} {Q : Call → Prop} {V : α → Prop} {W : β → Prop} {p : Path}
  {fs fs' : FileSystem}

/-- Whatever comes of an operation, all it has done to the files is calls that satisfy `Q`, and if
it yields a value, that satisfies `V`. -/
def Only (Q : Call → Prop) (V : α → Prop) (action : Action ε FileSystem α) : Prop :=
  ∀ ⦃fs fs' : FileSystem⦄ ⦃r : Except ε α⦄, action fs = (r, fs') →
    (∃ cs, Calls fs cs fs' ∧ ∀ c ∈ cs, Q c) ∧ ∀ x, r = .ok x → V x

theorem only_pure {x : α} (h : V x) : Only Q V (pure x : Action ε FileSystem α) := by
  intro fs fs' r ran
  cases ran
  exact ⟨⟨[], .nil _, by simp⟩, fun y same => by cases same; exact h⟩

theorem only_throw (e : ε) : Only Q V (throw e : Action ε FileSystem α) := by
  intro fs fs' r ran
  cases ran
  exact ⟨⟨[], .nil _, by simp⟩, fun y same => by cases same⟩

theorem Only.bind {action : Action ε FileSystem α} {next : α → Action ε FileSystem β}
    (first : Only Q V action) (second : ∀ x, V x → Only Q W (next x)) :
    Only Q W (action >>= next) := by
  intro fs fs' r ran
  rw [Action.bind_apply] at ran
  rcases one : action fs with ⟨e | x, fs₁⟩
  · rw [one] at ran
    cases ran
    exact ⟨(first one).1, fun y same => by cases same⟩
  · rw [one] at ran
    obtain ⟨⟨cs, done, allowed⟩, value⟩ := first one
    obtain ⟨⟨cs', done', allowed'⟩, value'⟩ := second x (value x rfl) ran
    refine ⟨⟨cs ++ cs', done.append done', fun c hc => ?_⟩, value'⟩
    rcases List.mem_append.1 hc with hc | hc
    · exact allowed c hc
    · exact allowed' c hc

theorem only_ensureDirectory (h : ∀ place, Q (.makeDirectory p place)) :
    Only Q (fun _ => True) (ensureDirectory p) := by
  intro fs fs' r ran
  refine ⟨?_, fun _ _ => trivial⟩
  rw [ensureDirectory_apply] at ran
  cases new : fs.newDirectory p with
  | ok place =>
    rw [new] at ran
    cases ran
    exact ⟨[.makeDirectory p place], .one (.makeDirectory new), by simpa using h place⟩
  | error e =>
    rw [new] at ran
    simp only at ran
    split at ran
    · cases ran
      exact ⟨[], .nil _, by simp⟩
    · cases ran
      exact ⟨[], .nil _, by simp⟩

/-- Paths of directories that are made on the way are found by going up. -/
theorem only_makeParents {P : Path → Prop} (up : ∀ {p q}, P p → Path.parent? p = some q → P q)
    (h : ∀ p place, P p → Q (.makeDirectory p place)) (fuel : Nat) (start : P p) :
    Only Q (fun _ => True) (makeParents fuel p) := by
  induction fuel generalizing p with
  | zero => exact only_throw _
  | succ fuel ih =>
    intro fs fs' r ran
    by_cases empty : p = []
    · rw [makeParents, if_pos (List.isEmpty_iff.2 empty)] at ran
      exact only_pure trivial ran
    · by_cases missing : fs.newDirectory p = .error .noEntry
      · cases parent : Path.parent? p with
        | none =>
          rw [makeParents, if_neg (by simpa using empty), Action.bind_of_ok (Action.get_apply _),
            missing] at ran
          simp only [parent] at ran
          exact only_throw _ ran
        | some q =>
          rw [makeParents_of_missing empty missing parent] at ran
          exact (ih (up start parent)).bind
            (fun _ _ => only_ensureDirectory fun place => h p place start) ran
      · rw [makeParents_of_not_missing empty missing] at ran
        exact only_ensureDirectory (fun place => h p place start) ran

theorem only_makeDirectories {P : Path → Prop}
    (up : ∀ {p q}, P p → Path.parent? p = some q → P q)
    (h : ∀ p place, P p → Q (.makeDirectory p place)) (start : P p) :
    Only Q (fun _ => True) (makeDirectories p) :=
  only_makeParents up h _ start

theorem createFile_error {e : FileError} (h : createFile p fs = (.error e, fs')) : fs' = fs := by
  rw [createFile_apply] at h
  repeat' split at h
  all_goals cases h <;> rfl

theorem only_setMode {mode : Nat} (h : ∀ place, Q (.setMode p place mode)) :
    Only Q (fun _ => True) (setMode p mode) := by
  intro fs fs' r ran
  refine ⟨?_, fun _ _ => trivial⟩
  rw [setMode, Action.bind_of_ok (Action.get_apply _)] at ran
  rcases found : fs.resolve p with e | ⟨place, n⟩
  · rw [found] at ran
    cases ran
    exact ⟨[], .nil _, by simp⟩
  · rw [found] at ran
    cases n with
    | file content a =>
      cases ran
      exact ⟨[.setMode p place mode], .one (.setMode found), by simpa using h place⟩
    | _ =>
      cases ran
      exact ⟨[], .nil _, by simp⟩

end Only

end FileSystem

end Northbound
