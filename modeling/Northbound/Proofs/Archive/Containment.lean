import Northbound.Proofs.Archive.RelativePath
import Northbound.Proofs.Archive.TargetPath
import Northbound.Proofs.Archive.UnpackedTree
import Northbound.Proofs.FileSystem.Calls
import Northbound.Proofs.FileSystem.LegalTree
import Northbound.Proofs.Tar.Progress

/-!
# Extraction stays inside its destination

Extracting a stream, whatever its bytes are, is told as a course: the members that are read one by
one, and the calls that each of them leads to. `Contained` bounds the calls of a member by their
paths, which lead from the destination through one name or more; only the destination and the
directories above it are made besides. Main statement: every extraction below a destination takes
such a course, and where no link stands below the destination, what it makes and changes stands
below it as well.
-/

namespace Northbound

namespace Tarball

open FileSystem
open Northbound.Path (Plain components)

/-- A path that leads on from a destination through one name or more. -/
structure Extends (dest : Path) (names : List Bytes) (p : Path) : Prop where
  further : names ≠ []
  plain : ∀ n ∈ names, Plain n
  shape : components p = components dest ++ names.map .name

/-- A path below a destination. -/
def Below (dest p : Path) : Prop := ∃ names, Extends dest names p

/-- What may be done for a member of an archive that is extracted below a destination. -/
inductive Contained (dest : Path) (m : Tar.Member) : Call → Prop
  /-- Besides directories below the destination, only itself and those above it are made. -/
  | makeDirectory {p : Path} {place : List Bytes} (kind : m.kind = .directory ∨ m.kind = .regular)
      (inside : Below dest p ∨ components p <+: components dest) :
      Contained dest m (.makeDirectory p place)
  | writeFile {p : Path} {place : List Bytes} {content : Bytes} (kind : m.kind = .regular)
      (below : Below dest p) : Contained dest m (.writeFile p place content)
  | setMode {p : Path} {place : List Bytes} {mode given : Nat} (kind : m.kind = .regular)
      (below : Below dest p) (header : m.mode = .ok given) (masked : mode = given &&& 0o777)
      (small : mode ≤ 0o777) : Contained dest m (.setMode p place mode)

/-- The archive behind a member: what was read of its data is the content of its file. -/
def behind (m : Tar.Member) (a : Tar.Archive) : Tar.Archive :=
  if m.kind = .regular then (a.supply m.size).2 else a

/-- The course of an extraction from a place in the archive on: the members that are read with the
calls made for each, the result, and what it leaves behind. -/
inductive Course (dest : Path) : Tar.Archive → FileSystem → List (Tar.Member × List Call) →
    Except ArchiveError Unit → FileSystem → Prop
  | ended {a a' : Tar.Archive} {fs : FileSystem} (read : Tar.Reader.member? a = (.ok none, a')) :
      Course dest a fs [] (.ok ()) fs
  | broken {a a' : Tar.Archive} {fs : FileSystem} {f : Tar.Fault}
      (read : Tar.Reader.member? a = (.error f, a')) : Course dest a fs [] (.error (.stream f)) fs
  /-- A path that climbs, or has no names, ends the extraction before anything is done for it. -/
  | refused {a a' : Tar.Archive} {fs : FileSystem} {m : Tar.Member}
      (read : Tar.Reader.member? a = (.ok (some m), a'))
      (bad : .parent ∈ components m.path ∨ ∀ s, .name s ∉ components m.path) :
      Course dest a fs [(m, [])] (.error (.invalidPath m.path)) fs
  /-- What was done for a member before it failed stands. -/
  | failed {a a' : Tar.Archive} {fs fs' : FileSystem} {m : Tar.Member} {cs : List Call}
      {e : ArchiveError} (read : Tar.Reader.member? a = (.ok (some m), a'))
      (ordinary : .parent ∉ components m.path) (calls : Calls fs cs fs')
      (contained : ∀ c ∈ cs, Contained dest m c) : Course dest a fs [(m, cs)] (.error e) fs'
  | next {a a' : Tar.Archive} {fs fs₁ fs' : FileSystem} {m : Tar.Member} {cs : List Call}
      {steps : List (Tar.Member × List Call)} {r : Except ArchiveError Unit}
      (read : Tar.Reader.member? a = (.ok (some m), a'))
      (ordinary : .parent ∉ components m.path) (calls : Calls fs cs fs₁)
      (contained : ∀ c ∈ cs, Contained dest m c)
      (rest : Course dest (behind m a') fs₁ steps r fs') :
      Course dest a fs ((m, cs) :: steps) r fs'

/-- All calls of a course. -/
def allCalls (steps : List (Tar.Member × List Call)) : List Call := steps.flatMap Prod.snd

section Targets

variable {dest p q target : Path}

/-- Why a member has no place. -/
theorem targetPath_eq_error {e : ArchiveError} (h : targetPath dest p = .error e) :
    e = .invalidPath p ∧ (.parent ∈ components p ∨ ∀ s, .name s ∉ components p) := by
  unfold targetPath at h
  split at h
  · cases h
  · rw [ordinaryNames_eq] at h
    split at h
    next climbs =>
      cases h
      split at climbs
      next up => exact ⟨rfl, Or.inl up⟩
      next => cases climbs
    next none_ =>
      cases h
      refine ⟨rfl, Or.inr fun s mem => ?_⟩
      split at none_
      · cases none_
      · have := List.flatMap_eq_nil_iff.1 (Option.some.inj none_) _ mem
        cases this
    · cases h

theorem not_climbing (nonempty : dest ≠ []) (h : targetPath dest p = .ok target) :
    .parent ∉ components p := by
  intro climbs
  have start : dest.isEmpty = false := by simpa using nonempty
  simp only [targetPath, start, Bool.false_eq_true, if_false, ordinaryNames_eq, if_pos climbs] at h
  cases h

/-- The place of a member is below the destination. -/
theorem below_target (nonempty : dest ≠ []) (h : targetPath dest p = .ok target) :
    Below dest target := by
  obtain ⟨plain, further, rfl⟩ := (targetPath_eq_ok_iff nonempty).1 h
  refine ⟨_, further, plain, ?_⟩
  rw [← Path.foldl_join (Path.unslashed_of_plain plain) further,
    components_foldl_join nonempty plain]

/-- Above a path below the destination, there are such paths, and then those of the destination
and above. -/
theorem inside_parent (inside : Below dest p ∨ components p <+: components dest)
    (parent : Path.parent? p = some q) : Below dest q ∨ components q <+: components dest := by
  have shorter := Path.components_of_parent? parent
  rcases inside with ⟨names, further, plain, shape⟩ | above
  · rw [shape, List.dropLast_append_of_ne_nil (by simpa using further), ← List.map_dropLast]
      at shorter
    by_cases last : names.dropLast = []
    · rw [shorter, last]
      exact Or.inr (by simp)
    · exact Or.inl ⟨_, last, fun n hn => plain n ((List.dropLast_sublist _).subset hn), shorter⟩
  · rw [shorter]
    exact Or.inr ((List.dropLast_prefix _).trans above)

end Targets

section Members

variable {α : Type} {dest target : Path} {m : Tar.Member} {a : Tar.Archive} {Q : Call → Prop}
  {V : α → Prop}

theorem only_onFiles {action : FileAction α} (h : Only Q V action) : Only Q V (onFiles action) := by
  intro fs fs' r ran
  rw [onFiles_apply] at ran
  rcases one : action fs with ⟨e | x, fs₁⟩
  · rw [one] at ran
    cases ran
    exact ⟨(h one).1, fun _ same => by cases same⟩
  · rw [one] at ran
    cases ran
    exact ⟨(h one).1, fun y same => (h one).2 y (by cases same; rfl)⟩

/-- A file that is made is written. -/
theorem only_writeFile {p : Path} {content : Bytes} {next : ExtractAction α}
    (h : ∀ place, Q (.writeFile p place content)) (rest : Only Q V next) :
    Only Q V (onFiles (createFile p) >>= fun place =>
      onFiles (writeAt place content) >>= fun _ => next) := by
  intro fs fs' r ran
  rcases opened : createFile p fs with ⟨e | place, fs₁⟩
  · have failed : onFiles (createFile p) fs = (.error (.file e), fs₁) := by
      rw [onFiles_apply, opened]
      rfl
    rw [Action.bind_of_error failed] at ran
    cases ran
    obtain rfl := createFile_error opened
    exact ⟨⟨[], .nil _, by simp⟩, fun _ same => by cases same⟩
  · rcases written : writeAt place content fs₁ with ⟨r₂, fs₂⟩
    have done : r₂ = .ok () := (congrArg Prod.fst written).symm
    subst done
    rw [Action.bind_of_ok (onFiles_eq_ok_iff.2 opened),
      Action.bind_of_ok (onFiles_eq_ok_iff.2 written)] at ran
    obtain ⟨⟨cs, calls, allowed⟩, value⟩ := rest ran
    refine ⟨⟨.writeFile p place content :: cs, .cons (.writeFile opened written) calls, ?_⟩, value⟩
    intro c hc
    rcases List.mem_cons.1 hc with rfl | hc
    · exact h place
    · exact allowed c hc

theorem only_makeParent (h : ∀ parent, Path.parent? target = some parent →
    Only Q (fun _ => True) (makeDirectories parent)) :
    Only Q (fun _ => True) (makeParent target) := by
  unfold makeParent
  split
  next parent above =>
    split
    · exact only_pure trivial
    · exact only_onFiles (h parent above)
  · exact only_pure trivial

/-- Directories that are made on the way to a place below the destination are contained. -/
theorem only_makeDirectories_contained {p : Path} (kind : m.kind = .directory ∨ m.kind = .regular)
    (inside : Below dest p ∨ components p <+: components dest) :
    Only (Contained dest m) (fun _ => True) (makeDirectories p) :=
  only_makeDirectories inside_parent (fun _ _ inside => .makeDirectory kind inside) inside

theorem only_extractFile (kind : m.kind = .regular) (below : Below dest target) :
    Only (Contained dest m) (· = behind m a) (extractFile m target a) := by
  have after : behind m a = (a.supply m.size).2 := if_pos kind
  unfold extractFile
  rw [after]
  rcases a.supply m.size with ⟨⟨content, failure?⟩, a'⟩
  refine Eq.subst (motive := Only _ _) (makeParent_bind target _).symm ?_
  have above : Only (Contained dest m) (fun _ => True) (makeParent target) :=
    only_makeParent fun parent above =>
      only_makeDirectories_contained (Or.inr kind) (inside_parent (Or.inl below) above)
  refine above.bind fun _ _ => only_writeFile (fun place => .writeFile kind below) ?_
  cases failure? with
  | some reason => exact only_throw _
  | none =>
    cases header : m.mode with
    | error f => exact only_throw _
    | ok given =>
      refine (only_onFiles (only_setMode fun place => ?_)).bind fun _ _ => only_pure rfl
      have masked : permissionBits given = given &&& 0o777 :=
        (Nat.and_two_pow_sub_one_eq_mod given 9).symm
      exact .setMode kind below header masked (masked ▸ Nat.and_le_right)

theorem only_extractMember (below : Below dest target)
    (placed : targetPath dest m.path = .ok target) :
    Only (Contained dest m) (· = behind m a) (extractMember dest m a) := by
  unfold extractMember
  rw [placed]
  cases kind : m.kind with
  | directory =>
    have after : behind m a = a := if_neg (by simp [kind])
    exact (only_onFiles (only_makeDirectories_contained (Or.inl kind) (Or.inl below))).bind
      fun _ _ => only_pure after.symm
  | regular => exact only_extractFile kind below
  | _ => exact only_pure (if_neg (by simp [kind])).symm

end Members

section Course

variable {dest : Path}

theorem memberBound_behind (m : Tar.Member) (a : Tar.Archive) :
    memberBound (behind m a) ≤ memberBound a := by
  unfold behind
  split
  · have : (a.supply m.size).2.left ≤ a.left := by
      have := a.left_supply m.size
      omega
    exact Nat.add_le_add_right (Nat.div_le_div_right this) 2
  · exact Nat.le_refl _

/-- There are rounds enough for all members that can follow. -/
theorem memberBound_lt {m : Tar.Member} {a a' : Tar.Archive}
    (read : Tar.Reader.member? a = (.ok (some m), a')) : memberBound a' < memberBound a := by
  have used : a'.left + Tar.blockSize ≤ a.left := Tar.Reader.uses_member? read
  have : a'.left / Tar.blockSize + 1 = (a'.left + Tar.blockSize) / Tar.blockSize :=
    (Nat.add_div_right _ (by decide)).symm
  have := Nat.div_le_div_right (c := Tar.blockSize) used
  unfold memberBound
  simp only [Tar.Archive.left] at *
  omega

/-- What comes of a member: it is refused and nothing is done, or its calls are contained and the
extraction goes on behind it. -/
theorem extractMember_cases (nonempty : dest ≠ []) {m : Tar.Member} {a : Tar.Archive}
    {fs fs' : FileSystem} {r : Except ArchiveError Tar.Archive}
    (ran : extractMember dest m a fs = (r, fs')) :
    (r = .error (.invalidPath m.path) ∧ fs' = fs ∧
        (.parent ∈ components m.path ∨ ∀ s, .name s ∉ components m.path)) ∨
      (.parent ∉ components m.path ∧ (∃ cs, Calls fs cs fs' ∧ ∀ c ∈ cs, Contained dest m c) ∧
        ∀ a', r = .ok a' → a' = behind m a) := by
  cases placed : targetPath dest m.path with
  | error e =>
    obtain ⟨rfl, bad⟩ := targetPath_eq_error placed
    rw [extractMember, placed] at ran
    cases ran
    exact Or.inl ⟨rfl, rfl, bad⟩
  | ok target =>
    exact Or.inr ⟨not_climbing nonempty placed,
      only_extractMember (below_target nonempty placed) placed ran⟩

/-- From wherever it starts, an extraction with rounds enough takes a course. -/
theorem extractFrom_course (nonempty : dest ≠ []) {fuel : Nat} {a : Tar.Archive}
    (enough : memberBound a ≤ fuel) (fs : FileSystem) :
    ∃ steps, Course dest a fs steps (extractFrom dest fuel a fs).1
      (extractFrom dest fuel a fs).2 := by
  induction fuel generalizing a fs with
  | zero => simp [memberBound] at enough
  | succ fuel ih =>
    rw [extractFrom]
    rcases read : Tar.Reader.member? a with ⟨f | _ | m, a'⟩
    · exact ⟨[], .broken read⟩
    · exact ⟨[], .ended read⟩
    · rcases ran : extractMember dest m a' fs with ⟨e | a₁, fs₁⟩
      · simp only [Action.bind_of_error ran]
        rcases extractMember_cases nonempty ran with ⟨same, rfl, bad⟩ |
          ⟨ordinary, ⟨cs, calls, inside⟩, -⟩
        · cases same
          exact ⟨_, .refused read bad⟩
        · exact ⟨_, .failed read ordinary calls inside⟩
      · simp only [Action.bind_of_ok ran]
        rcases extractMember_cases nonempty ran with ⟨same, -⟩ |
          ⟨ordinary, ⟨cs, calls, inside⟩, value⟩
        · cases same
        · obtain rfl := value a₁ rfl
          have fewer : memberBound (behind m a') ≤ fuel := by
            have := memberBound_behind m a'
            have := memberBound_lt read
            omega
          obtain ⟨steps, rest⟩ := ih fewer fs₁
          exact ⟨_, .next read ordinary calls inside rest⟩

/-- The calls of a course are made one after the other. -/
theorem Course.calls {a : Tar.Archive} {fs fs' : FileSystem}
    {steps : List (Tar.Member × List Call)} {r : Except ArchiveError Unit}
    (course : Course dest a fs steps r fs') : Calls fs (allCalls steps) fs' := by
  induction course with
  | ended => exact .nil _
  | broken => exact .nil _
  | refused => exact .nil _
  | failed _ _ calls _ => simpa [allCalls] using calls
  | next _ _ calls _ _ ih => exact calls.append ih

end Course

/-- Extraction below a destination takes a course in which every member is contained. It has changed
nothing but what its calls made and wrote, each at the place where its path leads in the end. Where
no link stood below the destination, a path below it leads to the place that its names tell. The
destination may have to be made first, so that its place is taken in the end; one that was there at
first has the same place then (`Unlinked.of_reaches`). -/
theorem extract_contained {stream : Bytes} {dest : Path} {fs fs' : FileSystem}
    {r : Except ArchiveError Unit} (nonempty : dest ≠ [])
    (ran : extract stream dest fs = (r, fs')) :
    ∃ steps, Course dest (opened stream) fs steps r fs' ∧
      (∀ x, fs'.root.look x = fs.root.look x ∨ ∃ c ∈ allCalls steps, c.place = x ∧
        ∃ n, fs'.root.look x = some n ∧ (n = .emptyDirectory ∨ n.isFile = true)) ∧
      (∀ c ∈ allCalls steps, fs'.Reaches c.path c.place) ∧
      ((∀ there, fs'.Reaches dest there → fs.Unlinked there) →
        ∀ c ∈ allCalls steps, ∀ names, Extends dest names c.path →
          ∃ there, fs'.Reaches dest there ∧ c.place = there ++ names) := by
  obtain ⟨steps, course⟩ :=
    extractFrom_course nonempty (Nat.le_refl (memberBound (opened stream))) fs
  rw [extract] at ran
  rw [ran] at course
  have calls := course.calls
  refine ⟨steps, course, calls.look, calls.reaches, ?_⟩
  intro unlinked c hc names path
  obtain ⟨there, links, links', reached, led⟩ := (calls.reaches c hc).below path.further path.shape
  have still := (unlinked there reached).grown calls.grown
  rw [← List.append_nil there] at led
  exact ⟨there, reached, still.place_eq path.plain [] led⟩

section Hostile

/-- A program with a set-user-ID bit, under an absolute path. -/
def program : ArchivedFile := ⟨"/etc/f", { mode? := some 0o4755 }, [120], 0o4755⟩

/-- A file whose path climbs. -/
def climber : ArchivedFile := ⟨"../f", { mode? := some 0o644 }, [120], 0o644⟩

/-- An archive of both. -/
def hostile : Bytes := Gzip.gzip (streamOf [program, climber])

/-- A file system with an empty directory and a link to the root beside it. -/
def linked : FileSystem :=
  { root := .directory true [(utf8 "d", .emptyDirectory), (utf8 "l", .link (utf8 "/"))] }

theorem resolve_linked : linked.resolve (utf8 "/d") = .ok ([utf8 "d"], .emptyDirectory) := by
  refine resolve_child ⟨⟨?_, ?_, ?_, ?_⟩, ?_, ?_⟩ (by rw [Node.get?_singleton]; rfl)
  all_goals decide

theorem unlinked_linked : linked.Unlinked [utf8 "d"] := by
  intro more further target found
  obtain ⟨name, more, rfl⟩ := List.exists_cons_of_ne_nil further
  have empty : linked.root.get? [utf8 "d"] = some .emptyDirectory := by
    rw [Node.get?_singleton]
    rfl
  rw [Node.look, Node.get?_append, empty, Option.bind_some, Node.get?_cons] at found
  cases found

theorem sound_hostile : ∀ f ∈ [program, climber], f.Sound := by
  rw [List.forall_mem_cons, List.forall_mem_singleton]
  exact ⟨ArchivedFile.sound_of_mode [120] (by decide) (by decide),
    ArchivedFile.sound_of_mode [120] (by decide) (by decide)⟩

theorem place_program : program.place = [utf8 "etc", utf8 "f"] := by
  rw [ArchivedFile.place, pathReadBack_of_survives (by decide) (Or.inl (by decide))]
  decide

theorem acceptable_program : Acceptable (program.target (utf8 "/d")) program.place := by
  rw [ArchivedFile.target, place_program]
  refine ⟨by decide, by decide, ?_, ?_⟩
  · intro n hn
    rcases List.mem_cons.1 hn with rfl | hn
    · exact ⟨by decide, by decide, by decide, by decide⟩
    · cases List.mem_singleton.1 hn
      exact ⟨by decide, by decide, by decide, by decide⟩
  · decide

theorem unpack_climber (fs : FileSystem) :
    unpack (utf8 "/d") climber fs = (.error (.invalidPath (utf8 "../f")), fs) := by
  have path : pathReadBack climber.path = utf8 "../f" :=
    pathReadBack_of_survives (by decide) (Or.inl (by decide))
  have climbs : .parent ∈ components (utf8 "../f") := by decide
  rw [unpack, path]
  cases placed : targetPath (utf8 "/d") (utf8 "../f") with
  | ok target => exact absurd climbs (not_climbing (by decide) placed)
  | error e =>
    rw [(targetPath_eq_error placed).1]
    rfl

/-- The program is made below the destination without its set-user-ID bit, and the climber ends the
extraction. -/
theorem extract_hostile : ∃ t a,
    extract hostile (utf8 "/d") linked =
        (.error (.invalidPath (utf8 "../f")), linked.put [utf8 "d"] t) ∧
      t.look [utf8 "etc", utf8 "f"] = some (.file [120] a) ∧ a.mode = 0o755 := by
  have bounded : (streamOf [program, climber]).length ≤ Text.maxWord := by decide +kernel
  obtain ⟨links, empty⟩ := emptyAt_of_resolve resolve_linked
  have agree : Agree ([] ++ [program]) := by
    constructor
    all_goals
      intro f hf g hg
      cases List.mem_singleton.1 hf
      cases List.mem_singleton.1 hg
    · exact fun _ => rfl
    · exact fun _ => ⟨rfl, rfl⟩
  obtain ⟨t, made, holds⟩ := unpack_succeeds empty (holds_nil true) agree acceptable_program
    (by rw [place_program]; simp)
  have same : linked.put [utf8 "d"] (.directory true []) = linked := put_of_resolve resolve_linked
  rw [same] at made
  obtain ⟨a, found, mode⟩ := holds.made program (by simp)
  rw [place_program] at found
  refine ⟨t, a, ?_, found, mode⟩
  rw [hostile, extract_gzip_streamOf _ sound_hostile bounded, unpackAll, Action.bind_of_ok made,
    unpackAll, Action.bind_of_error (unpack_climber _)]

/-- The hostile archive does not leave the directory. -/
theorem extract_contained_hostile : utf8 "/d" ≠ [] ∧ ∃ steps t,
    extract hostile (utf8 "/d") linked =
        (.error (.invalidPath (utf8 "../f")), linked.put [utf8 "d"] t) ∧
      Course (utf8 "/d") (opened hostile) linked steps (.error (.invalidPath (utf8 "../f")))
        (linked.put [utf8 "d"] t) ∧
      (∃ a, t.look [utf8 "etc", utf8 "f"] = some (.file [120] a) ∧ a.mode = 0o755) ∧
      ∀ c ∈ allCalls steps, ∀ names, Extends (utf8 "/d") names c.path →
        c.place = utf8 "d" :: names := by
  have nonempty : utf8 "/d" ≠ [] := by decide
  obtain ⟨t, a, ran, found, mode⟩ := extract_hostile
  obtain ⟨steps, course, -, -, lands⟩ := extract_contained nonempty ran
  obtain ⟨-, -, -, led⟩ := leads_of_resolve resolve_linked
  have kept := course.calls.grown
  have inside := lands fun there later => unlinked_linked.of_reaches kept led later
  refine ⟨nonempty, steps, t, ran, course, ⟨a, found, mode⟩, ?_⟩
  intro c hc names path
  obtain ⟨there, reached, place⟩ := inside c hc names path
  rw [place, ← (Reaches.grown kept led).unique reached]
  rfl

end Hostile

end Tarball

end Northbound
