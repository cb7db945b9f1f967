import Northbound.Proofs.Archive.Readers

/-!
# Which paths are refused

Extraction below a destination refuses the paths that climb and those in which nothing is left once
the root and the dots are dropped. All others have a place below the destination. Main statement:
this is all that can be wrong with a path, and an archive is refused for a path exactly at the first
of its members whose path is one of these.
-/

namespace Northbound

open Northbound.Path (Plain components joined segments undotted)

namespace Path

/-- The names of a path, in order. -/
def names (p : Path) : List Bytes :=
  (components p).filterMap fun
    | .name s => some s
    | _ => none

end Path

namespace Tarball

variable {dest p : Path}

/-- A path that climbs, or in which no name is left without the root and the dots. -/
def Refused (p : Path) : Prop := .parent ∈ components p ∨ Path.names p = []

instance (p : Path) : Decidable (Refused p) := inferInstanceAs (Decidable (_ ∨ _))

section Targets

theorem names_eq_undotted (ordinary : .parent ∉ components p) :
    Path.names p = undotted (segments p) := by
  rw [Path.undotted_segments, Path.names]
  generalize components p = cs at ordinary ⊢
  induction cs with
  | nil => rfl
  | cons c cs ih =>
    rw [List.mem_cons, not_or] at ordinary
    rw [List.flatMap_cons, ← ih ordinary.2, List.filterMap_cons]
    cases c with
    | parent => exact absurd rfl ordinary.1
    | name s => rfl
    | _ => rfl

theorem plain_names (ordinary : .parent ∉ components p) : ∀ n ∈ Path.names p, Plain n := by
  rw [names_eq_undotted ordinary]
  apply dotDot_not_mem_segments_iff.mp
  rwa [← Path.parent_mem_components_iff]

/-- Every path is refused or goes to the place that its names tell. -/
theorem targetPath_eq (nonempty : dest ≠ []) (p : Path) :
    targetPath dest p =
      if Refused p then .error (.invalidPath p)
      else .ok (Path.join dest (joined (Path.names p))) := by
  by_cases refused : Refused p
  · rw [if_pos refused]
    cases placed : targetPath dest p with
    | error e => rw [(targetPath_eq_error placed).1]
    | ok target =>
      have ordinary := not_climbing nonempty placed
      have further := ((targetPath_eq_ok_iff nonempty).mp placed).2.1
      rw [← names_eq_undotted ordinary] at further
      exact (refused.elim ordinary further).elim
  · obtain ⟨ordinary, further⟩ := not_or.mp refused
    rw [if_neg refused]
    apply (targetPath_eq_ok_iff nonempty).mpr
    rw [← names_eq_undotted ordinary]
    exact ⟨plain_names ordinary, further, rfl⟩

theorem targetPath_eq_error_iff (nonempty : dest ≠ []) {q : Path} :
    targetPath dest p = .error (.invalidPath q) ↔ Refused p ∧ q = p := by
  rw [targetPath_eq nonempty]
  split
  next refused => simp [refused, eq_comm]
  next accepted => simp [accepted]

theorem exists_target_iff (nonempty : dest ≠ []) :
    (∃ target, targetPath dest p = .ok target) ↔ ¬Refused p := by
  rw [targetPath_eq nonempty]
  split
  next refused => simp [refused]
  next accepted => simp [accepted]

/-- The names of a path that is not refused are put behind the destination. -/
theorem components_target (nonempty : dest ≠ []) (accepted : ¬Refused p) :
    components (Path.join dest (joined (Path.names p))) =
      components dest ++ (Path.names p).map .name := by
  obtain ⟨ordinary, further⟩ := not_or.mp accepted
  have plain := plain_names ordinary
  rw [← Path.foldl_join (Path.unslashed_of_plain plain) further,
    components_foldl_join nonempty plain]

end Targets

/-- What refusing just the paths that climb would be: a path in which nothing is left would be the
destination itself. -/
def RefusesOnlyClimbing (dest p : Path) : Prop :=
  (targetPath dest p = .error (.invalidPath p) ↔ .parent ∈ components p) ∧
  (.parent ∉ components p → targetPath dest p =
    .ok (if Path.names p = [] then dest else Path.join dest (joined (Path.names p))))

/-- The current directory, as many archives begin with it, does not climb, and is refused. -/
theorem not_refusesOnlyClimbing_here :
    utf8 "out" ≠ [] ∧ ¬RefusesOnlyClimbing (utf8 "out") (utf8 "./") := by
  refine ⟨by decide, fun only => ?_⟩
  have refused : targetPath (utf8 "out") (utf8 "./") = .error (.invalidPath (utf8 "./")) :=
    (targetPath_eq_error_iff (by decide)).mpr ⟨by decide, rfl⟩
  have climbs : Component.parent ∈ components (utf8 "./") := only.1.mp refused
  revert climbs
  decide

section Failures

variable {α β : Type}

/-- An action that fails, if it does, for another reason than a path that is refused. -/
def AcceptsPaths (action : ExtractAction α) : Prop :=
  ∀ ⦃fs fs' : FileSystem⦄ ⦃e : ArchiveError⦄, action fs = (.error e, fs') →
    ∀ p, e ≠ .invalidPath p

theorem acceptsPaths_pure (x : α) : AcceptsPaths (pure x) := by
  intro fs fs' e ran
  cases ran

theorem acceptsPaths_stream (f : Tar.Fault) :
    AcceptsPaths (throw (.stream f) : ExtractAction α) := by
  intro fs fs' e ran
  cases ran
  exact nofun

/-- The file system does not refuse paths as such. -/
theorem acceptsPaths_onFiles (action : FileAction α) : AcceptsPaths (onFiles action) := by
  intro fs fs' e ran
  rw [onFiles_apply] at ran
  rcases one : action fs with ⟨reason | x, fs₁⟩
  · rw [one] at ran
    cases ran
    exact nofun
  · rw [one] at ran
    cases ran

theorem AcceptsPaths.bind {action : ExtractAction α} {next : α → ExtractAction β}
    (first : AcceptsPaths action) (second : ∀ x, AcceptsPaths (next x)) :
    AcceptsPaths (action >>= next) := by
  intro fs fs' e ran
  rw [Action.bind_apply] at ran
  rcases one : action fs with ⟨reason | x, fs₁⟩
  · rw [one] at ran
    cases ran
    exact first one
  · rw [one] at ran
    exact second x ran

theorem acceptsPaths_makeParent (target : Path) : AcceptsPaths (makeParent target) := by
  unfold makeParent
  split
  · split
    · exact acceptsPaths_pure ()
    · exact acceptsPaths_onFiles _
  · exact acceptsPaths_pure ()

theorem acceptsPaths_extractFile (m : Tar.Member) (target : Path) (a : Tar.Archive) :
    AcceptsPaths (extractFile m target a) := by
  unfold extractFile
  rcases a.supply m.size with ⟨⟨content, failure?⟩, a'⟩
  refine Eq.subst (motive := AcceptsPaths) (makeParent_bind target _).symm ?_
  refine (acceptsPaths_makeParent target).bind fun _ => ?_
  refine (acceptsPaths_onFiles _).bind fun _ => (acceptsPaths_onFiles _).bind fun _ => ?_
  cases failure? with
  | some reason => exact acceptsPaths_stream _
  | none =>
    cases m.mode with
    | error f => exact acceptsPaths_stream f
    | ok given => exact (acceptsPaths_onFiles _).bind fun _ => acceptsPaths_pure a'

/-- A member that has a target is not refused for its path. -/
theorem acceptsPaths_extractMember {m : Tar.Member} {target : Path} (a : Tar.Archive)
    (placed : targetPath dest m.path = .ok target) : AcceptsPaths (extractMember dest m a) := by
  unfold extractMember
  rw [placed]
  cases m.kind with
  | directory => exact (acceptsPaths_onFiles _).bind fun _ => acceptsPaths_pure a
  | regular => exact acceptsPaths_extractFile m target a
  | _ => exact acceptsPaths_pure a

end Failures

section Runs

variable {fuel : Nat} {a : Tar.Archive} {fs fs' : FileSystem}

/-- An extraction that is refused for a path has come to a member that has no target. -/
theorem exists_refused_of_extractFrom
    (ran : extractFrom dest fuel a fs = (.error (.invalidPath p), fs')) :
    ∃ front m back, membersFrom fuel a = front ++ m :: back ∧
      (∀ x ∈ front, ∃ target, targetPath dest x.1.path = .ok target) ∧
      targetPath dest m.1.path = .error (.invalidPath p) := by
  induction fuel generalizing a fs with
  | zero => cases ran
  | succ fuel ih =>
    rw [extractFrom] at ran
    rw [membersFrom]
    rcases read : Tar.Reader.member? a with ⟨f | _ | m, a'⟩
    · rw [read] at ran
      cases ran
    · rw [read] at ran
      cases ran
    · simp only [read] at ran ⊢
      rcases first : extractMember dest m a' fs with ⟨e | a₁, fs₁⟩
      · rw [Action.bind_of_error first] at ran
        cases ran
        refine ⟨[], _, _, rfl, List.forall_mem_nil _, ?_⟩
        cases placed : targetPath dest m.path with
        | error e =>
          rw [extractMember, placed] at first
          cases first
          rfl
        | ok target => exact absurd rfl (acceptsPaths_extractMember a' placed first p)
      · rw [Action.bind_of_ok first] at ran
        obtain ⟨target, placed, rfl, -⟩ := extractMember_eq_ok first
        obtain ⟨front, x, back, split, before, refused⟩ := ih ran
        refine ⟨_ :: front, x, back, by rw [split, List.cons_append], ?_, refused⟩
        exact List.forall_mem_cons.mpr ⟨⟨target, placed⟩, before⟩

/-- Every member of an archive that was extracted has a target. -/
theorem exists_target_of_extractFrom (ran : extractFrom dest fuel a fs = (.ok (), fs')) :
    ∀ x ∈ membersFrom fuel a, ∃ target, targetPath dest x.1.path = .ok target := by
  induction fuel generalizing a fs with
  | zero => exact List.forall_mem_nil _
  | succ fuel ih =>
    rw [membersFrom]
    rcases extractFrom_succ_eq_ok ran with ⟨a', read, -⟩ | ⟨m, a', fs₁, read, first, rest⟩
    · rw [read]
      exact List.forall_mem_nil _
    · obtain ⟨target, placed, -⟩ := extractMember_eq_ok first
      rw [read]
      exact List.forall_mem_cons.mpr ⟨⟨target, placed⟩, ih rest⟩

end Runs

/-- Below a destination, a path is refused exactly if it climbs or no name is left in it; otherwise
its names are put behind the destination. An archive that is refused for a path is so at the first
member with such a path, whatever it is, and no archive with one is extracted. -/
theorem targets_and_refusals (nonempty : dest ≠ []) :
    (∀ p, targetPath dest p = .error (.invalidPath p) ↔
      .parent ∈ components p ∨ Path.names p = []) ∧
    (∀ p, .parent ∉ components p → Path.names p ≠ [] →
      targetPath dest p = .ok (Path.join dest (joined (Path.names p))) ∧
      components (Path.join dest (joined (Path.names p))) =
        components dest ++ (Path.names p).map .name) ∧
    (∀ stream fs fs' p, extract stream dest fs = (.error (.invalidPath p), fs') →
      ∃ front m back, members stream = front ++ m :: back ∧ (∀ x ∈ front, ¬Refused x.1.path) ∧
        Refused m.1.path ∧ p = m.1.path) ∧
    (∀ stream fs fs', extract stream dest fs = (.ok (), fs') →
      ∀ x ∈ members stream, ¬Refused x.1.path) := by
  refine ⟨fun p => ?_, fun p ordinary further => ?_, ?_, ?_⟩
  · rw [targetPath_eq_error_iff nonempty]
    exact and_iff_left rfl
  · have accepted : ¬Refused p := not_or.mpr ⟨ordinary, further⟩
    rw [targetPath_eq nonempty, if_neg accepted]
    exact ⟨rfl, components_target nonempty accepted⟩
  · intro stream fs fs' p ran
    obtain ⟨front, m, back, split, before, refused⟩ := exists_refused_of_extractFrom ran
    refine ⟨front, m, back, split, fun x hx => (exists_target_iff nonempty).mp (before x hx), ?_⟩
    exact (targetPath_eq_error_iff nonempty).mp refused
  · intro stream fs fs' ran x hx
    exact (exists_target_iff nonempty).mp (exists_target_of_extractFrom ran x hx)

/-- A path with all there is to drop from it. -/
theorem targetPath_of_dotted : utf8 "out" ≠ [] ∧
    targetPath (utf8 "out") (utf8 "/./a//./b/.") = .ok (utf8 "out/a/b") := by
  have nonempty : utf8 "out" ≠ [] := by decide
  obtain ⟨-, placed, -⟩ := targets_and_refusals nonempty
  obtain ⟨target, -⟩ := placed (utf8 "/./a//./b/.") (by decide) (by decide)
  exact ⟨nonempty, target.trans (congrArg Except.ok (by decide))⟩

end Tarball

end Northbound
