import Northbound.Proofs.Archive.Containment
import Northbound.Proofs.Archive.Entries
import Northbound.Proofs.FileSystem.Contents

/-!
# The two readers of archives

An archive is either extracted below a directory, or its entries are handed one by one to an action.
`members` is what there is to read in it, whoever reads it. An extraction that succeeds has read all
of it, so that going through the entries succeeds as well, and has written each regular file at the
target of its path and nothing else. Main statement: below a destination in which nothing stood, the
files are those of the entries, each with the content of the last entry that goes there.
-/

namespace Northbound

namespace EntryAction

variable {σ : Type}

/-- Reads all data of an entry and does something with it and the path. -/
def readAll (f : String → Bytes → σ → σ) (path : String) : EntryAction σ Unit := do
  let content ← readData none
  note (f path content)

theorem readAll_apply (f : String → Bytes → σ → σ) (path : String) {a a' : Tar.Archive} {size : Nat}
    {content : Bytes} (supplied : a.supply size = ((content, none), a')) (s : σ) :
    readAll f path { archive := a, remaining := size, memory := s } =
      (.ok (),
        { archive := a', remaining := size - content.length, memory := f path content s }) := by
  have read : (readData none : EntryAction σ Bytes)
      { archive := a, remaining := size, memory := s } =
        (.ok content, { archive := a', remaining := size - content.length, memory := s }) := by
    simp only [readData, Option.getD_none, Nat.min_self, supplied]
  rw [readAll, Action.bind_of_ok read]
  rfl

end EntryAction

namespace Tarball

open FileSystem
open Northbound.Path (Plain components joined segments undotted)

/-- The members of an archive from a place on, each with the data behind it, as far as they can be
read. -/
def membersFrom : Nat → Tar.Archive → List (Tar.Member × Bytes)
  | 0, _ => []
  | fuel + 1, a =>
    match Tar.Reader.member? a with
    | (.ok (some m), a) => (m, (a.supply m.size).1.1) :: membersFrom fuel (behind m a)
    | _ => []

/-- The members of a compressed archive, as far as they can be read. -/
def members (stream : Bytes) : List (Tar.Member × Bytes) :=
  let a := opened stream
  membersFrom (memberBound a) a

/-- The paths and contents of the regular files among some members, in order. -/
def regularFiles (ms : List (Tar.Member × Bytes)) : List (String × Bytes) :=
  (ms.filter fun m => m.1.kind = .regular).map fun m => (Text.lossy m.1.path, m.2)

/-- Where some files go below a destination, with their contents. -/
def targets (dest : Path) (files : List (String × Bytes)) : List (Path × Bytes) :=
  files.filterMap fun e => (targetPath dest (utf8 e.1)).toOption.map fun target => (target, e.2)

section Members

variable {dest target : Path} {m : Tar.Member} {a a' : Tar.Archive} {fs fs' : FileSystem}
  {content data : Bytes} {files : List (String × Bytes)} {ms : List (Tar.Member × Bytes)}

theorem regularFiles_cons_of_regular (kind : m.kind = .regular) :
    regularFiles ((m, data) :: ms) = (Text.lossy m.path, data) :: regularFiles ms := by
  simp [regularFiles, kind]

theorem regularFiles_cons_of_ne (kind : m.kind ≠ .regular) :
    regularFiles ((m, data) :: ms) = regularFiles ms := by
  simp [regularFiles, kind]

theorem targets_cons_of_ok {path : String} (placed : targetPath dest (utf8 path) = .ok target) :
    targets dest ((path, data) :: files) = (target, data) :: targets dest files := by
  rw [targets, List.filterMap_cons, placed]
  rfl

theorem mem_targets (h : (target, content) ∈ targets dest files) :
    ∃ e ∈ files, targetPath dest (utf8 e.1) = .ok target := by
  obtain ⟨e, he, found⟩ := List.mem_filterMap.1 h
  refine ⟨e, he, ?_⟩
  cases placed : targetPath dest (utf8 e.1) with
  | error reason =>
    rw [placed] at found
    cases found
  | ok other =>
    rw [placed] at found
    cases found
    rfl

/-- A file that was extracted was read to its end and written once. -/
theorem extractFile_eq_ok (ran : extractFile m target a fs = (.ok a', fs')) :
    ∃ content, a.supply m.size = ((content, none), a') ∧
      ∃ cs, Calls fs cs fs' ∧ writtenPaths cs = [(target, content)] := by
  unfold extractFile at ran
  have ran := (congrFun (makeParent_bind target _) fs).symm.trans ran
  obtain ⟨⟨⟩, fs₁, above, ran⟩ := Action.bind_eq_ok ran
  obtain ⟨place, fs₂, created, ran⟩ := Action.bind_eq_ok ran
  rcases supplied : a.supply m.size with ⟨⟨content, failure?⟩, a₁⟩
  rw [supplied] at ran
  obtain ⟨⟨⟩, fs₃, written, ran⟩ := Action.bind_eq_ok ran
  cases failure? with
  | some reason => cases ran
  | none =>
    cases header : m.mode with
    | error f =>
      simp only [header] at ran
      cases ran
    | ok mode =>
      simp only [header] at ran
      obtain ⟨⟨⟩, fs₄, set, ran⟩ := Action.bind_eq_ok ran
      cases ran
      obtain ⟨⟨before, calls, unwritten⟩, -⟩ :=
        only_makeParent (fun parent _ => only_makeDirectories_unwritten parent) above
      obtain ⟨⟨after, calls', unwritten'⟩, -⟩ := only_onFiles (only_setMode_unwritten _ _) set
      have write : (Call.writeFile target place content).Does fs₁ fs₃ :=
        .writeFile (onFiles_eq_ok_iff.1 created) (onFiles_eq_ok_iff.1 written)
      refine ⟨content, rfl, _, calls.append (.cons write calls'), ?_⟩
      rw [writtenPaths_append, writtenPaths_eq_nil unwritten, List.nil_append]
      calc writtenPaths ([.writeFile target place content] ++ after)
        _ = writtenPaths [.writeFile target place content] ++ writtenPaths after :=
          writtenPaths_append _ _
        _ = [(target, content)] := by
          rw [writtenPaths_eq_nil unwritten', List.append_nil]
          rfl

/-- A member that was extracted has a target. What was written for it is its data if it is a regular
file, and nothing else. -/
theorem extractMember_eq_ok (ran : extractMember dest m a fs = (.ok a', fs')) :
    ∃ target, targetPath dest m.path = .ok target ∧ a' = behind m a ∧
      (m.kind = .regular → (a.supply m.size).1.2 = none) ∧ ∃ cs, Calls fs cs fs' ∧
        writtenPaths cs = if m.kind = .regular then [(target, (a.supply m.size).1.1)] else [] := by
  unfold extractMember at ran
  cases placed : targetPath dest m.path with
  | error e =>
    rw [placed] at ran
    cases ran
  | ok target =>
    rw [placed] at ran
    refine ⟨target, rfl, ?_⟩
    cases kind : m.kind with
    | regular =>
      simp only [kind] at ran
      obtain ⟨content, supplied, cs, calls, written⟩ := extractFile_eq_ok ran
      refine ⟨?_, fun _ => by rw [supplied], cs, calls, ?_⟩
      · rw [behind, if_pos kind, supplied]
      · rw [if_pos rfl, supplied, written]
    | directory =>
      simp only [kind] at ran
      obtain ⟨⟨⟩, fs₁, made, ran⟩ := Action.bind_eq_ok ran
      cases ran
      obtain ⟨⟨cs, calls, unwritten⟩, -⟩ :=
        only_onFiles (only_makeDirectories_unwritten target) made
      exact ⟨(if_neg (by simp [kind])).symm, nofun, cs, calls, writtenPaths_eq_nil unwritten⟩
    | _ =>
      simp only [kind] at ran
      cases ran
      exact ⟨(if_neg (by simp [kind])).symm, nofun, [], .nil _, rfl⟩

end Members

section Runs

variable {σ : Type} {dest : Path} {fuel : Nat} {a : Tar.Archive} {fs fs' : FileSystem}

/-- An extraction that succeeds is at the end of the archive, or extracts a member and goes on
behind it. -/
theorem extractFrom_succ_eq_ok (ran : extractFrom dest (fuel + 1) a fs = (.ok (), fs')) :
    (∃ a', Tar.Reader.member? a = (.ok none, a') ∧ fs' = fs) ∨
      ∃ m a' fs₁, Tar.Reader.member? a = (.ok (some m), a') ∧
        extractMember dest m a' fs = (.ok (behind m a'), fs₁) ∧
        extractFrom dest fuel (behind m a') fs₁ = (.ok (), fs') := by
  rw [extractFrom] at ran
  rcases read : Tar.Reader.member? a with ⟨f | _ | m, a'⟩
  · rw [read] at ran
    cases ran
  · rw [read] at ran
    cases ran
    exact Or.inl ⟨a', rfl, rfl⟩
  · rw [read] at ran
    obtain ⟨a₁, fs₁, first, rest⟩ := Action.bind_eq_ok ran
    obtain ⟨_, _, rfl, _⟩ := extractMember_eq_ok first
    exact Or.inr ⟨m, a', fs₁, rfl, first, rest⟩

/-- Where extraction succeeds, so does going through the entries. -/
theorem forEachFrom_of_extractFrom (f : String → Bytes → σ → σ)
    (ran : extractFrom dest fuel a fs = (.ok (), fs')) (s : σ) :
    forEachFrom (EntryAction.readAll f) fuel a s =
      (.ok (), (regularFiles (membersFrom fuel a)).foldl (fun s e => f e.1 e.2 s) s) := by
  induction fuel generalizing a fs s with
  | zero => rfl
  | succ fuel ih =>
    rcases extractFrom_succ_eq_ok ran with ⟨a', read, -⟩ | ⟨m, a', fs₁, read, first, rest⟩
    · simp only [forEachFrom, membersFrom, read]
      rfl
    · obtain ⟨target, -, -, whole, -⟩ := extractMember_eq_ok first
      simp only [forEachFrom, membersFrom, read]
      by_cases kind : m.kind = .regular
      · have supplied : a'.supply m.size = (((a'.supply m.size).1.1, none), behind m a') := by
          rw [behind, if_pos kind, ← whole kind]
        rw [if_pos kind, regularFiles_cons_of_regular kind, List.foldl_cons,
          EntryAction.readAll_apply f _ supplied]
        exact ih rest _
      · have same : behind m a' = a' := if_neg kind
        rw [same] at rest ⊢
        rw [if_neg kind, regularFiles_cons_of_ne kind]
        exact ih rest s

/-- Where extraction succeeds, all regular files have a target, and they are written there one after
the other. -/
theorem extractFrom_calls (texts : ∀ m ∈ membersFrom fuel a, IsText m.1.path)
    (ran : extractFrom dest fuel a fs = (.ok (), fs')) :
    (∀ e ∈ regularFiles (membersFrom fuel a), ∃ target, targetPath dest (utf8 e.1) = .ok target) ∧
      ∃ cs, Calls fs cs fs' ∧
        writtenPaths cs = targets dest (regularFiles (membersFrom fuel a)) := by
  induction fuel generalizing a fs with
  | zero =>
    cases ran
    exact ⟨nofun, [], .nil _, rfl⟩
  | succ fuel ih =>
    rcases extractFrom_succ_eq_ok ran with ⟨a', read, rfl⟩ | ⟨m, a', fs₁, read, first, rest⟩
    · simp only [membersFrom, read]
      exact ⟨nofun, [], .nil _, rfl⟩
    · obtain ⟨target, placed, -, -, cs, calls, written⟩ := extractMember_eq_ok first
      simp only [membersFrom, read] at texts ⊢
      obtain ⟨placed', cs', calls', written'⟩ :=
        ih (fun m hm => texts m (List.mem_cons_of_mem _ hm)) rest
      have found : targetPath dest (utf8 (Text.lossy m.path)) = .ok target := by
        rw [(texts _ List.mem_cons_self).utf8_lossy]
        exact placed
      by_cases kind : m.kind = .regular
      · rw [regularFiles_cons_of_regular kind, targets_cons_of_ok found]
        refine ⟨?_, cs ++ cs', calls.append calls', ?_⟩
        · intro e he
          rcases List.mem_cons.1 he with rfl | he
          · exact ⟨target, found⟩
          · exact placed' e he
        · rw [writtenPaths_append, written, if_pos kind, written', List.singleton_append]
      · rw [regularFiles_cons_of_ne kind]
        refine ⟨placed', cs ++ cs', calls.append calls', ?_⟩
        rw [writtenPaths_append, written, if_neg kind, written', List.nil_append]

end Runs

/-- Calls that wrote some files to their targets, below a destination in which nothing stood. -/
structure Extracted (dest : Path) (files : List (String × Bytes)) (fs : FileSystem) (cs : List Call)
    (fs' : FileSystem) : Prop where
  vacant : fs.Vacant dest
  calls : Calls fs cs fs'
  written : writtenPaths cs = targets dest files

namespace Extracted

variable {dest : Path} {files : List (String × Bytes)} {fs fs' : FileSystem} {cs : List Call}
  {v w : Written}

/-- Every file that was written is below the destination, where the names of its target tell. -/
theorem lands (h : Extracted dest files fs cs fs') (hw : w ∈ writes cs) :
    ∃ there names, fs'.Reaches dest there ∧ names ≠ [] ∧ (∀ n ∈ names, Plain n) ∧
      w.path = Path.join dest (joined names) ∧ w.place = there ++ names := by
  have listed : (w.path, w.content) ∈ targets dest files := by
    rw [← h.written]
    exact List.mem_map_of_mem hw
  obtain ⟨e, -, placed⟩ := mem_targets listed
  obtain ⟨plain, further, shape⟩ := (targetPath_eq_ok_iff h.vacant.nonempty).1 placed
  have spelled :
      components w.path = components dest ++ (undotted (segments (utf8 e.1))).map .name := by
    rw [shape, ← Path.foldl_join (Path.unslashed_of_plain plain) further,
      components_foldl_join h.vacant.nonempty plain]
  have reached : fs'.Reaches w.path w.place := h.calls.reaches _ (mem_writes_iff.1 hw)
  obtain ⟨there, links, links', start, led⟩ := reached.below further spelled
  rw [← List.append_nil there] at led
  exact ⟨there, _, start, further, plain, shape,
    (h.vacant.unlinked h.calls.grown start).place_eq plain [] led⟩

/-- Only one target leads to each place below the destination. -/
theorem target_iff_place (h : Extracted dest files fs cs fs') (hv : v ∈ writes cs)
    (hw : w ∈ writes cs) : v.path = w.path ↔ v.place = w.place := by
  constructor
  · intro same
    have first : fs'.Reaches v.path v.place := h.calls.reaches _ (mem_writes_iff.1 hv)
    have second : fs'.Reaches w.path w.place := h.calls.reaches _ (mem_writes_iff.1 hw)
    rw [same] at first
    exact first.unique second
  · intro same
    obtain ⟨there, names, start, -, -, path, place⟩ := h.lands hv
    obtain ⟨there', names', start', -, -, path', place'⟩ := h.lands hw
    obtain rfl := start.unique start'
    obtain rfl : names = names' := by
      rw [place, place'] at same
      exact List.append_cancel_left same
    rw [path, path']

/-- What is found in the end at the target of a file that was written. -/
theorem resolve_target (h : Extracted dest files fs cs fs') (hw : w ∈ writes cs) {n : Node}
    (get : fs'.root.get? w.place = some n) : fs'.resolve w.path = .ok (w.place, n) := by
  obtain ⟨there, names, start, further, plain, path, place⟩ := h.lands hw
  obtain ⟨nul, short⟩ := h.calls.path_of_mem_writes hw
  have spelled := Path.spells_join h.vacant.nonempty further plain
  have reached : fs'.Reaches w.path w.place := h.calls.reaches _ (mem_writes_iff.1 hw)
  rw [path, withoutEndSlashes_of_spells spelled] at nul short
  rw [path] at reached ⊢
  exact start.resolve_join h.vacant.nonempty (h.vacant.unlinked h.calls.grown start) further plain
    reached nul short get

/-- A file that was written holds the content of the last file with its target. -/
theorem contentAt (h : Extracted dest files fs cs fs') (hw : w ∈ writes cs) :
    fs'.contentAt w.place = (targets dest files).reverse.lookup w.path := by
  obtain ⟨there, names, start, further, -, -, place⟩ := h.lands hw
  have free : fs.root.look w.place = none := by
    rw [place]
    exact h.vacant.look_eq_none h.calls.grown start further
  rw [← h.written]
  exact h.calls.contentAt_path free fun v hv => h.target_iff_place hv hw

/-- At the target of a file stands one below the destination, with the content of the last file with
that target. -/
theorem present (h : Extracted dest files fs cs fs') {target : Path} {content : Bytes}
    (last : (targets dest files).reverse.lookup target = some content) :
    ∃ there names a, fs'.Reaches dest there ∧ names ≠ [] ∧
      fs'.resolve target = .ok (there ++ names, .file content a) := by
  have listed : (target, content) ∈ writtenPaths cs := by
    rw [h.written]
    exact List.mem_reverse.1 (mem_of_lookup last)
  obtain ⟨w, hw, same⟩ := List.mem_map.1 listed
  cases same
  have held := h.contentAt hw
  rw [last] at held
  obtain ⟨a, get⟩ := contentAt_eq_some_iff.1 held
  obtain ⟨there, names, start, further, -, -, place⟩ := h.lands hw
  refine ⟨there, names, a, start, further, ?_⟩
  rw [← place]
  exact h.resolve_target hw get

/-- Every file below the destination stands at a target, and has the content of the last file with
that target. -/
theorem only (h : Extracted dest files fs cs fs') {there names : List Bytes} {content : Bytes}
    {a : FileAttributes} (start : fs'.Reaches dest there) (further : names ≠ [])
    (get : fs'.root.get? (there ++ names) = some (.file content a)) :
    ∃ target, fs'.resolve target = .ok (there ++ names, .file content a) ∧
      (targets dest files).reverse.lookup target = some content := by
  have free := h.vacant.look_eq_none h.calls.grown start further
  have held := contentAt_eq_some_iff.2 ⟨a, get⟩
  obtain ⟨w, hw, place⟩ := h.calls.mem_writes free held
  rw [← place] at get held ⊢
  refine ⟨w.path, h.resolve_target hw get, ?_⟩
  rw [← held]
  exact (h.contentAt hw).symm

end Extracted

/-- The two readers agree. Where an archive with text paths was extracted below a destination in
which nothing stood, every action that reads everything is run on each of its regular files, in
order and without failure; each of them has a target; at each target stands a file below the
destination with the content of the last entry that has it; and below the destination there are no
other files. -/
theorem readers_agree {stream : Bytes} {dest : Path} {fs fs' : FileSystem} (vacant : fs.Vacant dest)
    (texts : ∀ m ∈ members stream, IsText m.1.path)
    (extracted : extract stream dest fs = (.ok (), fs')) :
    (∀ (σ : Type) (f : String → Bytes → σ → σ) (s : σ),
      forEachEntry stream (EntryAction.readAll f) s =
        (.ok (), (regularFiles (members stream)).foldl (fun s e => f e.1 e.2 s) s)) ∧
    (∀ e ∈ regularFiles (members stream), ∃ target, targetPath dest (utf8 e.1) = .ok target) ∧
    (∀ target content,
      (targets dest (regularFiles (members stream))).reverse.lookup target = some content →
        ∃ there names a, fs'.Reaches dest there ∧ names ≠ [] ∧
          fs'.resolve target = .ok (there ++ names, .file content a)) ∧
    (∀ there names content a, fs'.Reaches dest there → names ≠ [] →
      fs'.root.get? (there ++ names) = some (.file content a) →
        ∃ target, fs'.resolve target = .ok (there ++ names, .file content a) ∧
          (targets dest (regularFiles (members stream))).reverse.lookup target = some content) := by
  rw [extract] at extracted
  obtain ⟨placed, cs, calls, written⟩ := extractFrom_calls texts extracted
  have done : Extracted dest (regularFiles (members stream)) fs cs fs' := ⟨vacant, calls, written⟩
  refine ⟨?_, placed, ?_, ?_⟩
  · intro σ f s
    exact forEachFrom_of_extractFrom f extracted s
  · intro target content last
    exact done.present last
  · intro there names content a start further get
    exact done.only start further get

section Revised

open ArchivedFile

/-- From the front of some files on, the members are the files. -/
theorem membersFrom_streamOf {files : List ArchivedFile} (sound : ∀ f ∈ files, f.Sound) {fuel : Nat}
    (enough : files.length < fuel) (position : Nat) (gap : Bytes)
    (bounded : position + gap.length + (streamOf files).length ≤ Text.maxWord) :
    membersFrom fuel (.before position gap (streamOf files)) =
      files.map fun f => (f.member, f.content) := by
  induction files generalizing fuel position gap with
  | nil =>
    obtain ⟨fuel, rfl⟩ : ∃ m, fuel = m + 1 := ⟨fuel - 1, by omega⟩
    obtain ⟨a, ends⟩ := member?_streamOf_nil position gap
    rw [membersFrom, ends]
    rfl
  | cons f files ih =>
    obtain ⟨fuel, rfl⟩ : ∃ m, fuel = m + 1 := ⟨fuel - 1, by omega⟩
    rw [streamOf_cons] at bounded ⊢
    obtain ⟨position', found, stands⟩ :=
      member?_bytes (sound f (by simp)) position gap (streamOf files) bounded
    rw [padToBlock_eq, List.length_append] at stands
    rw [List.length_append] at bounded
    have after : behind f.member (.before position' (padToBlock f.content) (streamOf files)) =
        .before (position' + f.content.length) (padding f.content) (streamOf files) := by
      rw [behind, if_pos (member_kind (sound f (by simp))), supply_member]
    rw [membersFrom, found]
    simp only [supply_member, after, List.map_cons]
    rw [ih (fun g hg => sound g (by simp [hg])) (by simpa using enough) _ _ (by omega)]

theorem members_gzip_streamOf {files : List ArchivedFile} (sound : ∀ f ∈ files, f.Sound)
    (bounded : (streamOf files).length ≤ Text.maxWord) :
    members (Gzip.gzip (streamOf files)) = files.map fun f => (f.member, f.content) := by
  have enough := length_lt_memberBound fun f hf => (sound f hf).toFitting
  rw [members, opened_gzip]
  exact membersFrom_streamOf sound enough 0 [] (by simpa using bounded)

/-- A file with its path from the root. -/
def draft : ArchivedFile := ⟨"/f", { mode? := some 0o644 }, [1], 0o644⟩

/-- A file that goes to the same place. -/
def revision : ArchivedFile := ⟨"f", { mode? := some 0o644 }, [2], 0o644⟩

/-- An archive of both. -/
def revised : Bytes := Gzip.gzip (streamOf [draft, revision])

theorem sound_revised : ∀ f ∈ [draft, revision], f.Sound := by
  rw [List.forall_mem_cons, List.forall_mem_singleton]
  exact ⟨sound_of_mode [1] (by decide) (by decide), sound_of_mode [2] (by decide) (by decide)⟩

theorem length_revised : (streamOf [draft, revision]).length ≤ Text.maxWord := by decide +kernel

theorem pathReadBack_revised : ∀ f ∈ [draft, revision], pathReadBack f.path = utf8 f.path := by
  rw [List.forall_mem_cons, List.forall_mem_singleton]
  exact ⟨pathReadBack_of_survives (by decide) (Or.inl (by decide)),
    pathReadBack_of_survives (by decide) (Or.inl (by decide))⟩

theorem place_revised : ∀ f ∈ [draft, revision], f.place = [utf8 "f"] := by
  intro f hf
  rw [ArchivedFile.place, pathReadBack_revised f hf]
  revert f
  rw [List.forall_mem_cons, List.forall_mem_singleton]
  exact ⟨by decide, by decide⟩

theorem acceptable_revised : Acceptable (utf8 "/d/f") [utf8 "f"] := by
  refine ⟨by decide, by decide, ?_, by decide⟩
  intro n hn
  cases List.mem_singleton.1 hn
  exact ⟨by decide, by decide, by decide, by decide⟩

/-- The second file is made in place of the first one. -/
theorem extract_revised : ∃ fs', extract revised (utf8 "/d") linked = (.ok (), fs') := by
  obtain ⟨links, empty⟩ := emptyAt_of_resolve resolve_linked
  have agree : Agree ([] ++ [draft]) := by
    constructor
    all_goals
      intro f hf g hg
      cases List.mem_singleton.1 hf
      cases List.mem_singleton.1 hg
    · exact fun _ => rfl
    · exact fun _ => ⟨rfl, rfl⟩
  have place : draft.place = [utf8 "f"] := place_revised draft (by simp)
  have join : Path.join (utf8 "/d") (joined [utf8 "f"]) = utf8 "/d/f" := by decide
  have acceptable : Acceptable (draft.target (utf8 "/d")) draft.place := by
    rw [ArchivedFile.target, place, join]
    exact acceptable_revised
  obtain ⟨t, made, holds⟩ := unpack_succeeds empty (holds_nil true) agree acceptable
    (by rw [place]; simp)
  have same : linked.put [utf8 "d"] (.directory true []) = linked := put_of_resolve resolve_linked
  rw [same] at made
  -- The directory is as open as before, and at the place of the second file stands the first one.
  have open_ : Open t [] := by
    intro x above
    obtain rfl := List.prefix_nil.1 above
    exact Or.inr (by rw [Node.look_nil, Node.bare_eq_emptyDirectory_iff.2 holds.directory])
  obtain ⟨a, found, -⟩ := holds.made draft (by simp)
  rw [place] at found
  have spelled : Path.Spells (utf8 "/d") ([] ++ [utf8 "f"]) (utf8 "/d/f") := by
    rw [← join]
    exact Path.spells_join empty.nonempty (by simp) acceptable_revised.plain
  obtain ⟨fs', again⟩ := placeFile_succeeds empty holds.directory holds.ordinary spelled
    acceptable_revised open_ (Or.inr ⟨_, a, found⟩) revision.content revision.permissions
  have placed : targetPath (utf8 "/d") (pathReadBack revision.path) = .ok (utf8 "/d/f") := by
    rw [pathReadBack_revised revision (by simp)]
    rfl
  have second : unpack (utf8 "/d") revision (linked.put [utf8 "d"] t) = (.ok (), fs') := by
    rw [unpack, placed]
    exact again
  refine ⟨fs', ?_⟩
  rw [revised, extract_gzip_streamOf _ sound_revised length_revised, unpackAll,
    Action.bind_of_ok made, unpackAll, Action.bind_of_ok second]
  rfl

theorem path_member_revised : ∀ f ∈ [draft, revision], f.member.path = utf8 f.path := by
  intro f hf
  have path : f.member.path = pathReadBack f.path := rfl
  rw [path, pathReadBack_revised f hf]

theorem regularFiles_revised : regularFiles (members revised) = [("/f", [1]), ("f", [2])] := by
  have kind := fun f hf => member_kind (sound_revised f hf)
  have path : ∀ f ∈ [draft, revision], Text.lossy f.member.path = f.path := by
    intro f hf
    rw [path_member_revised f hf, lossy_utf8]
  rw [revised, members_gzip_streamOf sound_revised length_revised, List.map_cons,
    List.map_singleton, regularFiles_cons_of_regular (kind draft (by simp)), path draft (by simp),
    regularFiles_cons_of_regular (kind revision (by simp)), path revision (by simp)]
  rfl

/-- Both files are handed over, and the second one is what is left at their target. -/
theorem readers_agree_revised : linked.Vacant (utf8 "/d") ∧
    (∀ m ∈ members revised, IsText m.1.path) ∧ ∃ fs' place a,
      extract revised (utf8 "/d") linked = (.ok (), fs') ∧
      forEachEntry revised
        (EntryAction.readAll fun path content seen => seen ++ [(path, content)]) [] =
        (.ok (), [("/f", [1]), ("f", [2])]) ∧
      fs'.resolve (utf8 "/d/f") = .ok (place, .file [2] a) := by
  have vacant : linked.Vacant (utf8 "/d") := .empty resolve_linked
  have texts : ∀ m ∈ members revised, IsText m.1.path := by
    rw [revised, members_gzip_streamOf sound_revised length_revised]
    intro m hm
    obtain ⟨f, hf, rfl⟩ := List.mem_map.1 hm
    exact ⟨f.path, (path_member_revised f hf).symm⟩
  obtain ⟨fs', extracted⟩ := extract_revised
  obtain ⟨visited, -, present, -⟩ := readers_agree vacant texts extracted
  rw [regularFiles_revised] at visited present
  obtain ⟨there, names, a, -, -, found⟩ := present (utf8 "/d/f") [2] (by decide +kernel)
  exact ⟨vacant, texts, fs', there ++ names, a, extracted, visited _ _ [], found⟩

end Revised

end Tarball

end Northbound
