import Northbound.Archive.Entries
import Northbound.Proofs.Archive.Unpacking

/-!
# Entries read back

An action on entries that does nothing to an archive but read from its entry is told by what it does
with the data. Writing entries and reading them back calls the action on each entry once and in
order, up to the first call that fails. Main statement: each call gets the path and the content that
were written exactly if every path is found as it was written.
-/

namespace Northbound

/-- What is done with the data of an entry, from a place on, and with what is kept of it. -/
abbrev DataAction (σ α : Type) := ExceptT ArchiveError (StateM (Bytes × σ)) α

namespace DataAction

variable {σ : Type}

/-- Takes up to `limit` bytes of the data, or all of it. -/
def readData (limit? : Option Nat) : DataAction σ Bytes := fun (data, m) =>
  let wanted := min data.length (limit?.getD data.length)
  (.ok (data.take wanted), data.drop wanted, m)

/-- Changes what is kept. -/
def note (f : σ → σ) : DataAction σ Unit := modify fun s => (s.1, f s.2)

/-- Fails if what is kept is not accepted. -/
def check (accept : σ → Except ArchiveError Unit) : DataAction σ Unit := fun s => (accept s.2, s)

/-- Reads all data and keeps it with the path, and fails once `n + 1` calls were made. -/
def record (n : Nat) (e : ArchiveError) (path : String) :
    DataAction (List (String × Bytes)) Unit := do
  let content ← readData none
  note (· ++ [(path, content)])
  check fun calls => if calls.length = n + 1 then throw e else pure ()

end DataAction

namespace EntryAction

variable {σ α β : Type}

/-- Fails if what is kept is not accepted. -/
def check (accept : σ → Except ArchiveError Unit) : EntryAction σ Unit := fun s =>
  (accept s.memory, s)

/-- Reads all data of an entry and keeps it with the path, and fails once `n + 1` calls were made.
-/
def record (n : Nat) (e : ArchiveError) (path : String) :
    EntryAction (List (String × Bytes)) Unit := do
  let content ← readData none
  note (· ++ [(path, content)])
  check fun calls => if calls.length = n + 1 then throw e else pure ()

/-- An action on an entry that does to its data what `g` does, and nothing else to the archive. -/
def Follows (action : EntryAction σ α) (g : DataAction σ α) : Prop :=
  ∀ (position next : Nat) (data rest : Bytes) (m : σ), ∃ taken,
    data = taken ++ (g (data, m)).2.1 ∧
      action {
          archive := { source := { bytes := data ++ rest }, position, next }
          remaining := data.length
          memory := m } =
        ((g (data, m)).1, {
          archive := {
            source := { bytes := (g (data, m)).2.1 ++ rest }
            position := position + taken.length
            next }
          remaining := (g (data, m)).2.1.length
          memory := (g (data, m)).2.2 })

theorem Follows.pure (x : α) :
    (Pure.pure x : EntryAction σ α).Follows (Pure.pure x : DataAction σ α) :=
  fun _ _ _ _ _ => ⟨[], rfl, rfl⟩

theorem Follows.throw (e : ArchiveError) :
    (MonadExcept.throw e : EntryAction σ α).Follows (MonadExcept.throw e : DataAction σ α) :=
  fun _ _ _ _ _ => ⟨[], rfl, rfl⟩

theorem Follows.note (f : σ → σ) : (EntryAction.note f).Follows (DataAction.note f) :=
  fun _ _ _ _ _ => ⟨[], rfl, rfl⟩

theorem Follows.check (accept : σ → Except ArchiveError Unit) :
    (EntryAction.check accept).Follows (DataAction.check accept) :=
  fun _ _ _ _ _ => ⟨[], rfl, rfl⟩

theorem Follows.readData (limit? : Option Nat) :
    (EntryAction.readData limit? : EntryAction σ Bytes).Follows (DataAction.readData limit?) := by
  intro position next data rest m
  let wanted := min data.length (limit?.getD data.length)
  have hwanted : (data.take wanted).length = wanted := by
    rw [List.length_take]
    exact Nat.min_eq_left (Nat.min_le_left _ _)
  have hsupply : Tar.Archive.supply wanted
      { source := { bytes := data ++ rest }, position, next } =
        ((data.take wanted, none),
          { source := { bytes := data.drop wanted ++ rest },
            position := position + wanted, next }) := by
    have hbytes : data ++ rest = data.take wanted ++ (data.drop wanted ++ rest) := by
      rw [← List.append_assoc, List.take_append_drop]
    have hgiven := @Tar.Archive.supply_append position next (data.take wanted)
      (data.drop wanted ++ rest)
    rw [hwanted] at hgiven
    rw [hbytes]
    exact hgiven
  refine ⟨data.take wanted, (List.take_append_drop _ _).symm, ?_⟩
  simp only [EntryAction.readData, DataAction.readData]
  rw [hsupply, List.length_drop]
  simp only
  rw [hwanted]

/-- Actions that do the same to the data go on doing the same. -/
theorem Follows.bind {action : EntryAction σ α} {g : DataAction σ α} {f : α → EntryAction σ β}
    {k : α → DataAction σ β} (first : action.Follows g) (next : ∀ x, (f x).Follows (k x)) :
    (action >>= f).Follows (g >>= k) := by
  intro position after data rest m
  obtain ⟨taken, hdata, haction⟩ := first position after data rest m
  rw [Action.bind_apply, Action.bind_apply, haction]
  rcases hg : g (data, m) with ⟨e | x, left, m₁⟩
  · rw [hg] at hdata
    exact ⟨taken, hdata, rfl⟩
  · rw [hg] at hdata
    obtain ⟨more, hleft, hnext⟩ := next x (position + taken.length) after left rest m₁
    refine ⟨taken ++ more, ?_, ?_⟩
    · calc data
        _ = taken ++ left := hdata
        _ = taken ++ (more ++ (k x (left, m₁)).2.1) := congrArg (taken ++ ·) hleft
        _ = taken ++ more ++ (k x (left, m₁)).2.1 := (List.append_assoc ..).symm
    · rw [List.length_append, ← Nat.add_assoc]
      exact hnext

theorem record_follows (n : Nat) (e : ArchiveError) (path : String) :
    (EntryAction.record n e path).Follows (DataAction.record n e path) := by
  apply Follows.bind (Follows.readData none)
  intro content
  apply Follows.bind (Follows.note _)
  intro _
  exact Follows.check _

end EntryAction

namespace Tarball

open ArchivedFile

variable {σ : Type}

/-- Does something with each entry in turn. The first failure ends it. -/
def visitAll (g : String → DataAction σ Unit) :
    List (String × Bytes) → σ → Except ArchiveError Unit × σ
  | [], m => (.ok (), m)
  | (path, content) :: entries, m =>
    match g path (content, m) with
    | (.error e, _, m) => (.error e, m)
    | (.ok (), _, m) => visitAll g entries m

/-- What is handed over for a file of an archive. -/
def handedOver (f : ArchivedFile) : String × Bytes := (Text.lossy (pathFound f.path), f.content)

variable {action : String → EntryAction σ Unit} {g : String → DataAction σ Unit}

/-- From the front of some files on, the action is run on each of them. -/
theorem forEachFrom_streamOf (follows : ∀ path, (action path).Follows (g path))
    {files : List ArchivedFile} (fitting : ∀ f ∈ files, f.Fitting) {fuel : Nat}
    (enough : files.length < fuel) (position : Nat) (gap : Bytes)
    (bounded : position + gap.length + (streamOf files).length ≤ Text.maxWord) (m : σ) :
    forEachFrom action fuel (.before position gap (streamOf files)) m =
      visitAll g (files.map handedOver) m := by
  induction files generalizing fuel position gap m with
  | nil =>
    obtain ⟨fuel, rfl⟩ : ∃ n, fuel = n + 1 := ⟨fuel - 1, by omega⟩
    obtain ⟨a, hend⟩ := member?_streamOf_nil position gap
    rw [forEachFrom, hend]
    rfl
  | cons f files ih =>
    obtain ⟨fuel, rfl⟩ : ∃ n, fuel = n + 1 := ⟨fuel - 1, by omega⟩
    have hfits : f.Fitting := fitting f (by simp)
    rw [streamOf_cons] at bounded ⊢
    obtain ⟨position', hfound, hstands⟩ :=
      member?_bytes_found hfits position gap (streamOf files) bounded
    rw [padToBlock_eq] at hfound hstands
    obtain ⟨taken, hcontent, haction⟩ := follows (Text.lossy (pathFound f.path)) position'
      (position' + (f.content ++ padding f.content).length) f.content
      (padding f.content ++ streamOf files) m
    have hentry : Tar.Archive.before position' (f.content ++ padding f.content) (streamOf files) =
        { source := { bytes := f.content ++ (padding f.content ++ streamOf files) }
          position := position'
          next := position' + (f.content ++ padding f.content).length } := by
      rw [Tar.Archive.before, List.append_assoc]
    rw [forEachFrom]
    simp only [hfound, if_pos (foundMember_kind hfits), hentry]
    simp only [foundMember, haction, List.map_cons, handedOver, visitAll]
    rcases hg : g (Text.lossy (pathFound f.path)) (f.content, m) with ⟨e | ⟨⟩, left, m₁⟩
    · rfl
    · simp only
      rw [hg] at hcontent
      have hbehind : ({ source := { bytes := left ++ (padding f.content ++ streamOf files) }
                        position := position' + taken.length
                        next := position' + (f.content ++ padding f.content).length } :
          Tar.Archive) =
          .before (position' + taken.length) (left ++ padding f.content) (streamOf files) := by
        simp only [Tar.Archive.before, List.append_assoc, hcontent, List.length_append,
          Nat.add_assoc]
      rw [hbehind]
      refine ih (fun f' hf' => fitting f' (by simp [hf'])) (by simpa using enough) _ _ ?_ m₁
      have hsize : f.content.length = taken.length + left.length := by
        rw [hcontent, List.length_append]
      simp only [List.length_append] at bounded hstands ⊢
      omega

/-- Going through the archive of some files runs the action on each of them. -/
theorem forEachEntry_gzip_streamOf (follows : ∀ path, (action path).Follows (g path))
    {files : List ArchivedFile} (fitting : ∀ f ∈ files, f.Fitting)
    (bounded : (streamOf files).length ≤ Text.maxWord) (m : σ) :
    forEachEntry (Gzip.gzip (streamOf files)) action m = visitAll g (files.map handedOver) m := by
  rw [forEachEntry, opened_gzip]
  have henough := length_lt_memberBound fitting
  exact forEachFrom_streamOf follows fitting henough 0 [] (by simpa using bounded) m

/-- Writes entries below a base directory, one after the other. -/
def writeEntries (base : String) (entries : List (String × Bytes)) :
    Except ArchiveError Bytes := do
  let w ← entries.foldlM (fun w e => w.addEntry e.1 e.2) ({ base } : TarballWriter)
  w.finish

/-- An entry as the file that an archive holds for it. -/
def entryFile (base : String) (entry : String × Bytes) : ArchivedFile where
  path := joinArchivePath base entry.1
  header := TarballWriter.entryHeader
  content := entry.2
  mode := 0o644

theorem entryFile_fitting (base : String) (entry : String × Bytes) :
    (entryFile base entry).Fitting := fitting_entryHeader

/-- The stream of an archive of entries before it is compressed. -/
def entryStream (base : String) (entries : List (String × Bytes)) : Bytes :=
  streamOf (entries.map (entryFile base))

theorem length_pathRecord_entryFile_le {base : String} {entries : List (String × Bytes)}
    {entry : String × Bytes} (h : entry ∈ entries) :
    (pathRecord (entryFile base entry).path).length ≤ (entryStream base entries).length := by
  calc (pathRecord (entryFile base entry).path).length
    _ ≤ (entryFile base entry).bytes.length := length_pathRecord_le (entryFile_fitting base entry)
    _ ≤ (entryStream base entries).length :=
      length_bytes_le_length_streamOf (List.mem_map_of_mem h)

theorem length_entryStream (base : String) (entries : List (String × Bytes)) :
    (entryStream base entries).length =
      entries.foldr (fun e total => 2 * Tar.blockSize +
        Tar.Reader.padded (pathRecord (joinArchivePath base e.1)).length +
          Tar.Reader.padded e.2.length + total) (2 * Tar.blockSize) := by
  induction entries with
  | nil =>
    change archiveEnd.length = _
    rw [archiveEnd, Bytes.length_zeros]
    rfl
  | cons entry entries ih =>
    have hentry := length_bytes (entryFile_fitting base entry)
    rw [entryStream, List.map_cons, streamOf_cons, List.length_append, List.foldr_cons, ← ih,
      hentry]
    rfl

/-- Adding entries appends their files to the blocks of a writer whose sink takes everything. -/
theorem foldlM_addEntry (w : TarballWriter) (unlimited : w.capacity? = none)
    (entries : List (String × Bytes)) :
    entries.foldlM (fun w e => w.addEntry e.1 e.2) w =
      .ok { w with
        blocks := w.blocks ++ (entries.map (entryFile w.base)).flatMap ArchivedFile.bytes } := by
  induction entries generalizing w with
  | nil =>
    simp only [List.foldlM_nil, List.map_nil, List.flatMap_nil, List.append_nil]
    rfl
  | cons entry entries ih =>
    have hadd : w.addEntry entry.1 entry.2 =
        .ok { w with blocks := w.blocks ++ (entryFile w.base entry).bytes } :=
      append_of_unlimited unlimited _ _ _ _
    rw [List.foldlM_cons, hadd]
    refine (ih { w with blocks := w.blocks ++ (entryFile w.base entry).bytes } unlimited).trans ?_
    simp only [List.map_cons, List.flatMap_cons, List.append_assoc]

theorem writeEntries_eq_ok (base : String) (entries : List (String × Bytes)) :
    writeEntries base entries = .ok (Gzip.gzip (entryStream base entries)) := by
  rw [writeEntries, foldlM_addEntry _ rfl]
  rfl

theorem record_apply (n : Nat) (e : ArchiveError) (path : String) (content : Bytes)
    (calls : List (String × Bytes)) :
    DataAction.record n e path (content, calls) =
      (if calls.length = n then .error e else .ok (), [], calls ++ [(path, content)]) := by
  have hread : (DataAction.readData none : DataAction _ Bytes) (content, calls) =
      (.ok content, [], calls) := by
    simp [DataAction.readData]
  have hcount : (calls ++ [(path, content)]).length = n + 1 ↔ calls.length = n := by simp
  rw [DataAction.record, Action.bind_of_ok hread, DataAction.note,
    Action.bind_of_ok (Action.modify_apply _ _)]
  simp only [DataAction.check, hcount]
  rfl

/-- An action that fails at some call is called as often and no more. -/
theorem visitAll_record (n : Nat) (e : ArchiveError) (entries : List (String × Bytes))
    {calls : List (String × Bytes)} (early : calls.length ≤ n) :
    visitAll (DataAction.record n e) entries calls =
      (if n < (calls ++ entries).length then .error e else .ok (),
        (calls ++ entries).take (n + 1)) := by
  induction entries generalizing calls with
  | nil =>
    rw [List.append_nil, if_neg (by omega), List.take_of_length_le (by omega)]
    rfl
  | cons entry entries ih =>
    obtain ⟨path, content⟩ := entry
    have hrest : calls ++ (path, content) :: entries = (calls ++ [(path, content)]) ++ entries := by
      simp
    rw [visitAll, record_apply, hrest]
    by_cases hlast : calls.length = n
    · have hlength : (calls ++ [(path, content)]).length = n + 1 := by simp [hlast]
      rw [if_pos hlast, if_pos (by rw [List.length_append]; omega), ← hlength, List.take_left]
    · rw [if_neg hlast]
      exact ih (by rw [List.length_append, List.length_singleton]; omega)

theorem visitAll_record_nil (n : Nat) (e : ArchiveError) (entries : List (String × Bytes)) :
    visitAll (DataAction.record n e) entries [] =
      (if n < entries.length then .error e else .ok (), entries.take (n + 1)) :=
  visitAll_record n e entries (Nat.zero_le n)

/-- Whether entries that are written below a base directory are read back: an action is called on
each of them once and in order, with its path below the base and its content, up to the first call
that fails. -/
def ReadsBack (base : String) (entries : List (String × Bytes)) : Prop :=
  ∃ archive, writeEntries base entries = .ok archive ∧
    (∀ (σ : Type) (action : String → EntryAction σ Unit) (g : String → DataAction σ Unit),
      (∀ path, (action path).Follows (g path)) → ∀ m,
        forEachEntry archive action m =
          visitAll g (entries.map fun e => (joinArchivePath base e.1, e.2)) m) ∧
    ∀ n e, forEachEntry archive (EntryAction.record n e) [] =
      (if n < entries.length then .error e else .ok (),
        (entries.map fun e => (joinArchivePath base e.1, e.2)).take (n + 1))

variable {base : String} {entries : List (String × Bytes)}

/-- Going through the archive of some entries runs the action on each of them, with the path that is
found for it. -/
theorem forEachEntry_entries (follows : ∀ path, (action path).Follows (g path))
    (bounded : (entryStream base entries).length ≤ Text.maxWord) (m : σ) :
    forEachEntry (Gzip.gzip (entryStream base entries)) action m =
      visitAll g
        (entries.map fun e => (Text.lossy (pathFound (joinArchivePath base e.1)), e.2)) m := by
  have hfits : ∀ f ∈ entries.map (entryFile base), f.Fitting := by
    intro f hf
    obtain ⟨entry, -, rfl⟩ := List.mem_map.1 hf
    exact entryFile_fitting base entry
  rw [entryStream, forEachEntry_gzip_streamOf follows hfits bounded, List.map_map]
  rfl

/-- Entries are read back exactly if every path is handed over as it was written. -/
theorem readsBack_iff_lossy (bounded : (entryStream base entries).length ≤ Text.maxWord) :
    ReadsBack base entries ↔ ∀ e ∈ entries,
      Text.lossy (pathFound (joinArchivePath base e.1)) = joinArchivePath base e.1 := by
  constructor
  · rintro ⟨archive, hwritten, -, hrecord⟩
    obtain rfl : Gzip.gzip (entryStream base entries) = archive :=
      Except.ok.inj ((writeEntries_eq_ok base entries).symm.trans hwritten)
    have hcalls := hrecord entries.length .sinkFull
    rw [forEachEntry_entries (EntryAction.record_follows _ _) bounded,
      visitAll_record_nil] at hcalls
    have hpaths := congrArg Prod.snd hcalls
    simp only at hpaths
    rw [List.take_of_length_le (by simp), List.take_of_length_le (by simp), List.map_inj_left]
      at hpaths
    intro e he
    exact (Prod.mk.inj (hpaths e he)).1
  · intro h
    have hhanded : (entries.map fun e => (Text.lossy (pathFound (joinArchivePath base e.1)), e.2)) =
        entries.map fun e => (joinArchivePath base e.1, e.2) :=
      List.map_congr_left fun e he => congrArg (·, e.2) (h e he)
    refine ⟨_, writeEntries_eq_ok base entries, ?_, ?_⟩
    · intro σ action g follows m
      rw [forEachEntry_entries follows bounded, hhanded]
    · intro n e
      rw [forEachEntry_entries (EntryAction.record_follows n e) bounded, hhanded,
        visitAll_record_nil, List.length_map]

/-- Entries that were written are visited once and in order, each with its content. A path is handed
over as it was written where it is found so, and the entries are read back exactly if all paths are.
-/
theorem entries_visited (bounded : (entryStream base entries).length ≤ Text.maxWord) :
    (∃ archive, writeEntries base entries = .ok archive ∧
      ∀ (σ : Type) (action : String → EntryAction σ Unit) (g : String → DataAction σ Unit),
        (∀ path, (action path).Follows (g path)) → ∀ m,
          forEachEntry archive action m = visitAll g
            (entries.map fun e => (Text.lossy (pathFound (joinArchivePath base e.1)), e.2)) m) ∧
    (∀ e ∈ entries, Text.lossy (pathFound (joinArchivePath base e.1)) = joinArchivePath base e.1 ↔
      PathFound (utf8 (joinArchivePath base e.1))) ∧
    (ReadsBack base entries ↔ ∀ e ∈ entries, PathFound (utf8 (joinArchivePath base e.1))) := by
  have hfound : ∀ e ∈ entries,
      Text.lossy (pathFound (joinArchivePath base e.1)) = joinArchivePath base e.1 ↔
        PathFound (utf8 (joinArchivePath base e.1)) := by
    intro e he
    exact lossy_pathFound_eq_iff (Nat.le_trans (length_pathRecord_entryFile_le he) bounded)
  refine ⟨⟨_, writeEntries_eq_ok base entries, ?_⟩, hfound, ?_⟩
  · intro σ action g follows m
    exact forEachEntry_entries follows bounded m
  · rw [readsBack_iff_lossy bounded]
    exact forall₂_congr hfound

/-- Two entries of one path are both read back, and so is a short path with a line feed. -/
theorem entries_visited_sample :
    (entryStream "ns" [("a", [1]), ("a", [2]), ("b\nc", [])]).length ≤ Text.maxWord ∧
      ReadsBack "ns" [("a", [1]), ("a", [2]), ("b\nc", [])] := by
  have hbounded :
      (entryStream "ns" [("a", [1]), ("a", [2]), ("b\nc", [])]).length ≤ Text.maxWord := by
    rw [length_entryStream]
    decide +kernel
  obtain ⟨-, -, hiff⟩ := entries_visited hbounded
  refine ⟨hbounded, hiff.2 ?_⟩
  intro e he
  simp only [List.mem_cons, List.not_mem_nil, or_false] at he
  rcases he with rfl | rfl | rfl
  · exact Or.inl (by decide)
  · exact Or.inl (by decide)
  · exact Or.inr (by decide +kernel)

/-- A path with a line feed is handed over as another path if its second line looks like a record.
-/
theorem not_readsBack_hidden_record : ¬ReadsBack "b" [("a\n9 path=x", utf8 "hello")] := by
  have hbounded : (entryStream "b" [("a\n9 path=x", utf8 "hello")]).length ≤ Text.maxWord := by
    rw [length_entryStream]
    decide +kernel
  rw [readsBack_iff_lossy hbounded]
  intro h
  have hsame := h _ (List.mem_singleton_self _)
  have hfound : Text.lossy (pathFound (joinArchivePath "b" "a\n9 path=x")) = "x" := by
    decide +kernel
  rw [hfound] at hsame
  exact absurd hsame (by decide)

end Tarball

end Northbound
