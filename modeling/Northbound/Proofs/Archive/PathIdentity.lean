import Northbound.Proofs.Archive.RelativePath
import Northbound.Proofs.FileSystem.LegalTree

/-!
# Archive paths identify files

What stands below a root has one path in an archive, however its own path is written, and shares it
with nothing else. Main statement: a path that leads down from a root through names that are texts
has a tidy archive path, the same as another one exactly if the two have the same components, and so
it is below every base directory; a path that does not lead down in this way is refused.
-/

namespace Northbound

open Northbound.Path (components joined pieces slash Plain)

namespace Path

variable {root p q : Path} {names : List Bytes} {name : Bytes} {texts us vs : List String}

/-- A path to something strictly below a root, through names that are texts. -/
def IsBelow (root p : Path) : Prop := ∃ texts, texts ≠ [] ∧ LeadsDown root texts p

/-- A relative path with no slash at either end or behind another one, and no dots for a name. -/
structure Tidy (p : Path) : Prop where
  relative : p.isAbsolute = false
  ending : p.endsInSlash = false
  single : ¬[slash, slash] <:+: p
  dot : dot ∉ pieces p
  dotDot : dotDot ∉ pieces p

theorem plain_of_mem_components (h : .name name ∈ components p) : Plain name := by
  obtain ⟨segment, dot, dotDot⟩ := mem_components_name h
  obtain ⟨nonempty, slash⟩ := segments_nonempty segment
  exact ⟨nonempty, slash, dot, dotDot⟩

/-- The names on the way down stand for themselves. -/
theorem LeadsDown.plain (h : LeadsDown root texts p) : ∀ n ∈ texts.map utf8, Plain n := by
  intro n hn
  apply plain_of_mem_components (p := p)
  rw [h]
  exact List.mem_append_right _ (List.mem_map_of_mem hn)

/-- Different ways down have different components. -/
theorem LeadsDown.components_eq_iff (hp : LeadsDown root us p) (hq : LeadsDown root vs q) :
    components p = components q ↔ us = vs := by
  rw [hp, hq, List.append_cancel_left_eq, List.map_inj_right fun _ _ => Component.name.inj,
    List.map_inj_right fun _ _ => utf8_inj]

/-- Names are the pieces of the path that they make. -/
theorem pieces_joined (further : names ≠ []) (unslashed : ∀ n ∈ names, slash ∉ n) :
    pieces (joined names) = names := by
  induction names with
  | nil => exact absurd rfl further
  | cons n ns ih =>
    have first : pieces n = [n] := pieces_of_not_mem (unslashed n List.mem_cons_self)
    by_cases last : ns = []
    · rw [last]
      exact first
    · rw [joined_cons last, pieces_append_slash, first,
        ih last fun m hm => unslashed m (List.mem_cons_of_mem n hm)]
      rfl

/-- There is nothing between two slashes in a row. -/
theorem nil_mem_pieces (h : [slash, slash] <:+: p) : [] ∈ pieces p := by
  obtain ⟨front, rest, rfl⟩ := h
  have shape : front ++ [slash, slash] ++ rest = front ++ slash :: slash :: rest := by simp
  rw [shape, pieces_append_slash, pieces_cons, if_pos rfl]
  exact List.mem_append_right _ List.mem_cons_self

theorem tidy_joined (further : names ≠ []) (plain : ∀ n ∈ names, Plain n) :
    Tidy (joined names) := by
  have own := pieces_joined further fun n hn => (plain n hn).slash
  refine ⟨isAbsolute_joined (unslashed_of_plain plain),
    endsInSlash_joined (unslashed_of_plain plain), ?_, ?_, ?_⟩
  · intro double
    have empty := nil_mem_pieces double
    rw [own] at empty
    exact (plain _ empty).nonempty rfl
  · rw [own]
    exact fun h => (plain _ h).dot rfl
  · rw [own]
    exact fun h => (plain _ h).dotDot rfl

end Path

open Northbound.Path (LeadsDown IsBelow Tidy)

variable {root p q : Path} {texts us vs : List String} {s t base : String}

/-- A path that leads down in no such way is refused. -/
theorem relativeArchivePath_of_not_leadsDown (h : ∀ texts, ¬LeadsDown root texts p) :
    relativeArchivePath root p = .error (.invalidPath p) := by
  cases result : relativeArchivePath root p with
  | ok s =>
    obtain ⟨texts, leads, -⟩ := relativeArchivePath_eq_ok_iff.1 result
    exact absurd leads (h texts)
  | error e => rw [eq_invalidPath_of_relativeArchivePath result]

/-- Names that stand for themselves are told by the text that they make. -/
theorem intercalate_inj (hu : ∀ n ∈ us.map utf8, Plain n) (hv : ∀ n ∈ vs.map utf8, Plain n)
    (same : String.intercalate "/" us = String.intercalate "/" vs) : us = vs := by
  have names : us.map utf8 = vs.map utf8 :=
    calc us.map utf8
        = Path.segments (joined (us.map utf8)) :=
          (Path.segments_joined (Path.unslashed_of_plain hu)).symm
      _ = Path.segments (joined (vs.map utf8)) := by rw [← utf8_intercalate, same, utf8_intercalate]
      _ = vs.map utf8 := Path.segments_joined (Path.unslashed_of_plain hv)
  exact (List.map_inj_right fun _ _ => utf8_inj).1 names

/-- Two paths that lead down have the same archive path exactly if they have the same components. -/
theorem archivePath_eq_iff (hp : LeadsDown root us p) (hq : LeadsDown root vs q) :
    String.intercalate "/" us = String.intercalate "/" vs ↔ components p = components q := by
  rw [hp.components_eq_iff hq]
  constructor
  · exact intercalate_inj hp.plain hq.plain
  · exact congrArg _

/-- A base directory goes before an archive path without a change to it. -/
theorem joinArchivePath_of_leadsDown (h : LeadsDown root us p) (further : us ≠ [])
    (nonempty : base ≠ "") :
    joinArchivePath base (String.intercalate "/" us) = base ++ "/" ++ String.intercalate "/" us :=
  joinArchivePath_eq nonempty (by simpa using further) h.plain (utf8_intercalate us)

theorem tidy_of_leadsDown (h : LeadsDown root us p) (further : us ≠ []) :
    Tidy (utf8 (String.intercalate "/" us)) := by
  rw [utf8_intercalate]
  exact Path.tidy_joined (by simpa using further) h.plain

/-- What stands above the root, or beside it, has no archive path. -/
theorem relativeArchivePath_of_not_prefix (h : ¬components root <+: components p) :
    relativeArchivePath root p = .error (.invalidPath p) := by
  apply relativeArchivePath_of_not_leadsDown
  intro texts leads
  exact h ⟨_, leads.symm⟩

/-- A path that climbs on its way down, or has a name that is no text, has none either. -/
theorem relativeArchivePath_of_mem {rest : List Component}
    (whole : components p = components root ++ rest)
    (h : .parent ∈ rest ∨ ∃ name, .name name ∈ rest ∧ ¬IsText name) :
    relativeArchivePath root p = .error (.invalidPath p) := by
  apply relativeArchivePath_of_not_leadsDown
  intro texts leads
  have same : rest = (texts.map utf8).map .name := List.append_cancel_left (whole.symm.trans leads)
  rw [same] at h
  rcases h with climbs | ⟨name, mem, not_text⟩
  · simp at climbs
  · obtain ⟨n, hn, eq⟩ := List.mem_map.1 mem
    obtain ⟨t, -, rfl⟩ := List.mem_map.1 hn
    cases eq
    exact not_text (isText_utf8 t)

/-- The archive path of a node is told by the names that lead to it. -/
theorem leadsDown_of_foldl_join {names : List Bytes} (nonempty : root ≠ [])
    (plain : ∀ n ∈ names, Plain n)
    (h : relativeArchivePath root (names.foldl Path.join root) = .ok s) :
    ∃ texts, texts.map utf8 = names ∧ LeadsDown root texts (names.foldl Path.join root) ∧
      s = String.intercalate "/" texts := by
  obtain ⟨texts, leads, same⟩ := relativeArchivePath_eq_ok_iff.1 h
  exact ⟨texts, (leadsDown_foldl_join_iff nonempty plain).1 leads, leads, same⟩

/-- Different files of a tree have different archive paths, below every base directory. -/
theorem archivePath_ne_of_get? {tree : Node} (legal : tree.Legal)
    (directory : tree.isDirectory = true)
    (nonempty : root ≠ []) {us vs : List Bytes} {b c : Bytes} {a a' : FileAttributes}
    (hu : tree.get? us = some (.file b a)) (hv : tree.get? vs = some (.file c a')) (ne : us ≠ vs)
    (hs : relativeArchivePath root (us.foldl Path.join root) = .ok s)
    (ht : relativeArchivePath root (vs.foldl Path.join root) = .ok t) :
    s ≠ t ∧ ∀ base, base ≠ "" → joinArchivePath base s ≠ joinArchivePath base t := by
  have further {names : List Bytes} {d : Bytes} {a : FileAttributes}
      (get : tree.get? names = some (.file d a)) : names ≠ [] := by
    rintro rfl
    rw [Node.get?_nil, Option.some.injEq] at get
    rw [get] at directory
    cases directory
  obtain ⟨ts, rfl, leads, rfl⟩ :=
    leadsDown_of_foldl_join nonempty (fun n hn => (legal.legalName hu n hn).toPlain) hs
  obtain ⟨ts', rfl, leads', rfl⟩ :=
    leadsDown_of_foldl_join nonempty (fun n hn => (legal.legalName hv n hn).toPlain) ht
  have different : String.intercalate "/" ts ≠ String.intercalate "/" ts' := by
    intro same
    exact ne (congrArg _ (intercalate_inj leads.plain leads'.plain same))
  refine ⟨different, ?_⟩
  intro base nonempty same
  apply different
  rw [joinArchivePath_of_leadsDown leads (by simpa using further hu) nonempty,
    joinArchivePath_of_leadsDown leads' (by simpa using further hv) nonempty] at same
  exact (String.append_right_inj _).1 same

/-- Paths below a root through names that are texts have tidy archive paths, equal exactly if the
paths have the same components, and so they are below every base directory. A path that is not under
the root, or climbs or has a name that is no text behind it, is refused. No two files of a tree
share a path. -/
theorem archivePath_identifies (hp : IsBelow root p) (hq : IsBelow root q) :
    (∃ s t, relativeArchivePath root p = .ok s ∧ relativeArchivePath root q = .ok t ∧
      (s = t ↔ components p = components q) ∧ Tidy (utf8 s) ∧ Tidy (utf8 t) ∧
      ∀ base, base ≠ "" → joinArchivePath base s = base ++ "/" ++ s ∧
        joinArchivePath base t = base ++ "/" ++ t ∧
        (joinArchivePath base s = joinArchivePath base t → s = t)) ∧
    (∀ r, ¬components root <+: components r →
      relativeArchivePath root r = .error (.invalidPath r)) ∧
    (∀ r rest, components r = components root ++ rest →
      (.parent ∈ rest ∨ ∃ name, .name name ∈ rest ∧ ¬IsText name) →
      relativeArchivePath root r = .error (.invalidPath r)) ∧
    ∀ (tree : Node) (us vs : List Bytes) (b c : Bytes) (a a' : FileAttributes) (s t : String),
      tree.Legal → tree.isDirectory = true → root ≠ [] →
      tree.get? us = some (.file b a) → tree.get? vs = some (.file c a') → us ≠ vs →
      relativeArchivePath root (us.foldl Path.join root) = .ok s →
      relativeArchivePath root (vs.foldl Path.join root) = .ok t →
      s ≠ t ∧ ∀ base, base ≠ "" → joinArchivePath base s ≠ joinArchivePath base t := by
  obtain ⟨us, furtheru, leadsu⟩ := hp
  obtain ⟨vs, furtherv, leadsv⟩ := hq
  refine ⟨⟨String.intercalate "/" us, String.intercalate "/" vs, ?_, ?_, ?_, ?_, ?_, ?_⟩,
    ?_, ?_, ?_⟩
  · exact relativeArchivePath_eq_ok_iff.2 ⟨us, leadsu, rfl⟩
  · exact relativeArchivePath_eq_ok_iff.2 ⟨vs, leadsv, rfl⟩
  · exact archivePath_eq_iff leadsu leadsv
  · exact tidy_of_leadsDown leadsu furtheru
  · exact tidy_of_leadsDown leadsv furtherv
  · intro base nonempty
    have first := joinArchivePath_of_leadsDown leadsu furtheru nonempty
    have second := joinArchivePath_of_leadsDown leadsv furtherv nonempty
    refine ⟨first, second, ?_⟩
    rw [first, second]
    exact (String.append_right_inj _).1
  · exact fun r => relativeArchivePath_of_not_prefix
  · exact fun r rest => relativeArchivePath_of_mem
  · intro tree us vs b c a a' s t legal directory nonempty
    exact archivePath_ne_of_get? legal directory nonempty

/-- A dot and a second slash in a path do not show in its archive path. -/
theorem archivePath_identifies_dotted :
    IsBelow (utf8 "/src/pkg") (utf8 "/src/pkg/d/./f.yaml") ∧
      IsBelow (utf8 "/src/pkg") (utf8 "/src/pkg//d.f") ∧
      ∃ s t, relativeArchivePath (utf8 "/src/pkg") (utf8 "/src/pkg/d/./f.yaml") = .ok s ∧
        relativeArchivePath (utf8 "/src/pkg") (utf8 "/src/pkg//d.f") = .ok t ∧
        s ≠ t ∧ joinArchivePath "p" s ≠ joinArchivePath "p" t := by
  have first : IsBelow (utf8 "/src/pkg") (utf8 "/src/pkg/d/./f.yaml") :=
    ⟨["d", "f.yaml"], by decide, by unfold LeadsDown; decide +kernel⟩
  have second : IsBelow (utf8 "/src/pkg") (utf8 "/src/pkg//d.f") :=
    ⟨["d.f"], by decide, by unfold LeadsDown; decide +kernel⟩
  obtain ⟨⟨s, t, hs, ht, same_iff, -, -, joins⟩, -⟩ := archivePath_identifies first second
  have different : s ≠ t := by
    rw [ne_eq, same_iff]
    decide +kernel
  exact ⟨first, second, s, t, hs, ht, different, fun same =>
    different ((joins "p" (by decide)).2.2 same)⟩

end Northbound
