import Northbound.Proofs.Url.Host

/-!
# Web addresses as text

The text of a web address with a host, maybe a port, and a path of characters that may stand in one.
Main statement: it is read as the same address, so nothing in the path is taken for another part of
it.
-/

namespace Northbound.Url

variable {scheme : String} {host : Host} {port? : Option Nat} {cs inner path : List Char}
  {s : List Char} {ss : List (List Char)} {c : Char}

section Paths

/-- A segment that is written and read as it is. -/
structure IsKept (s : List Char) : Prop where
  ordinary : IsOrdinary s
  chars : ∀ c ∈ s, IsPathChar c ∧ isSlash true c = false

theorem isKept_nil : IsKept [] := ⟨by decide, List.forall_mem_nil _⟩

/-- No separator is left in a piece of a path, and a piece has nothing new in it. -/
theorem mem_of_mem_pathPieces (h : s ∈ pathPieces true cs) (hc : c ∈ s) :
    c ∈ cs ∧ isSlash true c = false := by
  have unslashed : c ≠ '/' := by
    rintro rfl
    exact not_mem_of_mem_splitAtChar h hc
  obtain ⟨d, hd, same⟩ := List.mem_map.1 (mem_of_mem_splitAtChar h hc)
  split at same
  · exact absurd same.symm unslashed
  next kept =>
    subst same
    exact ⟨hd, by simpa using kept⟩

/-- What is left of a path when dots are resolved is kept. -/
theorem isKept_of_mem_resolveDots (plain : ∀ c ∈ cs, IsPathChar c)
    (h : s ∈ resolveDots false [] (pathPieces true cs)) : IsKept s := by
  obtain rfl | h | ⟨h, ordinary⟩ := mem_resolveDots h
  · exact isKept_nil
  · cases h
  · refine ⟨ordinary, fun c hc => ?_⟩
    obtain ⟨mem, unslashed⟩ := mem_of_mem_pathPieces h hc
    exact ⟨plain c mem, unslashed⟩

/-- Segments that are kept are written without encoding. -/
theorem encodeSegments_of_kept (kept : ∀ s ∈ ss, IsKept s) :
    encodeSegments ss = ss.map String.ofList := by
  apply List.map_congr_left
  intro s hs
  rw [percentEncode_of_plain fun c hc => ((kept s hs).chars c hc).1]

/-- Segments that are kept are found again between the slashes. -/
theorem segmentsOf_intercalate (kept : ∀ s ∈ ss, IsKept s) (nonempty : ss ≠ []) :
    segmentsOf true (['/'].intercalate ss) = ss.map String.ofList := by
  have clean : ∀ s ∈ ss, '/' ∉ s := by
    intro s hs found
    have unslashed := ((kept s hs).chars '/' found).2
    rw [isSlash_slash] at unslashed
    cases unslashed
  have pieces : pathPieces true (['/'].intercalate ss) = ss := by
    have same : ∀ c ∈ ['/'].intercalate ss, (if isSlash true c then '/' else c) = c := by
      intro c hc
      obtain rfl | ⟨s, hs, mem⟩ := exists_mem_of_mem_intercalate hc
      · rfl
      · rw [((kept s hs).chars c mem).2]
        rfl
    rw [pathPieces, List.map_congr_left same, List.map_id', splitAtChar_intercalate clean nonempty]
  rw [segmentsOf, pieces, resolveDots_of_ordinary (fun s hs => (kept s hs).ordinary),
    List.reverse_nil, List.nil_append, encodeSegments_of_kept kept]

/-- The text of a path has a slash in front of each segment. -/
theorem toList_render_segments (nonempty : ss ≠ []) :
    (UrlPath.render (.segments (ss.map String.ofList))).toList = '/' :: ['/'].intercalate ss := by
  have text : (UrlPath.render (.segments (ss.map String.ofList))).toList =
      ss.flatMap fun s => '/' :: s := by
    simp [UrlPath.render, String.toList_join, List.flatMap_def, Function.comp_def]
  rw [text]
  clear text
  induction ss with
  | nil => exact absurd rfl nonempty
  | cons s ss ih =>
      by_cases last : ss = []
      · simp [last]
      · rw [List.flatMap_cons, ih last, List.intercalate_cons_of_ne_nil last]
        simp

end Paths

section Texts

/-- The segments of a path. -/
def segmentChars (path : List Char) : List (List Char) :=
  resolveDots false [] (pathPieces true path)

theorem segmentChars_ne_nil (path : List Char) : segmentChars path ≠ [] :=
  resolveDots_ne_nil (splitAtChar_ne_nil _ _) []

theorem isKept_of_mem_segmentChars (plain : ∀ c ∈ path, IsPathChar c) :
    ∀ s ∈ segmentChars path, IsKept s := fun _ => isKept_of_mem_resolveDots plain

/-- The port that shows in the text of an address. -/
def shownPort? (scheme : String) (port? : Option Nat) : Option Nat :=
  if defaultPort? scheme = port? then none else port?

theorem shownPort?_shownPort? (scheme : String) (port? : Option Nat) :
    shownPort? scheme (shownPort? scheme port?) = shownPort? scheme port? := by
  unfold shownPort?
  by_cases usual : defaultPort? scheme = port?
  · simp [usual]
  · simp [usual]

theorem toList_portText (port? : Option Nat) :
    (match port? with
      | some p => ":" ++ Text.decimal p
      | none => "").toList = portChars port? := by
  cases port? with
  | none => rfl
  | some p => simp [Text.decimal, portChars]

/-- The text of a web address is its scheme, its host, its port if it shows, and its segments. -/
theorem toList_render_webUrl (text : Host.IsText host inner) (plain : ∀ c ∈ path, IsPathChar c) :
    (webUrl scheme host port? path).render.toList =
      scheme.toList ++ ':' :: hierarchy inner (shownPort? scheme port?)
        (['/'].intercalate (segmentChars path)) := by
  have segments : segmentsOf true path = (segmentChars path).map String.ofList :=
    encodeSegments_of_kept (isKept_of_mem_segmentChars plain)
  have pathText : (webUrl scheme host port? path).pathText.toList =
      '/' :: ['/'].intercalate (segmentChars path) := by
    rw [Url.pathText, webUrl, segments, toList_render_segments (segmentChars_ne_nil path)]
  have hostText : (webUrl scheme host port? path).renderHost.toList =
      '/' :: '/' :: (Address.bracketed inner ++ portChars (shownPort? scheme port?)) := by
    have shape : (webUrl scheme host port? path).renderHost = "//" ++ "" ++ host.render ++
        (match shownPort? scheme port? with
          | some p => ":" ++ Text.decimal p
          | none => "") := rfl
    rw [shape, String.toList_append, toList_portText, text.rendered]
    simp
  have shape : (webUrl scheme host port? path).render =
      scheme ++ ":" ++ (webUrl scheme host port? path).renderHost ++
        (webUrl scheme host port? path).pathText ++ "" ++ "" := rfl
  rw [shape]
  simp [hostText, pathText, hierarchy]

/-- A web address is read from its text as it is. -/
theorem parse?_render_webUrl (web : scheme = "http" ∨ scheme = "https")
    (text : Host.IsText host inner)
    (bounded : ∀ n ∈ port?, n ≤ 65535) (plain : ∀ c ∈ path, IsPathChar c) :
    parse? (webUrl scheme host port? path).render = some (webUrl scheme host port? path) := by
  have kept := isKept_of_mem_segmentChars plain
  have shown : ∀ n ∈ shownPort? scheme port?, n ≤ 65535 := by
    intro n hn
    unfold shownPort? at hn
    split at hn
    · cases hn
    · exact bounded n hn
  have visible : ∀ c ∈ ['/'].intercalate (segmentChars path), 32 < c.toNat ∧ c ≠ '#' ∧ c ≠ '?' := by
    intro c hc
    obtain rfl | ⟨s, hs, mem⟩ := exists_mem_of_mem_intercalate hc
    · decide
    · exact visible_of_isPathChar ((kept s hs).chars c mem).1
  have segments :
      segmentsOf true (['/'].intercalate (segmentChars path)) = segmentsOf true path := by
    rw [segmentsOf_intercalate kept (segmentChars_ne_nil path), segmentsOf, ← segmentChars,
      encodeSegments_of_kept kept]
  -- The usual port of the scheme is left out of the text, and an address does not keep it either.
  have same : webUrl scheme host (shownPort? scheme port?) (['/'].intercalate (segmentChars path)) =
      webUrl scheme host port? path := by
    have port := shownPort?_shownPort? scheme port?
    unfold shownPort? at port ⊢
    simp only [webUrl, segments, port]
  rw [parse?_hierarchy web text.chars text.nonempty shown visible (toList_render_webUrl text plain),
    text.read, Option.map_some, same]

end Texts

end Northbound.Url
