import Northbound.Proofs.FileSystem.Calls

/-!
# Contents that calls leave

What a file holds after some calls: the content that was written last at its place, or what it held
before if nothing was written there. Below a destination in which nothing stood, a path with names
behind it can be looked up in the end, and is found where its names tell.
-/

namespace Northbound

namespace Node

/-- The content of a file; other nodes have none. -/
def content? : Node → Option Bytes
  | .file content _ => some content
  | _ => none

end Node

namespace FileSystem

open Northbound.Path (Plain components joined segments)

/-- The content of the file that stands at a place. -/
def contentAt (fs : FileSystem) (x : List Bytes) : Option Bytes :=
  (fs.root.look x).bind Node.content?

theorem contentAt_eq_some_iff {fs : FileSystem} {x : List Bytes} {content : Bytes} :
    fs.contentAt x = some content ↔ ∃ a, fs.root.get? x = some (.file content a) := by
  constructor
  · intro h
    obtain ⟨n, seen, held⟩ := Option.bind_eq_some_iff.1 h
    cases n with
    | file other a =>
      cases held
      exact ⟨a, get?_of_look_file seen⟩
    | _ => cases held
  · rintro ⟨a, get⟩
    rw [contentAt, Node.look, get]
    rfl

theorem contentAt_eq_none {fs : FileSystem} {x : List Bytes} (free : fs.root.look x = none) :
    fs.contentAt x = none := by
  rw [contentAt, free]
  rfl

/-- A file that was written: its path, its place and its content. -/
structure Written where
  path : Path
  place : List Bytes
  content : Bytes

section Writes

variable {fs fs₁ fs' : FileSystem} {p : Path} {place : List Bytes} {c : Call} {cs cs' : List Call}
  {w : Written}

/-- The file that a call writes. -/
def Call.write? : Call → Option Written
  | .writeFile path place content => some { path, place, content }
  | _ => none

/-- The files that calls write, in order. -/
def writes (cs : List Call) : List Written := cs.filterMap Call.write?

/-- What calls write, by its paths. -/
def writtenPaths (cs : List Call) : List (Path × Bytes) :=
  (writes cs).map fun w => (w.path, w.content)

/-- What calls write, by its places. -/
def writtenPlaces (cs : List Call) : List (List Bytes × Bytes) :=
  (writes cs).map fun w => (w.place, w.content)

theorem mem_writes_iff : w ∈ writes cs ↔ .writeFile w.path w.place w.content ∈ cs := by
  constructor
  · intro h
    obtain ⟨c, hc, written⟩ := List.mem_filterMap.1 h
    cases c with
    | writeFile => cases written; exact hc
    | _ => cases written
  · intro h
    exact List.mem_filterMap.2 ⟨_, h, rfl⟩

theorem writes_append (cs cs' : List Call) : writes (cs ++ cs') = writes cs ++ writes cs' :=
  List.filterMap_append

theorem writtenPaths_append (cs cs' : List Call) :
    writtenPaths (cs ++ cs') = writtenPaths cs ++ writtenPaths cs' := by
  rw [writtenPaths, writes_append, List.map_append]
  rfl

theorem writtenPlaces_append (cs cs' : List Call) :
    writtenPlaces (cs ++ cs') = writtenPlaces cs ++ writtenPlaces cs' := by
  rw [writtenPlaces, writes_append, List.map_append]
  rfl

theorem writtenPaths_eq_nil (h : ∀ c ∈ cs, c.write? = none) : writtenPaths cs = [] := by
  have none_ : writes cs = [] := List.filterMap_eq_nil_iff.2 h
  rw [writtenPaths, none_, List.map_nil]

theorem Sets.contentAt {n : Node} (h : Sets fs place n fs') (x : List Bytes) :
    fs'.contentAt x = if x = place then n.content? else fs.contentAt x := by
  rw [FileSystem.contentAt, h.look]
  split <;> rfl

/-- What a call leaves in the files: what it writes is there, and all else is as it was. -/
theorem Call.Does.contentAt (h : c.Does fs fs') (x : List Bytes) :
    fs'.contentAt x = ((writtenPlaces [c]).lookup x).or (fs.contentAt x) := by
  cases h with
  | @makeDirectory p place fs free =>
    have set := (newDirectory_sets free).1
    have unused : fs.root.look place = none := by
      rcases set.before with none_ | ⟨file, -⟩
      · exact none_
      · cases file
    rw [set.contentAt]
    split
    next same =>
      subst same
      exact (contentAt_eq_none unused).symm
    next => rfl
  | @writeFile p place content fs fs₁ fs' opened written =>
    obtain ⟨a, get, first, -⟩ := createFile_sets opened
    have set := first.again (writeAt_sets get written) rfl
    have single : writtenPlaces [.writeFile p place content] = [(place, content)] := rfl
    rw [set.contentAt, single, List.lookup_cons]
    by_cases same : x = place
    · rw [if_pos same, beq_iff_eq.2 same]
      rfl
    · rw [if_neg same, beq_eq_false_iff_ne.2 same]
      rfl
  | @setMode p place mode fs content a found =>
    obtain ⟨-, -, get, -⟩ := leads_of_resolve found
    rw [(sets_file_of_get? get content { a with mode }).contentAt]
    split
    next same =>
      subst same
      exact (contentAt_eq_some_iff.2 ⟨a, get⟩).symm
    next => rfl

/-- After some calls, a file holds what was written last at its place. -/
theorem Calls.contentAt (h : Calls fs cs fs') (x : List Bytes) :
    fs'.contentAt x = ((writtenPlaces cs).reverse.lookup x).or (fs.contentAt x) := by
  induction h with
  | nil => rfl
  | @cons fs fs₁ fs' c cs done rest ih =>
    have first : writtenPlaces (c :: cs) = writtenPlaces [c] ++ writtenPlaces cs :=
      writtenPlaces_append [c] cs
    have single : (writtenPlaces [c]).reverse = writtenPlaces [c] := by cases c <;> rfl
    calc fs'.contentAt x
      _ = ((writtenPlaces cs).reverse.lookup x).or (fs₁.contentAt x) := ih
      _ = ((writtenPlaces cs).reverse.lookup x).or
          (((writtenPlaces [c]).lookup x).or (fs.contentAt x)) := by rw [done.contentAt]
      _ = ((writtenPlaces (c :: cs)).reverse.lookup x).or (fs.contentAt x) := by
        rw [first, List.reverse_append, List.lookup_append, single, Option.or_assoc]

/-- The last pair with one key is the last pair with another one where the keys tell the same
apart. -/
theorem lookup_map_congr {α β γ δ : Type} [BEq α] [LawfulBEq α] [BEq β] [LawfulBEq β]
    {ws : List γ} {f : γ → α} {g : γ → β} (v : γ → δ) {a : α} {b : β}
    (same : ∀ w ∈ ws, f w = a ↔ g w = b) :
    (ws.map fun w => (f w, v w)).lookup a = (ws.map fun w => (g w, v w)).lookup b := by
  induction ws with
  | nil => rfl
  | cons w ws ih =>
    have rest := ih fun w hw => same w (List.mem_cons_of_mem _ hw)
    have here := same w List.mem_cons_self
    simp only [List.map_cons, List.lookup_cons]
    by_cases h : f w = a
    · rw [beq_iff_eq.2 h.symm, beq_iff_eq.2 (here.1 h).symm]
    · rw [beq_eq_false_iff_ne.2 (Ne.symm h), beq_eq_false_iff_ne.2 (Ne.symm (mt here.2 h))]
      exact rest

/-- Where one path only is written at a place, the file there holds what was written last under that
path. -/
theorem Calls.contentAt_path (h : Calls fs cs fs') {x : List Bytes} (free : fs.root.look x = none)
    (alike : ∀ w ∈ writes cs, w.path = p ↔ w.place = x) :
    fs'.contentAt x = (writtenPaths cs).reverse.lookup p := by
  have alike : ∀ w ∈ (writes cs).reverse, w.path = p ↔ w.place = x :=
    fun w hw => alike w (List.mem_reverse.1 hw)
  calc fs'.contentAt x
    _ = (writtenPlaces cs).reverse.lookup x := by
      rw [h.contentAt, contentAt_eq_none free, Option.or_none]
    _ = ((writes cs).reverse.map fun w => (w.place, w.content)).lookup x := by
      rw [writtenPlaces, List.map_reverse]
    _ = ((writes cs).reverse.map fun w => (w.path, w.content)).lookup p :=
      (lookup_map_congr Written.content alike).symm
    _ = (writtenPaths cs).reverse.lookup p := by rw [writtenPaths, List.map_reverse]

/-- A file that was not there was written. -/
theorem Calls.mem_writes (h : Calls fs cs fs') {x : List Bytes} {content : Bytes}
    (free : fs.root.look x = none) (held : fs'.contentAt x = some content) :
    ∃ w ∈ writes cs, w.place = x := by
  rw [h.contentAt, contentAt_eq_none free, Option.or_none] at held
  obtain ⟨w, hw, same⟩ := List.mem_map.1 (List.mem_reverse.1 (mem_of_lookup held))
  exact ⟨w, hw, congrArg Prod.fst same⟩

theorem only_makeDirectories_unwritten (p : Path) :
    Only (fun c => c.write? = none) (fun _ => True) (makeDirectories p) :=
  only_makeDirectories (P := fun _ => True) (fun _ _ => trivial) (fun _ _ _ => rfl) trivial

theorem only_setMode_unwritten (p : Path) (mode : Nat) :
    Only (fun c => c.write? = none) (fun _ => True) (setMode p mode) :=
  only_setMode fun _ => rfl

/-- The path of a file that can be written can be handed to the system. -/
theorem createFile_path (h : createFile p fs = (.ok place, fs')) :
    0 ∉ withoutEndSlashes p ∧ (withoutEndSlashes p).length ≤ maxPath := by
  rw [createFile_apply] at h
  cases located : fs.locate true (withoutEndSlashes p) with
  | error e =>
    rw [located] at h
    cases h
  | ok found =>
    have nonempty : withoutEndSlashes p ≠ [] := by
      intro empty
      rw [empty] at located
      cases located
    rw [locate_eq true nonempty] at located
    split at located
    · cases located
    next nul =>
      split at located
      · cases located
      next short => exact ⟨nul, Nat.not_lt.1 short⟩

theorem Calls.path_of_mem_writes (h : Calls fs cs fs') (hw : w ∈ writes cs) :
    0 ∉ withoutEndSlashes w.path ∧ (withoutEndSlashes w.path).length ≤ maxPath := by
  have mem := mem_writes_iff.1 hw
  clear hw
  induction h with
  | nil => cases mem
  | cons done _ ih =>
    rcases List.mem_cons.1 mem with rfl | mem
    · cases done with
      | writeFile opened _ => exact createFile_path opened
    · exact ih mem

end Writes

section Vacant

variable {fs fs' : FileSystem} {dest p : Path} {there names : List Bytes}

/-- A destination in which nothing stands. -/
inductive Vacant (fs : FileSystem) (dest : Path) : Prop
  /-- It is an empty directory. -/
  | empty {there : List Bytes} {r : Bool} (found : fs.resolve dest = .ok (there, .directory r []))
  /-- It is missing, with or without some of the directories above it. -/
  | missing {front : Path} {there : List Bytes} {name : Bytes} {more : List Bytes}
      (led : fs.Reaches front there) (plain : ∀ n ∈ name :: more, Plain n)
      (shape : components dest = components front ++ (name :: more).map .name)
      (free : fs.root.look (there ++ [name]) = none)

theorem Vacant.nonempty (vacant : fs.Vacant dest) : dest ≠ [] := by
  cases vacant with
  | empty found => exact (leads_of_resolve found).1
  | missing _ _ shape _ =>
    rintro rfl
    have none_ : components [] = [] := by decide
    rw [none_] at shape
    exact List.append_ne_nil_of_right_ne_nil _ (by simp) shape.symm

/-- Wherever the destination is in the end, nothing was there before. -/
theorem Vacant.look_eq_none (vacant : fs.Vacant dest) (grown : Grown fs fs')
    (reached : fs'.Reaches dest there) (further : names ≠ []) :
    fs.root.look (there ++ names) = none := by
  cases vacant with
  | empty found =>
    obtain ⟨-, -, get, led⟩ := leads_of_resolve found
    obtain rfl := (Reaches.grown grown led).unique reached
    obtain ⟨name, more, rfl⟩ := List.exists_cons_of_ne_nil further
    rw [Node.look, Node.get?_append, get, Option.bind_some, Node.get?_cons]
    rfl
  | @missing front place name more led plain shape free =>
    obtain ⟨_, links, links', reached', follow⟩ := reached.below (by simp) shape
    obtain rfl := (led.grown grown).unique reached'
    have clear : fs.Unlinked (place ++ [name]) := by
      intro rest _ target found
      rw [Node.look_append_of_eq_none free] at found
      cases found
    have unlinked : ∀ target, fs'.root.look (place ++ [name]) ≠ some (.link target) := by
      intro target found
      rw [grown.look_link_iff, free] at found
      cases found
    have first := plain name (by simp)
    obtain ⟨-, -, -, next⟩ := follow.of_plain first.dot first.dotDot unlinked
    rw [← List.append_nil (place ++ [name])] at next
    rw [(clear.grown grown).place_eq (fun n hn => plain n (by simp [hn])) [] next,
      List.append_assoc (place ++ [name])]
    exact Node.look_append_of_eq_none free _

theorem Vacant.unlinked (vacant : fs.Vacant dest) (grown : Grown fs fs')
    (reached : fs'.Reaches dest there) : fs'.Unlinked there := by
  apply Unlinked.grown grown
  intro more further target found
  rw [vacant.look_eq_none grown reached further] at found
  cases found

/-- Where there are no links, plain names that lead somewhere are followed there. -/
theorem Unlinked.walk_eq {links links' : Nat} {place : List Bytes} {follow : Bool}
    (unlinked : fs.Unlinked there) (plain : ∀ n ∈ names, Plain n) (front : List Bytes)
    (led : Leads fs.root links (there ++ front) names links' place)
    (present : fs.root.look place ≠ none) :
    walk fs.root follow links (there ++ front) names false = .ok (.present place) := by
  induction names generalizing front links with
  | nil =>
    cases led
    exact walk_nil_false present
  | cons name names ih =>
    have first := plain name (by simp)
    obtain ⟨short, here, ⟨m, found, unlink⟩, next⟩ :=
      led.of_plain first.dot first.dotDot fun target => by
        rw [List.append_assoc]
        exact unlinked _ (by simp) target
    rw [walk_down here first.dot first.dotDot short found unlink, List.append_assoc]
    rw [List.append_assoc] at next
    exact ih (fun n hn => plain n (by simp [hn])) (front ++ [name]) next

/-- A path below a destination without links is found where it leads. -/
theorem Reaches.resolve_join {place : List Bytes} {n : Node} (nonempty : dest ≠ [])
    (reached : fs.Reaches dest there) (unlinked : fs.Unlinked there) (further : names ≠ [])
    (plain : ∀ n ∈ names, Plain n) (led : fs.Reaches (Path.join dest (joined names)) place)
    (nul : 0 ∉ Path.join dest (joined names))
    (short : (Path.join dest (joined names)).length ≤ maxPath)
    (get : fs.root.get? place = some n) :
    fs.resolve (Path.join dest (joined names)) = .ok (place, n) := by
  have good := Path.unslashed_of_plain plain
  have spelled := Path.spells_join nonempty further plain
  have relative := Path.isAbsolute_joined good
  have shape : segments (Path.join dest (joined names)) = segments dest ++ names := by
    rw [Path.segments_join relative, Path.segments_joined good]
  have written : Path.join dest (joined names) ≠ [] := by
    intro empty
    rw [empty] at shape
    exact List.append_ne_nil_of_right_ne_nil _ further shape.symm
  obtain ⟨links', led⟩ := led
  rw [shape, spelled.absolute] at led
  obtain ⟨links₁, there₁, first, second⟩ := led.split _ _ rfl
  obtain rfl : there₁ = there := Reaches.unique ⟨links₁, first⟩ reached
  have present : fs.root.look place ≠ none := by
    rw [Node.look, get]
    exact Option.some_ne_none _
  rw [← List.append_nil there₁] at second
  rw [resolve_eq_ok_iff, locate_eq true written, if_neg nul, if_neg (Nat.not_lt.2 short), shape,
    spelled.absolute, spelled.endsInSlash further, walk_append first further]
  have walked : walk fs.root true links₁ (there₁ ++ []) names false = .ok (.present place) :=
    unlinked.walk_eq plain [] second present
  rw [List.append_nil] at walked
  exact ⟨walked, get⟩

end Vacant

end FileSystem

end Northbound
