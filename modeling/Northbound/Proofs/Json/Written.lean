import Mathlib.Data.List.Forall2
import Northbound.Proofs.Json.Skipping

/-!
# Objects as they are written

A value that was parsed has lost which of its keys were repeated. A document that lists objects can
also be read with the members of each as they are written. A record of texts can be read from an
object if each of its fields is missing or given once, as a text; the other members may be anything.
-/

namespace Northbound.Json

/-- The members of an object as they are written. -/
abbrev Written := List (String × Json)

namespace Reader

variable {α β : Type}

/-- Reads an object as it is written, with at most `depth` brackets open at once. -/
def written (depth : Nat) : Reader Written := do
  match ← peekPastBlanks with
  | none => failNext .endInValue
  | some b =>
    if b == 123 then
      match depth with
      | 0 => failNext .tooDeep
      | depth + 1 =>
        eat
        let ms ← members (value depth) (← bound) true
        eat
        return ms
    else refuse "a map"

end Reader

/-- The objects that a document lists, as they are written. -/
def parseWritten (document : Bytes) : Except Error (List Written) :=
  Reader.readAll (Reader.listOf Reader.written Reader.maxDepth) document

/-- The members of the object that a document is, as they are written. -/
def parseMembers (document : Bytes) : Except Error Written :=
  Reader.readAll (Reader.written Reader.maxDepth) document

namespace Reader

variable {α β : Type} {depth : Nat} {c c' : Cursor} {v : Json} {ms : Written}

theorem written_of_members {c₁ : Cursor} (brace : c.pastBlanks.rest.head? = some 123)
    (read : members (value depth) (c.pastBlanks.advance.left + 1) true c.pastBlanks.advance =
      (.ok ms, c₁)) : written (depth + 1) c = (.ok ms, c₁.advance) := by
  rw [written, peekPastBlanks_bind, brace]
  dsimp only
  rw [if_pos (by decide), eat_bind, bound_bind, Action.bind_of_ok read]
  rfl

/-- A value of another kind than expected is refused. -/
theorem refuse_ne_ok {expected : String} {a : α} (h : refuse expected c = (.ok a, c')) : False := by
  have word {w : String} {f : Found} {c : Cursor}
      (h : (do word w; fail (.wrongKind f expected) : Reader α) c = (.ok a, c')) : False := by
    obtain ⟨⟨⟩, c₁, -, h⟩ := Action.bind_eq_ok h
    cases h
  rw [refuse, peek_bind] at h
  cases hbyte : c.rest.head? with
  | none =>
      rw [hbyte] at h
      cases h
  | some b =>
      rw [hbyte] at h
      dsimp only at h
      split at h
      next => exact word h
      next =>
      split at h
      next => exact word h
      next =>
      split at h
      next => exact word h
      next =>
      split at h
      next =>
        obtain ⟨v, c₁, -, h⟩ := Action.bind_eq_ok h
        cases h
      next =>
      split at h
      next =>
        obtain ⟨k, c₁, -, h⟩ := Action.bind_eq_ok h
        cases h
      next =>
      split at h
      next => cases h
      next =>
      split at h
      next => cases h
      next => cases h

theorem written_eq_ok (h : written depth c = (.ok ms, c')) :
    ∃ inner c₁, depth = inner + 1 ∧ c.pastBlanks.rest.head? = some 123 ∧
      members (value inner) (c.pastBlanks.advance.left + 1) true c.pastBlanks.advance =
        (.ok ms, c₁) ∧ c' = c₁.advance := by
  unfold written at h
  rw [peekPastBlanks_bind] at h
  cases hbyte : c.pastBlanks.rest.head? with
  | none =>
      rw [hbyte] at h
      cases h
  | some b =>
      rw [hbyte] at h
      dsimp only at h
      split at h
      next hb =>
        obtain rfl := eq_of_beq hb
        cases depth with
        | zero => cases h
        | succ inner =>
            dsimp only at h
            rw [eat_bind, bound_bind] at h
            obtain ⟨ms', c₁, hmembers, h⟩ := Action.bind_eq_ok h
            cases h
            exact ⟨inner, c₁, rfl, rfl, hmembers, rfl⟩
      next => exact (refuse_ne_ok h).elim

/-- A numeral is a number. -/
theorem number_of_numeralTail {neg : Bool} {w dropped : Nat}
    (h : numeralTail neg w dropped c = (.ok v, c')) : (∃ n, v = .int n) ∨ ∃ x, v = .float x := by
  rw [numeralTail, peek_bind] at h
  replace h := (congrFun (match_point _ _ _) c).symm.trans h
  split at h
  next =>
    obtain ⟨x, c₁, -, h⟩ := Action.bind_eq_ok h
    obtain ⟨rfl, -⟩ := Action.pure_eq_ok_iff.mp h
    exact Or.inr ⟨x, rfl⟩
  next =>
    obtain ⟨at?, c₁, -, h⟩ := Action.bind_eq_ok h
    split at h
    next =>
      obtain ⟨x, c₂, -, h⟩ := Action.bind_eq_ok h
      obtain ⟨rfl, -⟩ := Action.pure_eq_ok_iff.mp h
      exact Or.inr ⟨x, rfl⟩
    next =>
      split at h
      next =>
        obtain ⟨rfl, -⟩ := Action.pure_eq_ok_iff.mp h
        unfold integerValue
        split
        · exact Or.inl ⟨_, rfl⟩
        · split
          · exact Or.inl ⟨_, rfl⟩
          · exact Or.inr ⟨_, rfl⟩
      next =>
        obtain ⟨x, c₂, -, h⟩ := Action.bind_eq_ok h
        obtain ⟨rfl, -⟩ := Action.pure_eq_ok_iff.mp h
        exact Or.inr ⟨x, rfl⟩

theorem number_of_unsignedNumeral {neg : Bool} (h : unsignedNumeral neg c = (.ok v, c')) :
    (∃ n, v = .int n) ∨ ∃ x, v = .float x := by
  rw [unsignedNumeral, next_bind] at h
  cases hbyte : c.rest.head? with
  | none =>
      rw [hbyte] at h
      cases h
  | some b =>
      rw [hbyte] at h
      dsimp only at h
      split at h
      next =>
        rw [peek_bind] at h
        cases hnext : c.advance.rest.head? with
        | none =>
            rw [hnext] at h
            exact number_of_numeralTail h
        | some d =>
            rw [hnext] at h
            dsimp only at h
            split at h
            next => cases h
            next => exact number_of_numeralTail h
      next =>
        split at h
        next =>
          obtain ⟨ds, c₁, hds, h⟩ := Action.bind_eq_ok h
          rcases accumulate 0 ((b.toNat - 48) :: ds) with ⟨word, taken⟩
          exact number_of_numeralTail h
        next => cases h

theorem number_of_numeral (h : numeral c = (.ok v, c')) :
    (∃ n, v = .int n) ∨ ∃ x, v = .float x := by
  rw [numeral, peek_bind] at h
  replace h := (congrFun (match_minus _ _ _) c).symm.trans h
  split at h
  next => exact number_of_unsignedNumeral h
  next => exact number_of_unsignedNumeral h

/-- A list that can be read is one of values. -/
theorem listOf_of_value {vs : List Json} (h : value depth c = (.ok (.list vs), c')) :
    listOf value depth c = (.ok vs, c') := by
  generalize hv : Json.list vs = v at h
  cases valueRead_of_value h with
  | numeral byte start read => rcases number_of_numeral read with ⟨n, rfl⟩ | ⟨x, rfl⟩ <;> cases hv
  | list bracket read =>
      cases hv
      rw [listOf, peekPastBlanks_bind, bracket]
      dsimp only
      rw [if_pos (by decide), eat_bind, bound_bind, Action.bind_of_ok read]
      rfl
  | _ => cases hv

/-- A text that can be read as a value can be read as a text. -/
theorem text_of_value {s : String} (h : value depth c = (.ok (.text s), c')) :
    text c = (.ok s, c') := by
  generalize hv : Json.text s = v at h
  cases valueRead_of_value h with
  | numeral byte start read => rcases number_of_numeral read with ⟨n, rfl⟩ | ⟨x, rfl⟩ <;> cases hv
  | text quote read =>
      cases hv
      rw [text, peekPastBlanks_bind, quote]
      exact read
  | _ => cases hv

/-- A text is read as a value, too. -/
theorem value_of_text {s : String} (h : text c = (.ok s, c')) :
    value depth c = (.ok (.text s), c') := by
  rw [text, peekPastBlanks_bind] at h
  rw [value.eq_def, peekPastBlanks_bind]
  cases hbyte : c.pastBlanks.rest.head? with
  | none =>
      rw [hbyte] at h
      cases h
  | some b =>
      rw [hbyte] at h
      dsimp only at h
      split at h
      next quote =>
        obtain rfl := eq_of_beq quote
        exact Action.bind_of_ok h
      next => exact (refuse_ne_ok h).elim

/-- An object that can be read can be read as it is written. -/
theorem written_of_value (h : value depth c = (.ok v, c')) (object : v.isObject = true) :
    ∃ ms, written depth c = (.ok ms, c') ∧ v = ofMembers ms := by
  cases valueRead_of_value h with
  | numeral byte start read =>
      rcases number_of_numeral read with ⟨n, rfl⟩ | ⟨x, rfl⟩ <;> cases object
  | object brace read => exact ⟨_, written_of_members brace read, rfl⟩
  | _ => cases object

/-- An object that can be read as it is written can be read. -/
theorem value_of_written (h : written depth c = (.ok ms, c')) :
    value depth c = (.ok (ofMembers ms), c') := by
  obtain ⟨inner, c₁, rfl, brace, read, rfl⟩ := written_eq_ok h
  unfold value
  rw [peekPastBlanks_bind, brace]
  dsimp only
  rw [if_neg (by decide), if_neg (by decide), if_neg (by decide), if_neg (by decide),
    if_neg (by decide), if_neg (by decide), if_pos (by decide), eat_bind, bound_bind,
    Action.bind_of_ok read]
  rfl

/-! ## Lists and documents -/

/-- Two readers that agree on each item, but for what they make of it, agree on the items. -/
theorem items_agree {first : Reader α} (second : Reader β) {R : α → β → Prop} {fuel : Nat}
    {start : Bool} {as : List α} {c c' : Cursor} (h : items first fuel start c = (.ok as, c'))
    (agree : ∀ a ∈ as, ∀ {c c'}, first c = (.ok a, c') → ∃ b, second c = (.ok b, c') ∧ R a b) :
    ∃ bs, items second fuel start c = (.ok bs, c') ∧ List.Forall₂ R as bs := by
  induction fuel generalizing start as c with
  | zero => cases h
  | succ fuel ih =>
      obtain ⟨more, c₁, hmore, h⟩ := Action.bind_eq_ok h
      rw [items, Action.bind_of_ok hmore]
      cases more with
      | false =>
          cases h
          exact ⟨[], rfl, .nil⟩
      | true =>
          obtain ⟨a, c₂, hread, h⟩ := Action.bind_eq_ok h
          obtain ⟨rest, c₃, hrest, h⟩ := Action.bind_eq_ok h
          cases h
          obtain ⟨b, hb, hab⟩ := agree a List.mem_cons_self hread
          obtain ⟨bs, hbs, hall⟩ := ih hrest fun a ha => agree a (List.mem_cons_of_mem _ ha)
          refine ⟨b :: bs, ?_, .cons hab hall⟩
          rw [if_pos rfl, Action.bind_of_ok hb, Action.bind_of_ok hbs]
          rfl

theorem listOf_agree {first : Nat → Reader α} (second : Nat → Reader β) {R : α → β → Prop}
    {as : List α} (h : listOf first depth c = (.ok as, c'))
    (agree : ∀ a ∈ as, ∀ {depth c c'}, first depth c = (.ok a, c') →
      ∃ b, second depth c = (.ok b, c') ∧ R a b) :
    ∃ bs, listOf second depth c = (.ok bs, c') ∧ List.Forall₂ R as bs := by
  unfold listOf at h ⊢
  rw [peekPastBlanks_bind] at h ⊢
  cases hbyte : c.pastBlanks.rest.head? with
  | none =>
      rw [hbyte] at h
      cases h
  | some b =>
      rw [hbyte] at h
      dsimp only at h ⊢
      split at h
      next hb =>
        rw [if_pos hb]
        cases depth with
        | zero => cases h
        | succ depth =>
            dsimp only at h ⊢
            rw [eat_bind, bound_bind] at h ⊢
            obtain ⟨as', c₁, hitems, h⟩ := Action.bind_eq_ok h
            cases h
            obtain ⟨bs, hbs, hall⟩ := items_agree (second depth) hitems fun a ha => agree a ha
            refine ⟨bs, ?_, hall⟩
            rw [Action.bind_of_ok hbs]
            rfl
      next => exact (refuse_ne_ok h).elim

theorem readAll_eq_ok_iff {r : Reader α} {document : Bytes} {a : α} :
    readAll r document = .ok a ↔
      ∃ c', r ⟨document, 1, 0⟩ = (.ok a, c') ∧ c'.pastBlanks.rest.head? = none := by
  rw [readAll, Action.bind_apply]
  rcases r ⟨document, 1, 0⟩ with ⟨e | x, c'⟩
  · constructor
    · intro h
      cases h
    · rintro ⟨c₁, h, -⟩
      cases h
  · dsimp only
    rw [peekPastBlanks_bind]
    cases hbyte : c'.pastBlanks.rest.head? with
    | none =>
        constructor
        · intro h
          cases h
          exact ⟨c', rfl, hbyte⟩
        · rintro ⟨c₁, h, -⟩
          cases h
          rfl
    | some b =>
        constructor
        · intro h
          cases h
        · rintro ⟨c₁, h, hend⟩
          cases h
          rw [hbyte] at hend
          cases hend

/-- Two readers that agree on a document, but for what they make of it. -/
theorem readAll_agree {first : Reader α} (second : Reader β) {R : α → β → Prop}
    {document : Bytes} {a : α} (h : readAll first document = .ok a)
    (agree : ∀ {c c'}, first c = (.ok a, c') → ∃ b, second c = (.ok b, c') ∧ R a b) :
    ∃ b, readAll second document = .ok b ∧ R a b := by
  obtain ⟨c', hfirst, hend⟩ := readAll_eq_ok_iff.mp h
  obtain ⟨b, hsecond, hab⟩ := agree hfirst
  exact ⟨b, readAll_eq_ok_iff.mpr ⟨c', hsecond, hend⟩, hab⟩

end Reader

/-- A document that parses as a list of objects lists them as they are written. -/
theorem parseWritten_of_parse {document : Bytes} {vs : List Json}
    (h : parse document = .ok (.list vs)) (objects : ∀ v ∈ vs, v.isObject = true) :
    ∃ items, parseWritten document = .ok items ∧ vs = items.map ofMembers := by
  have hlist : Reader.readAll (Reader.listOf Reader.value Reader.maxDepth) document = .ok vs := by
    obtain ⟨c', hvalue, hend⟩ := Reader.readAll_eq_ok_iff.mp h
    exact Reader.readAll_eq_ok_iff.mpr ⟨c', Reader.listOf_of_value hvalue, hend⟩
  obtain ⟨items, hitems, hall⟩ :=
    Reader.readAll_agree (Reader.listOf Reader.written Reader.maxDepth)
      (R := List.Forall₂ fun v ms => v = ofMembers ms) hlist fun hread =>
        Reader.listOf_agree Reader.written hread fun v hv {_ _ _} hvalue =>
          Reader.written_of_value hvalue (objects v hv)
  refine ⟨items, hitems, ?_⟩
  rwa [← List.forall₂_eq_eq_eq, List.forall₂_map_right_iff]

/-- A document is an object exactly if its members can be read as they are written. -/
theorem parse_eq_ok_object_iff {document : Bytes} {v : Json} :
    parse document = .ok v ∧ v.isObject = true ↔
      ∃ ms, parseMembers document = .ok ms ∧ v = ofMembers ms := by
  constructor
  · rintro ⟨h, object⟩
    obtain ⟨c', hvalue, hend⟩ := Reader.readAll_eq_ok_iff.mp h
    obtain ⟨ms, hwritten, hv⟩ := Reader.written_of_value hvalue object
    exact ⟨ms, Reader.readAll_eq_ok_iff.mpr ⟨c', hwritten, hend⟩, hv⟩
  · rintro ⟨ms, h, rfl⟩
    obtain ⟨c', hwritten, hend⟩ := Reader.readAll_eq_ok_iff.mp h
    exact ⟨Reader.readAll_eq_ok_iff.mpr ⟨c', Reader.value_of_written hwritten, hend⟩, rfl⟩

/-- The members of a document stand in braces. -/
theorem brace_of_parseMembers {document : Bytes} {ms : Written}
    (h : parseMembers document = .ok ms) :
    (document.dropWhile Reader.isBlankByte).head? = some 123 := by
  obtain ⟨c', hwritten, -⟩ := Reader.readAll_eq_ok_iff.mp h
  obtain ⟨inner, c₁, -, brace, -, -⟩ := Reader.written_eq_ok hwritten
  rwa [Cursor.pastBlanks, Cursor.rest_skipWhile] at brace

/-! ## Records -/

namespace RecordShape

/-- Whether all fields are texts. -/
def Textual (shape : RecordShape) : Prop := ∀ field ∈ shape.fields, field.kind = .text

/-- Whether all fields may be missing, and are texts where they are not. -/
def Lenient (shape : RecordShape) : Prop :=
  ∀ field ∈ shape.fields, field.kind = .text ∧ field.required = false

/-- Whether an object gives each field once at most, and as a text. -/
def Fits (shape : RecordShape) (ms : Written) : Prop :=
  ∀ field ∈ shape.fields, ms.filter (·.1 = field.name) = [] ∨
    ∃ s, ms.filter (·.1 = field.name) = [(field.name, .text s)]

/-- The members of an object that are fields. -/
def known (shape : RecordShape) (ms : Written) : Record :=
  ms.filter fun m => (shape.fields.find? (·.name == m.1)).isSome

/-- Whether an object has all fields that may not be missing. -/
def Complete (shape : RecordShape) (ms : Written) : Prop :=
  ∀ field ∈ shape.fields, field.required = true → ∃ m ∈ ms, m.1 = field.name

variable {shape : RecordShape} {ms : Written}

theorem Lenient.textual (lenient : shape.Lenient) : shape.Textual := fun field mem =>
  (lenient field mem).1

theorem Lenient.complete (lenient : shape.Lenient) (ms : Written) : shape.Complete ms := by
  intro field mem required
  rw [(lenient field mem).2] at required
  cases required

theorem Fits.tail {m : String × Json} (fits : shape.Fits (m :: ms)) : shape.Fits ms := by
  intro field hfield
  by_cases hm : m.1 = field.name
  · rcases fits field hfield with hnil | ⟨s, hone⟩
    · simp [hm] at hnil
    · rw [List.filter_cons_of_pos (by simpa using hm), List.cons.injEq] at hone
      exact Or.inl hone.2
  · have hfilter := fits field hfield
    rwa [List.filter_cons_of_neg (by simpa using hm)] at hfilter

/-- A field is given as a text, and not once more. -/
theorem Fits.head {k : String} {v : Json} (fits : shape.Fits ((k, v) :: ms)) {field : Field}
    (mem : field ∈ shape.fields) (name : field.name = k) :
    (∃ s, v = .text s) ∧ ∀ m ∈ ms, m.1 ≠ k := by
  subst name
  rcases fits field mem with hnil | ⟨s, hone⟩
  · simp at hnil
  · rw [List.filter_cons_of_pos (by simp), List.cons.injEq] at hone
    obtain ⟨hm, hrest⟩ := hone
    refine ⟨⟨s, congrArg Prod.snd hm⟩, fun m hm hname => ?_⟩
    have hmem : m ∈ ms.filter (·.1 = field.name) := List.mem_filter.mpr ⟨hm, by simpa using hname⟩
    rw [hrest] at hmem
    cases hmem

end RecordShape

namespace Reader

variable {shape : RecordShape} {depth fuel : Nat} {first : Bool} {c c' : Cursor} {ms : Written}

/-- What was met of a record once its members were read. -/
theorem recordMembers_of_members (textual : shape.Textual) (met : Met)
    (h : members (value depth) fuel first c = (.ok ms, c')) (fits : shape.Fits ms)
    (unmet : ∀ m ∈ ms, (met.lookup m.1).isSome = true →
      shape.fields.find? (·.name == m.1) = none) :
    recordMembers shape depth fuel first met c =
      (.ok (met ++ (shape.known ms).map fun m => (m.1, some m.2)), c') := by
  induction fuel generalizing first met c ms with
  | zero => cases h
  | succ fuel ih =>
      obtain ⟨more, c₁, hmore, h⟩ := Action.bind_eq_ok h
      rw [recordMembers, Action.bind_of_ok hmore]
      cases more with
      | false =>
          cases h
          simp [RecordShape.known, Action.pure_apply]
      | true =>
          obtain ⟨k, c₂, hkey, h⟩ := Action.bind_eq_ok h
          obtain ⟨⟨⟩, c₃, hcolon, h⟩ := Action.bind_eq_ok h
          obtain ⟨v, c₄, hread, h⟩ := Action.bind_eq_ok h
          obtain ⟨rest, c₅, hrest, h⟩ := Action.bind_eq_ok h
          cases h
          rw [if_pos rfl, Action.bind_of_ok hkey]
          cases hfield : shape.fields.find? (·.name == k) with
          | none =>
              have hrun := ih met hrest fits.tail fun m hm => unmet m (List.mem_cons_of_mem _ hm)
              dsimp only
              rw [Action.bind_of_ok hcolon, bound_bind,
                Action.bind_of_ok (skipValue_of_value hread), hrun]
              simp [RecordShape.known, hfield]
          | some field =>
              have hmem := List.mem_of_find?_eq_some hfield
              have hname : field.name = k := by simpa using List.find?_some hfield
              obtain ⟨⟨s, rfl⟩, hapart⟩ := fits.head hmem hname
              have hmet : ¬(met.lookup k).isSome = true := by
                intro hmet
                rw [unmet (k, .text s) List.mem_cons_self hmet] at hfield
                cases hfield
              have hrun := ih (met ++ [(k, some (.text s))]) hrest fits.tail ?_
              · dsimp only
                rw [if_neg hmet, Action.bind_of_ok hcolon, textual field hmem, fieldValue,
                  bind_assoc, Action.bind_of_ok (text_of_value hread), pure_bind, hrun]
                simp [RecordShape.known, hfield]
              · intro m hm hlookup
                apply unmet m (List.mem_cons_of_mem _ hm)
                have hne : (m.1 == k) = false := by simpa using hapart m hm
                simpa [List.lookup_append, List.lookup_cons, hne] using hlookup

/-- The fields of a record of texts are all there is of it. -/
theorem present_known (ms : Written) :
    present ((shape.known ms).map fun m => (m.1, some m.2)) = shape.known ms := by
  simp [present, List.filterMap_map]

theorem closedBy_eq_ok_iff {α : Type} {body : Reader α} {close : Reader Unit} {a : α} :
    closedBy body close c = (.ok a, c') ↔
      ∃ c₁, body c = (.ok a, c₁) ∧ close c₁ = (.ok (), c') := by
  constructor
  · intro h
    unfold closedBy at h
    split at h
    next x c₁ hbody =>
      split at h
      next c₂ hclose =>
        cases h
        exact ⟨c₁, hbody, hclose⟩
      next => cases h
    next => cases h
  · rintro ⟨c₁, hbody, hclose⟩
    rw [closedBy, hbody]
    dsimp only
    rw [hclose]

/-- No field of a record is missing if the object that it is read from has all that it needs. -/
theorem firstMissing?_known (complete : shape.Complete ms) :
    firstMissing? shape ((shape.known ms).map fun m => (m.1, some m.2)) = none := by
  rw [firstMissing?, List.find?_eq_none]
  intro field hfield
  cases hrequired : field.required with
  | false => simp
  | true =>
      obtain ⟨⟨k, v⟩, hm, hname⟩ := complete field hfield hrequired
      dsimp only at hname
      subst hname
      have hknown : (field.name, v) ∈ shape.known ms := by
        refine List.mem_filter.mpr ⟨hm, ?_⟩
        rw [List.find?_isSome]
        exact ⟨field, hfield, by simp⟩
      have hmet : (field.name, some v) ∈ (shape.known ms).map fun m => (m.1, some m.2) :=
        List.mem_map.mpr ⟨_, hknown, rfl⟩
      have hsome : ((shape.known ms).map fun m => (m.1, some m.2)).lookup field.name ≠ none := by
        rw [ne_eq, List.lookup_eq_none_iff]
        intro apart
        exact absurd (apart _ hmet) (by simp)
      simp [hsome]

/-- A record of texts can be read from an object that fits it and has all that it needs. -/
theorem record_of_written (textual : shape.Textual) (h : written depth c = (.ok ms, c'))
    (fits : shape.Fits ms) (complete : shape.Complete ms) :
    record shape depth c = (.ok (shape.known ms), c') := by
  obtain ⟨inner, c₁, rfl, hbrace, hmembers, rfl⟩ := written_eq_ok h
  have hrun := recordMembers_of_members textual [] hmembers fits fun m _ hm => by cases hm
  have hclosing := (membersRead_of_members hmembers).brace
  have hend : endObject c₁ = (.ok ⟨⟩, c₁.advance) := by
    have hblanks : c₁.pastBlanks = c₁ := Cursor.skipWhile_of_head hclosing (by decide)
    rw [endObject, peekPastBlanks_bind, hblanks, hclosing]
    rfl
  unfold record
  rw [peekPastBlanks_bind, hbrace]
  dsimp only
  rw [if_neg (by decide), if_pos (by decide), eat_bind]
  rw [Action.bind_of_ok (closedBy_eq_ok_iff.mpr ⟨c₁, ?_, hend⟩), present_known]
  · rfl
  · rw [bound_bind, Action.bind_of_ok hrun, List.nil_append, firstMissing?_known complete]
    rfl

end Reader

/-- The records of a document that lists objects which fit them are the fields of these. -/
theorem parseRecords_of_parseWritten {shape : RecordShape} (lenient : shape.Lenient)
    {document : Bytes} {items : List Written} (h : parseWritten document = .ok items)
    (fits : ∀ ms ∈ items, shape.Fits ms) :
    parseRecords shape document = .ok (items.map shape.known) := by
  obtain ⟨rs, hrs, hall⟩ :=
    Reader.readAll_agree (Reader.listOf (Reader.record shape) Reader.maxDepth)
      (R := List.Forall₂ fun ms r => shape.known ms = r) h fun hread =>
        Reader.listOf_agree (Reader.record shape) hread fun ms hms {_ _ _} hwritten =>
          ⟨_, Reader.record_of_written lenient.textual hwritten (fits ms hms)
            (lenient.complete ms), rfl⟩
  rw [← List.forall₂_map_left_iff, List.forall₂_eq_eq_eq] at hall
  rw [parseRecords, hrs, hall]

/-- The record of texts that an object is, if that fits the record and has all that it needs. -/
theorem parseRecord_of_parseMembers {shape : RecordShape} (textual : shape.Textual)
    {document : Bytes} {ms : Written} (h : parseMembers document = .ok ms) (fits : shape.Fits ms)
    (complete : shape.Complete ms) : parseRecord shape document = .ok (shape.known ms) := by
  obtain ⟨c', hwritten, hend⟩ := Reader.readAll_eq_ok_iff.mp h
  exact Reader.readAll_eq_ok_iff.mpr
    ⟨c', Reader.record_of_written textual hwritten fits complete, hend⟩

/-- A field of a record is the member of its name. -/
theorem Record.text_known {shape : RecordShape} {field : Field} (mem : field ∈ shape.fields)
    (ms : Written) : Record.text (shape.known ms) field.name = Record.text ms field.name := by
  have hknown : (shape.fields.find? (·.name == field.name)).isSome = true := by
    rw [List.find?_isSome]
    exact ⟨field, mem, by simp⟩
  have hlookup : (shape.known ms).lookup field.name = ms.lookup field.name := by
    induction ms with
    | nil => rfl
    | cons m ms ih =>
        obtain ⟨k, v⟩ := m
        by_cases hk : field.name = k
        · subst hk
          simp [RecordShape.known, hknown]
        · have hne : (field.name == k) = false := by simpa using hk
          rw [RecordShape.known, List.filter_cons]
          split
          · rw [List.lookup_cons, hne, List.lookup_cons, hne]
            exact ih
          · rw [List.lookup_cons, hne]
            exact ih
  rw [Record.text, Record.text, hlookup]

end Northbound.Json
