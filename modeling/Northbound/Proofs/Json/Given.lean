import Northbound.Proofs.Dictionary
import Northbound.Proofs.Json.Written

/-!
# What a document gives to a record

A record is read straight from a document, which need not be a value as a whole: what is no field is
passed over without being read. A document gives a value to a name if the value can be read where it
stands, behind the name in an object, or at the position of the field in a list. Main statement: the
fields of the record that is read are the values that the document gives to their names, except that
a null is not kept.
-/

namespace Northbound.Json

/-- What a record keeps of the value of a field. -/
def kept : Json → Option Json
  | .null => none
  | v => some v

theorem kept_eq_some_iff {v w : Json} : v.kept = some w ↔ v = w ∧ w ≠ .null := by
  constructor
  · intro h
    cases v <;> cases h <;> exact ⟨rfl, nofun⟩
  · rintro ⟨rfl, other⟩
    cases v with
    | null => exact absurd rfl other
    | _ => rfl

namespace Reader

variable {shape : RecordShape} {depth fuel count : Nat} {first : Bool} {c c' : Cursor} {v : Json}

/-- Passes over a value and yields where it stands. -/
def position : Reader Cursor := do
  let c ← get
  skipValue (← bound)
  return c

theorem position_of_skipValue (h : skipValue (c.left + 1) c = (.ok ⟨⟩, c')) :
    position c = (.ok c, c') := by
  rw [position, get_bind, bound_bind, Action.bind_of_ok h]
  rfl

theorem position_of_value (h : value depth c = (.ok v, c')) : position c = (.ok c, c') :=
  position_of_skipValue (skipValue_of_value h)

/-- Whether a value can be read at one of the places that go by a name. -/
def ReadAt (depth : Nat) (ps : List (String × Cursor)) (name : String) (v : Json) : Prop :=
  ∃ place c', (name, place) ∈ ps ∧ value depth place = (.ok v, c')

/-- One more place adds what is read there. -/
theorem mem_cons_iff_readAt {ps : List (String × Cursor)} {ms : Written}
    {name key : String} {w : Json}
    (read : value depth c = (.ok v, c')) (rest : (name, w) ∈ ms ↔ ReadAt depth ps name w) :
    (name, w) ∈ (key, v) :: ms ↔ ReadAt depth ((key, c) :: ps) name w := by
  rw [List.mem_cons, rest]
  constructor
  · rintro (here | ⟨place, c'', stands, value⟩)
    · cases here
      exact ⟨c, c', List.mem_cons_self, read⟩
    · exact ⟨place, c'', List.mem_cons_of_mem _ stands, value⟩
  · rintro ⟨place, c'', stands, value⟩
    rcases List.mem_cons.mp stands with here | later
    · cases here
      cases read.symm.trans value
      exact Or.inl rfl
    · exact Or.inr ⟨place, c'', later, value⟩

/-- The members of an object are read where they stand. -/
theorem MembersRead.positions {ms : Written} (h : MembersRead (value depth) first c ms c') :
    ∃ ps, MembersRead position first c ps c' ∧
      ∀ name v, (name, v) ∈ ms ↔ ReadAt depth ps name v := by
  induction h with
  | close ahead => exact ⟨[], .close ahead, by simp [ReadAt]⟩
  | @member _ _ _ k _ c₃ _ _ _ _ ahead key colon read _ ih =>
      obtain ⟨ps, places, same⟩ := ih
      exact ⟨(k, c₃) :: ps, .member ahead key colon (position_of_value read) places,
        fun name w => mem_cons_iff_readAt read (same name w)⟩

/-- A choice by the first letter of a null that may be next. -/
theorem match_null {γ : Type} (b? : Option UInt8) (null other : γ) :
    (match b? with
      | some 110 => null
      | _ => other) = if b? = some 110 then null else other := by
  split
  next => rfl
  next hother => rw [if_neg hother]

/-- What begins with another letter is no null. -/
theorem ne_null_of_value (h : value depth c = (.ok v, c'))
    (other : c.pastBlanks.rest.head? ≠ some 110) : v ≠ .null := by
  rintro rfl
  generalize null : Json.null = w at h
  cases valueRead_of_value h with
  | null byte => exact other byte
  | numeral byte start read =>
      rcases number_of_numeral read with ⟨n, rfl⟩ | ⟨x, rfl⟩ <;> cases null
  | _ => cases null

/-- Whatever a field of any kind is read as is read as a value, of which a null is not kept. -/
theorem value_of_anything {v? : Option Json} (h : anything depth c = (.ok v?, c')) :
    ∃ v, value depth c = (.ok v, c') ∧ v? = v.kept := by
  rw [anything, peekPastBlanks_bind] at h
  replace h := (congrFun (match_null _ _ _) c.pastBlanks).symm.trans h
  split at h
  next byte =>
    obtain ⟨⟨⟩, c₁, read, h⟩ := Action.bind_eq_ok h
    cases h
    refine ⟨.null, ?_, rfl⟩
    rw [value.eq_def, peekPastBlanks_bind, byte]
    exact Action.bind_of_ok read
  next other =>
    obtain ⟨v, c₁, read, h⟩ := Action.bind_eq_ok h
    cases h
    have here : value depth c.pastBlanks = value depth c := by
      rw [value.eq_def]
      exact peekPastBlanks_bind_pastBlanks _ c
    rw [here] at read
    exact ⟨v, read, (kept_eq_some_iff.mpr ⟨rfl, ne_null_of_value read other⟩).symm⟩

/-- The value of a field is read as any other value; then it is a text where one is expected, and a
null is not kept. -/
theorem value_of_fieldValue {kind : FieldKind} {v? : Option Json}
    (h : fieldValue depth kind c = (.ok v?, c')) :
    ∃ v, value depth c = (.ok v, c') ∧ v? = v.kept ∧ (kind = .text → ∃ s, v = .text s) := by
  cases kind with
  | text =>
      obtain ⟨s, c₁, read, h⟩ := Action.bind_eq_ok h
      cases h
      exact ⟨.text s, value_of_text read, rfl, fun _ => ⟨s, rfl⟩⟩
  | anything =>
      obtain ⟨v, read, same⟩ := value_of_anything h
      exact ⟨v, read, same, fun isText => by cases isText⟩

end Reader

/-! ## Places in a document -/

namespace RecordShape

variable {shape : RecordShape} {field : Field} {c : Cursor} {ps qs : List (String × Cursor)}

/-- Whether the fields go by different names. -/
def Distinct (shape : RecordShape) : Prop := (shape.fields.map Field.name).Nodup

theorem Distinct.find? (distinct : shape.Distinct) (mem : field ∈ shape.fields) :
    shape.fields.find? (·.name == field.name) = some field := by
  rw [Distinct] at distinct
  generalize shape.fields = fields at distinct mem
  induction fields with
  | nil => cases mem
  | cons first fields ih =>
      rw [List.map_cons, List.nodup_cons] at distinct
      rcases List.mem_cons.mp mem with rfl | later
      · exact List.find?_cons_of_pos (by simp)
      · have other : first.name ≠ field.name := fun same =>
          distinct.1 (same ▸ List.mem_map_of_mem later)
        rw [List.find?_cons_of_neg (by simpa using other), ih distinct.2 later]

/-- Where the values of a record stand, with the names that they go by: those of an object have
names of their own, and those of a list the names of the fields in their order. -/
inductive Lays (shape : RecordShape) (c : Cursor) : List (String × Cursor) → Prop
  | object {ps c'} (brace : c.pastBlanks.rest.head? = some 123)
      (read : Reader.MembersRead Reader.position true c.pastBlanks.advance ps c') : Lays shape c ps
  | list {ps c'} (bracket : c.pastBlanks.rest.head? = some 91)
      (read : Reader.ItemsRead Reader.position true c.pastBlanks.advance ps c') :
      Lays shape c ((shape.fields.map Field.name).zip ps)

theorem Lays.unique (h : shape.Lays c ps) (h' : shape.Lays c qs) : ps = qs := by
  cases h with
  | object brace read =>
      cases h' with
      | object brace' read' => exact (read.unique read').1
      | list bracket => cases brace.symm.trans bracket
  | list bracket read =>
      cases h' with
      | object brace => cases brace.symm.trans bracket
      | list bracket' read' => rw [(read.unique read').1]

end RecordShape

/-! ## Filling a record -/

namespace Reader

variable {shape : RecordShape} {depth fuel count : Nat} {first : Bool} {c c' : Cursor} {v : Json}

/-- What a record is given by values at some places: those whose name is no field are passed over.
-/
inductive Fills (shape : RecordShape) (depth : Nat) : List (String × Cursor) → Written → Prop
  | nil : Fills shape depth [] []
  | unknown {name place ps ms} (unknown : shape.fields.find? (·.name == name) = none)
      (rest : Fills shape depth ps ms) : Fills shape depth ((name, place) :: ps) ms
  | field {name place v c' ps ms field} (known : shape.fields.find? (·.name == name) = some field)
      (read : value depth place = (.ok v, c')) (kind : field.kind = .text → ∃ s, v = .text s)
      (rest : Fills shape depth ps ms) : Fills shape depth ((name, place) :: ps) ((name, v) :: ms)

/-- A field is given what is read at a place of its name. -/
theorem Fills.mem_iff {ps : List (String × Cursor)} {ms : Written} {field : Field}
    (fills : Fills shape depth ps ms) (mem : field ∈ shape.fields) :
    (field.name, v) ∈ ms ↔ ReadAt depth ps field.name v := by
  induction fills with
  | nil => simp [ReadAt]
  | @unknown name place ps ms unknown rest ih =>
      have other : field.name ≠ name := by
        have none := List.find?_eq_none.mp unknown field mem
        simpa using none
      simp [ih, ReadAt, other]
  | field known read kind rest ih => exact mem_cons_iff_readAt read ih

/-- What is given is given to a field, and is a text if that expects one. -/
theorem Fills.field_of_mem {ps : List (String × Cursor)} {ms : Written}
    (fills : Fills shape depth ps ms) {m : String × Json} (mem : m ∈ ms) :
    ∃ field, shape.fields.find? (·.name == m.1) = some field ∧
      (field.kind = .text → ∃ s, m.2 = .text s) := by
  induction fills with
  | nil => cases mem
  | unknown unknown rest ih => exact ih mem
  | @field _ _ _ _ _ _ field known read kind rest ih =>
      rcases List.mem_cons.mp mem with rfl | later
      · exact ⟨field, known, kind⟩
      · exact ih later

/-- What was met of fields that were given some values. -/
def metOf (ms : Written) : Met := ms.map fun m => (m.1, m.2.kept)

/-- Whether some members are met once each, and were not met before. -/
structure Fresh (met : Met) (ms : Written) : Prop where
  unmet : ∀ m ∈ ms, met.lookup m.1 = none
  once : (ms.map Prod.fst).Nodup

theorem Fresh.cons {met : Met} {ms : Written} {name : String} {v? : Option Json}
    (fresh : Fresh (met ++ [(name, v?)]) ms) (new : met.lookup name = none) (v : Json) :
    Fresh met ((name, v) :: ms) := by
  have apart : ∀ m ∈ ms, met.lookup m.1 = none ∧ m.1 ≠ name := by
    intro m mem
    have none := fresh.unmet m mem
    rw [List.lookup_append, Option.or_eq_none_iff] at none
    refine ⟨none.1, ?_⟩
    rintro rfl
    simp at none
  constructor
  · intro m mem
    rcases List.mem_cons.mp mem with rfl | later
    · exact new
    · exact (apart m later).1
  · rw [List.map_cons, List.nodup_cons]
    refine ⟨fun mem => ?_, fresh.once⟩
    obtain ⟨m, later, same⟩ := List.mem_map.mp mem
    exact (apart m later).2 same

/-- The members of a record fill it, each field once at most. What was met of others before stays.
-/
theorem fills_of_recordMembers {met met' : Met}
    (h : recordMembers shape depth fuel first met c = (.ok met', c')) :
    ∃ ps ms, MembersRead position first c ps c' ∧ Fills shape depth ps ms ∧
      met' = met ++ metOf ms ∧ Fresh met ms := by
  induction fuel generalizing first met c with
  | zero => cases h
  | succ fuel ih =>
      obtain ⟨more, c₁, hmore, h⟩ := Action.bind_eq_ok h
      have ahead := memberAhead_of_hasMember hmore
      cases more with
      | false =>
          cases h
          exact ⟨[], [], .close ahead, .nil, (List.append_nil _).symm, List.forall_mem_nil _,
            List.nodup_nil⟩
      | true =>
          obtain ⟨k, c₂, hkey, h⟩ := Action.bind_eq_ok h
          cases known : shape.fields.find? (·.name == k) with
          | none =>
              rw [known] at h
              obtain ⟨⟨⟩, c₃, hcolon, h⟩ := Action.bind_eq_ok h
              rw [bound_bind] at h
              obtain ⟨⟨⟩, c₄, skipped, h⟩ := Action.bind_eq_ok h
              obtain ⟨ps, ms, read, fills, rfl, fresh⟩ := ih h
              exact ⟨(k, c₃) :: ps, ms,
                .member ahead hkey hcolon (position_of_skipValue skipped) read,
                .unknown known fills, rfl, fresh⟩
          | some field =>
              rw [known] at h
              dsimp only at h
              split at h
              next => cases h
              next new =>
                obtain ⟨⟨⟩, c₃, hcolon, h⟩ := Action.bind_eq_ok h
                obtain ⟨v?, c₄, hvalue, h⟩ := Action.bind_eq_ok h
                obtain ⟨v, value, rfl, kind⟩ := value_of_fieldValue hvalue
                obtain ⟨ps, ms, read, fills, rfl, fresh⟩ := ih h
                exact ⟨(k, c₃) :: ps, (k, v) :: ms,
                  .member ahead hkey hcolon (position_of_value value) read,
                  .field known value kind fills, by simp [metOf],
                  fresh.cons (Option.not_isSome_iff_eq_none.mp new) v⟩

/-- At the end of a list, nothing is met of the fields that are left, and none of them is needed. -/
theorem recordItems_of_bracket {fields : List Field} {met : Met}
    (bracket : c.pastBlanks.rest.head? = some 93)
    (h : recordItems shape depth count fields c = (.ok met, c')) :
    met = [] ∧ c'.pastBlanks = c.pastBlanks ∧ ∀ field ∈ fields, field.required = false := by
  induction fields generalizing count c with
  | nil =>
      cases h
      exact ⟨rfl, rfl, List.forall_mem_nil _⟩
  | cons field fields ih =>
      have ends : hasItem (count == 0) c = (.ok false, c.pastBlanks) := by
        rw [hasItem, peekPastBlanks_bind, bracket]
        rfl
      rw [recordItems, Action.bind_of_ok ends, if_neg Bool.false_ne_true] at h
      split at h
      next => cases h
      next optional =>
        have blanks := c.pastBlanks_pastBlanks
        obtain ⟨rfl, same, others⟩ := ih (by rw [blanks, bracket]) h
        refine ⟨rfl, same.trans blanks, ?_⟩
        intro f mem
        rcases List.mem_cons.mp mem with rfl | later
        · simpa using optional
        · exact others f later

/-- The items of a record are the values of its first fields, which are all that are needed. -/
theorem fills_of_recordItems {fields : List Field} {met : Met}
    (known : ∀ field ∈ fields, shape.fields.find? (·.name == field.name) = some field)
    (h : recordItems shape depth count fields c = (.ok met, c'))
    (bracket : c'.pastBlanks.rest.head? = some 93) :
    ∃ ps ms, ItemsRead position (count == 0) c ps c'.pastBlanks ∧
      Fills shape depth ((fields.map Field.name).zip ps) ms ∧ met = metOf ms ∧
      (ms.map Prod.fst).Sublist (fields.map Field.name) ∧
      ∀ field ∈ fields, field.required = true → field.name ∈ ms.map Prod.fst := by
  induction fields generalizing count c met with
  | nil =>
      cases h
      exact ⟨[], [], .close (.close bracket), .nil, rfl, .slnil, List.forall_mem_nil _⟩
  | cons field fields ih =>
      obtain ⟨more, c₁, hmore, h'⟩ := Action.bind_eq_ok h
      have ahead := itemAhead_of_hasItem hmore
      cases more with
      | false =>
          have ends : c.pastBlanks.rest.head? = some 93 := by
            generalize (count == 0) = first at ahead
            cases ahead with
            | close bracket => exact bracket
          obtain ⟨rfl, same, optional⟩ := recordItems_of_bracket ends h
          refine ⟨[], [], ?_, ?_, rfl, List.nil_sublist _, ?_⟩
          · rw [same]
            exact .close (.close ends)
          · rw [List.zip_nil_right]
            exact .nil
          · intro f mem required
            rw [optional f mem] at required
            cases required
      | true =>
          obtain ⟨v?, c₂, hvalue, h'⟩ := Action.bind_eq_ok h'
          obtain ⟨rest, c₃, hrest, h'⟩ := Action.bind_eq_ok h'
          cases h'
          obtain ⟨v, value, rfl, kind⟩ := value_of_fieldValue hvalue
          obtain ⟨ps, ms, read, fills, rfl, names, needed⟩ :=
            ih (fun f mem => known f (List.mem_cons_of_mem _ mem)) hrest
          refine ⟨c₁ :: ps, (field.name, v) :: ms, .item ahead (position_of_value value) read,
            .field (known field List.mem_cons_self) value kind fills, rfl, names.cons_cons _, ?_⟩
          intro f mem required
          rcases List.mem_cons.mp mem with rfl | later
          · exact List.mem_cons_self
          · exact List.mem_cons_of_mem _ (needed f later required)

/-- A choice by the closing bracket that may be next. -/
theorem match_bracket {γ : Type} (b? : Option UInt8) (bracket other : γ) :
    (match b? with
      | some 93 => bracket
      | _ => other) = if b? = some 93 then bracket else other := by
  split
  next => rfl
  next hother => rw [if_neg hother]

theorem bracket_of_endList (h : endList c = (.ok ⟨⟩, c')) : c.pastBlanks.rest.head? = some 93 := by
  rw [endList, peekPastBlanks_bind] at h
  cases byte : c.pastBlanks.rest.head? with
  | none =>
      rw [byte] at h
      cases h
  | some b =>
      rw [byte] at h
      dsimp only at h
      split at h
      next bracket => rw [eq_of_beq bracket]
      next =>
        split at h
        next =>
          rw [eat_bind, peekPastBlanks_bind] at h
          replace h := (congrFun (match_bracket _ _ _) _).symm.trans h
          split at h
          next => cases h
          next => cases h
        next => cases h

/-- No field is missing that an object has to have. -/
theorem mem_of_firstMissing? {ms : Written} (complete : firstMissing? shape (metOf ms) = none)
    {field : Field} (mem : field ∈ shape.fields) (required : field.required = true) :
    field.name ∈ ms.map Prod.fst := by
  have met := List.find?_eq_none.mp complete field mem
  by_contra missing
  have none : (metOf ms).lookup field.name = none := by
    rw [List.lookup_eq_none_iff]
    intro m hm
    obtain ⟨n, hn, rfl⟩ := List.mem_map.mp hm
    rw [bne_iff_ne]
    rintro same
    exact missing (List.mem_map.mpr ⟨n, hn, same.symm⟩)
  exact met (by simp [required, none])

/-- What is present of the fields that were given some values is what these are but for null. -/
theorem present_metOf (ms : Written) :
    present (metOf ms) = ms.filter fun m => !m.2 matches .null := by
  rw [present, metOf, List.filterMap_map, ← List.filterMap_eq_filter]
  apply List.filterMap_congr
  rintro ⟨k, v⟩ -
  cases v <;> rfl

theorem lookup_present_metOf {ms : Written} (nodup : (ms.map Prod.fst).Nodup) {name : String} :
    (present (metOf ms)).lookup name = some v ↔ (name, v) ∈ ms ∧ v ≠ .null := by
  have keys : ((present (metOf ms)).map Prod.fst).Nodup := by
    rw [present_metOf]
    exact nodup.sublist (List.filter_sublist.map _)
  rw [lookup_eq_some_iff_mem keys, present_metOf, List.mem_filter]
  cases v <;> simp

/-- How a record is read: as a list of the values of its fields, or as an object with all fields
that may not be missing. -/
inductive RecordRead (shape : RecordShape) : Nat → Cursor → Record → Cursor → Prop
  | list {depth c met c₁ c'} (bracket : c.pastBlanks.rest.head? = some 91)
      (read : recordItems shape depth 0 shape.fields c.pastBlanks.advance = (.ok met, c₁))
      (close : endList c₁ = (.ok ⟨⟩, c')) : RecordRead shape (depth + 1) c (present met) c'
  | object {depth c met c₁ c'} (brace : c.pastBlanks.rest.head? = some 123)
      (read : recordMembers shape depth (c.pastBlanks.advance.left + 1) true []
        c.pastBlanks.advance = (.ok met, c₁))
      (complete : firstMissing? shape met = none) (close : endObject c₁ = (.ok ⟨⟩, c')) :
      RecordRead shape (depth + 1) c (present met) c'

theorem recordRead_of_record {r : Record} (h : record shape depth c = (.ok r, c')) :
    RecordRead shape depth c r c' := by
  unfold record at h
  rw [peekPastBlanks_bind] at h
  cases hbyte : c.pastBlanks.rest.head? with
  | none =>
      rw [hbyte] at h
      cases h
  | some b =>
      rw [hbyte] at h
      dsimp only at h
      split at h
      next hb =>
        obtain rfl := eq_of_beq hb
        cases depth with
        | zero => cases h
        | succ inner =>
            dsimp only at h
            rw [eat_bind] at h
            obtain ⟨met, c₁, hclosed, h⟩ := Action.bind_eq_ok h
            cases h
            obtain ⟨c₂, hitems, hclose⟩ := closedBy_eq_ok_iff.mp hclosed
            exact .list hbyte hitems hclose
      next =>
        split at h
        next hb =>
          obtain rfl := eq_of_beq hb
          cases depth with
          | zero => cases h
          | succ inner =>
              dsimp only at h
              rw [eat_bind] at h
              obtain ⟨met, c₁, hclosed, h⟩ := Action.bind_eq_ok h
              cases h
              obtain ⟨c₂, hmembers, hclose⟩ := closedBy_eq_ok_iff.mp hclosed
              rw [bound_bind] at hmembers
              obtain ⟨met', c₃, hmet, hmembers⟩ := Action.bind_eq_ok hmembers
              cases hmissing : firstMissing? shape met' with
              | some field =>
                  rw [hmissing] at hmembers
                  cases hmembers
              | none =>
                  rw [hmissing] at hmembers
                  cases hmembers
                  exact .object hbyte hmet hmissing hclose
        next => exact (refuse_ne_ok h).elim

/-- A record is read of what stands at the places of its document. -/
theorem fills_of_record (distinct : shape.Distinct) {r : Record}
    (h : record shape depth c = (.ok r, c')) :
    ∃ ps ms, shape.Lays c ps ∧ Fills shape (depth - 1) ps ms ∧ r = present (metOf ms) ∧
      (ms.map Prod.fst).Nodup ∧
      ∀ field ∈ shape.fields, field.required = true → field.name ∈ ms.map Prod.fst := by
  cases recordRead_of_record h with
  | list bracket read close =>
      obtain ⟨ps, ms, items, fills, rfl, names, needed⟩ :=
        fills_of_recordItems (fun _ mem => distinct.find? mem) read (bracket_of_endList close)
      exact ⟨_, ms, .list bracket items, fills, rfl, distinct.sublist names, needed⟩
  | object brace read complete =>
      obtain ⟨ps, ms, members, fills, rfl, fresh⟩ := fills_of_recordMembers read
      exact ⟨ps, ms, .object brace members, fills, rfl, fresh.once, fun _ mem required =>
        mem_of_firstMissing? complete mem required⟩

end Reader

/-! ## Documents -/

namespace RecordShape

variable {shape : RecordShape} {document : Bytes} {name : String} {v : Json} {ms : Written}
  {r : Record} {field : Field}

/-- A document gives a value to a name if the value can be read where it stands. -/
def Gives (shape : RecordShape) (document : Bytes) (name : String) (v : Json) : Prop :=
  ∃ ps, shape.Lays ⟨document, 1, 0⟩ ps ∧ Reader.ReadAt (Reader.maxDepth - 1) ps name v

/-- What a record is read of is what its document gives to its fields. -/
theorem exists_given (distinct : shape.Distinct) (h : parseRecord shape document = .ok r) :
    ∃ ms : Written,
      (∀ field ∈ shape.fields, ∀ v : Json,
        shape.Gives document field.name v ↔ (field.name, v) ∈ ms) ∧
      (∀ name v, r.lookup name = some v ↔ (name, v) ∈ ms ∧ v ≠ .null) ∧
      ∀ field ∈ shape.fields, (field.required = true → ∃ v, (field.name, v) ∈ ms) ∧
        (field.kind = .text → ∀ v : Json, (field.name, v) ∈ ms → ∃ s, v = .text s) := by
  obtain ⟨c', read, -⟩ := Reader.readAll_eq_ok_iff.mp h
  obtain ⟨ps, ms, lays, fills, rfl, nodup, needed⟩ := Reader.fills_of_record distinct read
  refine ⟨ms, ?_, fun name v => Reader.lookup_present_metOf nodup, ?_⟩
  · intro field mem v
    rw [fills.mem_iff mem]
    constructor
    · rintro ⟨qs, lays', read⟩
      obtain rfl := lays.unique lays'
      exact read
    · intro read
      exact ⟨ps, lays, read⟩
  · intro field mem
    constructor
    · intro required
      obtain ⟨⟨name, v⟩, given, rfl⟩ := List.mem_map.mp (needed field mem required)
      exact ⟨v, given⟩
    · intro kind v given
      obtain ⟨field', known, text⟩ := fills.field_of_mem given
      cases (distinct.find? mem).symm.trans known
      exact text kind

/-- The fields of a record are what its document gives them but for null. -/
theorem lookup_eq_some_iff_gives (distinct : shape.Distinct)
    (h : parseRecord shape document = .ok r) (mem : field ∈ shape.fields) :
    r.lookup field.name = some v ↔ shape.Gives document field.name v ∧ v ≠ .null := by
  obtain ⟨ms, gives, lookup, -⟩ := exists_given distinct h
  rw [lookup, gives field mem]

/-- A text that may not be missing is all that the document gives to its name. -/
theorem gives_iff_text (distinct : shape.Distinct) (h : parseRecord shape document = .ok r)
    (mem : field ∈ shape.fields) (kind : field.kind = .text) (required : field.required = true) :
    shape.Gives document field.name v ↔ v = .text (r.text field.name) := by
  obtain ⟨ms, gives, lookup, fields⟩ := exists_given distinct h
  obtain ⟨needed, text⟩ := fields field mem
  have read {v : Json} (given : (field.name, v) ∈ ms) : v = .text (r.text field.name) := by
    obtain ⟨s, rfl⟩ := text kind v given
    have found : r.lookup field.name = some (.text s) := (lookup _ _).mpr ⟨given, nofun⟩
    rw [Record.text, found]
  rw [gives field mem]
  constructor
  · exact read
  · rintro rfl
    obtain ⟨w, given⟩ := needed required
    exact read given ▸ given

/-- What a document that is an object gives to a name is the members of that name. -/
theorem gives_iff_of_parseMembers (h : parseMembers document = .ok ms) :
    shape.Gives document name v ↔ (name, v) ∈ ms := by
  obtain ⟨c', read, -⟩ := Reader.readAll_eq_ok_iff.mp h
  obtain ⟨inner, c₁, depth, brace, members, -⟩ := Reader.written_eq_ok read
  obtain rfl : inner = Reader.maxDepth - 1 := by omega
  obtain ⟨ps, places, same⟩ := (Reader.membersRead_of_members members).positions
  rw [same]
  constructor
  · rintro ⟨qs, lays, read⟩
    obtain rfl := lays.unique (.object brace places)
    exact read
  · intro read
    exact ⟨ps, .object brace places, read⟩

end RecordShape

end Northbound.Json
