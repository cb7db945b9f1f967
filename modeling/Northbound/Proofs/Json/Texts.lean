import Northbound.Proofs.Json.Given

/-!
# Records of texts

A record all of whose fields are texts holds nothing but texts, in whichever way it is written. So
there are two ways for a field to read as the empty text: it is given so, or it is missing.
-/

namespace Northbound.Json

/-- Whether a record has a text for a field. -/
def Record.Gives (r : Record) (field value : String) : Prop := r.lookup field = some (.text value)

/-- Whether a field of a record is taken for a text. A missing one is taken for the empty text. -/
def Record.ReadsAs (r : Record) (field value : String) : Prop :=
  r.Gives field value ∨ r.lookup field = none ∧ value = ""

/-- Whether a record holds nothing but texts. -/
def Record.Texts (r : Record) : Prop := ∀ m ∈ r, ∃ s, m.2 = .text s

namespace Record

variable {r : Record} {field value : String}

theorem Gives.text_eq (h : r.Gives field value) :
    (r.lookup field).isSome = true ∧ r.text field = value := by
  rw [Gives] at h
  rw [text, h]
  exact ⟨rfl, rfl⟩

theorem ReadsAs.gives (h : r.ReadsAs field value) (nonempty : value ≠ "") : r.Gives field value :=
  h.resolve_right fun missing => nonempty missing.2

theorem Texts.text_eq_iff (texts : r.Texts) : r.text field = value ↔ r.ReadsAs field value := by
  simp only [ReadsAs, Gives, text]
  cases hlookup : r.lookup field with
  | none => simp [eq_comm]
  | some v =>
      obtain ⟨front, back, rfl, -⟩ := List.lookup_eq_some_iff.mp hlookup
      obtain ⟨s, hs⟩ := texts (field, v) (by simp)
      dsimp only at hs
      subst hs
      simp

end Record

namespace Reader

variable {shape : RecordShape} {depth : Nat} {c c' : Cursor}

/-- What is read of a record of texts holds nothing else. -/
theorem texts_of_record (textual : shape.Textual) (distinct : shape.Distinct) {r : Record}
    (h : record shape depth c = (.ok r, c')) : r.Texts := by
  obtain ⟨ps, ms, -, fills, rfl, -, -⟩ := fills_of_record distinct h
  intro m mem
  rw [present_metOf] at mem
  obtain ⟨field, known, text⟩ := fills.field_of_mem (List.mem_of_mem_filter mem)
  exact text (textual field (List.mem_of_find?_eq_some known))

end Reader

/-- The records of texts that a document lists hold nothing else. -/
theorem texts_of_parseRecords {shape : RecordShape} (textual : shape.Textual)
    (distinct : shape.Distinct) {document : Bytes} {rs : List Record}
    (h : parseRecords shape document = .ok rs) : ∀ r ∈ rs, r.Texts := by
  obtain ⟨c', hlist, -⟩ := Reader.readAll_eq_ok_iff.mp h
  obtain ⟨rs', -, hall⟩ := Reader.listOf_agree (Reader.record shape)
    (R := fun r r' => Record.Texts r ∧ r = r') hlist fun r _ {_ _ _} hread =>
      ⟨r, hread, Reader.texts_of_record textual distinct hread, rfl⟩
  exact ((List.forall₂_and_left _ _).mp hall).1

end Northbound.Json
