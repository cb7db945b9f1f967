import Northbound.Token
import Northbound.Proofs.Dictionary
import Northbound.Proofs.Json.Written

/-!
# What payloads describe tokens

Main statement: a payload describes a token exactly if it is a JSON object in which the last `id`
is missing or a text and the last `expires` is missing or a number. Nothing else in the object
matters, and no list describes a token.
-/

namespace Northbound.Token

open Dictionary (lastValue?)

/-- The ID that an `id` member gives, if there is such a member. -/
inductive GivesId : Option Json → String → Prop
  | absent : GivesId none ""
  | text (id : String) : GivesId (some (.text id)) id

/-- The time that an `expires` member gives, if there is such a member. -/
inductive GivesExpiry : Option Json → Binary64 → Prop
  | absent : GivesExpiry none .zero
  | int (n : Int) : GivesExpiry (some (.int n)) (.ofInt n)
  | float (x : Binary64) : GivesExpiry (some (.float x)) x

/-- What the members of an object, as they are written, say about a token. -/
structure Describes (ms : Json.Written) (t : Token) : Prop where
  id : GivesId (lastValue? ms "id") t.id
  expiresAt : GivesExpiry (lastValue? ms "expires") t.expiresAt

variable {v? : Option Json} {ms : Json.Written} {t : Token} {payload : Bytes}

theorem readId_eq_ok_iff {id : String} :
    (v?.map readId).getD (.ok "") = .ok id ↔ GivesId v? id := by
  constructor
  · intro h
    cases v? with
    | none =>
        cases h
        exact .absent
    | some v =>
        cases v with
        | text =>
            cases h
            exact .text id
        | _ => cases h
  · rintro (_ | _) <;> rfl

theorem readExpiry_eq_ok_iff {x : Binary64} :
    (v?.map readExpiry).getD (.ok .zero) = .ok x ↔ GivesExpiry v? x := by
  constructor
  · intro h
    cases v? with
    | none =>
        cases h
        exact .absent
    | some v =>
        cases v with
        | int n =>
            cases h
            exact .int n
        | float =>
            cases h
            exact .float x
        | _ => cases h
  · rintro (_ | _ | _) <;> rfl

/-- Sorting the members of an object changes nothing about the token. -/
theorem ofJson_ofMembers : ofJson (.ofMembers ms) = .ok t ↔ Describes ms t := by
  have member (key : String) : (Json.ofMembers ms).member? key = lastValue? ms key :=
    Dictionary.find?_ofList ms key
  rw [Json.ofMembers, ofJson, ← Json.ofMembers, member, member, except_bind_eq_ok_iff]
  constructor
  · rintro ⟨expiresAt, hexpires, h⟩
    obtain ⟨id, hid, h⟩ := except_bind_eq_ok_iff.mp h
    cases h
    exact ⟨readId_eq_ok_iff.mp hid, readExpiry_eq_ok_iff.mp hexpires⟩
  · intro h
    refine ⟨t.expiresAt, readExpiry_eq_ok_iff.mpr h.expiresAt, ?_⟩
    rw [readId_eq_ok_iff.mpr h.id]
    rfl

theorem isObject_of_ofJson {v : Json} (h : ofJson v = .ok t) : v.isObject = true := by
  cases v with
  | object => rfl
  | _ => cases h

/-- The payloads that describe a token are objects whose members do. -/
theorem ofPayload_eq_ok :
    ofPayload payload = .ok t ↔ ∃ ms, Json.parseMembers payload = .ok ms ∧ Describes ms t := by
  rw [ofPayload, except_bind_eq_ok_iff]
  constructor
  · rintro ⟨v, parsed, h⟩
    obtain ⟨ms, members, rfl⟩ := Json.parse_eq_ok_object_iff.mp ⟨parsed, isObject_of_ofJson h⟩
    exact ⟨ms, members, ofJson_ofMembers.mp h⟩
  · rintro ⟨ms, members, h⟩
    obtain ⟨parsed, -⟩ := Json.parse_eq_ok_object_iff.mpr ⟨ms, members, rfl⟩
    exact ⟨.ofMembers ms, parsed, ofJson_ofMembers.mpr h⟩

/-- The ID is empty if none is given, or an empty one. -/
theorem Describes.id_eq_empty_iff (h : Describes ms t) :
    t.id = "" ↔ (∀ m ∈ ms, m.1 ≠ "id") ∨ lastValue? ms "id" = some (.text "") := by
  rw [← Dictionary.lastValue?_eq_none_iff]
  have given := h.id
  generalize t.id = id at given ⊢
  generalize lastValue? ms "id" = v? at given ⊢
  cases given with
  | absent => simp
  | text => simp

/-- A token without an ID, or with an empty one, has expired at every time. -/
theorem Describes.expired_of_no_id (h : Describes ms t)
    (none : (∀ m ∈ ms, m.1 ≠ "id") ∨ lastValue? ms "id" = some (.text "")) (now : Binary64) :
    t.hasExpiredAt now = true := by
  rw [hasExpiredAt, h.id_eq_empty_iff.mpr none]
  rfl

/-- A token without a time has expired from the epoch on. -/
theorem Describes.expired_of_no_time (h : Describes ms t) (none : ∀ m ∈ ms, m.1 ≠ "expires")
    {now : Binary64} (later : Binary64.zero.le now = true) : t.hasExpiredAt now = true := by
  have epoch : t.expiresAt = .zero := by
    have given := h.expiresAt
    rw [Dictionary.lastValue?_eq_none_iff.mpr none] at given
    generalize t.expiresAt = x at given
    cases given
    rfl
  rw [hasExpiredAt, epoch, later, Bool.or_true]

/-- A payload describes a token exactly if it is an object and the last `id` and the last `expires`
among its members, as they are written, give the ID and the time. Without an ID the token has
expired, and without a time it has since the epoch. Lists are refused, whatever is in them. -/
theorem describes_of_ofPayload (payload : Bytes) :
    (∀ t, ofPayload payload = .ok t ↔
      ∃ ms, Json.parseMembers payload = .ok ms ∧ Describes ms t) ∧
    (∀ v, Json.parse payload = .ok v ∧ v.isObject = true ↔
      ∃ ms, Json.parseMembers payload = .ok ms ∧ v = .ofMembers ms) ∧
    (∀ ms t, Json.parseMembers payload = .ok ms → ofPayload payload = .ok t →
      ((∀ m ∈ ms, m.1 ≠ "id") ∨ lastValue? ms "id" = some (.text "") →
        ∀ now, t.hasExpiredAt now = true) ∧
      ((∀ m ∈ ms, m.1 ≠ "expires") →
        ∀ now, Binary64.zero.le now = true → t.hasExpiredAt now = true)) ∧
    (∀ vs, Json.parse payload = .ok (.list vs) →
      ofPayload payload = .error { fault := .notAnObject (.list vs) }) ∧
    ((payload.dropWhile Json.Reader.isBlankByte).head? = some 91 →
      ∀ t, ofPayload payload ≠ .ok t) := by
  refine ⟨fun t => ofPayload_eq_ok, fun v => Json.parse_eq_ok_object_iff, ?_, ?_, ?_⟩
  · intro ms t members h
    obtain ⟨ms', members', describes⟩ := ofPayload_eq_ok.mp h
    obtain rfl : ms = ms' := Except.ok.inj (members.symm.trans members')
    exact ⟨fun none now => describes.expired_of_no_id none now,
      fun none now later => describes.expired_of_no_time none later⟩
  · intro vs parsed
    rw [ofPayload, parsed]
    rfl
  · intro bracket t h
    obtain ⟨ms, members, -⟩ := ofPayload_eq_ok.mp h
    have brace := Json.brace_of_parseMembers members
    rw [bracket] at brace
    cases brace

/-- The ID that is given last counts. It is empty, so the token has expired long before its time. -/
theorem expired_of_repeated_id :
    ofPayload (utf8 "\x7b\"id\":\"t\",\"expires\":9e9,\"id\":\"\"\x7d") =
      .ok ⟨"", .ofInt 9000000000⟩ ∧
    ∀ now, hasExpiredAt ⟨"", .ofInt 9000000000⟩ now = true := by
  have token : ofPayload (utf8 "\x7b\"id\":\"t\",\"expires\":9e9,\"id\":\"\"\x7d") =
      .ok ⟨"", .ofInt 9000000000⟩ := eq_ok_of_toOption (by decide +kernel)
  obtain ⟨iff, -, expired, -⟩ :=
    describes_of_ofPayload (utf8 "\x7b\"id\":\"t\",\"expires\":9e9,\"id\":\"\"\x7d")
  obtain ⟨ms, members, describes⟩ := (iff _).mp token
  exact ⟨token, (expired ms _ members token).1 (describes.id_eq_empty_iff.mp rfl)⟩

end Northbound.Token
