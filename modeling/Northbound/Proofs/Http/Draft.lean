import Northbound.Connection
import Northbound.Http.Exchange

/-!
# Drafts of requests

The parts of a request that do not act on a state make a draft, which depends on nothing else.
Builders apply the parts first, so whatever acts on a state finds the whole draft.
-/

namespace Northbound.Http

variable {σ : Type}

/-- The request that parts make of another one, up to the first that fails. -/
def assemble : List Part → Request → Except HttpError Request
  | [], r => .ok r
  | p :: rest, r => (p.apply r).bind (assemble rest)

/-- The request that parts make of an empty one. -/
def draft (parts : List Part) : Except HttpError Request := assemble parts {}

/-- Parts succeed one after the other. -/
theorem assemble_cons_eq_ok_iff {p : Part} {rest : List Part} {r q : Request} :
    assemble (p :: rest) r = .ok q ↔ ∃ r', p.apply r = .ok r' ∧ assemble rest r' = .ok q := by
  simp only [assemble]
  cases p.apply r <;> simp [Except.bind]

/-- Builders that follow parts start from the draft, and not at all if it fails. -/
theorem applyAll_ofPart_append (parts : List Part) (rest : List (Builder σ)) (r : Request) (s : σ) :
    Builder.applyAll (parts.map Builder.ofPart ++ rest) r s =
      match assemble parts r with
      | .ok q => Builder.applyAll rest q s
      | .error e => (.error e, s) := by
  induction parts generalizing r with
  | nil => rfl
  | cons p parts ih =>
      simp only [List.map_cons, List.cons_append, Builder.applyAll, assemble]
      rw [Action.bind_apply]
      simp only [Builder.ofPart, Action.ofExcept]
      cases p.apply r with
      | ok q => exact ih q
      | error e => rfl

/-- A part changes the target only if it is one. -/
theorem url?_of_apply {p : Part} {r q : Request} (h : p.apply r = .ok q) :
    (∃ url, p = .target url ∧ q.url? = some url) ∨ q.url? = r.url? := by
  cases p with
  | target url =>
      obtain ⟨host, -, rfl⟩ := Request.setTarget_eq_ok_iff.mp h
      exact Or.inl ⟨url, rfl, rfl⟩
  | method m =>
      cases h
      exact Or.inr rfl
  | body content =>
      cases h
      exact Or.inr rfl
  | content type =>
      obtain ⟨bytes, -, rfl⟩ := Request.setHeader_eq_ok_iff.mp h
      exact Or.inr rfl
  | header name value =>
      obtain ⟨bytes, -, rfl⟩ := Request.setHeader_eq_ok_iff.mp h
      exact Or.inr rfl
  | accept types =>
      cases types with
      | nil =>
          cases h
          exact Or.inr rfl
      | cons t types =>
          obtain ⟨bytes, -, rfl⟩ := Request.setHeader_eq_ok_iff.mp h
          exact Or.inr rfl
  | document value =>
      cases value with
      | error e => cases h
      | ok v =>
          cases h
          exact Or.inr rfl

/-- Parts leave a target if there was one or they name one. -/
theorem url?_isSome_of_assemble {parts : List Part} {r q : Request} (h : assemble parts r = .ok q)
    (target : r.url?.isSome = true ∨ ∃ url, Part.target url ∈ parts) :
    q.url?.isSome = true := by
  induction parts generalizing r with
  | nil =>
      cases h
      simpa using target
  | cons p parts ih =>
      obtain ⟨r', hp, hrest⟩ := assemble_cons_eq_ok_iff.mp h
      apply ih hrest
      rcases url?_of_apply hp with ⟨url, -, hurl⟩ | hurl
      · exact Or.inl (by simp [hurl])
      · rcases target with hr | ⟨url, hmem⟩
        · exact Or.inl (by rw [hurl, hr])
        · rcases List.mem_cons.mp hmem with rfl | hmem
          · obtain ⟨host, -, rfl⟩ := Request.setTarget_eq_ok_iff.mp hp
            exact Or.inl rfl
          · exact Or.inr ⟨url, hmem⟩

/-- A draft with a target has a host that can stand in its field. -/
theorem hostField?_isSome_of_assemble {parts : List Part} {r q : Request} {url : Url}
    (h : assemble parts r = .ok q) (target : Part.target url ∈ parts) :
    (Request.hostField? url).isSome = true := by
  induction parts generalizing r with
  | nil => cases target
  | cons p parts ih =>
      obtain ⟨r', hp, hrest⟩ := assemble_cons_eq_ok_iff.mp h
      rcases List.mem_cons.mp target with rfl | hmem
      · obtain ⟨host, hhost, -⟩ := Request.setTarget_eq_ok_iff.mp hp
        simp [hhost]
      · exact ih hrest hmem

/-- Parts alone build their draft, without a look at the state. -/
theorem build_ofPart {parts : List Part} (target : ∃ url, Part.target url ∈ parts) (s : σ) :
    Builder.build (parts.map Builder.ofPart) s = (draft parts, s) := by
  have hb := applyAll_ofPart_append parts [] {} s
  rw [List.append_nil] at hb
  rw [Builder.build, Action.bind_apply, hb, draft]
  cases hd : assemble parts {} with
  | error e => rfl
  | ok r =>
      have hu : r.url?.isNone = false := by
        simpa using url?_isSome_of_assemble hd (Or.inr target)
      simp [Builder.applyAll, Action.pure_apply, hu]

/-- A request with a bearer token in its authorization field, if the token may stand there. -/
def Request.authorized (r : Request) (id : String) : Except HttpError Request :=
  (Part.authorization ("Bearer " ++ id)).apply r

theorem Request.authorized_eq_ok_iff {r q : Request} {id : String} :
    r.authorized id = .ok q ↔
      ∃ field, Headers.value? ("Bearer " ++ id) = some field ∧
        q = { r with headers := r.headers.set "authorization" field } :=
  Request.setHeader_eq_ok_iff

/-- The request with a bearer token in a field behind the others. -/
def Request.withBearer (r : Request) (id : String) : Request :=
  { r with headers := r.headers ++ [("authorization", utf8 ("Bearer " ++ id))] }

/-- A request that was not authorized before gets a field for it, and nothing else changes. -/
theorem Request.eq_withBearer {r q : Request} {id : String}
    (absent : r.headers.lookup "authorization" = none) (h : r.authorized id = .ok q) :
    q = r.withBearer id := by
  obtain ⟨field, hfield, rfl⟩ := Request.authorized_eq_ok_iff.mp h
  rw [Headers.set_of_lookup_eq_none absent, Headers.eq_utf8_of_value? hfield]
  rfl

/-- An authorized request carries the token. -/
theorem Request.lookup_authorization {r q : Request} {id : String} (h : r.authorized id = .ok q) :
    q.headers.lookup "authorization" = some (utf8 ("Bearer " ++ id)) := by
  obtain ⟨field, hfield, rfl⟩ := Request.authorized_eq_ok_iff.mp h
  rw [Headers.lookup_set_self, ← Headers.eq_utf8_of_value? hfield]

/-- A token is acquired only after the whole draft, and is the last thing that can fail. -/
theorem build_bearer {parts : List Part} (target : ∃ url, Part.target url ∈ parts)
    (acquire : Action HttpError σ String) (s : σ) :
    Builder.build (parts.map Builder.ofPart ++ [Builder.bearer acquire]) s =
      match draft parts with
      | .error e => (.error e, s)
      | .ok r =>
        match acquire s with
        | (.error e, s') => (.error e, s')
        | (.ok id, s') => (r.authorized id, s') := by
  rw [Builder.build, Action.bind_apply, applyAll_ofPart_append, draft]
  cases hd : assemble parts {} with
  | error e => rfl
  | ok r =>
      simp only [Builder.applyAll, Builder.bearer, Action.bind_apply]
      rcases acquire s with ⟨e | id, s'⟩
      · rfl
      · simp only [Builder.ofPart, Action.ofExcept]
        cases ha : (Part.authorization ("Bearer " ++ id)).apply r with
        | error e => simp [Request.authorized, ha]
        | ok q =>
            obtain ⟨field, -, rfl⟩ := Request.authorized_eq_ok_iff.mp ha
            have hu : r.url?.isNone = false := by
              simpa using url?_isSome_of_assemble hd (Or.inr target)
            simp [Request.authorized, ha, Action.pure_apply, hu]

theorem value?_mediaType (m : MediaType) : Headers.value? m.text = some (utf8 m.text) := by
  cases m <;> decide

theorem apply_content (m : MediaType) (r : Request) :
    (Part.content m).apply r =
      .ok { r with headers := r.headers.set "content-type" (utf8 m.text) } :=
  Request.setHeader_eq_ok_iff.mpr ⟨_, value?_mediaType m, rfl⟩

theorem apply_accept_singleton (m : MediaType) (r : Request) :
    (Part.accept [m]).apply r =
      .ok { r with headers := r.headers.set "accept" (utf8 m.text) } := by
  apply Request.setHeader_eq_ok_iff.mpr
  exact ⟨_, by simpa using value?_mediaType m, rfl⟩

end Northbound.Http

namespace Northbound.Connection

open Http

/-- All endpoints of a server are at the same host. -/
theorem hostField?_url (c : Connection) (e e' : Endpoint) :
    Request.hostField? (c.url e) = Request.hostField? (c.url e') := rfl

end Northbound.Connection
