import Northbound.Proofs.Json.RoundTrip
import Northbound.Proofs.Session.Operations
import Northbound.Proofs.Session.Recreation

/-!
# The body of a token request

The credentials are the whole body of a token request, and are read back from it whatever characters
they have. Main statement: on a server with a host, a token request has a body of three fields with
just the credentials, its length is given in bytes, and other credentials give another body; nothing
else is sent without authorization.
-/

namespace Northbound

open Http Json

namespace Credentials

variable {c c' : Credentials}

/-- The fields of the credentials in the order in which they are written. -/
def members (c : Credentials) : Written :=
  [("username", .text c.username), ("password", .text c.password), ("project", .text c.project)]

/-- A document from which nothing but the credentials can be read. -/
structure ReadFrom (c : Credentials) (document : Bytes) : Prop where
  members : parseMembers document = .ok c.members
  parsed : Json.parse document = .ok (.object
    [("password", .text c.password), ("project", .text c.project), ("username", .text c.username)])
  decoded : Credentials.parse document = .ok c

theorem parseMembers_toJson (c : Credentials) :
    parseMembers (utf8 c.toJson.render) = .ok c.members := by
  apply parseMembers_render
  intro m hm
  simp only [List.mem_cons, List.not_mem_nil, or_false] at hm
  rcases hm with rfl | rfl | rfl
  · exact Reader.takes_text _ c.username
  · exact Reader.takes_text _ c.password
  · exact Reader.takes_text _ c.project

theorem textual_shape : shape.Textual := by
  intro field mem
  simp only [shape, List.mem_cons, List.not_mem_nil, or_false] at mem
  rcases mem with rfl | rfl | rfl <;> rfl

theorem fits_members (c : Credentials) : shape.Fits c.members := by
  intro field mem
  simp only [shape, List.mem_cons, List.not_mem_nil, or_false] at mem
  rcases mem with rfl | rfl | rfl
  · exact Or.inr ⟨c.username, by simp [members]⟩
  · exact Or.inr ⟨c.password, by simp [members]⟩
  · exact Or.inr ⟨c.project, by simp [members]⟩

theorem complete_members (c : Credentials) : shape.Complete c.members := by
  intro field mem _
  simp only [shape, List.mem_cons, List.not_mem_nil, or_false] at mem
  rcases mem with rfl | rfl | rfl <;> simp [members]

/-- Credentials are read back from what they are written as. -/
theorem readFrom_toJson (c : Credentials) : c.ReadFrom (utf8 c.toJson.render) where
  members := parseMembers_toJson c
  parsed := by
    have sorted : ofMembers c.members = .object
        [("password", .text c.password), ("project", .text c.project),
          ("username", .text c.username)] := by
      have first : ¬"password" = "username" ∧ "password" < "username" := by decide
      have second : ¬"project" = "password" ∧ ¬"project" < "password" := by decide
      have third : ¬"project" = "username" ∧ "project" < "username" := by decide
      simp [ofMembers, Credentials.members, Dictionary.ofList, Dictionary.insert, first, second,
        third]
    rw [← sorted]
    exact (parse_eq_ok_object_iff.mpr ⟨_, parseMembers_toJson c, rfl⟩).1
  decoded := by
    have record :=
      parseRecord_of_parseMembers textual_shape (parseMembers_toJson c) (fits_members c)
      (complete_members c)
    rw [Credentials.parse, record]
    rfl

/-- A document tells the credentials that are read from it. -/
theorem ReadFrom.unique {document : Bytes} (h : c.ReadFrom document) (h' : c'.ReadFrom document) :
    c = c' :=
  Except.ok.inj (h.decoded.symm.trans h'.decoded)

end Credentials

/-- A request whose body is credentials, and that says how many bytes it has. -/
structure Http.Request.Carries (q : Request) (c : Credentials) : Prop where
  body : c.ReadFrom q.body
  length : q.headers.filter (·.1 = "content-length") =
    [("content-length", utf8 (Text.decimal q.body.length))]

namespace Authorization

variable {a b : Authorization} {q q' : Request}

theorem carries_of_post? (h : a.post? = some q) : q.Carries a.credentials := by
  obtain ⟨host, rfl⟩ := post?_eq_form h
  constructor
  · simp only [form]
    exact a.credentials.readFrom_toJson
  · simp [form]

/-- Two token requests have the same body exactly if they have the same credentials. -/
theorem body_eq_iff (h : a.post? = some q) (h' : b.post? = some q') :
    q.body = q'.body ↔ a.credentials = b.credentials := by
  constructor
  · intro same
    have read := (carries_of_post? h').body
    rw [← same] at read
    exact (carries_of_post? h).body.unique read
  · intro same
    obtain ⟨host, rfl⟩ := post?_eq_form h
    obtain ⟨host', rfl⟩ := post?_eq_form h'
    rw [form, form, same]

/-- What is sent without authorization is the token request. -/
theorem post?_of_bearing {h : History} (bearing : Bearing a h)
    {x : Request × Except TransportError Response} (mem : x ∈ h)
    (unauthorized : x.1.headers.lookup "authorization" = none) : a.post? = some x.1 := by
  induction h generalizing a with
  | nil => cases mem
  | cons y h ih =>
      obtain ⟨first, rest⟩ := bearing
      rcases List.mem_cons.mp mem with rfl | later
      · rcases first with posted | ⟨token, -, authorized⟩
        · exact posted
        · rw [authorized] at unauthorized
          cases unauthorized
      · have keeps := after_keeps (a := a) [y]
        rw [← post?_congr keeps.1 keeps.2]
        exact ih rest later

end Authorization

namespace Session

/-- On a server with a host, the body of a token request is the credentials, read as a document or
as credentials, and tells them from all others; its length is given in bytes. In every run of a
session with these credentials, nothing but this request is sent without authorization. -/
theorem token_request_carries {a : Authorization}
    (host : (Request.hostField? (a.connection.url .tokens)).isSome = true) :
    ∃ q, a.post? = some q ∧ q.Carries a.credentials ∧
      (∀ (b : Authorization) (q' : Request), b.post? = some q' →
        (q'.body = q.body ↔ b.credentials = a.credentials)) ∧
      ∀ (env : Surroundings) (ops : List Operation) (s : Session) (t : Traffic),
        s.authorization = a →
        ∃ new, (run env ops (s, t)).2.2.sent = t.sent ++ new ∧
          ∀ q' ∈ new, q'.headers.lookup "authorization" = none → q' = q := by
  obtain ⟨field, found⟩ := Option.isSome_iff_exists.mp host
  have posted : a.post? = some (a.form field) :=
    Authorization.post?_eq_some_iff.mpr
      (Authorization.draft_tokenRequest_eq_ok_iff.mpr ⟨field, found, rfl⟩)
  refine ⟨a.form field, posted, Authorization.carries_of_post? posted, ?_, ?_⟩
  · intro b q' other
    exact Authorization.body_eq_iff other posted
  · rintro env ops s t rfl
    obtain ⟨log, conversation⟩ := conversation_run env ops (s, t)
    obtain ⟨new, remembered⟩ := conversation.remembered
    refine ⟨new, remembered.sent, ?_⟩
    intro q' mem unauthorized
    rw [← env.map_fst_history t.sent new] at mem
    obtain ⟨x, hx, rfl⟩ := List.mem_map.mp mem
    have same := Authorization.post?_of_bearing remembered.bearing hx unauthorized
    rw [posted, Option.some.injEq] at same
    exact same.symm

/-- Quotes, a backslash, a control character and other letters go out and come back. -/
theorem token_request_carries_sample :
    (Request.hostField? (sampleConnection.url .tokens)).isSome = true ∧
      ∃ q, (Authorization.mk sampleConnection ⟨"\"u\\", "p\x01\nä", ""⟩ none).post? = some q ∧
        q.Carries ⟨"\"u\\", "p\x01\nä", ""⟩ := by
  have host : (Request.hostField? (sampleConnection.url .tokens)).isSome = true := by decide +kernel
  obtain ⟨q, posted, carries, -⟩ :=
    token_request_carries (a := ⟨sampleConnection, ⟨"\"u\\", "p\x01\nä", ""⟩, none⟩) host
  exact ⟨host, q, posted, carries⟩

end Session

end Northbound
