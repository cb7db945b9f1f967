import Northbound.Proofs.Session.Fetches
import Northbound.Proofs.Session.Lookup

/-!
# One request of a session

A request that needs a token is prepared and, if that succeeds, goes out once; the answer to it
settles the result. A collection is fetched in this way unless its entries are at hand. What several
requests add to the history is put together from what each of them adds.
-/

namespace Northbound

open Http

/-- What happens between two points: the server and the user stay, and the requests sent are those
of a history, apart from token requests. -/
structure Adds (env : Surroundings) (x y : Authorization × Traffic) (h : History) : Prop where
  connection : y.1.connection = x.1.connection
  credentials : y.1.credentials = x.1.credentials
  sent : ∃ new, y.2.sent = x.2.sent ++ new ∧ x.1.own (env.history x.2.sent new) = h

namespace Adds

variable {env : Surroundings} {x y z : Authorization × Traffic} {h more : History}

theorem refl (x : Authorization × Traffic) : Adds env x x [] :=
  ⟨rfl, rfl, [], by simp, rfl⟩

theorem own_eq (h : Adds env x y more) (history : History) : y.1.own history = x.1.own history := by
  simp only [Authorization.own, Authorization.post?_congr h.connection h.credentials]

theorem trans (first : Adds env x y h) (rest : Adds env y z more) : Adds env x z (h ++ more) := by
  obtain ⟨new, hnew, hown⟩ := first.sent
  obtain ⟨later, hlater, hmore⟩ := rest.sent
  refine ⟨rest.connection.trans first.connection, rest.credentials.trans first.credentials,
    new ++ later, by rw [hlater, hnew, List.append_assoc], ?_⟩
  rw [first.own_eq] at hmore
  rw [Surroundings.history_append, Authorization.own_append, hown, ← hnew, hmore]

end Adds

/-- How a request made of parts goes: what it adds to the history, the result, and what becomes of
the authorization and the traffic. -/
inductive Exchanged {α : Type} (env : Surroundings) (parts : List Part)
    (read : Except TransportError Response → Except HttpError α) (x : Authorization × Traffic) :
    History → Except HttpError α → Authorization × Traffic → Prop
  | unsent {e a t} (failed : Authorization.Prepared env parts x.1 x.2 (.error e) a t) :
      Exchanged env parts read x [] (.error e) (a, t)
  | answered {q a t} (prepared : Authorization.Prepared env parts x.1 x.2 (.ok q) a t) :
      Exchanged env parts read x [(q, env.answer t.sent q)] (read (env.answer t.sent q))
        (a, t.record q)

namespace Exchanged

variable {α : Type} {env : Surroundings} {parts : List Part}
  {read : Except TransportError Response → Except HttpError α} {x y : Authorization × Traffic}
  {h : History} {result : Except HttpError α}

theorem adds (exchange : Exchanged env parts read x h result y) : Adds env x y h := by
  cases exchange with
  | unsent failed => exact ⟨failed.keeps.1, failed.keeps.2, failed.own_history⟩
  | answered prepared => exact ⟨prepared.keeps.1, prepared.keeps.2, prepared.own_history_record⟩

/-- Sending a request made of parts goes one of the two ways. -/
theorem of_send {τ : Type} (env : Surroundings) {parts : List Part}
    (target : ∃ url, Part.target url ∈ parts) (handlers : List (Handler τ)) (m : τ)
    (x : Authorization × Traffic) :
    ∃ h result y, Authorization.send env parts handlers m x = (result, y) ∧
      Exchanged env parts (conclude handlers m) x h result y := by
  obtain ⟨a, t⟩ := x
  obtain ⟨q, a', t', hprep, hsend⟩ := Authorization.send_prepared env target handlers m a t
  rw [hsend]
  cases q with
  | error e => exact ⟨_, _, _, rfl, .unsent hprep⟩
  | ok q => exact ⟨_, _, _, rfl, .answered hprep⟩

/-- What is made of the result is made of the answer. -/
theorem map {β : Type} {f : α → β} {read' : Except TransportError Response → Except HttpError β}
    (exchange : Exchanged env parts read x h result y)
    (reads : ∀ reply, read' reply = (read reply).map f) :
    Exchanged env parts read' x h (result.map f) y := by
  cases exchange with
  | unsent failed => exact .unsent failed
  | answered prepared =>
      rw [← reads]
      exact .answered prepared

end Exchanged

/-- The parts of a request that fetches a collection. -/
def EntityKind.request (kind : EntityKind) (c : Connection) : List Part :=
  [.method .get, .target (c.url kind.collection), .accept [.json]]

/-- The parts of a request that posts a document to an endpoint. -/
def documentRequest (c : Connection) (e : Endpoint) (document : Json) : List Part :=
  [.method .post, .target (c.url e), .accept [.json], .content .yaml, .document (.ok document)]

/-- A request for a collection, apart from the token that authorizes it. -/
def EntityKind.form (kind : EntityKind) (c : Connection) (host : Bytes) : Request :=
  { url? := some (c.url kind.collection)
    headers := [("host", host), ("accept", utf8 "application/json")] }

/-- A request with a document, apart from the token that authorizes it. -/
def documentForm (c : Connection) (e : Endpoint) (document : Json) (host : Bytes) : Request :=
  { method := .post, url? := some (c.url e), body := utf8 document.render
    headers := [("host", host), ("accept", utf8 "application/json"),
      ("content-type", utf8 "application/yaml"),
      ("content-length", utf8 (Text.decimal (utf8 document.render).length))] }

theorem EntityKind.draft_request_eq_ok_iff {kind : EntityKind} {c : Connection} {r : Request} :
    draft (kind.request c) = .ok r ↔
      ∃ host, Request.hostField? (c.url kind.collection) = some host ∧ r = kind.form c host := by
  simp only [draft, request, assemble_cons_eq_ok_iff, apply_accept_singleton]
  simp only [Part.apply, assemble, Request.setTarget_eq_ok_iff, Except.ok.injEq]
  constructor
  · rintro ⟨_, rfl, _, ⟨host, hhost, rfl⟩, _, rfl, rfl⟩
    exact ⟨host, hhost, rfl⟩
  · rintro ⟨host, hhost, rfl⟩
    exact ⟨_, rfl, _, ⟨host, hhost, rfl⟩, _, rfl, rfl⟩

theorem draft_documentRequest_eq_ok_iff {c : Connection} {e : Endpoint} {document : Json}
    {r : Request} :
    draft (documentRequest c e document) = .ok r ↔
      ∃ host, Request.hostField? (c.url e) = some host ∧ r = documentForm c e document host := by
  simp only [draft, documentRequest, assemble_cons_eq_ok_iff, apply_accept_singleton, apply_content]
  simp only [Part.apply, assemble, Request.setTarget_eq_ok_iff, Except.ok.injEq]
  constructor
  · rintro ⟨_, rfl, _, ⟨host, hhost, rfl⟩, _, rfl, _, rfl, _, rfl, rfl⟩
    exact ⟨host, hhost, rfl⟩
  · rintro ⟨host, hhost, rfl⟩
    exact ⟨_, rfl, _, ⟨host, hhost, rfl⟩, _, rfl, _, rfl, _, rfl, rfl⟩

namespace Exchanged

variable {α : Type} {env : Surroundings} {c : Connection} {parts : List Part}
  {read : Except TransportError Response → Except HttpError α} {x y : Authorization × Traffic}
  {h : History} {result : Except HttpError α}

/-- A request that goes out is its form for some host, with the token at hand. -/
theorem sent {Host : Bytes → Prop} {form : Bytes → Request}
    (exchange : Exchanged env parts read x h result y)
    (drafts : ∀ r, draft parts = .ok r → ∃ host, Host host ∧ r = form host)
    (unauthorized : ∀ host, (form host).headers.lookup "authorization" = none) :
    h = [] ∧ (∃ e, result = .error e) ∨
      ∃ host token reply, Host host ∧ y.1.token? = some token ∧
        h = [((form host).withBearer token.id, reply)] ∧ result = read reply := by
  cases exchange with
  | unsent failed => exact Or.inl ⟨rfl, _, rfl⟩
  | answered prepared =>
      obtain ⟨r, token, hdraft, hacq, hauth⟩ := prepared.eq_ok rfl
      obtain ⟨host, hhost, rfl⟩ := drafts r hdraft
      obtain rfl := Request.eq_withBearer (unauthorized host) hauth
      exact Or.inr ⟨host, token, _, hhost, hacq.token?_eq, rfl, rfl⟩

/-- What a fetch adds to the history is at most the request for the collection. -/
theorem fetched {kind : EntityKind} (exchange : Exchanged env (kind.request c) read x h result y) :
    h = [] ∧ (∃ e, result = .error e) ∨
      ∃ host token reply, Request.hostField? (c.url kind.collection) = some host ∧
        y.1.token? = some token ∧ h = [((kind.form c host).withBearer token.id, reply)] ∧
        result = read reply :=
  exchange.sent (fun _ => EntityKind.draft_request_eq_ok_iff.mp) fun _ => rfl

/-- What a post adds to the history is at most the request with the document. -/
theorem posted {e : Endpoint} {document : Json}
    (exchange : Exchanged env (documentRequest c e document) read x h result y) :
    h = [] ∧ (∃ e, result = .error e) ∨
      ∃ host token reply, Request.hostField? (c.url e) = some host ∧ y.1.token? = some token ∧
        h = [((documentForm c e document host).withBearer token.id, reply)] ∧
        result = read reply :=
  exchange.sent (fun _ => draft_documentRequest_eq_ok_iff.mp) fun _ => rfl

end Exchanged

end Northbound
