import Northbound.Proofs.Http.Draft
import Northbound.Proofs.Http.Reply
import Northbound.Session.Authorization

/-!
# How a token is acquired

A token that is at hand and has not expired when the clock is read is used as it is. Otherwise one
request goes out with the credentials, and only a reply that succeeds and describes a token changes
the token at hand. A request that is to be authorized is prepared in this way after its draft.
-/

namespace Northbound

open Http

namespace Traffic

/-- The traffic after one more request. -/
def record (t : Traffic) (r : Request) : Traffic := { t with sent := t.sent ++ [r] }

/-- The traffic after one more reading of the clock. -/
def reading (t : Traffic) : Traffic := { t with readings := t.readings + 1 }

@[simp] theorem sent_record (t : Traffic) (r : Request) : (t.record r).sent = t.sent ++ [r] := rfl

@[simp] theorem sent_reading (t : Traffic) : t.reading.sent = t.sent := rfl

end Traffic

/-- The token that a reply to a token request brings. -/
def Token.ofReply (reply : Except TransportError Response) : Except HttpError Token :=
  received .success Token.ofPayload reply

namespace Authorization

/-- Whether there is no token or the one there is has expired at the next reading of the clock. -/
def Stale (env : Surroundings) (a : Authorization) (t : Traffic) : Prop :=
  ∀ token, a.token? = some token → token.hasExpiredAt (env.clock t.readings) = true

/-- The traffic after the token at hand was looked at: the clock is read if there is one. -/
def checked (a : Authorization) (t : Traffic) : Traffic :=
  if a.token?.isSome then t.reading else t

/-- The authorization after a token was asked for: only a token that came replaces the one at
hand. -/
def keep (a : Authorization) : Except HttpError Token → Authorization
  | .ok token => { a with token? := some token }
  | .error _ => a

theorem keep_keeps (a : Authorization) (result : Except HttpError Token) :
    (a.keep result).connection = a.connection ∧ (a.keep result).credentials = a.credentials := by
  cases result <;> exact ⟨rfl, rfl⟩

/-- How a token is acquired, with what becomes of the authorization and the traffic. -/
inductive Acquired (env : Surroundings) (a : Authorization) (t : Traffic) :
    Except HttpError Token → Authorization → Traffic → Prop
  | fresh {token} (cached : a.token? = some token)
      (valid : token.hasExpiredAt (env.clock t.readings) = false) :
      Acquired env a t (.ok token) a t.reading
  | unbuilt {e} (stale : a.Stale env t) (failed : draft a.tokenRequest = .error e) :
      Acquired env a t (.error e) a (a.checked t)
  | replied {post} (stale : a.Stale env t) (built : draft a.tokenRequest = .ok post) :
      Acquired env a t (Token.ofReply (env.answer t.sent post))
        (a.keep (Token.ofReply (env.answer t.sent post))) ((a.checked t).record post)

theorem ofReply_eq_bind (reply : Except TransportError Response) :
    Token.ofReply reply =
      (received .success Json.parse reply).bind fun v => (Token.ofJson v).mapError .decode := by
  rcases reply with e | r
  · rfl
  · simp only [Token.ofReply, received]
    by_cases hs : StatusExpectation.success.accepts r.status = true
    · rw [if_pos hs, if_pos hs]
      cases r.body.failure? with
      | some reason => rfl
      | none =>
          simp only [Token.ofPayload]
          cases Json.parse r.body.bytes <;> rfl
    · rw [if_neg hs, if_neg hs]
      rfl

theorem target_mem_tokenRequest (a : Authorization) :
    ∃ url, Part.target url ∈ a.tokenRequest :=
  ⟨a.connection.url .tokens, by simp [tokenRequest]⟩

/-- A token request sends its draft, if it has one, and yields what the reply brings. -/
theorem requestToken_apply (env : Surroundings) (a : Authorization) (t : Traffic) :
    a.requestToken env t =
      match draft a.tokenRequest with
      | .error e => (.error e, t)
      | .ok post => (Token.ofReply (env.answer t.sent post), t.record post) := by
  simp only [requestToken, tokenExchange, Action.bind_apply, perform_apply]
  rw [build_ofPart a.target_mem_tokenRequest]
  cases draft a.tokenRequest with
  | error e => rfl
  | ok post =>
      have hdoc := conclude_document Json.parse Json.null (env.answer t.sent post)
        (fun _ h => h : ∀ c, StatusExpectation.success.accepts c = true → c.isSuccess = true)
      simp only [Surroundings.transport, ofReply_eq_bind, ← hdoc]
      rcases conclude _ Json.null (env.answer t.sent post) with e | ⟨reply, v⟩
      · rfl
      · simp only [Except.map, Except.bind]
        cases Token.ofJson v <;> rfl

/-- The token at hand is looked at without sending anything, and kept back if it has expired. -/
theorem freshToken?_apply (env : Surroundings) (a : Authorization) (t : Traffic) :
    a.freshToken? env t =
      (a.token?.filter fun token => !token.hasExpiredAt (env.clock t.readings), a.checked t) := by
  simp only [freshToken?, checked]
  cases a.token? with
  | none => rfl
  | some token =>
      by_cases hx : token.hasExpiredAt (env.clock t.readings) = true
      · simp [Surroundings.now, Traffic.reading, Option.filter, hx]
      · simp [Surroundings.now, Traffic.reading, Option.filter, hx]

theorem sent_checked (a : Authorization) (t : Traffic) : (a.checked t).sent = t.sent := by
  rw [checked]
  split <;> rfl

/-- Acquiring a token goes one of the three ways there are. -/
theorem accessToken_acquired (env : Surroundings) (a : Authorization) (t : Traffic) :
    ∃ token a' t', accessToken env (a, t) = (token, a', t') ∧ Acquired env a t token a' t' := by
  simp only [accessToken, freshToken?_apply]
  cases hf : a.token?.filter fun token => !token.hasExpiredAt (env.clock t.readings) with
  | some token =>
      obtain ⟨cached, valid⟩ := Option.filter_eq_some_iff.mp hf
      have hread : a.checked t = t.reading := by simp [checked, cached]
      refine ⟨.ok token, a, t.reading, ?_, Acquired.fresh cached (by simpa using valid)⟩
      simp only [hread]
  | none =>
      have stale : a.Stale env t := by
        intro token cached
        simpa [cached] using hf
      simp only [requestToken_apply]
      cases hd : draft a.tokenRequest with
      | error e => exact ⟨_, _, _, rfl, Acquired.unbuilt stale hd⟩
      | ok post =>
          have hacq := Acquired.replied stale hd
          simp only [sent_checked]
          cases hr : Token.ofReply (env.answer t.sent post) with
          | ok token =>
              rw [hr] at hacq
              exact ⟨_, _, _, rfl, hacq⟩
          | error e =>
              rw [hr] at hacq
              exact ⟨_, _, _, rfl, hacq⟩

namespace Acquired

variable {env : Surroundings} {a a' : Authorization} {t t' : Traffic}
  {result : Except HttpError Token}

/-- Acquiring a token may change the token at hand and nothing else. -/
theorem keeps (h : Acquired env a t result a' t') :
    a'.connection = a.connection ∧ a'.credentials = a.credentials := by
  cases h with
  | fresh => exact ⟨rfl, rfl⟩
  | unbuilt => exact ⟨rfl, rfl⟩
  | replied => exact keep_keeps _ _

/-- A token that was acquired is the one at hand from then on. -/
theorem token?_eq {token : Token} (h : Acquired env a t (.ok token) a' t') :
    a'.token? = some token := by
  generalize hr : (Except.ok token : Except HttpError Token) = r at h
  cases h with
  | fresh cached =>
      cases hr
      exact cached
  | unbuilt => cases hr
  | replied => simp [← hr, keep]

end Acquired

/-- How a request that is made of parts and authorized last comes about, with what becomes of the
authorization and the traffic before it is sent. -/
inductive Prepared (env : Surroundings) (parts : List Part) (a : Authorization) (t : Traffic) :
    Except HttpError Request → Authorization → Traffic → Prop
  | undrafted {e} (failed : draft parts = .error e) : Prepared env parts a t (.error e) a t
  | drafted {r token a' t'} (draft : draft parts = .ok r)
      (acquired : Acquired env a t token a' t') :
      Prepared env parts a t (token.bind fun token => r.authorized token.id) a' t'

/-- What is sent is the request that was prepared, and the handlers see the answer to it. -/
theorem send_prepared {τ : Type} (env : Surroundings) {parts : List Part}
    (target : ∃ url, Part.target url ∈ parts) (handlers : List (Handler τ)) (m : τ)
    (a : Authorization) (t : Traffic) :
    ∃ q a' t', Prepared env parts a t q a' t' ∧
      send env parts handlers m (a, t) =
        match q with
        | .error e => (.error e, a', t')
        | .ok request =>
          (conclude handlers m (env.answer t'.sent request), a', t'.record request) := by
  simp only [send, Exchange.withBuilder, perform_apply, bearer]
  rw [build_bearer target]
  cases hd : draft parts with
  | error e => exact ⟨_, a, t, Prepared.undrafted hd, rfl⟩
  | ok r =>
      obtain ⟨result, a', t', hrun, hacq⟩ := accessToken_acquired env a t
      refine ⟨_, a', t', Prepared.drafted hd hacq, ?_⟩
      simp only [Action.bind_apply, hrun]
      cases result with
      | error e => rfl
      | ok token =>
          simp only [Action.pure_apply, Except.bind]
          cases r.authorized token.id <;> rfl

namespace Prepared

variable {env : Surroundings} {parts : List Part} {a a' : Authorization} {t t' : Traffic}
  {q : Except HttpError Request}

/-- Preparing a request may change the token at hand and nothing else. -/
theorem keeps (h : Prepared env parts a t q a' t') :
    a'.connection = a.connection ∧ a'.credentials = a.credentials := by
  cases h with
  | undrafted => exact ⟨rfl, rfl⟩
  | drafted _ acquired => exact acquired.keeps

/-- A request that was prepared is its draft with the token at hand in its authorization field. -/
theorem eq_ok {request : Request} (h : Prepared env parts a t q a' t') (hq : q = .ok request) :
    ∃ r token, draft parts = .ok r ∧ Acquired env a t (.ok token) a' t' ∧
      r.authorized token.id = .ok request := by
  cases h with
  | undrafted => cases hq
  | @drafted r token _ _ hdraft acquired =>
      cases token with
      | error e => cases hq
      | ok token => exact ⟨r, token, hdraft, acquired, hq⟩

end Prepared

/-- The credentials as they go out for a token, to a host. -/
def form (a : Authorization) (host : Bytes) : Request :=
  { method := .post, url? := some (a.connection.url .tokens)
    body := utf8 a.credentials.toJson.render
    headers := [("host", host), ("content-type", utf8 "application/yaml"),
      ("accept", utf8 "application/json"),
      ("content-length", utf8 (Text.decimal (utf8 a.credentials.toJson.render).length))] }

/-- The credentials can go out if the server has a host. -/
theorem draft_tokenRequest_eq_ok_iff {a : Authorization} {post : Request} :
    draft a.tokenRequest = .ok post ↔
      ∃ host, Request.hostField? (a.connection.url .tokens) = some host ∧ post = a.form host := by
  simp only [draft, tokenRequest, assemble_cons_eq_ok_iff, apply_accept_singleton, apply_content]
  simp only [Part.apply, assemble, Request.setTarget_eq_ok_iff, Except.ok.injEq]
  constructor
  · rintro ⟨_, rfl, _, ⟨host, hhost, rfl⟩, _, rfl, _, rfl, _, rfl, rfl⟩
    exact ⟨host, hhost, rfl⟩
  · rintro ⟨host, hhost, rfl⟩
    exact ⟨_, rfl, _, ⟨host, hhost, rfl⟩, _, rfl, _, rfl, _, rfl, rfl⟩

/-- All endpoints of a server are at the same host, so a request to one of them that can be drafted
comes with a token request that can be drafted. -/
theorem exists_draft_tokenRequest {a : Authorization} {parts : List Part} {e : Endpoint}
    {r : Request} (target : Part.target (a.connection.url e) ∈ parts) (h : draft parts = .ok r) :
    ∃ post, draft a.tokenRequest = .ok post := by
  have hsome := hostField?_isSome_of_assemble h target
  obtain ⟨host, hhost⟩ := Option.isSome_iff_exists.mp hsome
  rw [Connection.hostField?_url _ e .tokens] at hhost
  exact ⟨a.form host, draft_tokenRequest_eq_ok_iff.mpr ⟨host, hhost, rfl⟩⟩

end Authorization

end Northbound
