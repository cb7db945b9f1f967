import Northbound.Proofs.Session.History

/-!
# What differs with the secrets

Two runs of a session have different secrets if their users have different passwords, or if their
tokens have different IDs. This module says when requests, answers and authorizations differ in
nothing else. A token is acquired, and a request is sent, alike then: with results, traffic and
authorizations that still differ in nothing else.
-/

namespace Northbound

open Http

/-- Results that are both failures, and the same ones, or both values, and related. -/
inductive ResultsAlike {ε α : Type} (R : α → α → Prop) : Except ε α → Except ε α → Prop
  | ok {x y} (values : R x y) : ResultsAlike R (.ok x) (.ok y)
  | error (e) : ResultsAlike R (.error e) (.error e)

namespace ResultsAlike

variable {ε ε' α : Type} {R : α → α → Prop} {x y : Except ε α}

theorem mapError (h : ResultsAlike R x y) (f : ε → ε') :
    ResultsAlike R (x.mapError f) (y.mapError f) := by
  cases h with
  | ok values => exact ok values
  | error e => exact error (f e)

end ResultsAlike

namespace Token

/-- Whether a text is an ID that requests can be authorized with. -/
def LegalId (id : String) : Prop := id ≠ "" ∧ (Headers.value? id).isSome = true

instance (id : String) : Decidable (LegalId id) := inferInstanceAs (Decidable (_ ∧ _))

/-- Tokens that differ at most in their IDs, and only if these are legal. -/
structure Alike (x y : Token) : Prop where
  expiresAt : x.expiresAt = y.expiresAt
  id : x.id = y.id ∨ LegalId x.id ∧ LegalId y.id

variable {x y : Token}

theorem Alike.refl (x : Token) : Alike x x := ⟨rfl, .inl rfl⟩

theorem Alike.debug_eq (h : Alike x y) : x.debug = y.debug := by
  unfold debug
  rw [h.expiresAt]

/-- Such tokens expire at the same time. -/
theorem Alike.hasExpiredAt_eq (h : Alike x y) (now : Binary64) :
    x.hasExpiredAt now = y.hasExpiredAt now := by
  have empty : x.id.isEmpty = y.id.isEmpty := by
    rcases h.id with same | ⟨⟨nonempty, -⟩, nonempty', -⟩
    · rw [same]
    · rw [Bool.eq_iff_iff, String.isEmpty_iff, String.isEmpty_iff]
      exact iff_of_false nonempty nonempty'
  rw [hasExpiredAt, hasExpiredAt, empty, h.expiresAt]

/-- The debugging text does not tell such tokens apart, nor whether there is one. -/
theorem optional_debug_eq {x y : Option Token} (h : Option.Rel Alike x y) :
    Text.optional debug x = Text.optional debug y := by
  cases h with
  | none => rfl
  | some alike => exact congrArg (fun text => Text.optional (fun t => t) (some text)) alike.debug_eq

/-- Such tokens are kept back alike when they have expired. -/
theorem filter_alike {x y : Option Token} (h : Option.Rel Alike x y) (now : Binary64) :
    Option.Rel Alike (x.filter fun token => !token.hasExpiredAt now)
      (y.filter fun token => !token.hasExpiredAt now) := by
  cases h with
  | none => exact .none
  | @some x y alike =>
    rw [Option.filter_some, Option.filter_some, alike.hasExpiredAt_eq]
    cases y.hasExpiredAt now with
    | true => exact .none
    | false => exact .some alike

theorem value?_bearer {id : String} (h : LegalId id) :
    ∃ field, Headers.value? ("Bearer " ++ id) = some field := by
  obtain ⟨-, legal⟩ := h
  have front : (utf8 "Bearer ").all Headers.isValueByte = true := by decide
  have bytes : (utf8 id).all Headers.isValueByte = true := by
    cases illegal : (utf8 id).all Headers.isValueByte with
    | true => rfl
    | false => simp [Headers.value?, illegal] at legal
  have both : (utf8 ("Bearer " ++ id)).all Headers.isValueByte = true := by
    rw [utf8_append, List.all_append, front, bytes]
    rfl
  exact ⟨_, if_pos both⟩

/-- Documents that describe tokens with legal IDs and the same time of expiry. The IDs and what else
there is in the documents may differ. -/
def DescribedAlike (x y : Bytes) : Prop :=
  ∃ v w id id', Json.parse x = .ok v ∧ Json.parse y = .ok w ∧
    v.member? "expires" = w.member? "expires" ∧
    v.member? "id" = some (.text id) ∧ w.member? "id" = some (.text id') ∧
    LegalId id ∧ LegalId id'

theorem ofJson_of_member? {v : Json} {id : String} (h : v.member? "id" = some (.text id)) :
    ofJson v = (((v.member? "expires").map readExpiry).getD (.ok .zero)).map (Token.mk id) := by
  cases v with
  | object members =>
    simp only [ofJson, h]
    cases ((Json.object members).member? "expires").map readExpiry with
    | none => rfl
    | some result => cases result <;> rfl
  | _ => cases h

/-- Such documents yield tokens that are alike, or fail for the same reason. -/
theorem DescribedAlike.ofPayload {x y : Bytes} (h : DescribedAlike x y) :
    ResultsAlike Alike (ofPayload x) (ofPayload y) := by
  obtain ⟨v, w, id, id', parsed, parsed', expires, member, member', legal, legal'⟩ := h
  have left : Token.ofPayload x = ofJson v := by rw [Token.ofPayload, parsed]; rfl
  have right : Token.ofPayload y = ofJson w := by rw [Token.ofPayload, parsed']; rfl
  rw [left, right, ofJson_of_member? member, ofJson_of_member? member', expires]
  cases ((w.member? "expires").map readExpiry).getD (.ok .zero) with
  | error e => exact .error e
  | ok expiresAt => exact .ok ⟨rfl, .inr ⟨legal, legal'⟩⟩

end Token

namespace Http

/-- The header fields with the values of one name left out. -/
def Headers.blank (name : String) (hs : Headers) : Headers :=
  hs.map fun h => if h.1 = name then (h.1, []) else h

/-- The value that a field is set to is left out. -/
theorem Headers.blank_set (name : String) (value value' : Bytes) (hs : Headers) :
    (hs.set name value).blank name = (hs.set name value').blank name := by
  induction hs with
  | nil => simp [set, blank]
  | cons h rest ih =>
    obtain ⟨n, v⟩ := h
    simp only [set]
    split
    · simp [blank]
    · simp only [blank, List.map_cons] at ih ⊢
      rw [ih]

namespace Request

/-- Whether a request posts credentials for a token. -/
def isTokenPost (c : Connection) (r : Request) : Bool :=
  r.method = .post ∧ r.url? = some (c.url .tokens) ∧ r.headers.lookup "authorization" = none

/-- The request without what depends on secrets: what authorizes it, and the credentials in it with
their length. -/
def redacted (c : Connection) (r : Request) : Request :=
  if r.isTokenPost c then
    { r with headers := (r.headers.blank "authorization").blank "content-length", body := [] }
  else { r with headers := r.headers.blank "authorization" }

variable {c : Connection} {r q q' : Request} {id id' : String}

theorem isTokenPost_authorized (h : r.authorized id = .ok q) : q.isTokenPost c = false := by
  simp [isTokenPost, lookup_authorization h]

/-- The token that a request is authorized with is left out. -/
theorem redacted_authorized (h : r.authorized id = .ok q) (h' : r.authorized id' = .ok q') :
    q.redacted c = q'.redacted c := by
  rw [redacted, redacted, isTokenPost_authorized h, isTokenPost_authorized h']
  obtain ⟨field, -, rfl⟩ := authorized_eq_ok_iff.mp h
  obtain ⟨field', -, rfl⟩ := authorized_eq_ok_iff.mp h'
  simp [Headers.blank_set _ field field']

theorem exists_authorized (r : Request) (h : Token.LegalId id) : ∃ q, r.authorized id = .ok q := by
  obtain ⟨field, hfield⟩ := Token.value?_bearer h
  exact ⟨_, authorized_eq_ok_iff.mpr ⟨field, hfield, rfl⟩⟩

/-- A request is authorized alike with tokens that are alike. -/
theorem authorized_alike (c : Connection) (r : Request) {x y : Token} (h : x.Alike y) :
    ResultsAlike (fun q q' => q.redacted c = q'.redacted c ∧ q.isTokenPost c = false)
      (r.authorized x.id) (r.authorized y.id) := by
  rcases h.id with same | ⟨legal, legal'⟩
  · rw [same]
    cases ok : r.authorized y.id with
    | error e => exact .error e
    | ok q => exact .ok ⟨rfl, isTokenPost_authorized ok⟩
  · obtain ⟨q, ok⟩ := exists_authorized r legal
    obtain ⟨q', ok'⟩ := exists_authorized r legal'
    rw [ok, ok']
    exact .ok ⟨redacted_authorized ok ok', isTokenPost_authorized ok⟩

end Request

/-- Answers to a request that are the same, except that the IDs of tokens may differ in replies to a
token request. -/
def AnswersAlike (c : Connection) (q : Request) (x y : Except TransportError Response) : Prop :=
  x = y ∨ q.isTokenPost c = true ∧ ∃ r s, x = .ok r ∧ y = .ok s ∧ r.status = s.status ∧
    r.body.failure? = s.body.failure? ∧ Token.DescribedAlike r.body.bytes s.body.bytes

theorem AnswersAlike.ofReply {c : Connection} {q : Request} {x y : Except TransportError Response}
    (h : AnswersAlike c q x y) : ResultsAlike Token.Alike (Token.ofReply x) (Token.ofReply y) := by
  rcases h with rfl | ⟨-, r, s, rfl, rfl, status, failure, described⟩
  · cases Token.ofReply x with
    | error e => exact .error e
    | ok token => exact .ok (.refl token)
  · simp only [Token.ofReply, received, status, failure]
    split
    · split
      · exact .error _
      · exact described.ofPayload.mapError _
    · exact .error _

theorem AnswersAlike.eq {c : Connection} {q : Request} {x y : Except TransportError Response}
    (h : AnswersAlike c q x y) (other : q.isTokenPost c = false) : x = y := by
  rcases h with same | ⟨post, -⟩
  · exact same
  · rw [other] at post
    cases post

end Http

/-- Traffic that differs only in what depends on secrets. -/
structure Traffic.Alike (c : Connection) (t t' : Traffic) : Prop where
  sent : t.sent.map (Request.redacted c) = t'.sent.map (Request.redacted c)
  readings : t.readings = t'.readings

namespace Traffic.Alike

variable {c : Connection} {t t' : Traffic}

theorem record (h : t.Alike c t') {q q' : Request} (same : q.redacted c = q'.redacted c) :
    (t.record q).Alike c (t'.record q') :=
  ⟨by simp [h.sent, same], h.readings⟩

end Traffic.Alike

/-- What two servers answered in the end was alike whenever all requests up to then were. -/
def RepliesAlike (c : Connection) (env env' : Surroundings) (sent sent' : List Request) : Prop :=
  ∀ past q past' q', past ++ [q] <+: sent → past' ++ [q'] <+: sent' →
    (past ++ [q]).map (Request.redacted c) = (past' ++ [q']).map (Request.redacted c) →
    AnswersAlike c q (env.answer past q) (env'.answer past' q')

theorem RepliesAlike.mono {c : Connection} {env env' : Surroundings}
    {sent sent' more more' : List Request} (h : RepliesAlike c env env' more more')
    (grown : sent <+: more) (grown' : sent' <+: more') : RepliesAlike c env env' sent sent' :=
  fun past q past' q' first first' => h past q past' q' (first.trans grown) (first'.trans grown')

/-- The answers to the requests sent last were alike. -/
theorem RepliesAlike.last {c : Connection} {env env' : Surroundings} {t t' : Traffic}
    {q q' : Request}
    (h : RepliesAlike c env env' (t.record q).sent (t'.record q').sent) (alike : t.Alike c t')
    (same : q.redacted c = q'.redacted c) :
    AnswersAlike c q (env.answer t.sent q) (env'.answer t'.sent q') :=
  h _ q _ q' (List.prefix_refl _) (List.prefix_refl _) (alike.record same).sent

namespace Authorization

/-- Authorizations on a server that differ only in the password and in the ID of the token. -/
structure Alike (c : Connection) (a a' : Authorization) : Prop where
  connection : a.connection = c
  connection' : a'.connection = c
  username : a.credentials.username = a'.credentials.username
  project : a.credentials.project = a'.credentials.project
  token : Option.Rel Token.Alike a.token? a'.token?

variable {c : Connection} {env env' : Surroundings} {a a' : Authorization} {t t' : Traffic}

theorem Alike.debug_eq (h : a.Alike c a') : a.debug = a'.debug ∧
    a.credentials.debug = a'.credentials.debug := by
  have credentials : a.credentials.debug = a'.credentials.debug := by
    unfold Credentials.debug
    rw [h.username, h.project]
  refine ⟨?_, credentials⟩
  unfold debug
  rw [h.connection, h.connection', credentials, Token.optional_debug_eq h.token]

theorem isTokenPost_form (host : Bytes) : (a.form host).isTokenPost a.connection = true := by
  have unauthorized : (a.form host).headers.lookup "authorization" = none := rfl
  simp only [Request.isTokenPost, unauthorized]
  simp [form]

theorem redacted_form (host : Bytes) :
    (a.form host).redacted a.connection =
      { method := .post, url? := some (a.connection.url .tokens)
        headers := [("host", host), ("content-type", utf8 "application/yaml"),
          ("accept", utf8 "application/json"), ("content-length", [])] } := by
  rw [Request.redacted, if_pos (isTokenPost_form host)]
  simp [form, Headers.blank]

/-- A token request to a server fails to be drafted for want of a host. -/
theorem draft_tokenRequest_of_error {e : HttpError}
    (failed : (Part.target (a.connection.url .tokens)).apply { method := .post } = .error e) :
    draft a.tokenRequest = .error e := by
  have method : (Part.method .post).apply {} = .ok { method := .post } := rfl
  rw [draft, tokenRequest, assemble, method]
  change ((Part.target (a.connection.url .tokens)).apply { method := .post }).bind _ = _
  rw [failed]
  rfl

/-- Token requests to one server are drafted alike, or not at all. -/
theorem Alike.draft (h : a.Alike c a') :
    ResultsAlike (fun q q' => q.redacted c = q'.redacted c)
      (draft a.tokenRequest) (Http.draft a'.tokenRequest) := by
  obtain ⟨rfl, connection, -, -, -⟩ := h
  cases target : (Part.target (a.connection.url .tokens)).apply { method := .post } with
  | error e =>
    have failed := target
    rw [← connection] at failed
    rw [draft_tokenRequest_of_error target, draft_tokenRequest_of_error failed]
    exact .error e
  | ok r =>
    obtain ⟨host, hhost, -⟩ := Request.setTarget_eq_ok_iff.mp target
    have hhost' := hhost
    rw [← connection] at hhost'
    rw [draft_tokenRequest_eq_ok_iff.mpr ⟨host, hhost, rfl⟩,
      draft_tokenRequest_eq_ok_iff.mpr ⟨host, hhost', rfl⟩]
    have form' := redacted_form (a := a') host
    rw [connection] at form'
    exact .ok ((redacted_form host).trans form'.symm)

theorem Alike.checked (h : a.Alike c a') (traffic : t.Alike c t') :
    (a.checked t).Alike c (a'.checked t') := by
  have some_iff : a.token?.isSome = a'.token?.isSome := by
    generalize a.token? = x, a'.token? = y, h.token = token
    cases token <;> rfl
  unfold Authorization.checked
  rw [some_iff]
  split
  · exact ⟨traffic.sent, congrArg (· + 1) traffic.readings⟩
  · exact traffic

theorem Alike.keep (h : a.Alike c a') {x y : Except HttpError Token}
    (results : ResultsAlike Token.Alike x y) : (a.keep x).Alike c (a'.keep y) := by
  cases results with
  | ok token => exact ⟨h.connection, h.connection', h.username, h.project, .some token⟩
  | error e => exact h

end Authorization

end Northbound
