import Northbound.Proofs.Session.Upload

/-!
# Conversations

A session talks to its server in one way only: a request is drafted, a token is acquired if the one
at hand will not do, and the request goes out with the token that is then at hand. A conversation
records each request that was to be sent in this way, and says what had to become of it.
-/

namespace Northbound

open Http

/-- The parts of the requests that need a token, on a server. -/
inductive Asked (c : Connection) : List Part → Prop
  | collection (e : Endpoint) :
      Asked c [.method .get, .target (c.url e), .accept [.json]]
  | document (e : Endpoint) (v : Json) :
      Asked c [.method .post, .target (c.url e), .accept [.json], .content .yaml, .document (.ok v)]
  | package (p : Package) (method : Method) (e : Endpoint) :
      Asked c (p.uploadRequest method (c.url e))

/-- All these requests have a target on the server. -/
theorem Asked.target {c : Connection} {parts : List Part} (h : Asked c parts) :
    ∃ e, Part.target (c.url e) ∈ parts := by
  cases h with
  | collection e => exact ⟨e, by simp⟩
  | document e v => exact ⟨e, by simp⟩
  | package p method e => exact ⟨e, by simp [Package.uploadRequest]⟩

/-- The traffic after a request, if there was one to send. -/
def Traffic.send (t : Traffic) : Except HttpError Request → Traffic
  | .ok q => t.record q
  | .error _ => t

/-- A request that is to be sent: its parts without the authorization, what there is before it, the
request as it goes out or the reason why it does not, and what there is after it was sent. -/
structure Sending where
  parts : List Part
  before : Authorization × Traffic
  request : Except HttpError Request
  after : Authorization × Traffic

/-- What becomes of a request that is to be sent. -/
structure Sending.Lawful (env : Surroundings) (x : Sending) : Prop where
  asked : Asked x.before.1.connection x.parts
  /-- A request that cannot be drafted causes no traffic. -/
  undrafted : ∀ e, draft x.parts = .error e → x.request = .error e ∧ x.after = x.before
  /-- A token at hand that has not expired is used. -/
  fresh : ∀ r token, draft x.parts = .ok r → x.before.1.token? = some token →
    token.hasExpiredAt (env.clock x.before.2.readings) = false →
    x.request = r.authorized token.id ∧
      x.after = (x.before.1, x.before.2.reading.send x.request)
  /-- Otherwise the credentials are posted, once. The token that the reply brings is kept and used;
  if it brings none, the token at hand stays and nothing more is sent. -/
  stale : ∀ r, draft x.parts = .ok r → x.before.1.Stale env x.before.2 →
    ∃ post, x.before.1.post? = some post ∧
      let token := Token.ofReply (env.answer x.before.2.sent post)
      x.request = token.bind (fun token => r.authorized token.id) ∧
        x.after = (x.before.1.keep token,
          ((x.before.1.checked x.before.2).record post).send x.request)
  /-- What goes out carries the token that is at hand then. -/
  bearer : ∀ q, x.request = .ok q → ∃ token, x.after.1.token? = some token ∧
    q.headers.lookup "authorization" = some (utf8 ("Bearer " ++ token.id))

/-- The requests that were to be sent between two points, with tokens acquired for their own sake in
between. -/
inductive Conversation (env : Surroundings) :
    Authorization × Traffic → List Sending → Authorization × Traffic → Prop
  | done {x} : Conversation env x [] x
  | token {a t result a' t' log y} (acquired : Authorization.Acquired env a t result a' t')
      (rest : Conversation env (a', t') log y) : Conversation env (a, t) log y
  | sending {x : Sending} {log y} (lawful : x.Lawful env) (rest : Conversation env x.after log y) :
      Conversation env x.before (x :: log) y

/-- The result of an operation reports a request that could not be sent, and there is none after
it. -/
inductive Reported {α : Type} : List Sending → Except SessionError α → Prop
  | complete {log result} (sent : ∀ x ∈ log, x.request.isOk = true) : Reported log result
  | failed {log x e} (sent : ∀ x ∈ log, x.request.isOk = true) (request : x.request = .error e) :
      Reported (log ++ [x]) (.error (.http e))

namespace Authorization

variable {env : Surroundings} {a a' : Authorization} {t t' : Traffic}

/-- A token at hand that has not expired is acquired as it is. -/
theorem Acquired.of_fresh {result : Except HttpError Token} {token : Token}
    (h : Acquired env a t result a' t') (cached : a.token? = some token)
    (valid : token.hasExpiredAt (env.clock t.readings) = false) :
    result = .ok token ∧ a' = a ∧ t' = t.reading := by
  have fresh : ¬a.Stale env t := by
    intro stale
    rw [stale token cached] at valid
    cases valid
  cases h with
  | fresh cached' =>
      rw [cached] at cached'
      cases cached'
      exact ⟨rfl, rfl, rfl⟩
  | unbuilt stale => exact absurd stale fresh
  | replied stale => exact absurd stale fresh

/-- Without such a token, the reply to a token request settles what is acquired. -/
theorem Acquired.of_stale {result : Except HttpError Token} {post : Request}
    (h : Acquired env a t result a' t') (hpost : a.post? = some post) (stale : a.Stale env t) :
    result = Token.ofReply (env.answer t.sent post) ∧
      a' = a.keep (Token.ofReply (env.answer t.sent post)) ∧ t' = (a.checked t).record post := by
  cases h with
  | fresh cached valid =>
      rw [stale _ cached] at valid
      cases valid
  | unbuilt _ failed =>
      rw [post?_eq_some_iff.mp hpost] at failed
      cases failed
  | replied _ built =>
      rw [post?_eq_some_iff.mp hpost] at built
      cases built
      exact ⟨rfl, rfl, rfl⟩

/-- Preparing a request and sending it, if there is one, is lawful. -/
theorem Prepared.lawful {parts : List Part} {q : Except HttpError Request}
    (asked : Asked a.connection parts) (h : Prepared env parts a t q a' t') :
    Sending.Lawful env ⟨parts, (a, t), q, (a', t'.send q)⟩ := by
  have bearer : ∀ request, q = .ok request → ∃ token, a'.token? = some token ∧
      request.headers.lookup "authorization" = some (utf8 ("Bearer " ++ token.id)) := by
    intro request hq
    obtain ⟨r, token, -, hacq, hauth⟩ := h.eq_ok hq
    exact ⟨token, hacq.token?_eq, Request.lookup_authorization hauth⟩
  cases h with
  | undrafted failed =>
      refine ⟨asked, ?_, ?_, ?_, bearer⟩
      · intro e he
        rw [failed] at he
        cases he
        exact ⟨rfl, rfl⟩
      · intro r _ hr
        rw [failed] at hr
        cases hr
      · intro r hr
        rw [failed] at hr
        cases hr
  | drafted hdraft acquired =>
      refine ⟨asked, ?_, ?_, ?_, bearer⟩
      · intro e he
        rw [hdraft] at he
        cases he
      · intro r token hr cached valid
        rw [hdraft] at hr
        cases hr
        obtain ⟨rfl, rfl, rfl⟩ := acquired.of_fresh cached valid
        exact ⟨rfl, rfl⟩
      · intro r hr stale
        rw [hdraft] at hr
        cases hr
        obtain ⟨e, htarget⟩ := asked.target
        obtain ⟨post, hpost⟩ := exists_draft_tokenRequest htarget hdraft
        obtain ⟨rfl, rfl, rfl⟩ := acquired.of_stale (post?_eq_some_iff.mpr hpost) stale
        exact ⟨post, post?_eq_some_iff.mpr hpost, rfl, rfl⟩

end Authorization

/-- All requests of a history are token requests or carry the token that is at hand at that point of
the history. -/
def Bearing : Authorization → History → Prop
  | _, [] => True
  | a, x :: rest =>
    (a.post? = some x.1 ∨ ∃ token, a.token? = some token ∧
      x.1.headers.lookup "authorization" = some (utf8 ("Bearer " ++ token.id))) ∧
    Bearing (a.learn x) rest

theorem Bearing.append {a : Authorization} {h more : History} (first : Bearing a h)
    (rest : Bearing (a.after h) more) : Bearing a (h ++ more) := by
  induction h generalizing a with
  | nil => exact rest
  | cons x h ih => exact ⟨first.1, ih first.2 rest⟩

/-- The history between two points: what was sent is added to it, it settles the authorization, and
its requests carry the token at hand. -/
structure Remembered (env : Surroundings) (x y : Authorization × Traffic) (new : List Request) :
    Prop where
  sent : y.2.sent = x.2.sent ++ new
  authorization : y.1 = x.1.after (env.history x.2.sent new)
  bearing : Bearing x.1 (env.history x.2.sent new)

namespace Remembered

variable {env : Surroundings} {x y z : Authorization × Traffic} {new more : List Request}

theorem append (h : Remembered env x y new) (rest : Remembered env y z more) :
    Remembered env x z (new ++ more) := by
  have hauth := h.authorization
  refine ⟨?_, ?_, ?_⟩
  · rw [rest.sent, h.sent, List.append_assoc]
  · rw [Surroundings.history_append, Authorization.after_append, ← hauth, ← h.sent]
    exact rest.authorization
  · rw [Surroundings.history_append]
    apply h.bearing.append
    rw [← hauth, ← h.sent]
    exact rest.bearing

/-- Nothing was sent. -/
theorem silent {a : Authorization} {t t' : Traffic} (sent : t'.sent = t.sent) :
    Remembered env (a, t) (a, t') [] :=
  ⟨by simp [sent], rfl, trivial⟩

/-- A token request was sent. -/
theorem token (env : Surroundings) {a : Authorization} {t t' : Traffic} {post : Request}
    (hpost : a.post? = some post)
    (sent : t'.sent = t.sent) :
    Remembered env (a, t) (a.keep (Token.ofReply (env.answer t.sent post)), t'.record post)
      [post] := by
  refine ⟨by simp [sent], ?_, Or.inl hpost, trivial⟩
  exact (Authorization.after_token hpost _).symm

/-- A request was sent with the token at hand. -/
theorem request {a : Authorization} {t : Traffic} {r q : Request} {token : Token}
    (cached : a.token? = some token) (h : r.authorized token.id = .ok q) :
    Remembered env (a, t) (a, t.record q) [q] := by
  refine ⟨rfl, ?_, Or.inr ⟨token, cached, Request.lookup_authorization h⟩, trivial⟩
  exact (Authorization.after_singleton_of_ne (Authorization.post?_ne_authorized h)).symm

end Remembered

/-- A lawful sending is remembered. -/
theorem Sending.Lawful.remembered {env : Surroundings} {x : Sending} (h : x.Lawful env) :
    ∃ new, Remembered env x.before x.after new := by
  have send {a : Authorization} {t : Traffic} {r : Request} {token : Token}
      (cached : a.token? = some token) :
      ∃ new, Remembered env (a, t) (a, t.send (r.authorized token.id)) new := by
    cases hq : r.authorized token.id with
    | error e => exact ⟨[], .silent rfl⟩
    | ok q => exact ⟨[q], .request cached hq⟩
  obtain ⟨parts, ⟨a, t⟩, request, after⟩ := x
  cases hdraft : draft parts with
  | error e =>
      obtain ⟨-, hafter⟩ := h.undrafted e hdraft
      exact ⟨[], hafter ▸ .silent rfl⟩
  | ok r =>
      by_cases stale : a.Stale env t
      · obtain ⟨post, hpost, hreq, hafter⟩ := h.stale r hdraft stale
        dsimp only at hpost hreq hafter
        have hfirst := Remembered.token env hpost (Authorization.sent_checked a t)
        rw [hafter, hreq]
        cases hr : Token.ofReply (env.answer t.sent post) with
        | error e =>
            rw [hr] at hfirst
            exact ⟨[post], hfirst⟩
        | ok token =>
            rw [hr] at hfirst
            obtain ⟨new, hnew⟩ :=
              send (a := a.keep (.ok token)) (r := r) (show _ = some token from rfl)
            exact ⟨[post] ++ new, hfirst.append hnew⟩
      · simp only [Authorization.Stale, Classical.not_forall] at stale
        obtain ⟨token, cached, valid⟩ := stale
        obtain ⟨hreq, hafter⟩ := h.fresh r token hdraft cached (by simpa using valid)
        dsimp only at hreq hafter
        rw [hafter, hreq]
        obtain ⟨new, hnew⟩ := send (t := t.reading) (r := r) cached
        exact ⟨[] ++ new, (Remembered.silent (Traffic.sent_reading t)).append hnew⟩

namespace Conversation

variable {env : Surroundings} {x y z : Authorization × Traffic} {log more : List Sending}

theorem append (h : Conversation env x log y) (rest : Conversation env y more z) :
    Conversation env x (log ++ more) z := by
  induction h with
  | done => exact rest
  | token acquired _ ih => exact .token acquired (ih rest)
  | sending lawful _ ih => exact .sending lawful (ih rest)

/-- A conversation is remembered. -/
theorem remembered (h : Conversation env x log y) : ∃ new, Remembered env x y new := by
  induction h with
  | done => exact ⟨[], .silent rfl⟩
  | token acquired _ ih =>
      obtain ⟨more, hmore⟩ := ih
      cases acquired with
      | fresh => exact ⟨[] ++ more, (Remembered.silent (Traffic.sent_reading _)).append hmore⟩
      | unbuilt =>
          exact ⟨[] ++ more, (Remembered.silent (Authorization.sent_checked ..)).append hmore⟩
      | replied stale built =>
          have hpost := Authorization.post?_eq_some_iff.mpr built
          exact ⟨_, (Remembered.token env hpost (Authorization.sent_checked ..)).append hmore⟩
  | sending lawful _ ih =>
      obtain ⟨new, hnew⟩ := lawful.remembered
      obtain ⟨more, hmore⟩ := ih
      exact ⟨new ++ more, hnew.append hmore⟩

/-- All that is sent in a conversation is lawful, with one server and one user throughout. -/
theorem lawful (h : Conversation env x log y) : ∀ z ∈ log, z.Lawful env ∧
    z.before.1.connection = x.1.connection ∧ z.before.1.credentials = x.1.credentials := by
  induction h with
  | done => simp
  | token acquired _ ih =>
      intro z hz
      obtain ⟨hz, hconn, hcred⟩ := ih z hz
      exact ⟨hz, hconn.trans acquired.keeps.1, hcred.trans acquired.keeps.2⟩
  | sending lawful _ ih =>
      intro z hz
      rcases List.mem_cons.mp hz with rfl | hz
      · exact ⟨lawful, rfl, rfl⟩
      · obtain ⟨new, hnew⟩ := lawful.remembered
        obtain ⟨hz, hconn, hcred⟩ := ih z hz
        rw [hnew.authorization] at hconn hcred
        exact ⟨hz, hconn.trans (Authorization.after_keeps _).1,
          hcred.trans (Authorization.after_keeps _).2⟩

end Conversation

end Northbound
