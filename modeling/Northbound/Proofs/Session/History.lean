import Northbound.Proofs.Session.Authorization

/-!
# What a session learns from its history

The requests sent and the answers to them make a history. Token requests can be told from all other
requests, and the token at hand follows from the history: it is the one that the last successful
reply to a token request brought.
-/

namespace Northbound

open Http

/-- Requests with the answers to them, in order. -/
abbrev History := List (Request × Except TransportError Response)

/-- The history of requests that follow others. -/
def Surroundings.history (env : Surroundings) : List Request → List Request → History
  | _, [] => []
  | past, q :: rest => (q, env.answer past q) :: env.history (past ++ [q]) rest

namespace Surroundings

variable (env : Surroundings)

/-- More requests add to the history. -/
theorem history_append (past new more : List Request) :
    env.history past (new ++ more) = env.history past new ++ env.history (past ++ new) more := by
  induction new generalizing past with
  | nil => simp [history]
  | cons q new ih => simp [history, ih, List.append_assoc]

/-- A history has all requests. -/
theorem map_fst_history (past new : List Request) :
    (env.history past new).map Prod.fst = new := by
  induction new generalizing past with
  | nil => rfl
  | cons q new ih => simp [history, ih]

end Surroundings

namespace Authorization

variable {env : Surroundings} {a a' : Authorization} {t t' : Traffic}

/-- The request for a token, if the server has a host. -/
def post? (a : Authorization) : Option Request := (draft a.tokenRequest).toOption

/-- What an authorization becomes by an exchange: a token that came in reply to a token request is
kept. -/
def learn (a : Authorization) (x : Request × Except TransportError Response) : Authorization :=
  if a.post? = some x.1 then a.keep (Token.ofReply x.2) else a

/-- The authorization after a history. -/
def after (a : Authorization) (h : History) : Authorization := h.foldl learn a

theorem post?_eq_some_iff {post : Request} :
    a.post? = some post ↔ draft a.tokenRequest = .ok post := by
  simp only [post?]
  cases draft a.tokenRequest <;> simp [Except.toOption]

theorem post?_congr (connection : a'.connection = a.connection)
    (credentials : a'.credentials = a.credentials) : a'.post? = a.post? := by
  simp only [post?, tokenRequest, connection, credentials]

/-- A token request posts the credentials to where tokens are issued. -/
theorem post?_eq_form {post : Request} (h : a.post? = some post) : ∃ host, post = a.form host := by
  obtain ⟨host, -, rfl⟩ := draft_tokenRequest_eq_ok_iff.mp (post?_eq_some_iff.mp h)
  exact ⟨host, rfl⟩

/-- A token request is not authorized. -/
theorem lookup_authorization_post {post : Request} (h : a.post? = some post) :
    post.headers.lookup "authorization" = none := by
  obtain ⟨host, rfl⟩ := post?_eq_form h
  rfl

/-- An authorized request is not mistaken for a token request. -/
theorem post?_ne_authorized {r q : Request} {id : String} (h : r.authorized id = .ok q) :
    a.post? ≠ some q := by
  intro hpost
  have hnone := lookup_authorization_post hpost
  rw [Request.lookup_authorization h] at hnone
  cases hnone

theorem after_append (h more : History) : a.after (h ++ more) = (a.after h).after more := by
  simp [after, List.foldl_append]

/-- Nothing but a token is learnt from a history. -/
theorem after_keeps (h : History) :
    (a.after h).connection = a.connection ∧ (a.after h).credentials = a.credentials := by
  induction h generalizing a with
  | nil => exact ⟨rfl, rfl⟩
  | cons x h ih =>
      have hlearn : (a.learn x).connection = a.connection ∧
          (a.learn x).credentials = a.credentials := by
        unfold learn
        split
        · exact keep_keeps _ _
        · exact ⟨rfl, rfl⟩
      obtain ⟨hconn, hcred⟩ := ih (a := a.learn x)
      exact ⟨hconn.trans hlearn.1, hcred.trans hlearn.2⟩

/-- Nothing is learnt from exchanges other than token requests. -/
theorem after_singleton_of_ne {x : Request × Except TransportError Response}
    (h : a.post? ≠ some x.1) : a.after [x] = a := by
  simp [after, learn, h]

theorem after_token {post : Request} (h : a.post? = some post)
    (reply : Except TransportError Response) :
    a.after [(post, reply)] = a.keep (Token.ofReply reply) := by
  simp [after, learn, h]

/-- The exchanges of a history that are no token requests. -/
def own (a : Authorization) (h : History) : History := h.filter fun x => a.post? ≠ some x.1

theorem own_append (h more : History) : a.own (h ++ more) = a.own h ++ a.own more :=
  List.filter_append ..

theorem own_posts {past posts : List Request} (h : ∀ p ∈ posts, a.post? = some p) :
    a.own (env.history past posts) = [] := by
  simp only [own, List.filter_eq_nil_iff]
  intro x hx
  have hmem : x.1 ∈ posts := by
    rw [← env.map_fst_history past posts]
    exact List.mem_map_of_mem hx
  simpa using h _ hmem

theorem own_singleton {x : Request × Except TransportError Response} (h : a.post? ≠ some x.1) :
    a.own [x] = [x] := by
  simp [own, h]

/-- A token is acquired with at most one request, for a token, and the reply to it settles what is
at hand afterwards. -/
theorem Acquired.history {result : Except HttpError Token} (h : Acquired env a t result a' t') :
    ∃ posts, t'.sent = t.sent ++ posts ∧ posts.length ≤ 1 ∧ (∀ p ∈ posts, a.post? = some p) ∧
      a' = a.after (env.history t.sent posts) := by
  cases h with
  | fresh => exact ⟨[], by simp, by simp, by simp, rfl⟩
  | unbuilt => exact ⟨[], by simp [sent_checked], by simp, by simp, rfl⟩
  | @replied post stale built =>
      have hpost := post?_eq_some_iff.mpr built
      refine ⟨[post], by simp [sent_checked], by simp, by simpa using hpost, ?_⟩
      simp only [Surroundings.history, after_token hpost]

/-- A request is prepared with at most one other request, for a token. -/
theorem Prepared.history {parts : List Part} {q : Except HttpError Request}
    (h : Prepared env parts a t q a' t') :
    ∃ posts, t'.sent = t.sent ++ posts ∧ posts.length ≤ 1 ∧ (∀ p ∈ posts, a.post? = some p) ∧
      a' = a.after (env.history t.sent posts) := by
  cases h with
  | undrafted => exact ⟨[], by simp, by simp, by simp, rfl⟩
  | drafted _ acquired => exact acquired.history

/-- A request that was prepared is no token request. -/
theorem Prepared.post?_ne {parts : List Part} {request : Request}
    (h : Prepared env parts a t (.ok request) a' t') (b : Authorization) :
    b.post? ≠ some request := by
  obtain ⟨r, token, -, -, hauth⟩ := h.eq_ok rfl
  exact post?_ne_authorized hauth

theorem Prepared.post?_eq {parts : List Part} {q : Except HttpError Request}
    (h : Prepared env parts a t q a' t') : a'.post? = a.post? :=
  post?_congr h.keeps.1 h.keeps.2

/-- Preparing a request adds nothing to a history but token requests. -/
theorem Prepared.own_history {parts : List Part} {q : Except HttpError Request}
    (h : Prepared env parts a t q a' t') :
    ∃ new, t'.sent = t.sent ++ new ∧ a.own (env.history t.sent new) = [] := by
  obtain ⟨posts, hsent, -, hposts, -⟩ := h.history
  exact ⟨posts, hsent, own_posts hposts⟩

/-- Sending a request that was prepared adds it to a history, with the answer to it. -/
theorem Prepared.own_history_record {parts : List Part} {request : Request}
    (h : Prepared env parts a t (.ok request) a' t') :
    ∃ new, (t'.record request).sent = t.sent ++ new ∧
      a.own (env.history t.sent new) = [(request, env.answer t'.sent request)] := by
  obtain ⟨posts, hsent, hown⟩ := h.own_history
  refine ⟨posts ++ [request], by simp [hsent], ?_⟩
  rw [Surroundings.history_append, own_append, hown, ← hsent]
  exact own_singleton (h.post?_ne a)

end Authorization

end Northbound
