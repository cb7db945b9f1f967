import Northbound.Proofs.Session.Fetched
import Northbound.Proofs.Session.Operations
import Northbound.Proofs.Session.Recreation
import Northbound.Proofs.Text.Quoted

/-!
# Requests refused for the ID of their token

A token whose ID cannot stand in a header field authorizes nothing: the request that it was acquired
for is not made, and the operation ends there. Main statement: what the operation reports, in its
message and in its debugging text, is the ID of the token, whatever the server and the operation.
Debugging texts of tokens do not show it.
-/

namespace Northbound

open Http

/-- What is reported of a request that cannot be authorized with an ID. -/
def Session.bearerRefusal (id : String) : SessionError :=
  .http (.invalidRequest (.badHeaderValue ("Bearer " ++ id)))

/-- The debugging text of a failure, if no request could be made. -/
def SessionError.requestDebug? : SessionError → Option String
  | .http (.invalidRequest fault) =>
      some ("Http(InvalidRequest(" ++ Text.quoted fault.message ++ "))")
  | _ => none

/-- A request that was drafted, but could not be authorized with the ID of the token at hand. -/
structure Sending.RefusedFor (id : String) (x : Sending) : Prop where
  token : ∃ token, x.after.1.token? = some token ∧ token.id = id
  drafted : ∃ r, draft x.parts = .ok r ∧ x.request = r.authorized id
  failed : x.request.isOk = false

/-- Whether an operation comes to such a request. -/
def Operation.RefusesBearer (env : Surroundings) (op : Operation) (st : Session × Traffic)
    (id : String) : Prop :=
  let out := op.perform env st
  ∃ log, Conversation env (st.1.authorization, st.2) log (out.2.1.authorization, out.2.2) ∧
    Reported log out.1 ∧ ∃ x ∈ log, x.RefusedFor id

namespace Http

variable {id : String} {r : Request}

/-- The scheme in front of an ID does not make it legal. -/
theorem Headers.value?_bearer_eq_none_iff :
    Headers.value? ("Bearer " ++ id) = none ↔ Headers.value? id = none := by
  have scheme : (utf8 "Bearer ").all isValueByte = true := by decide
  rw [Headers.value?, Headers.value?, utf8_append, List.all_append, scheme, Bool.true_and]
  cases (utf8 id).all isValueByte with
  | true => simp
  | false => simp

/-- A request is authorized with every ID that is legal, and refused for one that is not. -/
theorem Request.authorized_eq_error_iff {e : HttpError} :
    r.authorized id = .error e ↔
      Headers.value? id = none ∧ e = .invalidRequest (.badHeaderValue ("Bearer " ++ id)) := by
  rw [← Headers.value?_bearer_eq_none_iff, Request.authorized, Part.authorization, Part.apply,
    Request.setHeader]
  cases Headers.value? ("Bearer " ++ id) with
  | none => simp [eq_comm]
  | some bytes => simp

end Http

/-- Only an ID that is not legal is refused. -/
theorem Sending.RefusedFor.illegal {x : Sending} {id : String} (h : x.RefusedFor id) :
    Headers.value? id = none ∧
      x.request = .error (.invalidRequest (.badHeaderValue ("Bearer " ++ id))) := by
  obtain ⟨r, -, request⟩ := h.drafted
  have failed := h.failed
  rw [request] at failed ⊢
  cases result : r.authorized id with
  | ok q =>
      rw [result] at failed
      cases failed
  | error e =>
      obtain ⟨illegal, rfl⟩ := Request.authorized_eq_error_iff.mp result
      exact ⟨illegal, rfl⟩

/-- A request that was not made is what an operation reports. -/
theorem Reported.of_mem {α : Type} {log : List Sending}
    {result : Except SessionError α} {x : Sending}
    {e : HttpError} (h : Reported log result) (mem : x ∈ log) (failed : x.request = .error e) :
    result = .error (.http e) := by
  have unsent : ¬x.request.isOk = true := by
    rw [failed]
    simp [Except.isOk, Except.toBool]
  cases h with
  | complete sent => exact absurd (sent x mem) unsent
  | failed sent request =>
      rcases List.mem_append.mp mem with earlier | last
      · exact absurd (sent x earlier) unsent
      · obtain rfl := List.mem_singleton.mp last
        rw [failed, Except.error.injEq] at request
        rw [request]

namespace Session

variable {env env' : Surroundings} {op op' : Operation} {st st' : Session × Traffic}
    {id id' : String}

/-- An operation that comes to a refused request ends with it. -/
theorem result_of_refusesBearer (h : op.RefusesBearer env st id) :
    Headers.value? id = none ∧ (op.perform env st).1 = .error (bearerRefusal id) := by
  obtain ⟨log, -, reported, x, mem, refused⟩ := h
  obtain ⟨illegal, request⟩ := refused.illegal
  exact ⟨illegal, reported.of_mem mem request⟩

theorem message_bearerRefusal (id : String) :
    (bearerRefusal id).message = "invalid request: invalid header value: Bearer " ++ id := by
  have words : "invalid request: invalid header value: Bearer " =
      "invalid request: " ++ ("invalid header value: " ++ "Bearer ") := by rfl
  rw [words, String.append_assoc, String.append_assoc]
  rfl

/-- The message tells the ID. -/
theorem message_bearerRefusal_eq_iff :
    (bearerRefusal id).message = (bearerRefusal id').message ↔ id = id' := by
  rw [message_bearerRefusal, message_bearerRefusal]
  exact String.append_right_inj _

theorem requestDebug?_bearerRefusal (id : String) :
    (bearerRefusal id).requestDebug? = some ("Http(InvalidRequest(" ++
      Text.quoted ("invalid header value: " ++ ("Bearer " ++ id)) ++ "))") := rfl

/-- The debugging text tells the ID, too. -/
theorem requestDebug?_bearerRefusal_eq_iff :
    (bearerRefusal id).requestDebug? = (bearerRefusal id').requestDebug? ↔ id = id' := by
  rw [requestDebug?_bearerRefusal, requestDebug?_bearerRefusal, Option.some.injEq]
  simp only [String.append_left_inj, String.append_right_inj, Text.quoted_eq_iff]

/-- A fetch for which a token with an illegal ID is acquired ends there. -/
theorem fetch_of_refused {kind : EntityKind} {s : Session} {t t' : Traffic} {r : Request}
    {token : Token} {a' : Authorization} (drafted : draft (kind.request s.connection) = .ok r)
    (acquired : Authorization.accessToken env (s.authorization, t) = (.ok token, a', t'))
    (illegal : Headers.value? token.id = none) :
    fetch env kind kind.collection (s, t) =
      (.error (bearerRefusal token.id), { s with authorization := a' }, t') := by
  have refused := (Request.authorized_eq_error_iff (r := r)).mpr ⟨illegal, rfl⟩
  have built : Builder.build (fetchBuilders env (s.connection.url kind.collection))
      (s.authorization, t) =
        (.error (.invalidRequest (.badHeaderValue ("Bearer " ++ token.id))), a', t') := by
    rw [fetchBuilders, Authorization.bearer,
      build_bearer ⟨s.connection.url kind.collection, by simp⟩]
    rw [EntityKind.request] at drafted
    rw [drafted]
    simp only [Action.bind_apply, acquired, Action.pure_apply, refused]
  rw [fetch_apply, built]
  rfl

/-- A look-up that has no accounts at hand comes to a refused request if the ID of its token is not
legal. -/
theorem lookupAccount_refusesBearer {s : Session} {t : Traffic} (name : String) (token : Token)
    (unpopulated : s.vimAccounts = .unpopulated)
    (host : (Request.hostField? (s.connection.url .vimAccounts)).isSome = true)
    (acquired : (Authorization.accessToken env (s.authorization, t)).1 = .ok token)
    (illegal : Headers.value? token.id = none) :
    (Operation.lookupAccount name).RefusesBearer env (s, t) token.id := by
  obtain ⟨field, hfield⟩ := Option.isSome_iff_exists.mp host
  have drafted : draft (EntityKind.vimAccount.request s.connection) = .ok _ :=
    EntityKind.draft_request_eq_ok_iff.mpr ⟨field, hfield, rfl⟩
  obtain ⟨result, a', t', run, hacq⟩ := Authorization.accessToken_acquired env s.authorization t
  rw [run] at acquired
  dsimp only at acquired
  subst acquired
  have refused := (Request.authorized_eq_error_iff
    (r := EntityKind.vimAccount.form s.connection field)).mpr ⟨illegal, rfl⟩
  have ended : (Operation.lookupAccount name).perform env (s, t) =
      (.error (bearerRefusal token.id), { s with authorization := a' }, t') := by
    have fetched := fetch_of_refused drafted run illegal
    rw [EntityKind.collection] at fetched
    rw [Operation.perform, Action.map_apply, lookupAccount_eq, Action.bind_apply, accountIds,
      cached]
    simp only [unpopulated, LookupCache.getOrPopulate_unpopulated, Action.bind_of_error fetched]
    rfl
  have prepared := Authorization.Prepared.drafted drafted hacq
  rw [Except.bind, refused] at prepared
  have lawful := prepared.lawful (.collection .vimAccounts)
  unfold Operation.RefusesBearer
  rw [ended]
  refine ⟨[_], .sending lawful .done, .failed (List.forall_mem_nil _) rfl, _,
    List.mem_singleton_self _, ⟨token, hacq.token?_eq, rfl⟩, ⟨_, drafted, refused.symm⟩, rfl⟩

/-- Whenever the authorization field of a request cannot be built, on any server, in any operation
and after whatever was done before, the ID of the token is not legal, and the operation reports this
ID. Two such failures read the same, as messages or in their debugging texts, exactly if the IDs are
the same. -/
theorem refused_bearer_told (h : op.RefusesBearer env st id) (h' : op'.RefusesBearer env' st' id') :
    ∃ e e', (op.perform env st).1 = .error e ∧ (op'.perform env' st').1 = .error e' ∧
      Headers.value? id = none ∧
      e.message = "invalid request: invalid header value: Bearer " ++ id ∧
      e.requestDebug? = some ("Http(InvalidRequest(" ++
        Text.quoted ("invalid header value: " ++ ("Bearer " ++ id)) ++ "))") ∧
      (e.message = e'.message ↔ id = id') ∧ (e.requestDebug? = e'.requestDebug? ↔ id = id') := by
  obtain ⟨illegal, failed⟩ := result_of_refusesBearer h
  obtain ⟨-, failed'⟩ := result_of_refusesBearer h'
  exact ⟨_, _, failed, failed', illegal, message_bearerRefusal id, requestDebug?_bearerRefusal id,
    message_bearerRefusal_eq_iff, requestDebug?_bearerRefusal_eq_iff⟩

/-- A server that issues tokens with one ID. -/
def tokenServer (id : String) : Surroundings where
  answer _ _ := .ok {
    status := .ok
    body := { bytes := utf8 (Json.object [("expires", .int 9), ("id", .text id)]).render } }
  clock _ := .zero

theorem refusesBearer_bad :
    (Operation.lookupAccount "vim").RefusesBearer (tokenServer "bad\ntoken") sampleStart
      "bad\ntoken" :=
  lookupAccount_refusesBearer "vim" ⟨"bad\ntoken", Binary64.ofInt 9⟩ rfl (by decide +kernel)
    (eq_ok_of_toOption (by decide +kernel)) (by decide)

theorem refusesBearer_other :
    (Operation.lookupAccount "vim").RefusesBearer (tokenServer "other\ntoken") sampleStart
      "other\ntoken" :=
  lookupAccount_refusesBearer "vim" ⟨"other\ntoken", Binary64.ofInt 9⟩ rfl
    (by decide +kernel) (eq_ok_of_toOption (by decide +kernel)) (by decide)

/-- Two look-ups of one name that fail for their tokens tell these apart. -/
theorem refused_bearer_told_sample :
    (Operation.lookupAccount "vim").RefusesBearer (tokenServer "bad\ntoken") sampleStart
        "bad\ntoken" ∧
    (Operation.lookupAccount "vim").RefusesBearer (tokenServer "other\ntoken") sampleStart
        "other\ntoken" ∧
    ∃ e e',
      ((Operation.lookupAccount "vim").perform (tokenServer "bad\ntoken") sampleStart).1 =
        .error e ∧
      ((Operation.lookupAccount "vim").perform (tokenServer "other\ntoken") sampleStart).1 =
        .error e' ∧
      e.message ≠ e'.message ∧ e.requestDebug? ≠ e'.requestDebug? := by
  obtain ⟨e, e', failed, failed', -, -, -, message, debug⟩ :=
    refused_bearer_told refusesBearer_bad refusesBearer_other
  have different : "bad\ntoken" ≠ "other\ntoken" := by decide
  exact ⟨refusesBearer_bad, refusesBearer_other, e, e', failed, failed',
    fun same => different (message.mp same), fun same => different (debug.mp same)⟩

/-- Whether an operation whose request is refused for its token fails in the same words with two
servers. -/
def RefusesAlike (env env' : Surroundings) (op : Operation) (st : Session × Traffic) : Prop :=
  ∀ id id' e e', op.RefusesBearer env st id → op.RefusesBearer env' st id' →
    (op.perform env st).1 = .error e → (op.perform env' st).1 = .error e' →
      e.message = e'.message ∧ e.requestDebug? = e'.requestDebug?

theorem not_refusesAlike_sample :
    ¬RefusesAlike (tokenServer "bad\ntoken") (tokenServer "other\ntoken") (.lookupAccount "vim")
      sampleStart := by
  intro alike
  obtain ⟨-, failed⟩ := result_of_refusesBearer refusesBearer_bad
  obtain ⟨-, failed'⟩ := result_of_refusesBearer refusesBearer_other
  obtain ⟨same, -⟩ := alike _ _ _ _ refusesBearer_bad refusesBearer_other failed failed'
  exact absurd (message_bearerRefusal_eq_iff.mp same) (by decide)

end Session

end Northbound
