import Northbound.Proofs.Http.Document
import Northbound.Proofs.Session.Fetches
import Northbound.Session.Basic

/-!
# What a fetch yields

A fetch builds its request, sends it and reads the document in the answer. It yields items only if
the status of the answer is 200 and its whole body is a document of the collection, and then just
the items of that document.
-/

namespace Northbound

open Http

namespace EntityKind

variable {kind : EntityKind}

/-- Items come from a whole body with status 200. -/
theorem outcome_eq_ok_iff {reply : Except TransportError Response} {views : List EntityView} :
    kind.outcome reply = .ok views ↔
      ∃ r, reply = .ok r ∧ r.status.value = 200 ∧ r.body.failure? = none ∧
        kind.parseViews r.body.bytes = .ok views := by
  constructor
  · intro h
    cases reply with
    | error e => cases h
    | ok r =>
        rw [outcome, received] at h
        split at h
        next status =>
          split at h
          next => cases h
          next whole =>
            cases content : kind.parseViews r.body.bytes with
            | error e =>
                rw [content] at h
                cases h
            | ok views' =>
                rw [content] at h
                cases h
                exact ⟨r, rfl, (accepts_documentStatus_iff _).mp status, whole, content⟩
        next => cases h
  · rintro ⟨r, rfl, status, whole, content⟩
    rw [outcome, received, if_pos ((accepts_documentStatus_iff _).mpr status), whole]
    dsimp only
    rw [content, mapError_ok]

end EntityKind

namespace Session

variable (env : Surroundings) (kind : EntityKind) (e : Endpoint) (s : Session) (t : Traffic)

/-- What builds the request of a fetch. It is authorized last. -/
def fetchBuilders (target : Url) : List (Builder (Authorization × Traffic)) :=
  ([.method .get, .target target, .accept [.json]] : List Part).map Builder.ofPart ++
    [Authorization.bearer env]

/-- A fetch sends what was built, and yields what the answer to it comes to. -/
theorem fetch_apply :
    fetch env kind e (s, t) =
      match Builder.build (fetchBuilders env (s.connection.url e)) (s.authorization, t) with
      | (.error err, a, t') => (.error (.http err), { s with authorization := a }, t')
      | (.ok q, a, t') =>
        ((kind.outcome (env.answer t'.sent q)).mapError .http, { s with authorization := a },
          t'.record q) := by
  have success : ∀ c, Handler.documentStatus.accepts c = true → c.isSuccess = true := by
    intro c status
    apply (accepts_success_iff c).mpr
    rw [(accepts_documentStatus_iff c).mp status]
    decide
  simp only [fetch, Action.bind_apply, url_apply, authorized_apply, Authorization.send,
    perform_apply, Exchange.withBuilder, fetchBuilders]
  rcases Builder.build _ _ with ⟨err | q, a, t'⟩
  · rfl
  · simp only [Authorization.transport, Surroundings.transport]
    rw [EntityKind.outcome, ← conclude_document kind.parseViews [] _ success]
    cases conclude _ _ (env.answer t'.sent q) <;> rfl

/-- A fetch yields items if its request can be built, the answer has status 200 and the whole body
is a document of the collection, and not otherwise. -/
theorem fetch_eq_ok_iff {views : List EntityView} :
    (fetch env kind e (s, t)).1 = .ok views ↔
      ∃ q a t' r, Builder.build (fetchBuilders env (s.connection.url e)) (s.authorization, t) =
          (.ok q, a, t') ∧ env.answer t'.sent q = .ok r ∧ r.status.value = 200 ∧
        r.body.failure? = none ∧ kind.parseViews r.body.bytes = .ok views := by
  rw [fetch_apply]
  constructor
  · intro h
    rcases built : Builder.build (fetchBuilders env (s.connection.url e)) (s.authorization, t) with
      ⟨err | q, a, t'⟩
    · rw [built] at h
      cases h
    · rw [built] at h
      dsimp only at h
      cases result : kind.outcome (env.answer t'.sent q) with
      | error err =>
          rw [result] at h
          cases h
      | ok views' =>
          rw [result] at h
          cases h
          obtain ⟨r, answered, whole⟩ := EntityKind.outcome_eq_ok_iff.mp result
          exact ⟨q, a, t', r, rfl, answered, whole⟩
  · rintro ⟨q, a, t', r, built, answered, whole⟩
    rw [built]
    dsimp only
    rw [EntityKind.outcome_eq_ok_iff.mpr ⟨r, answered, whole⟩, mapError_ok]

end Session

/-- Reading a document from what handlers before have left of a response stores all that it decodes
to, or fails and changes nothing. What is expected of the status is a success or some status codes,
and what a document has is one value and blanks. So a fetch yields just what the whole body of an
answer with status 200 decodes to. -/
theorem documents_all_or_nothing {α τ : Type} (expected : StatusExpectation)
    (decode : Bytes → Except Json.Error α) (store : α → τ → τ) :
    (∀ before x r m, Handler.runAll before x = (.ok (), r, m) →
      AllOrNothing expected decode store r m
        (Handler.runAll (before ++ [Handler.readJson expected decode store]) x)) ∧
    (∀ n r, (Response.readSome n r).2.body = { r.body with bytes := r.body.bytes.drop n }) ∧
    (∀ c, StatusExpectation.success.accepts c = true ↔ 200 ≤ c.value ∧ c.value ≤ 299) ∧
    (∀ ns c, (StatusExpectation.ofNats ns).accepts c = true ↔ c.value ∈ ns) ∧
    (∀ ns : List Nat, (∀ n ∈ ns, n < 100 ∨ 999 < n) →
      ∀ c, (StatusExpectation.ofNats ns).accepts c = false) ∧
    (∀ (reader : Json.Reader α) document a,
      Json.Reader.readAll reader document = .ok a ↔ reader.Whole document a) ∧
    (∀ env kind e s t views, (Session.fetch env kind e (s, t)).1 = .ok views ↔
      ∃ q a t' r, Builder.build (Session.fetchBuilders env (s.connection.url e))
          (s.authorization, t) = (.ok q, a, t') ∧
        env.answer t'.sent q = .ok r ∧ r.status.value = 200 ∧ r.body.failure? = none ∧
        kind.parseViews r.body.bytes = .ok views) := by
  refine ⟨?_, Response.body_readSome, accepts_success_iff, accepts_ofNats, ?_, ?_, ?_⟩
  · intro before x r m left
    exact allOrNothing_runAll left expected decode store
  · intro ns none c
    exact accepts_ofNats_eq_false none c
  · intro reader document a
    exact Json.Reader.readAll_eq_ok_iff_whole
  · intro env kind e s t views
    exact Session.fetch_eq_ok_iff env kind e s t

/-- A response whose body is a list after two other bytes. -/
def listAfterTwo : Response := { status := .ok, body := { bytes := utf8 "ok[]" } }

/-- Reads two bytes, whatever they are. -/
def readTwo : Action HttpError (Response × List EntityView) Unit := do
  let _ ← Handler.reading (Response.readSome 2)

/-- Once the two bytes are read, the list is read in place of the item at hand. -/
theorem reads_list_after_two :
    Handler.runAll [readTwo] (listAfterTwo, [⟨"i", "n"⟩]) =
      (.ok (), (listAfterTwo.readSome 2).2, [⟨"i", "n"⟩]) ∧
    (Handler.runAll ([readTwo] ++ [Handler.readJson (.ofNats [20, 200])
      EntityKind.vimAccount.parseViews fun views _ => views]) (listAfterTwo, [⟨"i", "n"⟩])).2.2 =
      [] := by
  have left : Handler.runAll [readTwo] (listAfterTwo, [⟨"i", "n"⟩]) =
      (.ok (), (listAfterTwo.readSome 2).2, [⟨"i", "n"⟩]) := rfl
  have parsed : EntityKind.vimAccount.parseViews (listAfterTwo.readSome 2).2.body.bytes = .ok [] :=
    eq_ok_of_toOption (by decide +kernel)
  have read := (documents_all_or_nothing (.ofNats [20, 200]) EntityKind.vimAccount.parseViews
    fun views _ => views).1 _ _ _ _ left
  exact ⟨left, read.stored (read.succeeds.mpr ⟨rfl, rfl, _, parsed⟩) _ parsed⟩

end Northbound
