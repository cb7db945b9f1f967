import Northbound.Http.Exchange

/-!
# What becomes of replies

An exchange ends with what its transport answers to the request that was built. `accepted` and
`received` say what the two kinds of handlers make of an answer: a status that is expected, and a
document behind it.
-/

namespace Northbound.Http

variable {σ τ α β : Type}

/-- The failure of an exchange whose request did not get across. -/
def failureOf (e : TransportError) : HttpError :=
  .transport (e.response?.map Response.reply) e.reason

/-- How handlers end an exchange, given what the transport answered. -/
def conclude (handlers : List (Handler τ)) (m : τ) :
    Except TransportError Response → Except HttpError (Reply × τ)
  | .error e => .error (failureOf e)
  | .ok response =>
    match Handler.runAll handlers (response, m) with
    | (.ok (), r, m) => .ok (r.reply, m)
    | (.error e, _) => .error e

/-- The reply behind an answer, which has to have an expected status. -/
def accepted (expected : StatusExpectation) :
    Except TransportError Response → Except HttpError Reply
  | .error e => .error (failureOf e)
  | .ok response =>
    if expected.accepts response.status then .ok response.reply
    else .error (.unexpectedStatus response.status)

/-- The document behind an answer, which has to have an expected status and a whole body. -/
def received (expected : StatusExpectation) (decode : Bytes → Except Json.Error α) :
    Except TransportError Response → Except HttpError α
  | .error e => .error (failureOf e)
  | .ok response =>
    if expected.accepts response.status then
      match response.body.failure? with
      | some reason => .error (.readBody reason)
      | none => (decode response.body.bytes).mapError .decode
    else .error (.unexpectedStatus response.status)

/-- An exchange sends the request that was built, and only that, and its handlers see the answer. -/
theorem perform_apply (x : Exchange σ τ) (transport : Transport σ) (m : τ) (s : σ) :
    x.perform transport m s =
      match Builder.build x.builders s with
      | (.error e, s') => (.error e, s')
      | (.ok request, s') =>
        (conclude x.handlers m (transport request s').1, (transport request s').2) := by
  simp only [Exchange.perform, Exchange.run]
  rcases Builder.build x.builders s with ⟨e | request, s'⟩
  · rfl
  · dsimp only
    rcases transport request s' with ⟨e | response, s''⟩
    · rfl
    · simp only [Exchange.receive, conclude]
      rcases Handler.runAll x.handlers (response, m) with ⟨e | u, r, m'⟩ <;> rfl

theorem expect_apply (expected : StatusExpectation) (r : Response) (m : τ) :
    Handler.expect expected (r, m) =
      if expected.accepts r.status then (.ok (), r, m)
      else (.error (.unexpectedStatus r.status), r, m) := by
  simp only [Handler.expect, Action.bind_apply, Action.get_apply]
  cases expected.accepts r.status <;> rfl

/-- A document is stored only if the status is expected and the whole body decodes. -/
theorem readJson_apply (expected : StatusExpectation) (decode : Bytes → Except Json.Error α)
    (store : α → τ → τ) (r : Response) (m : τ) :
    Handler.readJson expected decode store (r, m) =
      match received expected decode (.ok r) with
      | .ok a => (.ok (), r.readBody.2, store a m)
      | .error e =>
        (.error e, if expected.accepts r.status then r.readBody.2 else r, m) := by
  simp only [Handler.readJson, Action.bind_apply, expect_apply, received]
  cases expected.accepts r.status with
  | false => rfl
  | true =>
      simp only [if_true, Handler.reading, Response.readBody, ByteSource.readAll]
      cases r.body.failure? with
      | some reason => rfl
      | none =>
          simp only
          cases decode r.body.bytes <;> rfl

/-- Expecting a status and nothing else. -/
theorem conclude_expect (expected : StatusExpectation) (m : τ)
    (answer : Except TransportError Response) :
    conclude [Handler.expect expected] m answer =
      (accepted expected answer).map fun reply => (reply, m) := by
  rcases answer with e | r
  · rfl
  · simp only [conclude, Handler.runAll, Action.bind_apply, expect_apply, accepted]
    cases expected.accepts r.status <;> rfl

/-- Expecting success and a document leaves the document alone, if only success is expected of it.
-/
theorem conclude_document {expected : StatusExpectation} (decode : Bytes → Except Json.Error α)
    (m : α) (answer : Except TransportError Response)
    (success : ∀ c, expected.accepts c = true → c.isSuccess = true) :
    (conclude [Handler.expect .success, Handler.readJson expected decode fun a _ => a] m answer).map
      Prod.snd = received expected decode answer := by
  rcases answer with e | r
  · rfl
  · simp only [conclude, Handler.runAll, Action.bind_apply, expect_apply]
    by_cases hs : StatusExpectation.success.accepts r.status = true
    · rw [if_pos hs]
      simp only [readJson_apply]
      cases received expected decode (.ok r) <;> rfl
    · rw [if_neg hs]
      have he : ¬ expected.accepts r.status = true := fun he => hs (success _ he)
      simp [received, he, Except.map]

end Northbound.Http
