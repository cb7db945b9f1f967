import Mathlib.Data.List.TakeWhile
import Northbound.Proofs.Http.Reply
import Northbound.Proofs.Json.Written

/-!
# Documents in responses

Reading a document from a response either puts it into memory or fails and leaves the memory as it
was. The status is looked at first, then the body is read to its end, and only a whole body is
decoded. What handlers before have read of the body is not read again.
-/

namespace Northbound

namespace Json.Reader

variable {α : Type}

/-- Whether a document is one value that a reader yields, with blanks after it. -/
def Whole (r : Reader α) (document : Bytes) (a : α) : Prop :=
  ∃ c, r ⟨document, 1, 0⟩ = (.ok a, c) ∧ ∀ b ∈ c.rest, isBlankByte b = true

/-- Nothing but blanks is left exactly if nothing is left past the blanks. -/
theorem head?_pastBlanks_eq_none_iff (c : Cursor) :
    c.pastBlanks.rest.head? = none ↔ ∀ b ∈ c.rest, isBlankByte b = true := by
  rw [Cursor.pastBlanks, Cursor.rest_skipWhile, List.head?_eq_none_iff, List.dropWhile_eq_nil_iff]

theorem readAll_eq_ok_iff_whole {r : Reader α} {document : Bytes} {a : α} :
    readAll r document = .ok a ↔ r.Whole document a := by
  simp only [readAll_eq_ok_iff, Whole, head?_pastBlanks_eq_none_iff]

end Json.Reader

namespace Http

/-- Only numbers of three digits are status codes, whatever else is expected. -/
theorem accepts_ofNats_eq_false {ns : List Nat} (none : ∀ n ∈ ns, n < 100 ∨ 999 < n)
    (c : StatusCode) : (StatusExpectation.ofNats ns).accepts c = false := by
  rw [← Bool.not_eq_true, accepts_ofNats]
  intro mem
  have := c.least_le
  have := c.lt_bound
  have := none _ mem
  omega

theorem accepts_success_iff (c : StatusCode) :
    StatusExpectation.success.accepts c = true ↔ 200 ≤ c.value ∧ c.value ≤ 299 := by
  simp only [StatusExpectation.accepts, StatusCode.isSuccess, Bool.and_eq_true, decide_eq_true_eq]
  omega

theorem accepts_documentStatus_iff (c : StatusCode) :
    Handler.documentStatus.accepts c = true ↔ c.value = 200 := by
  have h : Handler.documentStatus.accepts c = true ↔ c.value ∈ [200] := accepts_ofNats [200] c
  rw [h, List.mem_singleton]

/-- What was read of a body is gone from it, and reading on fails as it would have. -/
theorem Response.body_readSome (n : Nat) (r : Response) :
    (r.readSome n).2.body = { r.body with bytes := r.body.bytes.drop n } := by
  simp only [Response.readSome, ByteSource.readSome]
  split
  next h =>
    have none : r.body.bytes.drop n = r.body.bytes := by
      rw [List.isEmpty_iff.mp h.1, List.drop_nil]
    rw [none]
    split <;> rfl
  next => rfl

section Handlers

variable {τ α : Type}

/-- Handlers go on where those before them have left off. -/
theorem runAll_append (before after : List (Handler τ)) (x : Response × τ) :
    Handler.runAll (before ++ after) x =
      match Handler.runAll before x with
      | (.ok (), y) => Handler.runAll after y
      | (.error e, y) => (.error e, y) := by
  induction before generalizing x with
  | nil => rfl
  | cons h before ih =>
      rw [List.cons_append, Handler.runAll, Handler.runAll, Action.bind_apply, Action.bind_apply]
      rcases h x with ⟨e | ⟨⟩, y⟩
      · rfl
      · exact ih y

theorem runAll_singleton (h : Handler τ) (x : Response × τ) : Handler.runAll [h] x = h x := by
  rw [Handler.runAll, Action.bind_apply]
  rcases h x with ⟨e | ⟨⟩, y⟩ <;> rfl

/-- How reading a document ends: what comes of it, and what becomes of the response and the memory.
-/
structure AllOrNothing (expected : StatusExpectation) (decode : Bytes → Except Json.Error α)
    (store : α → τ → τ) (r : Response) (m : τ)
    (out : Except HttpError Unit × Response × τ) : Prop where
  /-- It succeeds if the status is expected and what is left of the body is whole and decodes. -/
  succeeds : out.1 = .ok () ↔ expected.accepts r.status = true ∧ r.body.failure? = none ∧
    ∃ a, decode r.body.bytes = .ok a
  /-- Then the memory has what was decoded. -/
  stored : out.1 = .ok () → ∀ a, decode r.body.bytes = .ok a → out.2.2 = store a m
  /-- Otherwise the memory is as it was. -/
  kept : out.1 ≠ .ok () → out.2.2 = m
  unexpected : ∀ c, out.1 = .error (.unexpectedStatus c) ↔
    expected.accepts r.status = false ∧ c = r.status
  unread : ∀ reason, out.1 = .error (.readBody reason) ↔
    expected.accepts r.status = true ∧ r.body.failure? = some reason
  undecoded : ∀ e, out.1 = .error (.decode e) ↔
    expected.accepts r.status = true ∧ r.body.failure? = none ∧ decode r.body.bytes = .error e
  /-- The body is read to its end, but not touched if the status is not expected. -/
  response : out.2.1 = if expected.accepts r.status then r.readBody.2 else r

theorem allOrNothing_readJson (expected : StatusExpectation) (decode : Bytes → Except Json.Error α)
    (store : α → τ → τ) (r : Response) (m : τ) :
    AllOrNothing expected decode store r m (Handler.readJson expected decode store (r, m)) := by
  rw [readJson_apply, received]
  cases status : expected.accepts r.status with
  | false => constructor <;> simp [status, eq_comm]
  | true =>
      cases body : r.body.failure? with
      | some reason => constructor <;> simp [status, body, eq_comm]
      | none =>
          cases content : decode r.body.bytes with
          | error e => constructor <;> simp [status, body, content, eq_comm]
          | ok a => constructor <;> simp [status, body, content]

/-- After other handlers, a document is read from what these have left. -/
theorem allOrNothing_runAll {before : List (Handler τ)} {x : Response × τ} {r : Response} {m : τ}
    (left : Handler.runAll before x = (.ok (), r, m)) (expected : StatusExpectation)
    (decode : Bytes → Except Json.Error α) (store : α → τ → τ) :
    AllOrNothing expected decode store r m
      (Handler.runAll (before ++ [Handler.readJson expected decode store]) x) := by
  rw [runAll_append, left]
  dsimp only
  rw [runAll_singleton]
  exact allOrNothing_readJson expected decode store r m

end Handlers

end Http

end Northbound
