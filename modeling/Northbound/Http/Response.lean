import Northbound.Action
import Northbound.Http.Error

/-!
# Responses and how they are handled

A response has a status, header fields and a body that is read bit by bit and closed at the end.
Handlers look at a response one after the other; what one reads of the body, the next does not see.
-/

namespace Northbound.Http

/-- A response. -/
structure Response where
  status : StatusCode
  headers : Headers := []
  /-- What is left of the body. -/
  body : ByteSource := { bytes := [] }
  /-- How many bytes of the body were read. -/
  taken : Nat := 0
  closed : Bool := false
deriving DecidableEq, Repr

namespace Response

/-- Status and header fields. -/
def reply (r : Response) : Reply := { status := r.status, headers := r.headers }

/-- The response with its body closed. -/
def close (r : Response) : Response := { r with closed := true }

/-- Reads all that is left of the body. -/
def readBody (r : Response) : Except String Bytes × Response :=
  let (content, body) := r.body.readAll
  (content, { r with body, taken := r.taken + r.body.bytes.length })

/-- Reads at most `n` bytes of the body. -/
def readSome (n : Nat) (r : Response) : Except String Bytes × Response :=
  let (content, body) := r.body.readSome n
  (content, { r with body, taken := r.taken + (r.body.bytes.length - body.bytes.length) })

/-- The debugging text of a response, without its body. -/
def debug (r : Response) : String :=
  "Response \x7b status: " ++ Text.decimal r.status.value ++ ", headers: " ++ r.headers.debug ++
    ", .. \x7d"

end Response

/-- What looks at a response and may keep what it finds in a memory of type `τ`. -/
abbrev Handler (τ : Type) := Action HttpError (Response × τ) Unit

namespace Handler

variable {τ α : Type}

/-- Fails unless the status is expected. -/
def expect (expected : StatusExpectation) : Action HttpError (Response × τ) Unit := do
  let (r, _) ← get
  if !expected.accepts r.status then throw (.unexpectedStatus r.status)

/-- Reads from the response. -/
def reading (read : Response → Except String Bytes × Response) :
    Action HttpError (Response × τ) Bytes := fun (r, m) =>
  match read r with
  | (.ok content, r) => (.ok content, r, m)
  | (.error reason, r) => (.error (.readBody reason), r, m)

/-- Decodes all that is left of the body and stores the result. Fails without a look at the body if
the status is not expected. -/
def readJson (expected : StatusExpectation) (decode : Bytes → Except Json.Error α)
    (store : α → τ → τ) : Action HttpError (Response × τ) Unit := do
  expect expected
  let content ← reading Response.readBody
  match decode content with
  | .error e => throw (.decode e)
  | .ok a => modify fun (r, m) => (r, store a m)

/-- The status expected of a response with a document, unless said otherwise. -/
def documentStatus : StatusExpectation := .oneOf [.ok]

/-- Runs handlers in order, up to the first that fails. -/
def runAll : List (Handler τ) → Action HttpError (Response × τ) Unit
  | [] => return ()
  | h :: rest => do
    h
    runAll rest

end Handler

end Northbound.Http
