import Northbound.Json.Reader

/-!
# Bearer tokens

A token is an opaque ID with the time, in Unix seconds, at which it stops being valid. It is read
from a JSON object: a missing ID is empty and a missing time is zero, and a token with an empty ID
has always expired. Its debugging text does not show the ID.
-/

namespace Northbound

/-- A bearer token. -/
structure Token where
  id : String
  expiresAt : Binary64
deriving DecidableEq, Repr

namespace Token

/-- The error of finding a value of the wrong kind in a token. -/
def wrongKind (v : Json) (expected : String) : Json.Error :=
  { fault := .wrongKind v.found expected }

/-- The text in the `id` member of a token. -/
def readId (v : Json) : Except Json.Error String :=
  match v with
  | .text s => .ok s
  | other => .error (wrongKind other "a string")

/-- The number in the `expires` member of a token. -/
def readExpiry (v : Json) : Except Json.Error Binary64 :=
  match v with
  | .int n => .ok (Binary64.ofInt n)
  | .float x => .ok x
  | other => .error (wrongKind other "f64")

/-- The token that a value describes. The `expires` member is looked at first. -/
def ofJson (v : Json) : Except Json.Error Token :=
  match v with
  | .object _ => do
    let expiresAt ← ((v.member? "expires").map readExpiry).getD (.ok .zero)
    let id ← ((v.member? "id").map readId).getD (.ok "")
    return { id, expiresAt }
  | other => .error { fault := .notAnObject other }

/-- The token that a JSON document describes. -/
def ofPayload (payload : Bytes) : Except Json.Error Token := do
  ofJson (← Json.parse payload)

/-- Whether the token is no longer valid at a time. -/
def hasExpiredAt (t : Token) (now : Binary64) : Bool := t.id.isEmpty || t.expiresAt.le now

/-- Numbers in debugging texts have an exponent below `10 ^ -4` and from `10 ^ 16` on. -/
def numberLayout : Decimal.Layout := ⟨-4, 16, false⟩

/-- The debugging text of a token, without its ID. -/
def debug (t : Token) : String :=
  "Token \x7b id: \"<redacted>\", expires_at: " ++ numberLayout.render t.expiresAt ++ " \x7d"

/-- A token without an ID has expired at every time. -/
theorem hasExpiredAt_of_id_empty (x now : Binary64) : hasExpiredAt ⟨"", x⟩ now = true := rfl

end Token

end Northbound
