import Northbound.Action
import Northbound.Http.Error

/-!
# Requests and how they are built

A request is built from parts, each of which settles one concern: the method, the target, a header
field, the body. Parts are applied in order, so a later one overrides an earlier one of its concern.
A builder is a part that may also act on a state, as one that acquires a token does.
-/

namespace Northbound.Http

/-- What a request asks for. -/
inductive Method where
  | get
  | post
  | put
deriving DecidableEq, Repr

/-- A method as it stands in a request. -/
def Method.text : Method → String
  | .get => "GET"
  | .post => "POST"
  | .put => "PUT"

/-- The kinds of content sent and accepted. -/
inductive MediaType where
  | json
  | yaml
  | gzip
deriving DecidableEq, Repr

/-- A kind of content as it stands in a header field. -/
def MediaType.text : MediaType → String
  | .json => "application/json"
  | .yaml => "application/yaml"
  | .gzip => "application/gzip"

/-- A request. -/
structure Request where
  method : Method := .get
  url? : Option Url := none
  headers : Headers := []
  body : Bytes := []
deriving DecidableEq, Repr

namespace Request

/-- The request with a header field set. -/
def setHeader (r : Request) (name value : String) : Except HttpError Request :=
  match Headers.value? value with
  | some bytes => .ok { r with headers := r.headers.set name bytes }
  | none => .error (.invalidRequest (.badHeaderValue value))

/-- The request to another target, which has to have a host. -/
def setTarget (r : Request) (url : Url) : Except HttpError Request :=
  match url.authority? with
  | none => .error (.invalidRequest (.noHost url))
  | some authority => do
    let r ← r.setHeader "host" authority
    return { r with url? := some url }

/-- Setting a field succeeds exactly for a value that may stand there. -/
theorem setHeader_eq_ok_iff {r q : Request} {name value : String} :
    r.setHeader name value = .ok q ↔
      ∃ bytes, Headers.value? value = some bytes ∧
        q = { r with headers := r.headers.set name bytes } := by
  simp only [setHeader]
  cases Headers.value? value <;> simp [eq_comm]

/-- What stands in the host field of a request to a target, if it can. -/
def hostField? (url : Url) : Option Bytes := url.authority?.bind Headers.value?

/-- Setting a target succeeds exactly for one whose host can stand in the field for it. -/
theorem setTarget_eq_ok_iff {r q : Request} {url : Url} :
    r.setTarget url = .ok q ↔
      ∃ host, hostField? url = some host ∧
        q = { r with headers := r.headers.set "host" host, url? := some url } := by
  simp only [setTarget, hostField?]
  cases url.authority? with
  | none => simp
  | some authority =>
      simp only [Option.bind_some, setHeader]
      cases Headers.value? authority <;> simp [bind, Except.bind, pure, Except.pure, eq_comm]

/-- The request with another body and the length of it. -/
def setBody (r : Request) (body : Bytes) : Request :=
  { r with headers := r.headers.set "content-length" (utf8 (Text.decimal body.length)), body }

end Request

/-- A concern of a request. -/
inductive Part where
  | method (m : Method)
  | target (url : Url)
  /-- The kinds of content accepted; an empty list says nothing about it. -/
  | accept (types : List MediaType)
  | content (type : MediaType)
  /-- A header field, whose name is in lower case. -/
  | header (name value : String)
  | body (content : Bytes)
  /-- A value as body, unless it has no text. -/
  | document (value : Except Json.Error Json)

namespace Part

/-- A header field that authorizes the request. -/
def authorization (value : String) : Part := .header "authorization" value

/-- Settles the concern of a part. -/
def apply : Part → Request → Except HttpError Request
  | .method m, r => .ok { r with method := m }
  | .target url, r => r.setTarget url
  | .accept [], r => .ok r
  | .accept types, r => r.setHeader "accept" (String.intercalate ", " (types.map MediaType.text))
  | .content type, r => r.setHeader "content-type" type.text
  | .header name value, r => r.setHeader name value
  | .body data, r => .ok (r.setBody data)
  | .document (.ok value), r => .ok (r.setBody (utf8 value.render))
  | .document (.error e), _ => .error (.encode e)

end Part

/-- A part of a request that may act on a state of type `σ`. -/
abbrev Builder (σ : Type) := Request → Action HttpError σ Request

namespace Builder

variable {σ : Type}

/-- The builder that applies a part and does nothing else. -/
def ofPart (p : Part) : Builder σ := fun r => Action.ofExcept (p.apply r)

/-- Authorizes the request with a token that is acquired when the request is built. -/
def bearer (acquire : Action HttpError σ String) : Builder σ := fun r => do
  let id ← acquire
  ofPart (.authorization ("Bearer " ++ id)) r

/-- Applies builders in order, up to the first that fails. -/
def applyAll : List (Builder σ) → Builder σ
  | [], r => return r
  | b :: rest, r => do applyAll rest (← b r)

/-- The request that builders make of an empty one. It has to have a target. -/
def build (builders : List (Builder σ)) : Action HttpError σ Request := do
  let r ← applyAll builders {}
  if r.url?.isNone then throw (.invalidRequest .noTarget)
  return r

end Builder

end Northbound.Http
