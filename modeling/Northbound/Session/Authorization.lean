import Northbound.Connection
import Northbound.Credentials
import Northbound.Session.Surroundings
import Northbound.Token

/-!
# Authorization

A token is requested with the user's credentials when there is none or the one there is has expired,
and is kept until then. A request that yields no token leaves the old one in place.
-/

namespace Northbound

open Http

/-- Who asks for tokens, where, and the last token received. -/
structure Authorization where
  connection : Connection
  credentials : Credentials
  token? : Option Token := none
deriving DecidableEq, Repr

namespace Authorization

/-- The debugging text of an authorization, without password and token. -/
def debug (a : Authorization) : String :=
  "AuthorizationManager \x7b connection: " ++ a.connection.debug ++
    ", credentials: " ++ a.credentials.debug ++
    ", token: " ++ Text.optional Token.debug a.token? ++ ", .. \x7d"

/-- The parts of a token request. -/
def tokenRequest (a : Authorization) : List Part :=
  [.method .post, .target (a.connection.url .tokens), .content .yaml, .accept [.json],
    .document (.ok a.credentials.toJson)]

/-- The exchange that gets a token as a JSON value. -/
def tokenExchange (a : Authorization) : Exchange Traffic Json :=
  { builders := a.tokenRequest.map Builder.ofPart
    handlers := [.expect .success, .readJson .success Json.parse fun v _ => v] }

/-- Requests a token. -/
def requestToken (a : Authorization) (env : Surroundings) : Action HttpError Traffic Token := do
  let (_, payload) ← a.tokenExchange.perform env.transport .null
  match Token.ofJson payload with
  | .ok token => return token
  | .error e => throw (.decode e)

/-- The token at hand, unless it has expired by now. The clock is read only if it matters. -/
def freshToken? (a : Authorization) (env : Surroundings) (t : Traffic) :
    Option Token × Traffic :=
  match a.token? with
  | none => (none, t)
  | some token =>
    let (now, t) := env.now t
    (if token.hasExpiredAt now then none else some token, t)

/-- A token that has not expired when asked for, requested if need be. -/
def accessToken (env : Surroundings) : Action HttpError (Authorization × Traffic) Token :=
  fun (a, t) =>
    match a.freshToken? env t with
    | (some token, t) => (.ok token, a, t)
    | (none, t) =>
      match a.requestToken env t with
      | (.ok token, t) => (.ok token, { a with token? := some token }, t)
      | (.error e, t) => (.error e, a, t)

/-- The builder that authorizes a request with a token. -/
def bearer (env : Surroundings) : Builder (Authorization × Traffic) :=
  Builder.bearer do return (← accessToken env).id

/-- The transport on a state that also has an authorization. -/
def transport (env : Surroundings) : Transport (Authorization × Traffic) := fun request (a, t) =>
  match env.transport request t with
  | (answer, t) => (answer, a, t)

/-- Runs an exchange whose request is made of parts and authorized last. Yields the reply and what
the handlers remember. -/
def send {τ : Type} (env : Surroundings) (parts : List Part) (handlers : List (Handler τ)) (m : τ) :
    Action HttpError (Authorization × Traffic) (Reply × τ) :=
  let exchange : Exchange (Authorization × Traffic) τ :=
    { builders := parts.map Builder.ofPart, handlers }
  (exchange.withBuilder (bearer env)).perform (transport env) m

end Authorization

end Northbound
