import Northbound.LookupCache
import Northbound.Session.Authorization
import Northbound.Session.Error

/-!
# Sessions

A session talks to one server as one user. It keeps the token, and for each collection that names
are looked up in, the names and IDs that were in it when it was first fetched.
-/

namespace Northbound

open Http

/-- A session. -/
structure Session where
  authorization : Authorization
  nsDescriptors : LookupCache String := .unpopulated
  vimAccounts : LookupCache String := .unpopulated
  /-- All IDs of a name, since instances may share one. -/
  nsInstances : LookupCache (List String) := .unpopulated

/-- An operation of a session. -/
abbrev SessionAction (α : Type) := Action SessionError (Session × Traffic) α

namespace Session

/-- A new session of a user on a server. -/
def start (connection : Connection) (credentials : Credentials) : Session :=
  { authorization := { connection, credentials } }

/-- The server and how it is reached. -/
def connection (s : Session) : Connection := s.authorization.connection

/-- The debugging text of a session. -/
def debug (s : Session) : String :=
  "Session \x7b connection: " ++ s.connection.debug ++ ", authz: " ++ s.authorization.debug ++
    ", ns_descriptors: " ++ s.nsDescriptors.debug Text.quoted ++
    ", vim_accounts: " ++ s.vimAccounts.debug Text.quoted ++
    ", ns_instances: " ++ s.nsInstances.debug Text.quotedList ++ ", .. \x7d"

/-- An operation that concerns the authorization only. -/
def authorized {α : Type} (a : Action HttpError (Authorization × Traffic) α) : SessionAction α :=
  (a.mapError .http).within (fun (s, t) => (s.authorization, t))
    fun (authorization, t) (s, _) => ({ s with authorization }, t)

/-- A token that has not expired when asked for. -/
def accessToken (env : Surroundings) : SessionAction Token :=
  authorized (Authorization.accessToken env)

/-- The URL of an endpoint. -/
def url (e : Endpoint) : SessionAction Url := do
  let (s, _) ← get
  return s.connection.url e

/-- Fetches a collection. -/
def fetch (env : Surroundings) (kind : EntityKind) (e : Endpoint) :
    SessionAction (List EntityView) := do
  let target ← url e
  let parts : List Part := [.method .get, .target target, .accept [.json]]
  let handlers : List (Handler (List EntityView)) :=
    [.expect .success, .readJson Handler.documentStatus kind.parseViews fun views _ => views]
  let (_, views) ← authorized (Authorization.send env parts handlers [])
  return views

/-- Sends a document, and expects success. -/
def postDocument (env : Surroundings) (e : Endpoint) (document : Json) : SessionAction Unit := do
  let target ← url e
  let parts : List Part :=
    [.method .post, .target target, .accept [.json], .content .yaml, .document (.ok document)]
  let _ ← authorized (Authorization.send env parts [.expect .success] ())

theorem url_apply (e : Endpoint) (s : Session) (t : Traffic) :
    url e (s, t) = (.ok (s.connection.url e), s, t) := rfl

/-- An operation that concerns the authorization leaves the rest of the session alone. -/
theorem authorized_apply {α : Type} (act : Action HttpError (Authorization × Traffic) α)
    (s : Session) (t : Traffic) :
    authorized act (s, t) =
      ((act (s.authorization, t)).1.mapError .http,
        { s with authorization := (act (s.authorization, t)).2.1 },
        (act (s.authorization, t)).2.2) := by
  simp only [authorized, Action.within_apply, Action.mapError_apply]

end Session

end Northbound
