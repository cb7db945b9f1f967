import Northbound.Json.Record

/-!
# User credentials

What a user logs in with. The JSON text of the credentials is the body of a token request; the
debugging text does not show the password.
-/

namespace Northbound

/-- A user of a project. -/
structure Credentials where
  username : String
  password : String
  project : String
deriving DecidableEq, Repr

namespace Credentials

/-- The credentials as a request body. -/
def toJson (c : Credentials) : Json :=
  .object [("username", .text c.username), ("password", .text c.password),
    ("project", .text c.project)]

/-- The fields of the credentials in a document. -/
def shape : Json.RecordShape :=
  { title := "struct UserCredentials"
    fields := [⟨"username", .text, true⟩, ⟨"password", .text, true⟩, ⟨"project", .text, true⟩] }

/-- The credentials in a document. -/
def parse (document : Bytes) : Except Json.Error Credentials := do
  let r ← Json.parseRecord shape document
  return { username := r.text "username", password := r.text "password",
           project := r.text "project" }

/-- The debugging text of credentials, without the password. -/
def debug (c : Credentials) : String :=
  "UserCredentials \x7b username: " ++ Text.quoted c.username ++
    ", password: \"<redacted>\", project: " ++ Text.quoted c.project ++ " \x7d"

end Credentials

end Northbound
