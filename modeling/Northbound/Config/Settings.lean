import Northbound.Duration
import Northbound.Yaml.Node

/-!
# Settings

The settings of a connection as a YAML document holds them: a mapping, in which fields that are not
known do not count and known ones may stand only once. Every scalar is a text; only what is written
plain, or as a block with the tag for it, can be a truth value.
-/

namespace Northbound

/-- The settings of a connection. -/
structure Settings where
  hostname : String
  user : String
  password : String
  project : String
  secure : Bool
  requestTimeout : Duration
deriving DecidableEq, Repr

namespace Settings

/-- The project of a user who names none. -/
def defaultProject : String := "admin"

/-- How long a request may take unless said otherwise. -/
def defaultTimeout : Duration := { seconds := 600, nanoseconds := 0 }

/-- The names of the fields. -/
def fieldNames : List String :=
  ["hostname", "user", "password", "project", "secure", "requestTimeout"]

/-- The fields of settings that a document holds, by name. Every key has to be a scalar. -/
def fields? (d : Yaml.Document) :
    List (Yaml.Node × Yaml.Node) → Option (List (String × Yaml.Node))
  | [] => some []
  | (k, v) :: rest => do
    let (key, _) ← d.scalar? k
    let more ← fields? d rest
    if !fieldNames.contains key.text then return more
    else if (more.lookup key.text).isSome then none
    else return (key.text, v) :: more

/-- A text. -/
def text? (d : Yaml.Document) (n : Yaml.Node) : Option String :=
  (d.scalar? n).map fun s => s.1.text

/-- The tag of truth values. -/
def truthTag : Bytes := utf8 "tag:yaml.org,2002:bool"

/-- A truth value. -/
def truth? (d : Yaml.Document) (n : Yaml.Node) : Option Bool := do
  let (s, tag?) ← d.scalar? n
  if s.style = .plain ∨ (s.style = .literal ∧ tag? = some truthTag) then
    if ["true", "True", "TRUE"].contains s.text then some true
    else if ["false", "False", "FALSE"].contains s.text then some false
    else none
  else none

/-- A span of time. -/
def duration? (d : Yaml.Document) (n : Yaml.Node) : Option Duration :=
  (text? d n).bind Duration.parse?

/-- The value of a field, or the one that a missing field has. -/
def fieldOr {α : Type} (fields : List (String × Yaml.Node)) (name : String) (missing : Option α)
    (read : Yaml.Node → Option α) : Option α :=
  match fields.lookup name with
  | some n => read n
  | none => missing

/-- The settings in a document. -/
def ofDocument? (d : Yaml.Document) : Option Settings := do
  match d.root with
  | .mapping entries =>
    let fields ← fields? d entries
    let hostname ← fieldOr fields "hostname" none (text? d)
    let user ← fieldOr fields "user" none (text? d)
    let password ← fieldOr fields "password" (some "") (text? d)
    let project ← fieldOr fields "project" (some defaultProject) (text? d)
    let secure ← fieldOr fields "secure" (some false) (truth? d)
    let requestTimeout ← fieldOr fields "requestTimeout" (some defaultTimeout) (duration? d)
    return { hostname, user, password, project, secure, requestTimeout }
  | _ => none

/-- The settings that a YAML text holds. -/
def ofText? (text : String) : Option Settings :=
  (Yaml.Document.ofText? text).bind ofDocument?

end Settings

end Northbound
