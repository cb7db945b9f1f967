import Northbound.Text.Quoted
import Northbound.Url.Host
import Northbound.Url.Path

/-!
# Addresses of resources

An address has a scheme, mostly a host with an optional port, and a path. A path is a list of
segments, in which dots have been resolved; an address without a host may have an unstructured path
instead.
-/

namespace Northbound

/-- The path of an address. -/
inductive UrlPath where
  /-- A text without structure. -/
  | plain (text : String)
  | segments (parts : List String)
deriving DecidableEq, Repr

/-- The address of a resource. -/
structure Url where
  scheme : String
  username : String := ""
  password? : Option String := none
  host? : Option Url.Host := none
  /-- The port, unless it is the scheme's default. -/
  port? : Option Nat := none
  path : UrlPath
  query? : Option String := none
  fragment? : Option String := none
deriving DecidableEq, Repr

namespace Url

/-- The port that a scheme uses unless another is given. -/
def defaultPort? (scheme : String) : Option Nat :=
  if scheme = "http" ∨ scheme = "ws" then some 80
  else if scheme = "https" ∨ scheme = "wss" then some 443
  else if scheme = "ftp" then some 21
  else none

/-- The scheme of files. -/
def fileScheme : String := "file"

/-- Whether the rules for web addresses hold for a scheme. -/
def isSpecial (scheme : String) : Bool := (defaultPort? scheme).isSome || scheme == fileScheme

/-- A path as it stands in an address. -/
def UrlPath.render : UrlPath → String
  | .plain text => text
  | .segments parts => String.join (parts.map ("/" ++ ·))

/-- The path of an address as text. -/
def pathText (u : Url) : String := UrlPath.render u.path

/-- The host of an address as text. An empty host counts as none. -/
def hostText? (u : Url) : Option String := (u.host?.map Host.render).filter fun h => !h.isEmpty

/-- The port in use. -/
def effectivePort? (u : Url) : Option Nat := u.port? <|> defaultPort? u.scheme

/-- The user information in front of a host. -/
def userInfo (u : Url) : String :=
  match u.password? with
  | some p => u.username ++ ":" ++ p ++ "@"
  | none => if u.username.isEmpty then "" else u.username ++ "@"

/-- What stands between the scheme and the path of an address. Without a host, a path that starts
with two slashes has a dot in front of it, so as not to be taken for a host. -/
def renderHost (u : Url) : String :=
  match u.host? with
  | some h => "//" ++ u.userInfo ++ h.render ++
    (match u.port? with
      | some p => ":" ++ Text.decimal p
      | none => "")
  | none => if u.pathText.startsWith "//" then "/." else ""

/-- An address as text. -/
def render (u : Url) : String :=
  u.scheme ++ ":" ++ u.renderHost ++ u.pathText ++
    (match u.query? with
      | some q => "?" ++ q
      | none => "") ++
    (match u.fragment? with
      | some f => "#" ++ f
      | none => "")

/-- The host with the port, if one shows. -/
def authority? (u : Url) : Option String :=
  u.hostText?.map fun h =>
    match u.port? with
    | some p => h ++ ":" ++ Text.decimal p
    | none => h

/-- The address with another path, which starts with a slash. -/
def setPath (u : Url) (path : String) : Url :=
  { u with path := .segments (segmentsOf (isSpecial u.scheme) (path.toList.drop 1)) }

/-- The debugging text of an address of eight groups. One that stands for an address of four numbers
ends in those. -/
def ipv6Debug : List Nat → List Char
  | [0, 0, 0, 0, 0, 0xffff, a, b] =>
    "::ffff:".toList ++ ipv4Chars [a / 256, a % 256, b / 256, b % 256]
  | groups => ipv6Chars groups

/-- The debugging text of a host. -/
def Host.debug : Host → String
  | .domain name => "Domain(" ++ Text.quoted name ++ ")"
  | .ipv4 octets => "Ipv4(" ++ String.ofList (ipv4Chars octets) ++ ")"
  | .ipv6 groups => "Ipv6(" ++ String.ofList (ipv6Debug groups) ++ ")"

/-- The debugging text of an address. -/
def debug (u : Url) : String :=
  "Url \x7b scheme: " ++ Text.quoted u.scheme ++
    ", cannot_be_a_base: " ++ (match u.path with | .plain _ => "true" | .segments _ => "false") ++
    ", username: " ++ Text.quoted u.username ++
    ", password: " ++ Text.optional Text.quoted u.password? ++
    ", host: " ++ Text.optional Host.debug u.host? ++
    ", port: " ++ Text.optional Text.decimal u.port? ++
    ", path: " ++ Text.quoted u.pathText ++
    ", query: " ++ Text.optional Text.quoted u.query? ++
    ", fragment: " ++ Text.optional Text.quoted u.fragment? ++ " \x7d"

end Url

end Northbound
