import Northbound.Text.Blank
import Northbound.Url.Basic

/-!
# Server addresses

The address of the north-bound interface is given as `host:port`, with brackets around a host that
holds colons. It is checked once; a checked address has a base URL for plain and one for encrypted
connections.
-/

namespace Northbound

/-- Why an address is refused. -/
inductive AddressError where
  | missingPort (address : String)
  | invalidHostname (host : String)
  | invalidPort (port : String)
deriving DecidableEq, Repr

/-- The wording of a refusal. -/
def AddressError.message : AddressError → String
  | .missingPort a => "missing port in address: " ++ a
  | .invalidHostname h => "invalid hostname: " ++ h
  | .invalidPort p => "invalid port: " ++ p

/-- A checked address. -/
structure Address where
  host : String
  port : Nat
  /-- The base URL of plain connections. -/
  httpBase : Url
  /-- The base URL of encrypted connections. -/
  httpsBase : Url
deriving DecidableEq, Repr

namespace Address

/-- An address cut into host and port: at the closing bracket if it opens with one, else at its last
colon, in front of which no other may stand. -/
def split (address : List Char) : Except AddressError (List Char × List Char) :=
  match address with
  | '[' :: rest =>
    let host := rest.takeWhile (· ≠ ']')
    match rest.drop host.length with
    | [] => .error (.invalidHostname (String.ofList address))
    | _ :: ':' :: port => .ok (host, port)
    | _ => .error (.missingPort (String.ofList address))
  | _ =>
    let port := (address.reverse.takeWhile (· ≠ ':')).reverse
    if port.length = address.length then .error (.missingPort (String.ofList address))
    else
      let host := address.take (address.length - port.length - 1)
      if host.contains ':' then .error (.invalidHostname (String.ofList address))
      else .ok (host, port)

/-- The characters of host names. -/
def isNameChar (c : Char) : Bool :=
  ('a' ≤ c && c ≤ 'z') || ('A' ≤ c && c ≤ 'Z') || ('0' ≤ c && c ≤ '9') || c == '_' || c == '-'

/-- Whether characters are a label of a host name. -/
def isNameLabel (cs : List Char) : Bool := !cs.isEmpty && cs.length ≤ 63 && cs.all isNameChar

/-- Whether characters are labels with dots between them. -/
def isHostname (cs : List Char) : Bool := (Url.splitAtChar '.' cs).all isNameLabel

/-- The longest host, in bytes. -/
def maxHost : Nat := 253

/-- Whether characters are an internet address or a host name of allowed length. -/
def isWellFormedHost (cs : List Char) : Bool :=
  !cs.isEmpty && (utf8 (String.ofList cs)).length ≤ maxHost &&
    (Url.isIpAddress cs || isHostname cs)

/-- The largest port. -/
def maxPort : Nat := 65535

/-- A port number, with white space around it dropped. -/
def readPort (cs : List Char) : Except AddressError Nat :=
  match Text.readUnsigned 10 maxPort (Text.trimChars cs) with
  | some n => .ok n
  | none => .error (.invalidPort (String.ofList cs))

/-- A host as it stands in front of a port: in brackets if it holds a colon. -/
def bracketed (host : List Char) : List Char :=
  if host.contains ':' then '[' :: host ++ [']'] else host

/-- The root of a server. -/
def baseUrl (scheme : String) (host : Url.Host) (port : Nat) : Url :=
  { scheme
    host? := some host
    port? := if Url.defaultPort? scheme = some port then none else some port
    path := .segments [""] }

/-- Checks an address. White space around it does not count. -/
def parse (text : String) : Except AddressError Address := do
  let (host, port) ← split (Text.trimChars text.toList)
  if !isWellFormedHost host then throw (.invalidHostname (String.ofList host))
  let port ← readPort port
  match Url.Host.parse? (bracketed host) with
  | none => throw (.invalidHostname (String.ofList host))
  | some h =>
    return { host := String.ofList host, port
             httpBase := baseUrl "http" h port, httpsBase := baseUrl "https" h port }

/-- An address as text. -/
def render (a : Address) : String :=
  String.ofList (bracketed a.host.toList ++ ':' :: Nat.toDigits 10 a.port)

/-- The debugging text of an address. -/
def debug (a : Address) : String :=
  "HostAndPort \x7b host: " ++ Text.quoted a.host ++ ", port: " ++ Text.decimal a.port ++
    ", http_base: " ++ a.httpBase.debug ++ ", https_base: " ++ a.httpsBase.debug ++ " \x7d"

end Address

end Northbound
