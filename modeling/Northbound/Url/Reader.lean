import Northbound.Url.Basic

/-!
# Reading addresses

An absolute address is read from text as browsers do: blanks around it and line ends inside it are
dropped, web addresses may use backslashes for slashes and any number of them before the host, and
characters that may not stand in a part are percent-encoded.
-/

namespace Northbound.Url

/-- The text without control characters and spaces around it, and without tabs and line ends. -/
def cleaned (cs : List Char) : List Char :=
  let trimmed := (cs.dropWhile fun c => c.toNat ≤ 32)
  let trimmed := (trimmed.reverse.dropWhile fun c => c.toNat ≤ 32).reverse
  trimmed.filter fun c => c ≠ '\t' ∧ c ≠ '\n' ∧ c ≠ '\r'

/-- Cuts at the first character that satisfies `p`; that character is dropped. -/
def cutAt (p : Char → Bool) (cs : List Char) : List Char × Option (List Char) :=
  let front := cs.takeWhile fun c => !p c
  match cs.drop front.length with
  | [] => (front, none)
  | _ :: rest => (front, some rest)

/-- The scheme in lower case, and what follows its colon. -/
def readScheme (cs : List Char) : Option (String × List Char) :=
  match cutAt (· == ':') cs with
  | (scheme, some rest) =>
    match scheme with
    | [] => none
    | first :: _ =>
      if first.isAlpha && scheme.all fun c => c.isAlphanum || "+-.".toList.contains c then
        some (String.ofList (scheme.map Char.toLower), rest)
      else none
  | (_, none) => none

/-- The user information in front of a host, and what follows it. It ends at the last `@` before the
path. -/
def splitUserInfo (isEnd : Char → Bool) (cs : List Char) : Option (List Char) × List Char :=
  let authority := cs.takeWhile fun c => !isEnd c
  let back := authority.reverse.takeWhile (· ≠ '@')
  if back.length = authority.length then (none, cs)
  else
    let info := authority.take (authority.length - back.length - 1)
    (some info, cs.drop (info.length + 1))

/-- The host that a text starts with, and what follows it. It ends at a colon outside brackets or
where the path starts. -/
def splitHost (isEnd : Char → Bool) : Bool → List Char → List Char × List Char
  | _, [] => ([], [])
  | inside, c :: rest =>
    if isEnd c || (c == ':' && !inside) then ([], c :: rest)
    else
      let (host, rest) := splitHost isEnd (c == '[' || (inside && c ≠ ']')) rest
      (c :: host, rest)

/-- The port that follows a host, unless it is the scheme's default, and the path behind it. -/
def readPort (scheme : String) (cs : List Char) : Option (Option Nat × List Char) :=
  match cs with
  | ':' :: rest =>
    let (digits, path) := rest.span fun c => !isSlash true c
    if digits.isEmpty then some (none, path)
    else do
      let n ← Text.readDigits 10 0 digits
      if 65535 < n then none
      else some (if defaultPort? scheme = some n then none else some n, path)
  | path => some (none, path)

/-- The host of an address with the given scheme. -/
def readHost (scheme : String) (cs : List Char) : Option Host :=
  if isSpecial scheme then Host.parse? cs else Host.parseElsewhere? cs

/-- The user name and the password in user information. -/
def readUserInfo (info? : Option (List Char)) : String × Option String :=
  match info? with
  | none => ("", none)
  | some info =>
    let (name, password?) := cutAt (· == ':') info
    let encode (cs : List Char) := String.ofList (percentEncode userInfoSet cs)
    (encode name, (password?.filter fun p => !p.isEmpty).map encode)

/-- The path that follows a host. A web address always has one. -/
def readPath (special : Bool) (cs : List Char) : List String :=
  match cs with
  | [] => if special then [""] else []
  | c :: rest => segmentsOf special (if isSlash special c then rest else c :: rest)

/-- Fills in what follows the slashes of an address with a host; `goesOn` tells whether a query or a
fragment follows. An empty host, which only addresses outside the web may have, must have neither
user information nor a port, and no path behind an `@`. -/
def readHierarchy (scheme : String) (cs : List Char) (goesOn : Bool)
    (query? fragment? : Option String) : Option Url := do
  let special := isSpecial scheme
  let (info?, afterInfo) := splitUserInfo (isSlash special) cs
  let (username, password?) := readUserInfo info?
  let (hostChars, afterHost) := splitHost (isSlash special) false afterInfo
  let unnamed := hostChars.isEmpty
  let named := !username.isEmpty || password?.isSome
  let cutShort := info? = some [] && (goesOn || !afterHost.isEmpty)
  if unnamed && (named || cutShort || afterHost.head? = some ':') then none
  let host ← readHost scheme hostChars
  let (port?, path) ← readPort scheme afterHost
  return { scheme, username, password?, host? := some host, port?,
           path := .segments (readPath special path), query?, fragment? }

/-- The host of a file, if there is one besides the local host. -/
def readFileHost (cs : List Char) : Option (Option Host) :=
  if cs.isEmpty then some none
  else do
    let host ← Host.parse? cs
    return if host = .domain "localhost" then none else some host

/-- The address of a file. A path that starts with a drive leaves no host. -/
def fileUrl (host? : Option Host) (path : List Char) (query? fragment? : Option String) : Url :=
  let (segments, onDrive) := fileSegments path
  let host := if onDrive then .domain "" else host?.getD (.domain "")
  { scheme := fileScheme, host? := some host, path := .segments segments, query?, fragment? }

/-- Fills in what follows the scheme of a file: two slashes, a host or none, and a path, or a path
alone. A drive is no host. -/
def readFile (cs : List Char) (query? fragment? : Option String) : Option Url := do
  match cs.map fun c => if c == '\\' then '/' else c with
  | '/' :: '/' :: rest =>
    let (hostChars, path) := rest.span (· ≠ '/')
    if isDrive hostChars then return fileUrl none rest query? fragment?
    else
      match ← readFileHost hostChars with
      | none => return fileUrl none path query? fragment?
      | some host => return fileUrl (some host) (path.drop 1) query? fragment?
  | '/' :: rest => return fileUrl none rest query? fragment?
  | rest => return fileUrl none rest query? fragment?

/-- Reads an absolute address. -/
def parse? (text : String) : Option Url := do
  let (scheme, rest) ← readScheme (cleaned text.toList)
  let special := isSpecial scheme
  let (beforeFragment, fragmentChars?) := cutAt (· == '#') rest
  let (hierarchy, queryChars?) := cutAt (· == '?') beforeFragment
  let querySet := if special then specialQuerySet else querySet
  let query? := queryChars?.map fun q => String.ofList (percentEncode querySet q)
  let fragment? := fragmentChars?.map fun f => String.ofList (percentEncode fragmentSet f)
  let goesOn := query?.isSome || fragment?.isSome
  if scheme = fileScheme then readFile hierarchy query? fragment?
  else if special then
    readHierarchy scheme (hierarchy.dropWhile (isSlash true)) goesOn query? fragment?
  else
    match hierarchy with
    | '/' :: '/' :: rest => readHierarchy scheme rest goesOn query? fragment?
    | '/' :: rest => return { scheme, path := .segments (segmentsOf false rest), query?, fragment? }
    | other =>
      return { scheme, path := .plain (String.ofList (percentEncode isControl other)), query?,
               fragment? }

end Northbound.Url
