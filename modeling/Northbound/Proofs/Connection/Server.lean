import Northbound.Action
import Northbound.Proofs.Connection.Endpoints
import Northbound.Proofs.Url.Rendering

/-!
# Endpoints stay on their server

An ID becomes a part of the path of an endpoint, whatever characters it has. Main statement: on
every server that was checked, the URL of an endpoint has the scheme, the host and the port of that
server and nothing else but its path, and its text is read as this URL again.
-/

namespace Northbound

open Url

namespace Endpoint

/-- A segment may stand in a path between other parts of it. -/
theorem isPathChar_of_mem_segment {front back : String} (hfront : ∀ c ∈ front.toList, IsPathChar c)
    (hback : ∀ c ∈ back.toList, IsPathChar c) (id : String) :
    ∀ c ∈ (front ++ pathSegment id ++ back).toList, IsPathChar c := by
  intro c hc
  rw [String.toList_append, String.toList_append, pathSegment, String.toList_ofList,
    List.mem_append, List.mem_append] at hc
  rcases hc with (hc | hc) | hc
  · exact hfront c hc
  · exact Url.isPathChar_of_mem_segment hc
  · exact hback c hc

theorem isPathChar_of_all {text : String}
    (h : (text.toList.all fun c => c.toNat < 128 && !pathSet c) = true) :
    ∀ c ∈ text.toList, IsPathChar c := by
  intro c hc
  have both := List.all_eq_true.mp h c hc
  rw [Bool.and_eq_true, decide_eq_true_eq, Bool.not_eq_true'] at both
  exact both

/-- The path of an endpoint is made of characters that may stand in one. -/
theorem isPathChar_of_mem_path (e : Endpoint) : ∀ c ∈ e.path.toList, IsPathChar c := by
  have empty : ∀ c ∈ "".toList, IsPathChar c := List.forall_mem_nil _
  cases e with
  | nsInstanceAction id =>
    have front : ∀ c ∈ "/osm/nslcm/v1/ns_instances/".toList, IsPathChar c :=
      isPathChar_of_all (by decide +kernel)
    have back : ∀ c ∈ "/action".toList, IsPathChar c := isPathChar_of_all (by decide +kernel)
    exact isPathChar_of_mem_segment front back id
  | vnfPackageContent id =>
    have front : ∀ c ∈ "/osm/vnfpkgm/v1/vnf_packages_content/".toList, IsPathChar c :=
      isPathChar_of_all (by decide +kernel)
    have shape := isPathChar_of_mem_segment front empty id
    rwa [String.append_empty] at shape
  | nsPackageContent id =>
    have front : ∀ c ∈ "/osm/nsd/v1/ns_descriptors_content/".toList, IsPathChar c :=
      isPathChar_of_all (by decide +kernel)
    have shape := isPathChar_of_mem_segment front empty id
    rwa [String.append_empty] at shape
  | _ => exact isPathChar_of_all (by decide +kernel)

end Endpoint

namespace Connection

/-- The scheme of a connection. -/
def schemeOf (secure : Bool) : String := if secure then "https" else "http"

theorem schemeOf_web (secure : Bool) : schemeOf secure = "http" ∨ schemeOf secure = "https" := by
  cases secure
  · exact Or.inl rfl
  · exact Or.inr rfl

/-- An address that has the scheme, the host and the port of a server, and nothing else but a path.
-/
structure IsOn (secure : Bool) (host : Url.Host) (port : Nat) (u : Url) : Prop where
  scheme : u.scheme = if secure then "https" else "http"
  username : u.username = ""
  password? : u.password? = none
  host? : u.host? = some host
  port : u.effectivePort? = some port
  query? : u.query? = none
  fragment? : u.fragment? = none

variable {text : String} {a : Address} {host : Url.Host}

/-- The URL of an endpoint is a web address of the server with the path of the endpoint. -/
theorem url_eq_webUrl (secure : Bool) (http : a.httpBase = Address.baseUrl "http" host a.port)
    (https : a.httpsBase = Address.baseUrl "https" host a.port) (e : Endpoint) :
    url ⟨a, secure⟩ e = webUrl (schemeOf secure) host (some a.port) (e.path.toList.drop 1) := by
  cases secure with
  | false =>
    have base : (Connection.mk a false).baseUrl = a.httpBase := rfl
    rw [url, base, http]
    rfl
  | true =>
    have base : (Connection.mk a true).baseUrl = a.httpsBase := rfl
    rw [url, base, https]
    rfl

theorem isOn_webUrl (secure : Bool) (host : Url.Host) (port : Nat) (path : List Char) :
    IsOn secure host port (webUrl (schemeOf secure) host (some port) path) := by
  refine ⟨rfl, rfl, rfl, rfl, ?_, rfl, rfl⟩
  have effective : (webUrl (schemeOf secure) host (some port) path).effectivePort? =
      ((if defaultPort? (schemeOf secure) = some port then none else some port) <|>
        defaultPort? (schemeOf secure)) := rfl
  rw [effective]
  split
  next usual => exact usual
  next => rfl

/-- On every server that was checked, the URL of every endpoint with any ID has the scheme, the host
and the port of the server: the host that is read where an address has nothing but the host and an
empty path. The text of the URL is read as this URL, and two endpoints differ in the path alone. -/
theorem endpoints_on_server (checked : Address.parse text = .ok a) :
    ∃ host,
      (∀ scheme, scheme = "http" ∨ scheme = "https" →
        (Url.parse?
          (scheme ++ "://" ++ String.ofList (Address.bracketed a.host.toList) ++ "/")).bind
          Url.host? = some host) ∧
      ∀ (secure : Bool) (e : Endpoint),
        IsOn secure host a.port (url ⟨a, secure⟩ e) ∧
        Url.parse? (url ⟨a, secure⟩ e).render = some (url ⟨a, secure⟩ e) ∧
        ∀ e' : Endpoint,
          url ⟨a, secure⟩ e' = { url ⟨a, secure⟩ e with path := (url ⟨a, secure⟩ e').path } := by
  obtain ⟨core, port, -, -, wellFormed, number⟩ := Address.exists_parts_of_parse checked
  obtain ⟨host, read, http, https⟩ := Address.exists_host_of_parse checked
  obtain ⟨inner, written⟩ := Url.Host.exists_isText wellFormed.hostChars read
  refine ⟨host, ?_, ?_⟩
  · intro scheme web
    -- The host alone is the same authority without a port, and with an empty path.
    have shape :
        (scheme ++ "://" ++ String.ofList (Address.bracketed a.host.toList) ++ "/").toList =
        scheme.toList ++ ':' :: hierarchy a.host.toList none [] := by
      simp [hierarchy, portChars]
    rw [parse?_hierarchy web wellFormed.hostChars wellFormed.ne_nil (by simp)
      (List.forall_mem_nil _) shape, read]
    rfl
  · intro secure e
    have urls := url_eq_webUrl secure http https
    have bounded : ∀ n ∈ some a.port, n ≤ Address.maxPort := by
      simpa using number.le_maxPort
    have plain : ∀ c ∈ e.path.toList.drop 1, IsPathChar c := fun c hc =>
      e.isPathChar_of_mem_path c (List.mem_of_mem_drop hc)
    refine ⟨?_, ?_, ?_⟩
    · rw [urls e]
      exact isOn_webUrl secure host a.port _
    · rw [urls e]
      exact parse?_render_webUrl (schemeOf_web secure) written bounded plain
    · intro e'
      rw [urls e, urls e']
      rfl

/-- An address of numbers, one of them in hexadecimal digits, with the usual port of encrypted
connections. -/
def numbersAddress : Address where
  host := "0x7F.1"
  port := 443
  httpBase := Address.baseUrl "http" (.ipv4 [127, 0, 0, 1]) 443
  httpsBase := Address.baseUrl "https" (.ipv4 [127, 0, 0, 1]) 443

/-- An ID that holds user information, a port, a query and a fragment leads to the same server. -/
theorem endpoints_on_server_numbers :
    Address.parse "0x7F.1:443" = .ok numbersAddress ∧
      (Url.parse? "http://0x7F.1/").bind Url.host? = some (.ipv4 [127, 0, 0, 1]) ∧
      IsOn true (.ipv4 [127, 0, 0, 1]) 443
        (url ⟨numbersAddress, true⟩ (.nsPackageContent "..\\//me@osm:80?#\n")) ∧
      Url.parse? "https://127.0.0.1/osm/nsd/v1/%2F%2Fme@osm:80%3F%23%0A" =
        some (url ⟨numbersAddress, true⟩ (.nsPackageContent "..\\//me@osm:80?#\n")) := by
  have parsed : Address.parse "0x7F.1:443" = .ok numbersAddress :=
    eq_ok_of_toOption (by decide +kernel)
  obtain ⟨host, alone, endpoints⟩ := endpoints_on_server parsed
  obtain ⟨isOn, read, -⟩ := endpoints true (.nsPackageContent "..\\//me@osm:80?#\n")
  have root :
      "http" ++ "://" ++ String.ofList (Address.bracketed numbersAddress.host.toList) ++ "/" =
      "http://0x7F.1/" := by decide +kernel
  have text : (url ⟨numbersAddress, true⟩ (.nsPackageContent "..\\//me@osm:80?#\n")).render =
      "https://127.0.0.1/osm/nsd/v1/%2F%2Fme@osm:80%3F%23%0A" := by decide +kernel
  have named : (url ⟨numbersAddress, true⟩ (.nsPackageContent "..\\//me@osm:80?#\n")).host? =
      some (.ipv4 [127, 0, 0, 1]) := rfl
  have hosts := alone "http" (Or.inl rfl)
  rw [isOn.host?, Option.some.injEq] at named
  rw [root, named] at hosts
  rw [text] at read
  rw [named] at isOn
  exact ⟨parsed, hosts, isOn, read⟩

end Connection

end Northbound
