import Northbound.Connection
import Northbound.Proofs.Address.Rendering
import Northbound.Proofs.Url.Segment

/-!
# Endpoints with an ID

The path of an endpoint with an ID has the segments of a collection, then what the ID has become.
The main statement says for which IDs that is a single segment which stands for the ID, and that
endpoints with such IDs have URLs of their own.
-/

namespace Northbound

open Url

/-- What has endpoints with an ID. -/
inductive Entity where
  | nsInstance
  | vnfPackage
  | nsPackage
deriving DecidableEq, Repr

namespace Entity

/-- The endpoint of the entity with an ID. -/
def endpoint (id : String) : Entity → Endpoint
  | .nsInstance => .nsInstanceAction id
  | .vnfPackage => .vnfPackageContent id
  | .nsPackage => .nsPackageContent id

/-- The path of the collection that the entity is in, without the slash in front of it. -/
def collection : Entity → String
  | .nsInstance => "osm/nslcm/v1/ns_instances"
  | .vnfPackage => "osm/vnfpkgm/v1/vnf_packages_content"
  | .nsPackage => "osm/nsd/v1/ns_descriptors_content"

/-- The segments of the collection. -/
def front : Entity → List String
  | .nsInstance => ["osm", "nslcm", "v1", "ns_instances"]
  | .vnfPackage => ["osm", "vnfpkgm", "v1", "vnf_packages_content"]
  | .nsPackage => ["osm", "nsd", "v1", "ns_descriptors_content"]

/-- The segments behind an ID. -/
def back : Entity → List String
  | .nsInstance => ["action"]
  | .vnfPackage => []
  | .nsPackage => []

theorem pathPieces_collection (entity : Entity) :
    pathPieces true entity.collection.toList = entity.front.map String.toList := by
  cases entity <;> decide +kernel

/-- The pieces of the path to an entity. Where its ID has a backslash, the path is divided too. -/
theorem pathPieces_endpoint (entity : Entity) (id : String) :
    pathPieces true ((entity.endpoint id).path.toList.drop 1) =
      entity.front.map String.toList ++
        ((splitAtChar '\\' id.toList).map (percentEncode segmentSet) ++
          entity.back.map String.toList) := by
  have shape : (entity.endpoint id).path.toList.drop 1 = entity.collection.toList ++ '/' ::
      (percentEncode segmentSet id.toList ++ entity.back.flatMap fun s => '/' :: s.toList) := by
    have action : (Endpoint.nsInstanceAction id).path =
        "/osm/nslcm/v1/ns_instances/" ++ pathSegment id ++ "/action" := rfl
    have vnf : (Endpoint.vnfPackageContent id).path =
        "/osm/vnfpkgm/v1/vnf_packages_content/" ++ pathSegment id := rfl
    have ns : (Endpoint.nsPackageContent id).path =
        "/osm/nsd/v1/ns_descriptors_content/" ++ pathSegment id := rfl
    cases entity <;> simp [endpoint, action, vnf, ns, pathSegment, collection, back]
  rw [shape, pathPieces_append_slash, pathPieces_collection]
  congr 1
  cases entity with
  | nsInstance =>
    have action : pathPieces true "action".toList = ["action".toList] := by decide
    simp only [back, List.flatMap_cons, List.flatMap_nil, List.append_nil,
      pathPieces_append_slash, pathPieces_segment, action, List.map_cons, List.map_nil]
  | vnfPackage =>
    simp only [back, List.flatMap_nil, List.append_nil, pathPieces_segment, List.map_nil]
  | nsPackage =>
    simp only [back, List.flatMap_nil, List.append_nil, pathPieces_segment, List.map_nil]

theorem encodeSegments_front (entity : Entity) :
    encodeSegments (entity.front.map String.toList) = entity.front := by
  cases entity <;> decide +kernel

theorem encodeSegments_back (entity : Entity) :
    encodeSegments (entity.back.map String.toList) = entity.back := by
  cases entity <;> decide +kernel

/-- The segments of a collection and what is behind an ID are no dots and have no backslash in them.
-/
theorem constant_ordinary (entity : Entity) {s : List Char}
    (h : s ∈ entity.front.map String.toList ∨ s ∈ entity.back.map String.toList) :
    IsOrdinary s ∧ '\\' ∉ s ∧ percentEncode segmentSet s = s := by
  have front : ∀ s ∈ entity.front.map String.toList,
      (isDoubleDot s = false ∧ isSingleDot s = false) ∧ '\\' ∉ s ∧
        percentEncode segmentSet s = s := by
    cases entity <;> decide +kernel
  have back : ∀ s ∈ entity.back.map String.toList,
      (isDoubleDot s = false ∧ isSingleDot s = false) ∧ '\\' ∉ s ∧
        percentEncode segmentSet s = s := by
    cases entity <;> decide +kernel
  rcases h with h | h
  · exact front s h
  · exact back s h

end Entity

/-- An ID that a path keeps as it is. -/
def PlainId (id : String) : Prop := id ≠ "." ∧ id ≠ ".." ∧ '\\' ∉ id.toList

instance (id : String) : Decidable (PlainId id) := inferInstanceAs (Decidable (_ ∧ _))

namespace Connection

variable {c : Connection} {entity : Entity} {id : String}

/-- Whether a connection is one of the web. -/
def IsWeb (c : Connection) : Prop := isSpecial c.baseUrl.scheme = true

theorem isWeb_of_parse {text : String} {address : Address} (h : Address.parse text = .ok address)
    (secure : Bool) : IsWeb ⟨address, secure⟩ := by
  obtain ⟨host, -, plain, encrypted⟩ := Address.exists_host_of_parse h
  cases secure with
  | false =>
    have base : (Connection.mk address false).baseUrl = address.httpBase := rfl
    rw [IsWeb, base, plain]
    rfl
  | true =>
    have base : (Connection.mk address true).baseUrl = address.httpsBase := rfl
    rw [IsWeb, base, encrypted]
    rfl

/-- The path of an endpoint. -/
theorem path_url (web : c.IsWeb) (e : Endpoint) :
    (c.url e).path = .segments (segmentsOf true (e.path.toList.drop 1)) := by
  rw [url, Url.setPath, web]

/-- Whether the path of an entity has the segments of its collection, then a single one that stands
for its ID, then what is behind it. -/
def KeepsId (c : Connection) (entity : Entity) (id : String) : Prop :=
  ∃ segment, (c.url (entity.endpoint id)).path =
      .segments (entity.front ++ segment :: entity.back) ∧
    percentDecode (utf8 segment) = utf8 id

/-- A plain ID is encoded and nothing else happens to it. -/
theorem path_of_plainId (web : c.IsWeb) (entity : Entity) (plain : PlainId id) :
    (c.url (entity.endpoint id)).path =
      .segments (entity.front ++ pathSegment id :: entity.back) := by
  obtain ⟨dot, dotDot, backslash⟩ := plain
  have text {t : String} (ne : id ≠ t) : id.toList ≠ t.toList :=
    fun h => ne (String.toList_inj.mp h)
  have ordinary : ∀ s ∈ entity.front.map String.toList ++
      ([percentEncode segmentSet id.toList] ++ entity.back.map String.toList), IsOrdinary s := by
    intro s hs
    simp only [List.mem_append, List.mem_singleton] at hs
    rcases hs with hs | rfl | hs
    · exact (entity.constant_ordinary (Or.inl hs)).1
    · exact isOrdinary_segment (text dot) (text dotDot)
    · exact (entity.constant_ordinary (Or.inr hs)).1
  have encode (xs ys : List (List Char)) :
      encodeSegments (xs ++ ys) = encodeSegments xs ++ encodeSegments ys := List.map_append
  have single : encodeSegments [percentEncode segmentSet id.toList] = [pathSegment id] := by
    simp [encodeSegments, percentEncode_segment, pathSegment]
  rw [path_url web, segmentsOf, entity.pathPieces_endpoint, splitAtChar_of_not_mem backslash,
    List.map_singleton, resolveDots_of_ordinary ordinary, List.reverse_nil, List.nil_append, encode,
    encode, single, entity.encodeSegments_front, entity.encodeSegments_back, List.singleton_append]

/-- No segment of the path to an entity stands for a text with a backslash. -/
theorem not_mem_of_mem_segmentsOf {segment : String}
    (h : segment ∈ segmentsOf true ((entity.endpoint id).path.toList.drop 1)) :
    ∃ cs, '\\' ∉ cs ∧ percentDecode (utf8 segment) = utf8 (String.ofList cs) := by
  rw [segmentsOf, entity.pathPieces_endpoint] at h
  obtain ⟨s, hs, rfl⟩ := List.mem_map.mp h
  have encoded (cs : List Char) (clean : '\\' ∉ cs) (same : s = percentEncode segmentSet cs) :
      ∃ cs, '\\' ∉ cs ∧ percentDecode (utf8 (String.ofList (percentEncode pathSet s))) =
        utf8 (String.ofList cs) := by
    refine ⟨cs, clean, ?_⟩
    rw [same, percentEncode_segment, percentDecode_segment]
  rcases mem_resolveDots hs with rfl | hs | ⟨hs, -⟩
  · exact encoded [] (by simp) rfl
  · cases hs
  · simp only [List.mem_append] at hs
    rcases hs with hs | hs | hs
    · obtain ⟨-, clean, same⟩ := entity.constant_ordinary (Or.inl hs)
      exact encoded s clean same.symm
    · obtain ⟨cs, hcs, rfl⟩ := List.mem_map.mp hs
      exact encoded cs (not_mem_of_mem_splitAtChar hcs) rfl
    · obtain ⟨-, clean, same⟩ := entity.constant_ordinary (Or.inr hs)
      exact encoded s clean same.symm

theorem percentDecode_pathSegment (id : String) :
    percentDecode (utf8 (pathSegment id)) = utf8 id := by
  rw [pathSegment, percentDecode_segment, String.ofList_toList]

/-- The path of an entity keeps exactly the plain IDs. -/
theorem keepsId_iff (web : c.IsWeb) : c.KeepsId entity id ↔ PlainId id := by
  constructor
  · rintro ⟨segment, path, decoded⟩
    rw [path_url web, UrlPath.segments.injEq] at path
    have found : segment ∈ segmentsOf true ((entity.endpoint id).path.toList.drop 1) := by
      rw [path]
      simp
    -- Dots are gone from the path, so nothing in it stands for them.
    refine ⟨?_, ?_, ?_⟩
    · rintro rfl
      have gone : ∀ s ∈ segmentsOf true ((entity.endpoint ".").path.toList.drop 1),
          percentDecode (utf8 s) ≠ utf8 "." := by
        cases entity <;> decide +kernel
      exact gone segment found decoded
    · rintro rfl
      have gone : ∀ s ∈ segmentsOf true ((entity.endpoint "..").path.toList.drop 1),
          percentDecode (utf8 s) ≠ utf8 ".." := by
        cases entity <;> decide +kernel
      exact gone segment found decoded
    · intro backslash
      obtain ⟨cs, clean, same⟩ := not_mem_of_mem_segmentsOf found
      rw [decoded] at same
      rw [utf8_inj same, String.toList_ofList] at backslash
      exact clean backslash
  · intro plain
    exact ⟨pathSegment id, path_of_plainId web entity plain, percentDecode_pathSegment id⟩

end Connection

namespace Endpoint

/-- Whether the ID of an endpoint is plain, if it has one. -/
def Plain : Endpoint → Prop
  | .nsInstanceAction id => PlainId id
  | .vnfPackageContent id => PlainId id
  | .nsPackageContent id => PlainId id
  | _ => True

/-- The segments of the path of an endpoint, with the ID in one of them. -/
def segments : Endpoint → List String
  | .tokens => ["osm", "admin", "v1", "tokens"]
  | .nsDescriptors => ["osm", "nsd", "v1", "ns_descriptors"]
  | .vimAccounts => ["osm", "admin", "v1", "vim_accounts"]
  | .nsInstancesContent => ["osm", "nslcm", "v1", "ns_instances_content"]
  | .nsInstanceAction id => ["osm", "nslcm", "v1", "ns_instances", pathSegment id, "action"]
  | .vnfPackagesContent => ["osm", "vnfpkgm", "v1", "vnf_packages_content"]
  | .vnfPackageContent id => ["osm", "vnfpkgm", "v1", "vnf_packages_content", pathSegment id]
  | .nsPackagesContent => ["osm", "nsd", "v1", "ns_descriptors_content"]
  | .nsPackageContent id => ["osm", "nsd", "v1", "ns_descriptors_content", pathSegment id]

theorem pathSegment_eq_iff {id id' : String} : pathSegment id = pathSegment id' ↔ id = id' := by
  constructor
  · intro h
    apply utf8_inj
    rw [← Connection.percentDecode_pathSegment, h, Connection.percentDecode_pathSegment]
  · intro h
    rw [h]

theorem segments_inj {e e' : Endpoint} (h : e.segments = e'.segments) : e = e' := by
  cases e <;> cases e' <;> simp_all [segments, pathSegment_eq_iff]

theorem path_url_of_plain {c : Connection} (web : c.IsWeb) {e : Endpoint} (plain : e.Plain) :
    (c.url e).path = .segments e.segments := by
  cases e with
  | nsInstanceAction id => exact c.path_of_plainId web .nsInstance plain
  | vnfPackageContent id => exact c.path_of_plainId web .vnfPackage plain
  | nsPackageContent id => exact c.path_of_plainId web .nsPackage plain
  | _ =>
    rw [Connection.path_url web, UrlPath.segments.injEq]
    decide +kernel

end Endpoint

namespace Connection

/-- On every server that was checked, the path of an entity keeps its ID in a single segment exactly
if the ID is plain, and no two endpoints with plain IDs have the same URL. -/
theorem keeps_plain_ids {text : String} {address : Address}
    (checked : Address.parse text = .ok address) (secure : Bool) :
    (∀ entity id, KeepsId ⟨address, secure⟩ entity id ↔ PlainId id) ∧
      ∀ e e' : Endpoint, e.Plain → e'.Plain →
        url ⟨address, secure⟩ e = url ⟨address, secure⟩ e' → e = e' := by
  have web := isWeb_of_parse checked secure
  refine ⟨fun entity id => keepsId_iff web, ?_⟩
  intro e e' plain plain' same
  apply Endpoint.segments_inj
  have paths := congrArg Url.path same
  rw [Endpoint.path_url_of_plain web plain, Endpoint.path_url_of_plain web plain'] at paths
  exact UrlPath.segments.inj paths

/-- A server on this host. -/
def localAddress : Address where
  host := "localhost"
  port := 8008
  httpBase := Address.baseUrl "http" (.domain "localhost") 8008
  httpsBase := Address.baseUrl "https" (.domain "localhost") 8008

theorem parse_localAddress : Address.parse "localhost:8008" = .ok localAddress := by
  have read : (Address.parse "localhost:8008").toOption = some localAddress := by decide +kernel
  cases parsed : Address.parse "localhost:8008" with
  | error e => simp [parsed, Except.toOption] at read
  | ok address =>
    rw [parsed] at read
    rw [Option.some.inj read]

/-- An ID of percent signs, slashes and dots is kept, and told from one that looks like its
encoding. -/
theorem keeps_plain_ids_localAddress :
    Address.parse "localhost:8008" = .ok localAddress ∧
      KeepsId ⟨localAddress, true⟩ .vnfPackage "../%2e?" ∧
      url ⟨localAddress, true⟩ (.vnfPackageContent "../") ≠
        url ⟨localAddress, true⟩ (.vnfPackageContent "..%2F") := by
  obtain ⟨keeps, apart⟩ := keeps_plain_ids parse_localAddress true
  refine ⟨parse_localAddress, (keeps _ _).mpr (by decide), fun same => ?_⟩
  have plain : PlainId "../" ∧ PlainId "..%2F" := by decide
  have ids := apart (.vnfPackageContent "../") (.vnfPackageContent "..%2F") plain.1 plain.2 same
  exact absurd (Endpoint.vnfPackageContent.inj ids) (by decide)

/-- A backslash in an ID divides the path, and may lead to another endpoint. -/
theorem not_keepsId_backslash :
    Address.parse "localhost:8008" = .ok localAddress ∧
      ¬KeepsId ⟨localAddress, false⟩ .vnfPackage "a\\b" ∧
      url ⟨localAddress, false⟩ (.nsPackageContent "..\\..\\..\\admin\\v1\\tokens") =
        url ⟨localAddress, false⟩ .tokens := by
  refine ⟨parse_localAddress, fun keeps => ?_, by decide +kernel⟩
  exact absurd ((keepsId_iff (isWeb_of_parse parse_localAddress false)).mp keeps) (by decide)

end Connection

end Northbound
