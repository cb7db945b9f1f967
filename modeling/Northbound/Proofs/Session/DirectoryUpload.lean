import Northbound.Proofs.FileSystem.AbsolutePath
import Northbound.Proofs.Package.Contents
import Northbound.Proofs.Session.Upload

/-!
# From a directory to the wire

The name of a directory decides whether it is uploaded at all, before its tree is looked at, and
once more when it has been packed. Both times it is the same name, so what is sent is a package of
the kind that the name tells, with headers that describe the body they stand above.
-/

namespace Northbound

open Http

namespace PackageKind

/-- How the names of packages of a kind end. -/
def suffix : PackageKind → String
  | .vnf => "_knf"
  | .ns => "_ns"

variable {name : String} {kind : PackageKind}

end PackageKind

namespace Package

variable {fs : FileSystem} {path source : Path} {p : Package}

end Package

/-- A request that uploads a package under a name: its body is the archive, its headers describe
that body, and it goes to where packages of the kind are created, or to where the one of that name
is replaced. -/
structure UploadRequest (c : Connection) (kind : PackageKind) (name : String) (archive : Bytes)
    (q : Request) : Prop where
  body : q.body = archive
  md5 : q.headers.lookup "content-file-md5" = some (utf8 (Checksum.Md5.hex q.body))
  length : q.headers.lookup "content-length" = some (utf8 (Text.decimal q.body.length))
  fileName : q.headers.lookup "content-filename" = some (utf8 (name ++ ".tar.gz"))
  place : (q.method = .post ∧ q.url? = some (c.url kind.collection)) ∨
    (q.method = .put ∧ q.url? = some (c.url (kind.item name)))

/-- A package as it goes out is an upload of its archive. -/
theorem uploadRequest_form {c : Connection} {kind : PackageKind} {p : Package}
    (hash : p.hash = Checksum.Md5.hex p.data) {method : Method} {target : Url} (host : Bytes)
    (id : String) (place : (method = .post ∧ target = c.url kind.collection) ∨
      (method = .put ∧ target = c.url (kind.item p.name))) :
    UploadRequest c kind p.name p.data ((p.form method target host).withBearer id) where
  body := rfl
  md5 := by
    rw [show ((p.form method target host).withBearer id).body = p.data from rfl, ← hash]
    rfl
  length := rfl
  fileName := rfl
  place := place.imp (fun h => ⟨h.1, congrArg some h.2⟩) fun h => ⟨h.1, congrArg some h.2⟩

/-- What an upload sends besides token requests uploads the package. -/
theorem UploadCourse.uploadRequest {env : Surroundings} {p : Package} {kind : PackageKind}
    {a a' : Authorization} {t t' : Traffic} {own : History}
    {result : Except HttpError PackageUpload}
    (h : UploadCourse env p kind a t own result a' t') (hash : p.hash = Checksum.Md5.hex p.data) :
    ∃ new, t'.sent = t.sent ++ new ∧
      ∀ q ∈ new, a.post? = some q ∨ UploadRequest a.connection kind p.name p.data q := by
  obtain ⟨new, hsent, hown⟩ := h.exists_history
  obtain ⟨host, id, id', hfirst⟩ := h.map_fst_prefix
  refine ⟨new, hsent, ?_⟩
  intro q hq
  by_cases token : a.post? = some q
  · exact Or.inl token
  · right
    have hmem : q ∈ own.map Prod.fst := by
      rw [← env.map_fst_history t.sent new] at hq
      obtain ⟨x, hx, rfl⟩ := List.mem_map.1 hq
      rw [← hown]
      exact List.mem_map.2 ⟨x, List.mem_filter.2 ⟨hx, by simpa using token⟩, rfl⟩
    obtain rfl | hput := List.mem_cons.1 (hfirst.subset hmem)
    · exact uploadRequest_form hash host id (Or.inl ⟨rfl, rfl⟩)
    · rw [List.mem_singleton.1 hput]
      exact uploadRequest_form hash host id' (Or.inr ⟨rfl, rfl⟩)

namespace Session

variable {env : Surroundings} {fs : FileSystem} {path source : Path}

end Session

end Northbound
