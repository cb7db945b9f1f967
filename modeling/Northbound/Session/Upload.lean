import Northbound.Package.Pack
import Northbound.Session.Basic

/-!
# Uploading packages

A package is created in the collection of its kind. If it exists there already, the one with its ID
is replaced.
-/

namespace Northbound

open Http

/-- What became of a package. -/
inductive PackageUpload where
  | created
  | updated
deriving DecidableEq, Repr

namespace PackageKind

/-- Where packages of a kind are created. -/
def collection : PackageKind → Endpoint
  | .vnf => .vnfPackagesContent
  | .ns => .nsPackagesContent

/-- Where the package with an ID is replaced. -/
def item (id : String) : PackageKind → Endpoint
  | .vnf => .vnfPackageContent id
  | .ns => .nsPackageContent id

end PackageKind

namespace Package

/-- The parts of a request with a package as body. -/
def uploadRequest (p : Package) (method : Method) (target : Url) : List Part :=
  [.method method, .target target, .accept [.json], .content .gzip,
    .header "content-filename" p.archiveFileName, .header "content-file-md5" p.hash, .body p.data]

end Package

namespace Session

/-- The answers to a request that creates a package: it was created, or exists already. -/
def creationStatus : StatusExpectation := .ofNats [201, 409]

/-- Uploads a package of a kind. -/
def uploadAs (env : Surroundings) (kind : PackageKind) (p : Package) :
    SessionAction PackageUpload := do
  let collection ← url kind.collection
  let item ← url (kind.item p.id)
  let (reply, ()) ← authorized (Authorization.send env (p.uploadRequest .post collection)
    [.expect creationStatus] ())
  if reply.status = .conflict then
    let _ ← authorized (Authorization.send env (p.uploadRequest .put item) [.expect .success] ())
    return .updated
  else return .created

/-- Uploads a package. -/
def upload (env : Surroundings) (p : Package) : SessionAction PackageUpload :=
  match p.kind? with
  | none => throw (.unsupportedPackageType p.source)
  | some kind => uploadAs env kind p

/-- Packs the directory at a path and uploads the package. The name of the directory is looked at
before anything is packed. -/
def uploadDirectory (env : Surroundings) (fs : FileSystem) (path : Path) :
    SessionAction PackageUpload :=
  match Package.absoluteSource fs path with
  | .error e => throw (.archive e)
  | .ok source =>
    match (Package.nameOf? source).bind PackageKind.ofName? with
    | none => throw (.unsupportedPackageType source)
    | some _ =>
      match Package.pack fs source with
      | .error e => throw (.archive e)
      | .ok p => upload env p

end Session

end Northbound
