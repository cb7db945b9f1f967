import Northbound.Address

/-!
# Connections and endpoints

Where the north-bound interface lives and whether it is reached over an encrypted connection. The
URLs of all endpoints follow from that: only their paths differ, and an ID becomes a single segment
of the path before dots in it are resolved.
-/

namespace Northbound

/-- A server and how to reach it. -/
structure Connection where
  address : Address
  secure : Bool
deriving DecidableEq, Repr

/-- The endpoints of the interface. -/
inductive Endpoint where
  /-- Where tokens are issued. -/
  | tokens
  | nsDescriptors
  | vimAccounts
  | nsInstancesContent
  /-- Where actions on an instance are requested. -/
  | nsInstanceAction (id : String)
  /-- Where packages of network functions are created. -/
  | vnfPackagesContent
  /-- Where a package of a network function is replaced. -/
  | vnfPackageContent (id : String)
  /-- Where packages of network services are created. -/
  | nsPackagesContent
  /-- Where a package of a network service is replaced. -/
  | nsPackageContent (id : String)
deriving DecidableEq, Repr

/-- A text as a single segment of a path. -/
def pathSegment (text : String) : String :=
  String.ofList (Url.percentEncode Url.segmentSet text.toList)

/-- The path of an endpoint. -/
def Endpoint.path : Endpoint → String
  | .tokens => "/osm/admin/v1/tokens"
  | .nsDescriptors => "/osm/nsd/v1/ns_descriptors"
  | .vimAccounts => "/osm/admin/v1/vim_accounts"
  | .nsInstancesContent => "/osm/nslcm/v1/ns_instances_content"
  | .nsInstanceAction id => "/osm/nslcm/v1/ns_instances/" ++ pathSegment id ++ "/action"
  | .vnfPackagesContent => "/osm/vnfpkgm/v1/vnf_packages_content"
  | .vnfPackageContent id => "/osm/vnfpkgm/v1/vnf_packages_content/" ++ pathSegment id
  | .nsPackagesContent => "/osm/nsd/v1/ns_descriptors_content"
  | .nsPackageContent id => "/osm/nsd/v1/ns_descriptors_content/" ++ pathSegment id

namespace Connection

/-- The root of the server. -/
def baseUrl (c : Connection) : Url := if c.secure then c.address.httpsBase else c.address.httpBase

/-- The URL of an endpoint. -/
def url (c : Connection) (e : Endpoint) : Url := c.baseUrl.setPath e.path

/-- The debugging text of a connection. -/
def debug (c : Connection) : String :=
  "Connection \x7b address: " ++ c.address.debug ++ ", secure: " ++
    (if c.secure then "true" else "false") ++ " \x7d"

end Connection

end Northbound
