import Northbound.Json.Record

/-!
# Network service instances

The desired state of a deployment unit inside a network service instance, the parts of collection
items that lookups need, and the request bodies that bring the desired state about.
-/

namespace Northbound

/-- Desired state of a deployment unit running inside a network service instance. -/
structure NsInstanceContent where
  name : String
  description : String := ""
  nsdName : String
  vnfName : String
  vimAccountName : String
  kduName : String
  /-- Parameters of the deployment unit, forwarded as they are. -/
  kduParams : Option Json := none

namespace NsInstanceContent

/-- The fields of a desired state in a document. -/
def shape : Json.RecordShape :=
  { title := "struct NsInstanceContent"
    fields := [⟨"name", .text, true⟩, ⟨"description", .text, false⟩, ⟨"nsd_name", .text, true⟩,
      ⟨"vnf_name", .text, true⟩, ⟨"vim_account_name", .text, true⟩, ⟨"kdu_name", .text, true⟩,
      ⟨"kdu_params", .anything, false⟩] }

/-- The desired state in a document. -/
def parse (document : Bytes) : Except Json.Error NsInstanceContent := do
  let r ← Json.parseRecord shape document
  return { name := r.text "name", description := r.text "description"
           nsdName := r.text "nsd_name", vnfName := r.text "vnf_name"
           vimAccountName := r.text "vim_account_name", kduName := r.text "kdu_name"
           kduParams := r.lookup "kdu_params" }

/-- The desired state as a document. -/
def toJson (c : NsInstanceContent) : Json :=
  .object ([("name", .text c.name), ("description", .text c.description),
    ("nsd_name", .text c.nsdName), ("vnf_name", .text c.vnfName),
    ("vim_account_name", .text c.vimAccountName), ("kdu_name", .text c.kduName)] ++
    (c.kduParams.map fun v => [("kdu_params", v)]).getD [])

/-- The body of a request that creates an instance from a descriptor on an account. Parameters are
listed for the one deployment unit of the one network function. -/
def createRequest (c : NsInstanceContent) (nsdId vimAccountId : String) : Json :=
  .object ([("nsdId", .text nsdId), ("nsName", .text c.name),
    ("nsDescription", .text c.description), ("vimAccountId", .text vimAccountId)] ++
    (c.kduParams.map fun v =>
      [("additionalParamsForVnf", .list [.object [("member-vnf-index", .text c.vnfName),
        ("additionalParamsForKdu", .list [.object [("kdu_name", .text c.kduName),
          ("additionalParams", v)]])]])]).getD [])

/-- The body of a request that upgrades the deployment unit of an instance. -/
def upgradeRequest (c : NsInstanceContent) : Json :=
  .object ([("member_vnf_index", .text c.vnfName), ("kdu_name", .text c.kduName),
    ("primitive", .text "upgrade")] ++
    (c.kduParams.map fun v => [("primitive_params", v)]).getD [])

end NsInstanceContent

/-- The collections that names are looked up in. -/
inductive EntityKind where
  | nsDescriptor
  | vimAccount
  | nsInstance
deriving DecidableEq, Repr

namespace EntityKind

/-- What an entity of the kind is called in messages. -/
def label : EntityKind → String
  | .nsDescriptor => "NS descriptor"
  | .vimAccount => "VIM account"
  | .nsInstance => "NS instance"

/-- The field that holds an item's name. Descriptors keep it in `id`. -/
def nameField : EntityKind → String
  | .nsDescriptor => "id"
  | .vimAccount => "name"
  | .nsInstance => "name"

/-- What a collection item is called in messages. -/
def itemTitle : EntityKind → String
  | .nsDescriptor => "struct NsDescriptorView"
  | .vimAccount => "struct VimAccountView"
  | .nsInstance => "struct NsInstanceView"

/-- The fields of a collection item that matter here; an incomplete item has empty ones. -/
def itemShape (kind : EntityKind) : Json.RecordShape :=
  { title := kind.itemTitle
    fields := [⟨"_id", .text, false⟩, ⟨kind.nameField, .text, false⟩] }

end EntityKind

/-- An item of a collection: the ID the server gave it and the name it goes by. -/
structure EntityView where
  id : String
  name : String
deriving DecidableEq, Repr

/-- The items of a collection in a document. -/
def EntityKind.parseViews (kind : EntityKind) (document : Bytes) :
    Except Json.Error (List EntityView) := do
  let rs ← Json.parseRecords kind.itemShape document
  return rs.map fun r => { id := r.text "_id", name := r.text kind.nameField }

end Northbound
