import Northbound.NsInstance

/-!
# What the requests of a deployment say

A desired state is brought about by a request that creates an instance, or by one that upgrades the
deployment unit of an instance. Main statements: which members the bodies of these requests have,
for every desired state and whatever descriptor and account are used. There are no others, and none
twice.
-/

namespace Northbound

namespace Json

/-- Parameters as they are listed for the one deployment unit of the one network function. -/
def listed (vnfName kduName : String) (params : Json) : Json :=
  .list [.object [("member-vnf-index", .text vnfName),
    ("additionalParamsForKdu", .list [.object [("kdu_name", .text kduName),
      ("additionalParams", params)]])]]

/-- An object whose members are those that a relation describes, one for each of their names. -/
def Spells (body : Json) (member : String → Json → Prop) : Prop :=
  ∃ members, body = .object members ∧ (members.map Prod.fst).Nodup ∧
    ∀ name v, (name, v) ∈ members ↔ member name v

end Json

namespace NsInstanceContent

/-- What the request to create an instance says of a desired state, a descriptor and an account. -/
inductive CreationMember (content : NsInstanceContent) (nsdId accountId : String) :
    String → Json → Prop
  | descriptor : CreationMember content nsdId accountId "nsdId" (.text nsdId)
  | name : CreationMember content nsdId accountId "nsName" (.text content.name)
  | description :
      CreationMember content nsdId accountId "nsDescription" (.text content.description)
  | account : CreationMember content nsdId accountId "vimAccountId" (.text accountId)
  | parameters {v} (given : content.kduParams = some v) :
      CreationMember content nsdId accountId "additionalParamsForVnf"
        (v.listed content.vnfName content.kduName)

/-- What the request to upgrade a deployment unit says of a desired state. -/
inductive UpgradeMember (content : NsInstanceContent) : String → Json → Prop
  | function : UpgradeMember content "member_vnf_index" (.text content.vnfName)
  | unit : UpgradeMember content "kdu_name" (.text content.kduName)
  | action : UpgradeMember content "primitive" (.text "upgrade")
  | parameters {v} (given : content.kduParams = some v) :
      UpgradeMember content "primitive_params" v

theorem mem_optional {params : Option Json} {key : String} {f : Json → Json}
    {member : String × Json} :
    member ∈ (params.map fun v => [(key, f v)]).getD [] ↔
      ∃ v, params = some v ∧ member = (key, f v) := by
  cases params <;> simp

/-- The body of the request to create an instance. -/
theorem createRequest_spells (content : NsInstanceContent) (nsdId accountId : String) :
    (content.createRequest nsdId accountId).Spells (content.CreationMember nsdId accountId) := by
  refine ⟨_, rfl, ?_, fun name v => ⟨fun mem => ?_, fun member => ?_⟩⟩
  · cases content.kduParams <;> simp
  · rcases List.mem_append.mp mem with mem | mem
    · simp only [List.mem_cons, List.not_mem_nil, or_false, Prod.mk.injEq] at mem
      rcases mem with ⟨rfl, rfl⟩ | ⟨rfl, rfl⟩ | ⟨rfl, rfl⟩ | ⟨rfl, rfl⟩
      · exact .descriptor
      · exact .name
      · exact .description
      · exact .account
    · obtain ⟨params, given, same⟩ := mem_optional.mp mem
      cases same
      exact .parameters given
  · cases member with
    | parameters given => simp [given, Json.listed]
    | _ => simp

/-- The body of the request to upgrade a deployment unit. -/
theorem upgradeRequest_spells (content : NsInstanceContent) :
    content.upgradeRequest.Spells content.UpgradeMember := by
  refine ⟨_, rfl, ?_, fun name v => ⟨fun mem => ?_, fun member => ?_⟩⟩
  · cases content.kduParams <;> simp
  · rcases List.mem_append.mp mem with mem | mem
    · simp only [List.mem_cons, List.not_mem_nil, or_false, Prod.mk.injEq] at mem
      rcases mem with ⟨rfl, rfl⟩ | ⟨rfl, rfl⟩ | ⟨rfl, rfl⟩
      · exact .function
      · exact .unit
      · exact .action
    · obtain ⟨params, given, same⟩ := mem_optional.mp mem
      cases same
      exact .parameters given
  · cases member with
    | parameters given => simp [given]
    | _ => simp

end NsInstanceContent

end Northbound
