import Northbound.Proofs.Json.Given
import Northbound.Proofs.Json.RoundTrip
import Northbound.Proofs.NsInstance
import Northbound.Proofs.Session.Origins

/-!
# Where parameters go

The parameters of a deployment unit are any value that a document gives. The request that creates an
instance lists them for the one unit of the one function, and the request that upgrades the unit has
them as they are. Main statement: both requests have the parameters that the document gives,
whatever value they are but for null, and none if it gives none; and a deployment posts no other
request. A null is taken for no parameters: there is a sample of that.
-/

namespace Northbound

open Http

/-- The values of the members of a name. -/
def Json.values (name : String) : Json → List Json
  | .object members => (members.filter (·.1 = name)).map Prod.snd
  | _ => []

/-- A request of a deployment: to create an instance of some descriptor on some account, or to
upgrade the unit of some instance. -/
inductive DeploymentRequest (c : Connection) (content : NsInstanceContent) (q : Request) : Prop
  | creates {nsdId accountId host token}
      (form : q = (documentForm c .nsInstancesContent
        (content.createRequest nsdId accountId) host).withBearer token)
  | upgrades {id host token}
      (form : q = (documentForm c (.nsInstanceAction id)
        content.upgradeRequest host).withBearer token)

namespace NsInstanceContent

variable {content : NsInstanceContent} {document : Bytes}

/-- The requests for a desired state have these parameters and no others, for its function and its
unit. -/
structure Forwards (content : NsInstanceContent) (params : List Json) : Prop where
  creation : ∀ nsdId accountId,
    (content.createRequest nsdId accountId).values "additionalParamsForVnf" =
      params.map (Json.listed content.vnfName content.kduName)
  upgrade : content.upgradeRequest.values "primitive_params" = params

/-- The requests have the parameters of the desired state, if it has any. -/
theorem forwards (content : NsInstanceContent) : content.Forwards content.kduParams.toList where
  creation := by
    intro nsdId accountId
    cases h : content.kduParams <;> simp [createRequest, Json.values, Json.listed, h]
  upgrade := by
    cases h : content.kduParams <;> simp [upgradeRequest, Json.values, h]

theorem distinct_shape : shape.Distinct := by
  rw [Json.RecordShape.Distinct]
  decide +kernel

/-- The names of the function and the unit are texts of the document, and the parameters are what it
gives for them but for null. -/
theorem given_of_parse (parsed : parse document = .ok content) :
    (∀ v, shape.Gives document "vnf_name" v ↔ v = .text content.vnfName) ∧
      (∀ v, shape.Gives document "kdu_name" v ↔ v = .text content.kduName) ∧
      ∀ v, content.kduParams = some v ↔ shape.Gives document "kdu_params" v ∧ v ≠ .null := by
  obtain ⟨r, record, same⟩ := except_bind_eq_ok_iff.mp parsed
  cases same
  have vnf : (⟨"vnf_name", .text, true⟩ : Json.Field) ∈ shape.fields := by simp [shape]
  have kdu : (⟨"kdu_name", .text, true⟩ : Json.Field) ∈ shape.fields := by simp [shape]
  have params : (⟨"kdu_params", .anything, false⟩ : Json.Field) ∈ shape.fields := by simp [shape]
  refine ⟨fun v => ?_, fun v => ?_, fun v => ?_⟩
  · exact Json.RecordShape.gives_iff_text distinct_shape record vnf rfl rfl
  · exact Json.RecordShape.gives_iff_text distinct_shape record kdu rfl rfl
  · exact Json.RecordShape.lookup_eq_some_iff_gives distinct_shape record params

end NsInstanceContent

namespace DeployCourse

variable {env : Surroundings} {content : NsInstanceContent} {s s' : Session} {t t' : Traffic}
  {lookups changes : History} {result : Except SessionError Deployment}

/-- A deployment changes nothing but by a request for the desired state. -/
theorem changes_requested (course : DeployCourse env content s t lookups changes result s' t') :
    ∀ change ∈ changes, DeploymentRequest s.connection content change.1 := by
  intro change mem
  cases course with
  | existing instances bound exchange =>
      rcases exchange.posted with ⟨rfl, -⟩ | ⟨host, token, reply, -, -, rfl, -⟩
      · cases mem
      · rw [List.mem_singleton.mp mem]
        exact .upgrades rfl
  | @missing _ _ s₁ _ _ _ _ _ _ instances _ creation =>
      have server : s₁.connection = s.connection := instances.adds.connection
      rw [← server]
      rcases creation.changes_eq with ⟨rfl, -⟩ | ⟨nsdId, accountId, host, token, reply, rfl⟩
      · cases mem
      · rw [List.mem_singleton.mp mem]
        exact .creates rfl
  | _ => cases mem

end DeployCourse

namespace Session

/-- A deployment posts nothing but token requests and requests for the desired state. -/
theorem deploy_posts (env : Surroundings) (content : NsInstanceContent) (s : Session)
    (t : Traffic) :
    ∃ new, (deploy env content (s, t)).2.2.sent = t.sent ++ new ∧
      ∀ q ∈ new, q.method = .post →
        s.authorization.post? = some q ∨ DeploymentRequest s.connection content q := by
  obtain ⟨lookups, changes, result, s', t', run, course, -⟩ := deploy_course env content s t
  obtain ⟨new, sent, own⟩ := course.adds.sent
  refine ⟨new, by rw [run]; exact sent, ?_⟩
  intro q mem post
  rw [or_iff_not_imp_left]
  intro other
  rw [← env.map_fst_history t.sent new] at mem
  obtain ⟨x, hx, rfl⟩ := List.mem_map.mp mem
  have kept : x ∈ lookups ++ changes := by
    rw [← own]
    exact List.mem_filter.mpr ⟨hx, by simpa using other⟩
  rcases List.mem_append.mp kept with fetched | changed
  · rw [course.fetchedInOrder.method_eq_get x fetched] at post
    cases post
  · exact course.changes_requested x changed

/-- The parameters that a document gives are forwarded as they are unless they are null: for
whatever instance, descriptor and account, the request to create it and the request to upgrade it
have just these parameters, for the function and the unit that the document gives. If it gives none,
or null, the requests have none. A deployment posts no other request, token requests aside. -/
theorem parameters_forwarded {document : Bytes} {content : NsInstanceContent}
    (parsed : NsInstanceContent.parse document = .ok content) :
    (∀ v, NsInstanceContent.shape.Gives document "vnf_name" v ↔ v = .text content.vnfName) ∧
      (∀ v, NsInstanceContent.shape.Gives document "kdu_name" v ↔ v = .text content.kduName) ∧
      (∀ v, NsInstanceContent.shape.Gives document "kdu_params" v → v ≠ .null →
        content.Forwards [v]) ∧
      ((∀ v, NsInstanceContent.shape.Gives document "kdu_params" v → v = .null) →
        content.Forwards []) ∧
      ∀ (env : Surroundings) (s : Session) (t : Traffic),
        ∃ new, (deploy env content (s, t)).2.2.sent = t.sent ++ new ∧
          ∀ q ∈ new, q.method = .post →
            s.authorization.post? = some q ∨ DeploymentRequest s.connection content q := by
  obtain ⟨vnf, kdu, params⟩ := NsInstanceContent.given_of_parse parsed
  refine ⟨vnf, kdu, ?_, ?_, ?_⟩
  · intro v given present
    have has : content.kduParams = some v := (params v).mpr ⟨given, present⟩
    have forwards := content.forwards
    rwa [has] at forwards
  · intro nothing
    have lacks : content.kduParams = none := by
      rw [Option.eq_none_iff_forall_not_mem]
      intro v has
      obtain ⟨given, present⟩ := (params v).mp has
      exact present (nothing v given)
    have forwards := content.forwards
    rwa [lacks] at forwards
  · intro env s t
    exact deploy_posts env content s t

/-- The members of a document with some parameters. -/
def sampleMembers (params : Json) : Json.Written :=
  [("name", .text "ns"), ("nsd_name", .text "nsd"), ("vnf_name", .text "vnf"),
    ("vim_account_name", .text "vim"), ("kdu_name", .text "kdu"), ("kdu_params", params)]

/-- A document with some parameters. -/
def sampleState (params : Json) : Bytes := utf8 (Json.object (sampleMembers params)).render

theorem gives_sampleState {params : Json}
    (reads : Json.Reader.Takes (Json.Reader.value (Json.Reader.maxDepth - 1))
      (Json.encoded params.chars) params)
    (name : String) (v : Json) :
    NsInstanceContent.shape.Gives (sampleState params) name v ↔
      (name, v) ∈ sampleMembers params := by
  apply Json.RecordShape.gives_iff_of_parseMembers
  apply Json.parseMembers_render
  intro m mem
  simp only [sampleMembers, List.mem_cons, List.not_mem_nil, or_false] at mem
  rcases mem with rfl | rfl | rfl | rfl | rfl | rfl
  · exact Json.Reader.takes_text _ "ns"
  · exact Json.Reader.takes_text _ "nsd"
  · exact Json.Reader.takes_text _ "vnf"
  · exact Json.Reader.takes_text _ "vim"
  · exact Json.Reader.takes_text _ "kdu"
  · exact reads

/-- The parameters of that document may be an object with a text. -/
def sampleParams : Json := .object [("replicas", .text "two")]

/-- Parameters that are an object go into both requests. -/
theorem parameters_forwarded_sample :
    ∃ content, NsInstanceContent.parse (sampleState sampleParams) = .ok content ∧
      content.vnfName = "vnf" ∧ content.kduName = "kdu" ∧ content.Forwards [sampleParams] := by
  have reads : Json.Reader.Takes (Json.Reader.value (Json.Reader.maxDepth - 1))
      (Json.encoded sampleParams.chars) sampleParams := by
    apply Json.Reader.takes_object
    intro m mem
    rw [List.mem_singleton.mp mem]
    exact Json.Reader.takes_text _ "two"
  have read : (NsInstanceContent.parse (sampleState sampleParams)).toOption.isSome = true := by
    decide +kernel
  obtain ⟨content, found⟩ := Option.isSome_iff_exists.mp read
  have parsed := eq_ok_of_toOption found
  obtain ⟨vnf, kdu, forwarded, -⟩ := parameters_forwarded parsed
  have named := (vnf (.text "vnf")).mp ((gives_sampleState reads _ _).mpr (by simp [sampleMembers]))
  have unit := (kdu (.text "kdu")).mp ((gives_sampleState reads _ _).mpr (by simp [sampleMembers]))
  rw [Json.text.injEq] at named unit
  refine ⟨content, parsed, named.symm, unit.symm, forwarded sampleParams ?_ nofun⟩
  exact (gives_sampleState reads _ _).mpr (by simp [sampleMembers])

/-- Whether the requests have the parameters that a document gives, whatever value they are. -/
def ForwardsAsTheyAre (document : Bytes) : Prop :=
  ∀ content, NsInstanceContent.parse document = .ok content →
    ∀ v, NsInstanceContent.shape.Gives document "kdu_params" v → content.Forwards [v]

/-- Parameters that are null go into no request. -/
theorem not_forwardsAsTheyAre_null : ¬ForwardsAsTheyAre (sampleState .null) := by
  intro forwards
  have read : (NsInstanceContent.parse (sampleState .null)).toOption.any
      (fun content => content.kduParams.isNone) = true := by
    decide +kernel
  obtain ⟨content, found, lacks⟩ := (Option.any_eq_true _ _).mp read
  have given := (gives_sampleState (Json.Reader.takes_null _) "kdu_params" .null).mpr
    (by simp [sampleMembers])
  have upgrade := (forwards content (eq_ok_of_toOption found) .null given).upgrade
  rw [content.forwards.upgrade, Option.isNone_iff_eq_none.mp lacks] at upgrade
  cases upgrade

end Session

end Northbound
