import Northbound.Proofs.Json.Texts
import Northbound.Proofs.Session.Answers

/-!
# Where IDs come from

The answer to a lookup is read from one item of a fetched collection, the one that decides on the
name. The main statement says of every run that an item in which neither is missing stands behind
each answer, unless the name or the ID is empty, and that no deployment uses an ID which does not
come from such an item. Since what is missing is taken for empty, an incomplete item can decide on a
name; there is a sample of that.
-/

namespace Northbound

open Http

namespace EntityKind

variable {kind : EntityKind} {name : String} {records : List Json.Record} {item : Json.Record}

/-- Whether an item decides on a name: of descriptors and accounts, it is the last one that goes by
it, and of instances, the only one. -/
def Decides (kind : EntityKind) (name : String) (records : List Json.Record) (item : Json.Record) :
    Prop :=
  let bearing := records.filter fun r => Json.Record.text r kind.nameField = name
  if kind = .nsInstance then bearing = [item] else bearing.getLast? = some item

theorem Decides.mem_and_named (decides : kind.Decides name records item) :
    item ∈ records ∧ Json.Record.text item kind.nameField = name := by
  have hmem : item ∈ records.filter fun r => Json.Record.text r kind.nameField = name := by
    simp only [Decides] at decides
    split at decides
    · rw [decides]
      exact List.mem_cons_self
    · exact List.mem_of_getLast? decides
  simpa using hmem

theorem textual_itemShape (kind : EntityKind) : kind.itemShape.Textual :=
  kind.lenient_itemShape.textual

theorem distinct_itemShape (kind : EntityKind) : kind.itemShape.Distinct := by
  rw [Json.RecordShape.Distinct]
  cases kind <;> decide

/-- What a reply brings are the items that its records describe. -/
theorem viewsIn_eq_some_iff {reply : Except TransportError Response} {views : List EntityView} :
    kind.viewsIn reply = some views ↔
      ∃ response records, reply = .ok response ∧ response.status.value = 200 ∧
        response.body.failure? = none ∧
        Json.parseRecords kind.itemShape response.body.bytes = .ok records ∧
        records.map kind.viewOf = views := by
  rcases reply with e | response
  · simp [viewsIn]
  · simp only [viewsIn, Except.ok.injEq, exists_and_left, exists_eq_left']
    by_cases hwhole : response.status.value = 200 ∧ response.body.failure? = none
    · rw [if_pos hwhole, parseViews_eq]
      cases Json.parseRecords kind.itemShape response.body.bytes with
      | error e => simp [Except.map, Except.toOption]
      | ok records => simp [hwhole, Except.map, Except.toOption]
    · rw [if_neg hwhole]
      simp only [reduceCtorEq, false_iff]
      rintro ⟨hstatus, hbody, -⟩
      exact hwhole ⟨hstatus, hbody⟩

end EntityKind

namespace EntityView

theorem idsOf_map_viewOf (kind : EntityKind) (name : String) (records : List Json.Record) :
    idsOf name (records.map kind.viewOf) =
      (records.filter fun r => Json.Record.text r kind.nameField = name).map fun r =>
        Json.Record.text r "_id" := by
  simp only [idsOf, List.filter_map, List.map_map]
  rfl

end EntityView

/-- A lookup answers with the ID of the item that decides on the name. -/
theorem Answers.eq_ok_iff {kind : EntityKind} {name : String} {records : List Json.Record}
    {result : Except SessionError Answer}
    (h : Answers kind name (EntityView.idsOf name (records.map kind.viewOf)) result) {id : String} :
    result = .ok (.id id) ↔
      ∃ item, kind.Decides name records item ∧ Json.Record.text item "_id" = id := by
  have hlast := h.last
  have honly := h.only
  rw [EntityView.idsOf_map_viewOf] at hlast honly
  by_cases hkind : kind = .nsInstance
  · simp only [honly hkind id, EntityKind.Decides, if_pos hkind, List.map_eq_singleton_iff]
  · simp only [hlast hkind id, EntityKind.Decides, if_neg hkind, List.getLast?_map,
      Option.map_eq_some_iff]

section Origins

variable {c : Connection} {kind : EntityKind} {h : History} {records : List Json.Record}
  {name id : String}

/-- Whether a history has brought a collection. -/
def Brought (c : Connection) (kind : EntityKind) (h : History)
    (records : List Json.Record) : Prop :=
  ∃ response, .ok response ∈ fetchReplies c kind h ∧ response.status.value = 200 ∧
    response.body.failure? = none ∧
    Json.parseRecords kind.itemShape response.body.bytes = .ok records

/-- Whether an item that was brought decides on a name, and for an ID. Either may be empty because
it is missing. -/
def Resolved (c : Connection) (kind : EntityKind) (h : History) (name id : String) : Prop :=
  ∃ records item, Brought c kind h records ∧ kind.Decides name records item ∧
    Json.Record.ReadsAs item kind.nameField name ∧ Json.Record.ReadsAs item "_id" id

/-- Whether an item that was brought has both the name and the ID. -/
def Identified (c : Connection) (kind : EntityKind) (h : History) (name id : String) : Prop :=
  ∃ records, Brought c kind h records ∧ ∃ item ∈ records,
    Json.Record.Gives item kind.nameField name ∧ Json.Record.Gives item "_id" id

/-- A request of a deployment that uses nothing but IDs of items that were brought. -/
inductive Warranted (c : Connection) (h : History) (content : NsInstanceContent)
    (q : Request) : Prop
  | creates {nsdId accountId host token}
      (descriptor : Resolved c .nsDescriptor h content.nsdName nsdId)
      (account : Resolved c .vimAccount h content.vimAccountName accountId)
      (form : q = (documentForm c .nsInstancesContent
        (content.createRequest nsdId accountId) host).withBearer token) : Warranted c h content q
  | upgrades {id host token} (existing : Resolved c .nsInstance h content.name id)
      (form : q = (documentForm c (.nsInstanceAction id) content.upgradeRequest host).withBearer
        token) : Warranted c h content q

theorem Resolved.identified (resolved : Resolved c kind h name id) (named : name ≠ "")
    (present : id ≠ "") : Identified c kind h name id := by
  obtain ⟨records, item, hbrought, hdecides, hname, hid⟩ := resolved
  exact ⟨records, hbrought, item, hdecides.mem_and_named.1, hname.gives named, hid.gives present⟩

theorem Brought.texts (brought : Brought c kind h records) :
    ∀ r ∈ records, Json.Record.Texts r := by
  obtain ⟨response, -, -, -, hparse⟩ := brought
  exact Json.texts_of_parseRecords kind.textual_itemShape kind.distinct_itemShape hparse

/-- An item that decides on a name resolves it. -/
theorem Brought.resolved {item : Json.Record} (brought : Brought c kind h records)
    (decides : kind.Decides name records item) (id_eq : Json.Record.text item "_id" = id) :
    Resolved c kind h name id := by
  obtain ⟨hmem, hname⟩ := decides.mem_and_named
  have texts := brought.texts item hmem
  exact ⟨records, item, brought, decides, texts.text_eq_iff.mp hname, texts.text_eq_iff.mp id_eq⟩

/-- What was brought first is a collection that was brought. -/
theorem brought_of_firstViews {views : List EntityView} (first : firstViews c kind h = some views) :
    ∃ records, Brought c kind h records ∧ views = records.map kind.viewOf := by
  obtain ⟨reply, hreply, hviews⟩ := List.exists_of_findSome?_eq_some first
  obtain ⟨response, records, rfl, hstatus, hwhole, hparse, rfl⟩ :=
    EntityKind.viewsIn_eq_some_iff.mp hviews
  exact ⟨records, ⟨response, hreply, hstatus, hwhole, hparse⟩, rfl⟩

/-- A collection that was brought is what was brought first, since it is not fetched again. -/
theorem Brought.firstViews_eq (brought : Brought c kind h records)
    (ends : Session.FetchesEnd c h) : firstViews c kind h = some (records.map kind.viewOf) := by
  obtain ⟨response, hreply, hstatus, hwhole, hparse⟩ := brought
  apply Session.firstViews_of_mem ends hreply
  exact EntityKind.viewsIn_eq_some_iff.mpr ⟨response, records, rfl, hstatus, hwhole, hparse, rfl⟩

end Origins

namespace Session

open EntityView

variable {c : Connection} {h : History} {s : Session} {kind : EntityKind} {name id : String}

/-- The entries that a session has at hand come from a collection that was brought. -/
theorem Remembers.brought {α : Type} (col : Collection α) {entries : Dictionary α}
    (read : col.cache s = .ofViews col.index (firstViews c col.kind h))
    (cached : col.cache s = .populated entries) :
    ∃ records, Brought c col.kind h records ∧
      entries = col.index (records.map col.kind.viewOf) := by
  rw [read] at cached
  cases hviews : firstViews c col.kind h with
  | none =>
      rw [hviews] at cached
      cases cached
  | some views =>
      rw [hviews] at cached
      cases cached
      obtain ⟨records, hbrought, rfl⟩ := brought_of_firstViews hviews
      exact ⟨records, hbrought, rfl⟩

/-- A descriptor or an account that is at hand for a name resolves it. -/
theorem resolved_of_find? {records : List Json.Record} (brought : Brought c kind h records)
    (collection : kind ≠ .nsInstance)
    (found : (idByName (records.map kind.viewOf)).find? name = some id) :
    Resolved c kind h name id := by
  have answers := answers_idIn collection name (records.map kind.viewOf)
  have answer :
      (idIn kind name (idByName (records.map kind.viewOf))).map Answer.id = .ok (.id id) := by
    simp [idIn, found, Except.map]
  obtain ⟨item, hdecides, hid⟩ := answers.eq_ok_iff.mp answer
  exact brought.resolved hdecides hid

/-- The only instance at hand for a name resolves it. -/
theorem resolved_of_only {records : List Json.Record} (brought : Brought c .nsInstance h records)
    (found : ((idsByName (records.map EntityKind.nsInstance.viewOf)).find? name).getD [] = [id]) :
    Resolved c .nsInstance h name id := by
  have answers := answers_instanceIn name (records.map EntityKind.nsInstance.viewOf)
  have answer : (instanceIn name (idsByName (records.map EntityKind.nsInstance.viewOf))).map
      Answer.id = .ok (.id id) := by
    simp [instanceIn, found, Except.map]
  obtain ⟨item, hdecides, hid⟩ := answers.eq_ok_iff.mp answer
  exact brought.resolved hdecides hid

end Session

namespace CreationCourse

/-- A creation uses IDs of items that were brought, as the session that it leaves remembers. -/
theorem warranted {env : Surroundings} {content : NsInstanceContent} {s s' : Session}
    {t t' : Traffic} {lookups changes h : History} {result : Except SessionError Unit}
    (course : CreationCourse env content s t lookups changes result s' t')
    (remembers : s'.Remembers s.connection h) :
    ∀ change ∈ changes, Warranted s.connection h content change.1 := by
  intro change hchange
  cases course with
  | posted descriptors descriptor accounts account exchange =>
      obtain ⟨hdescriptors, -⟩ := descriptors.descriptors_then_accounts accounts
      have haccounts := accounts.cache_eq
      obtain ⟨records, hbrought, rfl⟩ :=
        Session.Remembers.brought .descriptors remembers.descriptors hdescriptors
      obtain ⟨records', hbrought', rfl⟩ :=
        Session.Remembers.brought .accounts remembers.accounts haccounts
      rcases exchange.posted with ⟨rfl, -⟩ | ⟨host, token, reply, -, -, rfl, -⟩
      · cases hchange
      · rw [List.mem_singleton.mp hchange]
        exact .creates (Session.resolved_of_find? hbrought (by decide) descriptor)
          (Session.resolved_of_find? hbrought' (by decide) account) rfl
  | _ => cases hchange

end CreationCourse

namespace DeployCourse

variable {env : Surroundings} {content : NsInstanceContent} {s s' : Session} {t t' : Traffic}
  {lookups changes h : History} {result : Except SessionError Deployment}

/-- A deployment fetches the instances first, if at all. -/
theorem fetchedInOrder (course : DeployCourse env content s t lookups changes result s' t') :
    FetchedInOrder s.connection [.nsInstance, .nsDescriptor, .vimAccount] lookups := by
  have first {h : History} {result : Except HttpError (Dictionary (List String))} {s₁ : Session}
      {t₁ : Traffic} (instances : Consulted env .instances s t h result s₁ t₁) :
      FetchedInOrder s.connection [.nsInstance, .nsDescriptor, .vimAccount] h :=
    instances.fetchedInOrder.mono (by decide)
  cases course with
  | unlisted instances => exact first instances
  | ambiguous instances => exact first instances
  | existing instances => exact first instances
  | @missing _ _ s₁ _ _ _ _ _ _ instances _ creation =>
      have hserver : s₁.connection = s.connection := instances.adds.connection
      exact instances.fetchedInOrder.append (hserver ▸ creation.fetchedInOrder)

/-- A deployment uses IDs of items that were brought, as the session that it leaves remembers. -/
theorem warranted (course : DeployCourse env content s t lookups changes result s' t')
    (remembers : s'.Remembers s.connection h) :
    ∀ change ∈ changes, Warranted s.connection h content change.1 := by
  intro change hchange
  cases course with
  | existing instances bound exchange =>
      have hinstances := instances.cache_eq
      obtain ⟨records, hbrought, rfl⟩ :=
        Session.Remembers.brought .instances remembers.instances hinstances
      rcases exchange.posted with ⟨rfl, -⟩ | ⟨host, token, reply, -, -, rfl, -⟩
      · cases hchange
      · rw [List.mem_singleton.mp hchange]
        exact .upgrades (Session.resolved_of_only hbrought bound) rfl
  | @missing _ _ s₁ _ _ _ _ _ _ instances _ creation =>
      have hserver : s₁.connection = s.connection := instances.adds.connection
      rw [← hserver] at remembers ⊢
      exact creation.warranted remembers change hchange
  | _ => cases hchange

end DeployCourse

namespace Session

/-- After every run of a new session, a lookup answers with an ID exactly if an item that was
brought decides on the name and for this ID. -/
theorem lookup_eq_ok_iff (env : Surroundings) (c : Connection) (user : Credentials)
    (ops : List Operation) (kind : EntityKind) (name id : String) :
    let out := (Operation.lookup kind name).perform env (run env ops (start c user, {})).2
    out.1 = .ok (.id id) ↔ Resolved c kind (env.history [] out.2.2.sent) name id := by
  intro out
  obtain ⟨hanswer, ends⟩ := answersFrom_after_run env c user ops (.lookup kind name)
  obtain ⟨hfound, hnone⟩ := answers_of_answersFrom hanswer
  constructor
  · intro hout
    cases hviews : firstViews c kind (env.history [] out.2.2.sent) with
    | none =>
        obtain ⟨failure, hfailure⟩ := hnone hviews
        cases hout.symm.trans hfailure
    | some views =>
        obtain ⟨records, hbrought, rfl⟩ := brought_of_firstViews hviews
        obtain ⟨item, hdecides, hid⟩ := (hfound _ hviews).eq_ok_iff.mp hout
        exact hbrought.resolved hdecides hid
  · rintro ⟨records, item, hbrought, hdecides, -, hid⟩
    obtain ⟨hmem, -⟩ := hdecides.mem_and_named
    apply (hfound _ (hbrought.firstViews_eq ends)).eq_ok_iff.mpr
    exact ⟨item, hdecides, (hbrought.texts item hmem).text_eq_iff.mpr hid⟩

/-- A deployment of a session that remembers what was brought fetches collections in order, and
changes nothing but with IDs of items that were brought by then. -/
theorem deploy_warranted (env : Surroundings) {c : Connection} {s : Session} {t : Traffic}
    (content : NsInstanceContent) (before : s.Remembers c (env.history [] t.sent)) :
    let out := deploy env content (s, t)
    ∃ lookups changes,
      Adds env (s.authorization, t) (out.2.1.authorization, out.2.2) (lookups ++ changes) ∧
      FetchedInOrder c [.nsInstance, .nsDescriptor, .vimAccount] lookups ∧
      ∀ change ∈ changes, Warranted c (env.history [] out.2.2.sent) content change.1 := by
  intro out
  obtain rfl : s.connection = c := before.server
  have after := (settles_deploy env content before).remembers
  obtain ⟨lookups, changes, result, s', t', hrun, course, -⟩ := deploy_course env content s t
  rw [hrun] at after
  simp only [out, hrun]
  exact ⟨lookups, changes, course.adds, course.fetchedInOrder, course.warranted after⟩

/-- After every run of a new session, a lookup answers with an ID exactly if an item of a collection
that was brought decides on the name and for this ID. That item has both, except that a name or an
ID that is empty may be missing. A deployment fetches collections and changes nothing but with IDs
that come from such items for the names it is given. -/
theorem lookup_resolves (env : Surroundings) (c : Connection) (user : Credentials)
    (ops : List Operation) :
    let st := (run env ops (start c user, {})).2
    (∀ kind name,
      let out := (Operation.lookup kind name).perform env st
      let all := env.history [] out.2.2.sent
      ∀ id, (out.1 = .ok (.id id) ↔ Resolved c kind all name id) ∧
        (out.1 = .ok (.id id) → name ≠ "" → id ≠ "" → Identified c kind all name id)) ∧
    ∀ content,
      let out := deploy env content st
      ∃ lookups changes,
        Adds env (st.1.authorization, st.2) (out.2.1.authorization, out.2.2) (lookups ++ changes) ∧
        FetchedInOrder c [.nsInstance, .nsDescriptor, .vimAccount] lookups ∧
        ∀ change ∈ changes, Warranted c (env.history [] out.2.2.sent) content change.1 := by
  intro st
  constructor
  · intro kind name out all id
    have hresolved := lookup_eq_ok_iff env c user ops kind name id
    exact ⟨hresolved, fun hout => (hresolved.mp hout).identified⟩
  · intro content
    exact deploy_warranted env content (run_knows ops (remembers_start c user)).1

theorem resolved_sample :
    ((Operation.lookup .nsDescriptor "nsd").perform sampleServer sampleStart).1.toOption =
      some (.id "d1") := by
  decide +kernel

/-- The ID of a descriptor that is listed once, with its name. -/
theorem lookup_resolves_sample :
    ((Operation.lookup .nsDescriptor "nsd").perform sampleServer sampleStart).1 = .ok (.id "d1") ∧
      Identified sampleConnection .nsDescriptor (sampleServer.history []
        ((Operation.lookup .nsDescriptor "nsd").perform sampleServer sampleStart).2.2.sent)
        "nsd" "d1" := by
  have answered := eq_ok_of_toOption resolved_sample
  obtain ⟨lookups, -⟩ := lookup_resolves sampleServer sampleConnection ⟨"u", "p", "q"⟩ []
  obtain ⟨-, identified⟩ := lookups .nsDescriptor "nsd" "d1"
  exact ⟨answered, identified answered (by decide) (by decide)⟩

/-- An ID that a lookup yields belongs to an item that has both the name and the ID. -/
def AnswersIdentified (env : Surroundings) (st : Session × Traffic) (kind : EntityKind)
    (name : String) : Prop :=
  let out := (Operation.lookup kind name).perform env st
  ∀ id, out.1 = .ok (.id id) →
    Identified st.1.connection kind (env.history [] out.2.2.sent) name id

/-- A reply that lists a descriptor with its ID, and once more without. -/
def shadowedResponse : Response where
  status := .ok
  body := { bytes := utf8 "[\x7b\"_id\": \"d1\", \"id\": \"nsd\"\x7d, \x7b\"id\": \"nsd\"\x7d]" }

/-- A reply that lists an instance without its ID. -/
def unidentifiedResponse : Response where
  status := .ok
  body := { bytes := utf8 "[\x7b\"name\": \"ns\"\x7d]" }

/-- A server with these descriptors and instances. -/
def incompleteServer : Surroundings where
  answer _ q := .ok (
    if q.url? = some (sampleConnection.url .tokens) then
      { status := .ok, body := { bytes := utf8 "\x7b\"id\": \"t\", \"expires\": 9\x7d" } }
    else if q.url? = some (sampleConnection.url .nsDescriptors) then shadowedResponse
    else unidentifiedResponse)
  clock _ := .zero

/-- An answer is a counterexample if the only reply has no item with its ID. -/
theorem not_answersIdentified {env : Surroundings} {st : Session × Traffic} {kind : EntityKind}
    {name : String} (id : String) (response : Response)
    (answered : ((Operation.lookup kind name).perform env st).1.toOption = some (.id id))
    (fetched : fetchReplies st.1.connection kind
      (env.history [] ((Operation.lookup kind name).perform env st).2.2.sent) = [.ok response])
    (unidentified : ∀ records ∈ (Json.parseRecords kind.itemShape response.body.bytes).toOption,
      ∀ item ∈ records, (item.lookup "_id").isSome = true → Json.Record.text item "_id" ≠ id) :
    ¬AnswersIdentified env st kind name := by
  intro identified
  obtain ⟨records, ⟨response', hreply, -, -, hparse⟩, item, hitem, -, hid⟩ :=
    identified id (eq_ok_of_toOption answered)
  rw [fetched] at hreply
  cases List.mem_singleton.mp hreply
  obtain ⟨hsome, htext⟩ := hid.text_eq
  exact unidentified records (by rw [hparse]; rfl) item hitem hsome htext

/-- Both names are resolved to the empty ID, and the deployment of the instance sends its request
there. -/
theorem not_answersIdentified_sample :
    ¬AnswersIdentified incompleteServer sampleStart .nsDescriptor "nsd" ∧
      ¬AnswersIdentified incompleteServer sampleStart .nsInstance "ns" ∧
      ∃ q ∈ (deploy incompleteServer sampleContent sampleStart).2.2.sent,
        q.url? = some (sampleConnection.url (.nsInstanceAction "")) := by
  refine ⟨?_, ?_, ?_⟩
  · apply not_answersIdentified "" shadowedResponse
    · decide +kernel
    · decide +kernel
    · decide +kernel
  · apply not_answersIdentified "" unidentifiedResponse
    · decide +kernel
    · decide +kernel
    · decide +kernel
  · decide +kernel

end Session

end Northbound
