import Northbound.Proofs.Json.Written
import Northbound.Proofs.Session.Collections
import Northbound.Proofs.Session.Recreation

/-!
# What lookups say about a collection

A lookup is answered from the items that bear the name, in the order of the collection: of
descriptors and accounts the last one counts, an instance has to be the only one. The main statement
says so of every run, for every collection whose items give ID and name once at most and as texts,
and that a failed lookup can be told from a failed fetch.
-/

namespace Northbound

open Http

/-- The IDs of the items that bear a name, in order. -/
def EntityView.idsOf (name : String) (views : List EntityView) : List String :=
  (views.filter fun v => v.name = name).map EntityView.id

/-- The item of a collection that an object describes. What is missing reads as empty. -/
def EntityKind.viewOf (kind : EntityKind) (ms : Json.Written) : EntityView where
  id := Json.Record.text ms "_id"
  name := Json.Record.text ms kind.nameField

/-- The lookup of a name in a collection. -/
def Operation.lookup : EntityKind → String → Operation
  | .nsDescriptor => .lookupDescriptor
  | .vimAccount => .lookupAccount
  | .nsInstance => .lookupInstance

/-- The answer to the lookup of a name, given the IDs of the items that bear it. -/
structure Answers (kind : EntityKind) (name : String) (ids : List String)
    (result : Except SessionError Answer) : Prop where
  /-- Of several descriptors or accounts, the last one counts. -/
  last : kind ≠ .nsInstance → ∀ id, result = .ok (.id id) ↔ ids.getLast? = some id
  /-- An instance has to be the only one. -/
  only : kind = .nsInstance → ∀ id, result = .ok (.id id) ↔ ids = [id]
  missing : result = .error (.notFound kind name) ↔ ids = []
  /-- Several instances are all named. -/
  several : ∀ bound, result = .error (.ambiguous name bound) ↔
    kind = .nsInstance ∧ 2 ≤ ids.length ∧ bound = ids
  /-- There are no other failures. -/
  failure : ∀ e, result = .error e → e = .notFound kind name ∨ e = .ambiguous name ids

/-- A lookup has failed if it could look. -/
theorem Answers.isLookupFailure {kind : EntityKind} {name : String} {ids : List String}
    {result : Except SessionError Answer} (h : Answers kind name ids result) {e : SessionError}
    (failed : result = .error e) : e.isLookupFailure = true := by
  rcases h.failure e failed with rfl | rfl
  · rfl
  · rfl

namespace EntityKind

theorem lenient_itemShape (kind : EntityKind) : kind.itemShape.Lenient := by
  intro field hfield
  simp only [itemShape, List.mem_cons, List.not_mem_nil, or_false] at hfield
  rcases hfield with rfl | rfl
  · exact ⟨rfl, rfl⟩
  · exact ⟨rfl, rfl⟩

/-- Items are read as records. -/
theorem parseViews_eq (kind : EntityKind) (document : Bytes) :
    kind.parseViews document =
      (Json.parseRecords kind.itemShape document).map (List.map kind.viewOf) := by
  rw [parseViews]
  cases Json.parseRecords kind.itemShape document <;> rfl

/-- A document that lists objects with the fields of items is read as the items they describe. -/
theorem parseViews_of_parseWritten {kind : EntityKind} {document : Bytes}
    {items : List Json.Written} (h : Json.parseWritten document = .ok items)
    (fits : ∀ ms ∈ items, kind.itemShape.Fits ms) :
    kind.parseViews document = .ok (items.map kind.viewOf) := by
  have idField : (⟨"_id", .text, false⟩ : Json.Field) ∈ kind.itemShape.fields :=
    List.mem_cons_self
  have nameField : (⟨kind.nameField, .text, false⟩ : Json.Field) ∈ kind.itemShape.fields :=
    List.mem_cons_of_mem _ List.mem_cons_self
  have hknown (ms : Json.Written) : kind.viewOf (kind.itemShape.known ms) = kind.viewOf ms := by
    simp only [viewOf, Json.Record.text_known idField, Json.Record.text_known nameField]
  rw [parseViews_eq, Json.parseRecords_of_parseWritten kind.lenient_itemShape h fits]
  simp [Except.map, hknown]

end EntityKind

namespace EntityView

variable {name : String} {views : List EntityView}

/-- A name is bound to the ID of the last item that goes by it. -/
theorem find?_idByName (views : List EntityView) (name : String) :
    (idByName views).find? name = (idsOf name views).getLast? := by
  have step (d : Dictionary String) :
      ((views.map fun v => (v.name, v.id)).foldl (fun d b => d.insert b.1 b.2) d).find? name =
        (idsOf name views).getLast?.or (d.find? name) := by
    induction views generalizing d with
    | nil => rfl
    | cons v views ih =>
        rw [List.map_cons, List.foldl_cons, ih]
        by_cases hv : v.name = name
        · subst hv
          have hcons : idsOf v.name (v :: views) = v.id :: idsOf v.name views := by simp [idsOf]
          rw [hcons, List.getLast?_cons, Dictionary.find?_insert_self]
          cases (idsOf v.name views).getLast? <;> rfl
        · simp [idsOf, hv, Dictionary.find?_insert_of_ne (Ne.symm hv)]
  rw [idByName, Dictionary.ofList, step]
  exact Option.or_none

end EntityView

namespace Session

open EntityView

/-- A lookup of the last item of a name. -/
theorem answers_idIn {kind : EntityKind} (collection : kind ≠ .nsInstance) (name : String)
    (views : List EntityView) :
    Answers kind name (idsOf name views) ((idIn kind name (idByName views)).map .id) := by
  rw [idIn, find?_idByName]
  generalize idsOf name views = ids
  rcases List.eq_nil_or_concat ids with rfl | ⟨front, id, rfl⟩
  · constructor <;> simp [Except.map, collection]
  · rw [List.concat_eq_append, List.getLast?_concat]
    constructor <;> simp [Except.map, collection]

/-- A lookup of the only item of a name. -/
theorem answers_instanceIn (name : String) (views : List EntityView) :
    Answers .nsInstance name (idsOf name views) ((instanceIn name (idsByName views)).map .id) := by
  rw [instanceIn, find?_idsByName, ← idsOf]
  rcases idsOf name views with _ | ⟨first, _ | ⟨second, more⟩⟩
  · constructor <;> simp [Except.map]
  · constructor <;> simp [Except.map]
  · constructor <;> simp [Except.map, eq_comm]

variable {env : Surroundings} {c : Connection} {kind : EntityKind} {h : History}

/-- A collection that was fetched is what a lookup answers from, since it is not fetched again. -/
theorem firstViews_of_mem (ends : FetchesEnd c h) {reply : Except TransportError Response}
    {views : List EntityView} (fetched : reply ∈ fetchReplies c kind h)
    (success : kind.viewsIn reply = some views) : firstViews c kind h = some views := by
  obtain ⟨earlier, later, hsplit⟩ := List.append_of_mem fetched
  have hearlier : earlier.findSome? kind.viewsIn = none := by
    rw [List.findSome?_eq_none_iff]
    intro other hother
    cases hviews : kind.viewsIn other with
    | none => rfl
    | some _ =>
        obtain ⟨front, back, rfl⟩ := List.append_of_mem hother
        rw [List.append_assoc, List.cons_append] at hsplit
        have hnil := ends kind front other _ hsplit (by rw [hviews]; rfl)
        simp at hnil
  rw [firstViews, hsplit, List.findSome?_append, hearlier, Option.none_or, List.findSome?_cons,
    success]

/-- A lookup is answered from what was brought first, and fails with the fetch if there is nothing.
-/
theorem answers_of_answersFrom {name : String} {views? : EntityKind → Option (List EntityView)}
    {result : Except SessionError Answer}
    (h : (Operation.lookup kind name).AnswersFrom views? result) :
    (∀ views, views? kind = some views → Answers kind name (idsOf name views) result) ∧
      (views? kind = none → ∃ failure, result = .error (.http failure)) := by
  have split {answer : List EntityView → Except SessionError Answer}
      (h : Answered answer (views? kind) result)
      (answers : ∀ views, Answers kind name (idsOf name views) (answer views)) :
      (∀ views, views? kind = some views → Answers kind name (idsOf name views) result) ∧
        (views? kind = none → ∃ failure, result = .error (.http failure)) := by
    constructor
    · intro views hviews
      rw [hviews] at h
      exact h ▸ answers views
    · intro hviews
      rwa [hviews] at h
  cases kind with
  | nsDescriptor => exact split h (answers_idIn (by decide) name)
  | vimAccount => exact split h (answers_idIn (by decide) name)
  | nsInstance => exact split h (answers_instanceIn name)

/-- After every run of a new session, an operation answers from what was brought, and no collection
is fetched after that. -/
theorem answersFrom_after_run (env : Surroundings) (c : Connection) (user : Credentials)
    (ops : List Operation) (op : Operation) :
    let out := op.perform env (run env ops (start c user, {})).2
    op.AnswersFrom (fun kind => firstViews c kind (env.history [] out.2.2.sent)) out.1 ∧
      FetchesEnd c (env.history [] out.2.2.sent) := by
  intro out
  have ends : FetchesEnd c [] := by
    intro kind earlier reply later h
    simp [fetchReplies] at h
  obtain ⟨hbefore, hends⟩ := run_remembers env (t := {}) ops (remembers_start c user) ends
  obtain ⟨⟨new, hsent, -, heco⟩, hanswer⟩ := settles_perform env op hbefore
  refine ⟨hanswer, ?_⟩
  simp only [out, hsent, env.history_sent_append]
  exact hends.append heco

/-- Lookups over every run of a new session. If there are items to look among, the answer is told by
the IDs of those that bear the name, and otherwise the lookup fails as the fetch of the collection
did; a failure says which of the two it is. A document of objects, in which each gives its ID and
its name once at most and as texts, is read as the items that they describe, whatever else they
have, and these are the items to look among once it has come. -/
theorem lookup_answers (env : Surroundings) (c : Connection) (user : Credentials)
    (ops : List Operation) (kind : EntityKind) (name : String) :
    let st := (run env ops (start c user, {})).2
    let out := (Operation.lookup kind name).perform env st
    let all := env.history [] out.2.2.sent
    (∀ views, firstViews c kind all = some views → Answers kind name (idsOf name views) out.1) ∧
      (firstViews c kind all = none → ∃ failure, out.1 = .error (.http failure)) ∧
      (∀ e, out.1 = .error e →
        (e.isLookupFailure = true ↔ (firstViews c kind all).isSome = true)) ∧
      ∀ response vs, .ok response ∈ fetchReplies c kind all → response.status.value = 200 →
        response.body.failure? = none → Json.parse response.body.bytes = .ok (.list vs) →
        (∀ v ∈ vs, v.isObject = true) →
        ∃ items, Json.parseWritten response.body.bytes = .ok items ∧
          vs = items.map Json.ofMembers ∧
          ((∀ ms ∈ items, kind.itemShape.Fits ms) →
            kind.parseViews response.body.bytes = .ok (items.map kind.viewOf) ∧
              firstViews c kind all = some (items.map kind.viewOf) ∧
              Answers kind name (idsOf name (items.map kind.viewOf)) out.1) := by
  intro st out all
  obtain ⟨hanswer, ends⟩ := answersFrom_after_run env c user ops (.lookup kind name)
  obtain ⟨hfound, hnone⟩ := answers_of_answersFrom hanswer
  refine ⟨hfound, hnone, ?_, ?_⟩
  · intro e he
    cases hviews : firstViews c kind all with
    | some views => simp [(hfound views hviews).isLookupFailure he]
    | none =>
        obtain ⟨failure, hfailure⟩ := hnone hviews
        obtain rfl : e = .http failure := Except.error.inj (he.symm.trans hfailure)
        simp [SessionError.isLookupFailure]
  · intro response vs fetched status whole parsed objects
    obtain ⟨items, hitems, hvs⟩ := Json.parseWritten_of_parse parsed objects
    refine ⟨items, hitems, hvs, fun fits => ?_⟩
    have hviews := EntityKind.parseViews_of_parseWritten hitems fits
    have hfirst : firstViews c kind all = some (items.map kind.viewOf) := by
      apply firstViews_of_mem ends fetched
      simp [EntityKind.viewsIn, status, whole, hviews, Except.toOption]
    exact ⟨hviews, hfirst, hfound _ hfirst⟩

/-- Three instances, of which two go by one name and one by none. -/
def listedItems (more : Json) : List Json.Written :=
  [[("_id", .text "1"), ("name", .text "a"), ("more", more)],
    [("_id", .text "2")], [("name", .text "a"), ("_id", .text "3")]]

/-- A reply that lists them. -/
def listingResponse : Response where
  status := .ok
  body := { bytes := utf8 (
    "[\x7b\"_id\": \"1\", \"name\": \"a\", \"more\": [null, \x7b\"name\": 7\x7d]\x7d, " ++
    "\x7b\"_id\": \"2\"\x7d, \x7b\"name\": \"a\", \"_id\": \"3\"\x7d]") }

/-- A server of which that is all there is to know. -/
def listingServer : Surroundings where
  answer _ q := .ok (
    if q.url? = some (sampleConnection.url .tokens) then
      { status := .ok, body := { bytes := utf8 "\x7b\"id\": \"t\", \"expires\": 9\x7d" } }
    else listingResponse)
  clock _ := .zero

/-- The lookup of an instance on that server. -/
def listingLookup : Except SessionError Answer × Session × Traffic :=
  (Operation.lookup .nsInstance "a").perform listingServer sampleStart

theorem parse_listing_matches : (Json.parse listingResponse.body.bytes matches
    .ok (.list [.object _, .object _, .object _])) = true := by
  decide +kernel

theorem parse_listing : ∃ vs, Json.parse listingResponse.body.bytes = .ok (.list vs) ∧
    ∀ v ∈ vs, v.isObject = true := by
  have h := parse_listing_matches
  split at h
  next heq => exact ⟨_, heq, by simp [Json.isObject]⟩
  next => cases h

theorem parseWritten_listing_matches : (Json.parseWritten listingResponse.body.bytes matches
    .ok [[("_id", .text "1"), ("name", .text "a"), ("more", _)],
      [("_id", .text "2")], [("name", .text "a"), ("_id", .text "3")]]) = true := by
  decide +kernel

theorem parseWritten_listing :
    ∃ more, Json.parseWritten listingResponse.body.bytes = .ok (listedItems more) := by
  have h := parseWritten_listing_matches
  split at h
  next heq => exact ⟨_, heq⟩
  next => cases h

theorem fits_listedItems (more : Json) :
    ∀ ms ∈ listedItems more, EntityKind.nsInstance.itemShape.Fits ms := by
  simp [listedItems, Json.RecordShape.Fits, EntityKind.itemShape, EntityKind.nameField]

/-- The name is ambiguous, since it stands for the first and the last item. -/
theorem lookup_answers_listing :
    .ok listingResponse ∈ fetchReplies sampleConnection .nsInstance
        (listingServer.history [] listingLookup.2.2.sent) ∧
      (∃ vs, Json.parse listingResponse.body.bytes = .ok (.list vs) ∧
        ∀ v ∈ vs, v.isObject = true) ∧
      (∃ items, Json.parseWritten listingResponse.body.bytes = .ok items ∧
        ∀ ms ∈ items, EntityKind.nsInstance.itemShape.Fits ms) ∧
      listingLookup.1 = .error (.ambiguous "a" ["1", "3"]) := by
  have fetched : .ok listingResponse ∈ fetchReplies sampleConnection .nsInstance
      (listingServer.history [] listingLookup.2.2.sent) := by
    decide +kernel
  obtain ⟨vs, parsed, objects⟩ := parse_listing
  obtain ⟨more, written⟩ := parseWritten_listing
  have fits := fits_listedItems more
  refine ⟨fetched, ⟨vs, parsed, objects⟩, ⟨_, written, fits⟩, ?_⟩
  obtain ⟨-, -, -, hread⟩ := lookup_answers listingServer sampleConnection ⟨"u", "p", "q"⟩ []
    .nsInstance "a"
  obtain ⟨items, hitems, -, hanswers⟩ := hread listingResponse vs fetched rfl rfl parsed objects
  obtain rfl : items = listedItems more := Except.ok.inj (hitems.symm.trans written)
  obtain ⟨-, -, answers⟩ := hanswers fits
  have bearing :
      idsOf "a" ((listedItems more).map EntityKind.nsInstance.viewOf) = ["1", "3"] := rfl
  rw [bearing] at answers
  exact (answers.several ["1", "3"]).mpr ⟨rfl, by decide, rfl⟩

end Session

end Northbound
