import Northbound.Proofs.Session.History
import Northbound.Session.Lookup

/-!
# Fetches in a history

Each collection has a request that fetches it. A history tells which fetches there were and what the
first one that succeeded has brought. An operation is economical with fetches if it sends at most
one of each kind, none that it does not need, and none for what is known already.
-/

namespace Northbound

open Http

namespace EntityKind

/-- Where the collection of a kind is. -/
def collection : EntityKind → Endpoint
  | .nsDescriptor => .nsDescriptors
  | .vimAccount => .vimAccounts
  | .nsInstance => .nsInstancesContent

/-- The items that a reply to a fetch brings: its status has to be 200, and its body whole and a
document of the collection. -/
def viewsIn (kind : EntityKind) : Except TransportError Response → Option (List EntityView)
  | .error _ => none
  | .ok r =>
    if r.status.value = 200 ∧ r.body.failure? = none then (kind.parseViews r.body.bytes).toOption
    else none

/-- What a session makes of a reply to a fetch. -/
def outcome (kind : EntityKind) (reply : Except TransportError Response) :
    Except HttpError (List EntityView) :=
  received Handler.documentStatus kind.parseViews reply

theorem toOption_outcome (kind : EntityKind) (reply : Except TransportError Response) :
    (kind.outcome reply).toOption = kind.viewsIn reply := by
  rcases reply with e | r
  · rfl
  · have hstatus : Handler.documentStatus.accepts r.status = true ↔ r.status.value = 200 := by
      have h := accepts_ofNats [200] r.status
      rw [List.mem_singleton] at h
      exact h
    simp only [outcome, received, viewsIn]
    by_cases hs : r.status.value = 200
    · rw [if_pos (hstatus.mpr hs)]
      cases hf : r.body.failure? with
      | some reason => simp [Except.toOption]
      | none =>
          simp only [hs, and_self, if_true]
          cases kind.parseViews r.body.bytes <;> rfl
    · rw [if_neg (mt hstatus.mp hs), if_neg (fun h => hs h.1)]
      rfl

/-- The paths of the collections differ. -/
theorem url_collection_inj {c : Connection} {kind other : EntityKind}
    (h : c.url kind.collection = c.url other.collection) : kind = other := by
  have hpath := congrArg Url.path h
  simp only [Connection.url, Url.setPath, UrlPath.segments.injEq] at hpath
  generalize Url.isSpecial c.baseUrl.scheme = special at hpath
  revert hpath
  cases kind <;> cases other <;> cases special <;> decide

end EntityKind

section History

variable (c : Connection) (kind : EntityKind)

/-- Whether a request fetches a collection. -/
def isFetch (q : Request) : Bool := q.method = .get ∧ q.url? = some (c.url kind.collection)

/-- The replies to the requests of a history that fetch a collection. -/
def fetchReplies (h : History) : List (Except TransportError Response) :=
  (h.filter fun x => isFetch c kind x.1).map Prod.snd

/-- What the first fetch of a history that succeeded has brought. -/
def firstViews (h : History) : Option (List EntityView) :=
  (fetchReplies c kind h).findSome? kind.viewsIn

theorem fetchReplies_append (h more : History) :
    fetchReplies c kind (h ++ more) = fetchReplies c kind h ++ fetchReplies c kind more := by
  simp [fetchReplies]

theorem firstViews_append (h more : History) :
    firstViews c kind (h ++ more) = (firstViews c kind h).or (firstViews c kind more) := by
  simp [firstViews, fetchReplies_append, List.findSome?_append]

variable {c kind}

theorem firstViews_of_unfetched {h : History} (unfetched : fetchReplies c kind h = []) :
    firstViews c kind h = none := by
  simp [firstViews, unfetched]

theorem firstViews_append_of_none {h new : History} (nothing : firstViews c kind new = none) :
    firstViews c kind (h ++ new) = firstViews c kind h := by
  rw [firstViews_append, nothing, Option.or_none]

/-- What was brought first stays so. -/
theorem firstViews_append_of_some {h : History} {views : List EntityView}
    (first : firstViews c kind h = some views) (more : History) :
    firstViews c kind (h ++ more) = some views := by
  rw [firstViews_append, first, Option.some_or]

theorem firstViews_of_fetched {h : History} {reply : Except TransportError Response}
    (fetched : fetchReplies c kind h = [reply]) : firstViews c kind h = kind.viewsIn reply := by
  cases hviews : kind.viewsIn reply <;> simp [firstViews, fetched, hviews]

/-- Requests of other methods fetch nothing. -/
theorem fetchReplies_eq_nil {h : History} (others : ∀ x ∈ h, x.1.method ≠ .get) :
    fetchReplies c kind h = [] := by
  simp only [fetchReplies, List.map_eq_nil_iff, List.filter_eq_nil_iff]
  intro x hx
  simp [isFetch, others x hx]

/-- A request that fetches one collection fetches no other. -/
theorem fetchReplies_singleton {q : Request} {reply : Except TransportError Response}
    (method : q.method = .get) (url : q.url? = some (c.url kind.collection))
    (other : EntityKind) :
    fetchReplies c other [(q, reply)] = if other = kind then [reply] else [] := by
  by_cases hk : other = kind
  · subst hk
    simp [fetchReplies, isFetch, method, url]
  · have hne : c.url kind.collection ≠ c.url other.collection :=
      fun h => hk (EntityKind.url_collection_inj h).symm
    simp [fetchReplies, isFetch, method, url, hne, hk]

end History

/-- What an operation has to do with the collections, after a history and given its result, where
`needs` says which collections it needs. -/
structure Economical {α : Type} (c : Connection) (needs : EntityKind → Prop) (h new : History)
    (result : Except SessionError α) : Prop where
  /-- It fetches no collection twice. -/
  once : ∀ kind, (fetchReplies c kind new).length ≤ 1
  /-- It fetches no collection that was fetched before. -/
  settled : ∀ kind, (firstViews c kind h).isSome = true → fetchReplies c kind new = []
  /-- It fetches no collection that it does not need. -/
  needed : ∀ kind, fetchReplies c kind new ≠ [] → needs kind
  /-- A fetch that does not succeed is its result. -/
  failed : ∀ kind reply, fetchReplies c kind new = [reply] → kind.viewsIn reply = none →
    ∃ e, kind.outcome reply = .error e ∧ result = .error (.http e)

namespace Economical

variable {α β : Type} {c : Connection} {needs needs' : EntityKind → Prop} {h new more : History}
  {result : Except SessionError α}

/-- An operation that fetches nothing. -/
theorem idle (unfetched : ∀ kind, fetchReplies c kind new = []) :
    Economical c needs h new result := by
  constructor
  · intro kind
    simp [unfetched kind]
  · intro kind _
    exact unfetched kind
  · intro kind hne
    exact absurd (unfetched kind) hne
  · intro kind reply hreply
    simp [unfetched kind] at hreply

/-- An operation that fetches a collection that is not known. -/
theorem single {kind : EntityKind} {reply : Except TransportError Response}
    (unknown : firstViews c kind h = none)
    (fetched : ∀ other, fetchReplies c other new = if other = kind then [reply] else [])
    (failed : kind.viewsIn reply = none →
      ∃ e, kind.outcome reply = .error e ∧ result = .error (.http e)) :
    Economical c (· = kind) h new result := by
  constructor
  · intro other
    rw [fetched]
    split <;> simp
  · intro other hknown
    rw [fetched, if_neg]
    rintro rfl
    simp [unknown] at hknown
  · intro other hne
    rw [fetched] at hne
    split at hne
    · assumption
    · exact absurd rfl hne
  · intro other reply' hreply hnone
    rw [fetched] at hreply
    split at hreply
    · next heq =>
      subst heq
      cases hreply
      exact failed hnone
    · cases hreply

theorem mono {result' : Except SessionError β} (first : Economical c needs h new result)
    (weaker : ∀ kind, needs kind → needs' kind)
    (errors : ∀ e, result = .error (.http e) → result' = .error (.http e)) :
    Economical c needs' h new result' := by
  refine ⟨first.once, first.settled, fun kind hk => weaker kind (first.needed kind hk), ?_⟩
  intro kind reply hreply hnone
  obtain ⟨e, he, hresult⟩ := first.failed kind reply hreply hnone
  exact ⟨e, he, errors e hresult⟩

/-- What was fetched without a failure is known afterwards. -/
theorem isSome_firstViews (first : Economical c needs h new result)
    (success : ∀ e, result ≠ .error (.http e)) {kind : EntityKind}
    (fetched : fetchReplies c kind new ≠ []) : (firstViews c kind (h ++ new)).isSome = true := by
  have hlen := first.once kind
  match hreplies : fetchReplies c kind new with
  | [] => exact absurd hreplies fetched
  | [reply] =>
      cases hviews : kind.viewsIn reply with
      | none =>
          obtain ⟨e, -, hresult⟩ := first.failed kind reply hreplies hviews
          exact absurd hresult (success e)
      | some views =>
          rw [firstViews_append, firstViews_of_fetched hreplies, hviews]
          cases firstViews c kind h <;> rfl
  | _ :: _ :: _ => simp [hreplies] at hlen

/-- One operation after another, if the first one did not fail to fetch. -/
theorem seq {result' : Except SessionError β} (first : Economical c needs h new result)
    (success : ∀ e, result ≠ .error (.http e))
    (next : Economical c needs (h ++ new) more result') :
    Economical c needs h (new ++ more) result' := by
  have split (kind : EntityKind) :
      fetchReplies c kind new = [] ∨ fetchReplies c kind more = [] := by
    by_cases hnew : fetchReplies c kind new = []
    · exact Or.inl hnew
    · exact Or.inr (next.settled kind (first.isSome_firstViews success hnew))
  constructor
  · intro kind
    rw [fetchReplies_append]
    rcases split kind with hnil | hnil
    · simpa [hnil] using next.once kind
    · simpa [hnil] using first.once kind
  · intro kind hknown
    rw [fetchReplies_append, first.settled kind hknown, next.settled kind, List.append_nil]
    rw [firstViews_append]
    simp [hknown]
  · intro kind hfetched
    rw [fetchReplies_append] at hfetched
    rcases split kind with hnil | hnil
    · exact next.needed kind (by simpa [hnil] using hfetched)
    · exact first.needed kind (by simpa [hnil] using hfetched)
  · intro kind reply hreply hnone
    rw [fetchReplies_append] at hreply
    rcases split kind with hnil | hnil
    · exact next.failed kind reply (by simpa [hnil] using hreply) hnone
    · obtain ⟨e, -, hresult⟩ := first.failed kind reply (by simpa [hnil] using hreply) hnone
      exact absurd hresult (success e)

end Economical

/-- What is sent for a fetch does not reach the collection, or gets a reply from it once. -/
inductive FetchCourse (c : Connection) (kind : EntityKind) (new : History) :
    Except HttpError (List EntityView) → Prop where
  | unsent (e : HttpError) (unfetched : ∀ other, fetchReplies c other new = []) :
      FetchCourse c kind new (.error e)
  | answered (reply : Except TransportError Response)
      (fetched : ∀ other, fetchReplies c other new = if other = kind then [reply] else []) :
      FetchCourse c kind new (kind.outcome reply)

namespace FetchCourse

variable {c : Connection} {kind : EntityKind} {h new : History}
  {result : Except HttpError (List EntityView)}

/-- What a fetch yields is what its collection has brought from then on. -/
theorem firstViews_self (course : FetchCourse c kind new result)
    (first : firstViews c kind h = none) : firstViews c kind (h ++ new) = result.toOption := by
  rw [firstViews_append, first, Option.none_or]
  cases course with
  | unsent e unfetched => exact firstViews_of_unfetched (unfetched kind)
  | answered reply fetched =>
      rw [kind.toOption_outcome]
      exact firstViews_of_fetched (by simp [fetched])

theorem firstViews_other (course : FetchCourse c kind new result) {other : EntityKind}
    (hne : other ≠ kind) : firstViews c other (h ++ new) = firstViews c other h := by
  apply firstViews_append_of_none
  apply firstViews_of_unfetched
  cases course with
  | unsent e unfetched => exact unfetched other
  | answered reply fetched => simp [fetched, hne]

theorem economical {α : Type} (course : FetchCourse c kind new result)
    (first : firstViews c kind h = none) (f : List EntityView → α) :
    Economical c (· = kind) h new ((result.map f).mapError SessionError.http) := by
  cases course with
  | unsent e unfetched => exact Economical.idle unfetched
  | answered reply fetched =>
      apply Economical.single first fetched
      intro hfailed
      rw [← kind.toOption_outcome] at hfailed
      cases ho : kind.outcome reply with
      | ok views => simp [ho, Except.toOption] at hfailed
      | error e => exact ⟨e, rfl, rfl⟩

end FetchCourse

end Northbound
