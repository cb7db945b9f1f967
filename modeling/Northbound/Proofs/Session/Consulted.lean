import Mathlib.Data.List.Forall2
import Northbound.Proofs.Session.Exchanged

/-!
# Entries of a collection

A session has a cache for each collection that names are looked up in. Its entries are at hand once
they were fetched; a fetch that fails leaves the session as it is, apart from the token.
-/

namespace Northbound

open Http

/-- A collection and its place in a session. -/
structure Collection (α : Type) where
  kind : EntityKind
  cache : Session → LookupCache α
  store : Session → LookupCache α → Session
  index : List EntityView → Dictionary α
  store_cache : ∀ s, store s (cache s) = s
  cache_store : ∀ s entries, cache (store s entries) = entries
  cache_authorization : ∀ s a, cache { s with authorization := a } = cache s
  authorization_store : ∀ s entries, (store s entries).authorization = s.authorization

namespace Collection

/-- The descriptors of a session. -/
def descriptors : Collection String where
  kind := .nsDescriptor
  cache := Session.nsDescriptors
  store s cache := { s with nsDescriptors := cache }
  index := EntityView.idByName
  store_cache _ := rfl
  cache_store _ _ := rfl
  cache_authorization _ _ := rfl
  authorization_store _ _ := rfl

/-- The accounts of a session. -/
def accounts : Collection String where
  kind := .vimAccount
  cache := Session.vimAccounts
  store s cache := { s with vimAccounts := cache }
  index := EntityView.idByName
  store_cache _ := rfl
  cache_store _ _ := rfl
  cache_authorization _ _ := rfl
  authorization_store _ _ := rfl

/-- The instances of a session. -/
def instances : Collection (List String) where
  kind := .nsInstance
  cache := Session.nsInstances
  store s cache := { s with nsInstances := cache }
  index := EntityView.idsByName
  store_cache _ := rfl
  cache_store _ _ := rfl
  cache_authorization _ _ := rfl
  authorization_store _ _ := rfl

variable {α : Type}

/-- The entries of a collection, fetched if need be. -/
def entries (col : Collection α) (env : Surroundings) : SessionAction (Dictionary α) :=
  Session.cached col.cache col.store do
    return col.index (← Session.fetch env col.kind col.kind.collection)

end Collection

/-- How the entries of a collection are come by: what is added to the history, the entries, and what
becomes of the session and the traffic. -/
inductive Consulted {α : Type} (env : Surroundings) (col : Collection α) (s : Session)
    (t : Traffic) : History → Except HttpError (Dictionary α) → Session → Traffic → Prop
  | known {entries} (cached : col.cache s = .populated entries) :
      Consulted env col s t [] (.ok entries) s t
  | failed {h e a t'} (unpopulated : col.cache s = .unpopulated)
      (exchange : Exchanged env (col.kind.request s.connection) col.kind.outcome
        (s.authorization, t) h (.error e) (a, t')) :
      Consulted env col s t h (.error e) { s with authorization := a } t'
  | fetched {h views a t'} (unpopulated : col.cache s = .unpopulated)
      (exchange : Exchanged env (col.kind.request s.connection) col.kind.outcome
        (s.authorization, t) h (.ok views) (a, t')) :
      Consulted env col s t h (.ok (col.index views))
        (col.store { s with authorization := a } (.populated (col.index views))) t'

/-- Requests that fetch collections of a server, at most one each and in the order of a list. -/
def FetchedInOrder (c : Connection) (order : List EntityKind) (h : History) : Prop :=
  ∃ kinds, kinds.Sublist order ∧ List.Forall₂ (fun kind x => ∃ host token,
    Request.hostField? (c.url kind.collection) = some host ∧
      x.1 = (kind.form c host).withBearer token) kinds h

theorem FetchedInOrder.append {c : Connection} {order later : List EntityKind} {h more : History}
    (first : FetchedInOrder c order h) (rest : FetchedInOrder c later more) :
    FetchedInOrder c (order ++ later) (h ++ more) := by
  obtain ⟨kinds, hsub, hkinds⟩ := first
  obtain ⟨kinds', hsub', hkinds'⟩ := rest
  exact ⟨kinds ++ kinds', hsub.append hsub', List.rel_append hkinds hkinds'⟩

theorem FetchedInOrder.mono {c : Connection} {order wider : List EntityKind} {h : History}
    (fetched : FetchedInOrder c order h) (sub : order.Sublist wider) :
    FetchedInOrder c wider h := by
  obtain ⟨kinds, hsub, hkinds⟩ := fetched
  exact ⟨kinds, hsub.trans sub, hkinds⟩

theorem FetchedInOrder.method_eq_get {c : Connection} {order : List EntityKind} {h : History}
    (fetched : FetchedInOrder c order h) : ∀ x ∈ h, x.1.method = .get := by
  obtain ⟨kinds, -, hkinds⟩ := fetched
  induction hkinds with
  | nil => simp
  | cons head _ ih =>
      intro x hx
      rcases List.mem_cons.mp hx with rfl | hx
      · obtain ⟨host, token, -, hform⟩ := head
        rw [hform]
        rfl
      · exact ih x hx

namespace Session

variable (env : Surroundings)

/-- Fetching a collection is one exchange, which leaves the caches alone. -/
theorem fetch_exchanged (kind : EntityKind) (s : Session) (t : Traffic) :
    ∃ h result a t', fetch env kind kind.collection (s, t) =
        (result.mapError .http, { s with authorization := a }, t') ∧
      Exchanged env (kind.request s.connection) kind.outcome (s.authorization, t) h result
        (a, t') := by
  have target : ∃ url, Part.target url ∈ kind.request s.connection :=
    ⟨s.connection.url kind.collection, by simp [EntityKind.request]⟩
  obtain ⟨h, result, ⟨a, t'⟩, hsend, hexchange⟩ := Exchanged.of_send env target
    [.expect .success, .readJson Handler.documentStatus kind.parseViews fun views _ => views] []
    (s.authorization, t)
  refine ⟨h, result.map Prod.snd, a, t', ?_, hexchange.map fun reply => ?_⟩
  · simp only [EntityKind.request] at hsend
    simp only [fetch, Action.bind_apply, url_apply, authorized_apply, hsend]
    cases result <;> rfl
  · refine (conclude_document _ _ reply fun code hcode => ?_).symm
    have hvalue := (accepts_ofNats [200] code).mp hcode
    simp only [List.mem_singleton] at hvalue
    simp [StatusCode.isSuccess, hvalue]

/-- Posting a document is one exchange, which leaves the caches alone. -/
theorem postDocument_exchanged (e : Endpoint) (document : Json) (s : Session) (t : Traffic) :
    ∃ h result a t', postDocument env e document (s, t) =
        (result.mapError .http, { s with authorization := a }, t') ∧
      Exchanged env (documentRequest s.connection e document)
        (fun reply => (accepted .success reply).map fun _ => ()) (s.authorization, t) h result
        (a, t') := by
  have target : ∃ url, Part.target url ∈ documentRequest s.connection e document :=
    ⟨s.connection.url e, by simp [documentRequest]⟩
  obtain ⟨h, result, ⟨a, t'⟩, hsend, hexchange⟩ :=
    Exchanged.of_send env target [.expect .success] () (s.authorization, t)
  refine ⟨h, result.map Prod.snd, a, t', ?_, hexchange.map fun reply => ?_⟩
  · simp only [documentRequest] at hsend
    simp only [postDocument, Action.bind_apply, url_apply, authorized_apply, hsend]
    cases result <;> rfl
  · rw [conclude_expect]
    cases accepted .success reply <;> rfl

end Session

namespace Collection

variable {α : Type} (env : Surroundings)

/-- The entries of a collection are come by in one of the three ways. -/
theorem entries_consulted (col : Collection α) (s : Session) (t : Traffic) :
    ∃ h result s' t', col.entries env (s, t) = (result.mapError .http, s', t') ∧
      Consulted env col s t h result s' t' := by
  cases hcache : col.cache s with
  | populated known =>
      refine ⟨[], .ok known, s, t, ?_, Consulted.known hcache⟩
      simp only [entries, Session.cached, hcache, LookupCache.getOrPopulate_populated]
      rw [← hcache, col.store_cache]
      rfl
  | unpopulated =>
      obtain ⟨h, result, a, t', hfetch, hexchange⟩ := Session.fetch_exchanged env col.kind s t
      simp only [entries, Session.cached, hcache, LookupCache.getOrPopulate_unpopulated,
        Action.bind_apply, hfetch]
      cases result with
      | error e =>
          have hstore : col.store { s with authorization := a } .unpopulated =
              { s with authorization := a } := by
            rw [← hcache, ← col.cache_authorization s a, col.store_cache]
          refine ⟨h, .error e, _, t', ?_, Consulted.failed hcache hexchange⟩
          simp only [mapError_error, hstore]
      | ok views => exact ⟨h, .ok (col.index views), _, t', rfl, Consulted.fetched hcache hexchange⟩

end Collection

namespace Consulted

variable {α : Type} {env : Surroundings} {col : Collection α} {s s' : Session} {t t' : Traffic}
  {h : History} {result : Except HttpError (Dictionary α)}

theorem adds (consulted : Consulted env col s t h result s' t') :
    Adds env (s.authorization, t) (s'.authorization, t') h := by
  cases consulted with
  | known => exact Adds.refl _
  | failed _ exchange => exact exchange.adds
  | fetched _ exchange =>
      rw [col.authorization_store]
      exact exchange.adds

/-- The entries are at hand from then on. -/
theorem cache_eq {entries : Dictionary α}
    (consulted : Consulted env col s t h (.ok entries) s' t') :
    col.cache s' = .populated entries := by
  cases consulted with
  | known cached => exact cached
  | fetched => exact col.cache_store _ _

theorem fetchedInOrder (consulted : Consulted env col s t h result s' t') :
    FetchedInOrder s.connection [col.kind] h := by
  have single {result : Except HttpError (List EntityView)} {y : Authorization × Traffic}
      (exchange : Exchanged env (col.kind.request s.connection) col.kind.outcome
        (s.authorization, t) h result y) : FetchedInOrder s.connection [col.kind] h := by
    rcases exchange.fetched with ⟨rfl, -⟩ | ⟨host, token, reply, hhost, -, rfl, -⟩
    · exact ⟨[], by simp, .nil⟩
    · exact ⟨[col.kind], List.Sublist.refl _, .cons ⟨host, token.id, hhost, rfl⟩ .nil⟩
  cases consulted with
  | known => exact ⟨[], by simp, .nil⟩
  | failed _ exchange => exact single exchange
  | fetched _ exchange => exact single exchange

/-- What does not change with the authorization nor with the cache of the collection stays. -/
theorem frame {β : Type} {part : Session → β} (consulted : Consulted env col s t h result s' t')
    (authorization : ∀ s a, part { s with authorization := a } = part s)
    (store : ∀ s entries, part (col.store s entries) = part s) : part s' = part s := by
  cases consulted with
  | known => rfl
  | failed => exact authorization _ _
  | fetched => rw [store, authorization]

end Consulted

end Northbound
