import Northbound.Proofs.Session.Consulted

/-!
# The deployment protocol

A deployment looks up the name among the instances. An instance that is found is upgraded, without a
look at anything else; if there is none, the descriptor and the account are looked up in this order,
and an instance is created of the two. Nothing else is posted, and nothing at all unless every name
that is needed is bound to a single ID.
-/

namespace Northbound

open Http

theorem mapError_eq_ok_iff {ε ε' α : Type} {f : ε → ε'} {x : Except ε α} {a : α} :
    x.mapError f = .ok a ↔ x = .ok a := by
  cases x <;> simp

/-- What a post that expects success makes of the answer. -/
def posted (reply : Except TransportError Response) : Except HttpError Unit :=
  (accepted .success reply).map fun _ => ()

/-- How the creation of an instance goes: what it adds to the history, fetches apart from changes,
the result, and what becomes of the session and the traffic. -/
inductive CreationCourse (env : Surroundings) (content : NsInstanceContent) (s : Session)
    (t : Traffic) : History → History → Except SessionError Unit → Session → Traffic → Prop
  | undescribed {h e s' t'} (descriptors : Consulted env .descriptors s t h (.error e) s' t') :
      CreationCourse env content s t h [] (.error (.http e)) s' t'
  | noDescriptor {h entries s' t'}
      (descriptors : Consulted env .descriptors s t h (.ok entries) s' t')
      (missing : entries.find? content.nsdName = none) :
      CreationCourse env content s t h [] (.error (.notFound .nsDescriptor content.nsdName)) s' t'
  | unlocated {h entries s₁ t₁ nsdId more e s' t'}
      (descriptors : Consulted env .descriptors s t h (.ok entries) s₁ t₁)
      (descriptor : entries.find? content.nsdName = some nsdId)
      (accounts : Consulted env .accounts s₁ t₁ more (.error e) s' t') :
      CreationCourse env content s t (h ++ more) [] (.error (.http e)) s' t'
  | noAccount {h entries s₁ t₁ nsdId more entries' s' t'}
      (descriptors : Consulted env .descriptors s t h (.ok entries) s₁ t₁)
      (descriptor : entries.find? content.nsdName = some nsdId)
      (accounts : Consulted env .accounts s₁ t₁ more (.ok entries') s' t')
      (missing : entries'.find? content.vimAccountName = none) :
      CreationCourse env content s t (h ++ more) []
        (.error (.notFound .vimAccount content.vimAccountName)) s' t'
  | posted {h entries s₁ t₁ nsdId more entries' s₂ t₂ accountId changes result a t'}
      (descriptors : Consulted env .descriptors s t h (.ok entries) s₁ t₁)
      (descriptor : entries.find? content.nsdName = some nsdId)
      (accounts : Consulted env .accounts s₁ t₁ more (.ok entries') s₂ t₂)
      (account : entries'.find? content.vimAccountName = some accountId)
      (exchange : Exchanged env (documentRequest s.connection .nsInstancesContent
        (content.createRequest nsdId accountId)) Northbound.posted (s₂.authorization, t₂) changes
        result (a, t')) :
      CreationCourse env content s t (h ++ more) changes (result.mapError .http)
        { s₂ with authorization := a } t'

/-- How a deployment goes. -/
inductive DeployCourse (env : Surroundings) (content : NsInstanceContent) (s : Session)
    (t : Traffic) :
    History → History → Except SessionError Deployment → Session → Traffic → Prop
  | unlisted {h e s' t'} (instances : Consulted env .instances s t h (.error e) s' t') :
      DeployCourse env content s t h [] (.error (.http e)) s' t'
  | ambiguous {h entries ids s' t'}
      (instances : Consulted env .instances s t h (.ok entries) s' t')
      (bound : (entries.find? content.name).getD [] = ids) (several : 1 < ids.length) :
      DeployCourse env content s t h [] (.error (.ambiguous content.name ids)) s' t'
  | existing {h entries s₁ t₁ id changes result a t'}
      (instances : Consulted env .instances s t h (.ok entries) s₁ t₁)
      (bound : (entries.find? content.name).getD [] = [id])
      (exchange : Exchanged env (documentRequest s.connection (.nsInstanceAction id)
        content.upgradeRequest) Northbound.posted (s₁.authorization, t₁) changes result (a, t')) :
      DeployCourse env content s t h changes ((result.map fun _ => .upgraded id).mapError .http)
        { s₁ with authorization := a } t'
  | missing {h entries s₁ t₁ more changes result s' t'}
      (instances : Consulted env .instances s t h (.ok entries) s₁ t₁)
      (unbound : (entries.find? content.name).getD [] = [])
      (creation : CreationCourse env content s₁ t₁ more changes result s' t') :
      DeployCourse env content s t (h ++ more) changes (result.map fun _ => .created) s' t'

namespace EntityView

/-- A name is bound to the IDs of all items that go by it, in the order of the items. -/
theorem find?_idsByName (views : List EntityView) (name : String) :
    ((idsByName views).find? name).getD [] =
      (views.filter fun v => v.name = name).map EntityView.id := by
  have step (d : Dictionary (List String)) :
      ((views.foldl (fun d v => d.insert v.name ((d.find? v.name).getD [] ++ [v.id])) d).find?
        name).getD [] =
      (d.find? name).getD [] ++ (views.filter fun v => v.name = name).map EntityView.id := by
    induction views generalizing d with
    | nil => simp
    | cons v views ih =>
        rw [List.foldl_cons, ih]
        by_cases hv : v.name = name
        · subst hv
          simp [Dictionary.find?_insert_self]
        · simp [Dictionary.find?_insert_of_ne (Ne.symm hv), hv]
  exact step []

end EntityView

namespace Exchanged

variable {env : Surroundings} {parts : List Part} {x y : Authorization × Traffic} {h : History}

/-- A post is done exactly if it was answered with success. -/
theorem posted_eq_ok_iff {result : Except HttpError Unit}
    (exchange : Exchanged env parts Northbound.posted x h result y) :
    result = .ok () ↔ ∃ q r, h = [(q, .ok r)] ∧ r.status.isSuccess = true := by
  cases exchange with
  | unsent => simp
  | @answered q a t prepared =>
      cases env.answer t.sent q with
      | error e => simp [Northbound.posted, accepted, Except.map]
      | ok r =>
          by_cases hs : StatusExpectation.success.accepts r.status = true
          · have hsuccess : r.status.isSuccess = true := hs
            simp [Northbound.posted, accepted, hs, hsuccess, Except.map]
          · have hfailure : ¬r.status.isSuccess = true := hs
            simp [Northbound.posted, accepted, hs, hfailure, Except.map]

end Exchanged

/-- Accounts are fetched after descriptors, whose entries stay at hand. -/
theorem Consulted.descriptors_then_accounts {env : Surroundings} {s s₁ s₂ : Session}
    {t t₁ t₂ : Traffic} {h more : History} {entries : Dictionary String}
    {result : Except HttpError (Dictionary String)}
    (descriptors : Consulted env .descriptors s t h (.ok entries) s₁ t₁)
    (accounts : Consulted env .accounts s₁ t₁ more result s₂ t₂) :
    s₂.nsDescriptors = .populated entries ∧
      FetchedInOrder s.connection [.nsDescriptor, .vimAccount] (h ++ more) := by
  have hserver : s₁.connection = s.connection := descriptors.adds.connection
  constructor
  · calc s₂.nsDescriptors
      _ = s₁.nsDescriptors := accounts.frame (fun _ _ => rfl) fun _ _ => rfl
      _ = .populated entries := descriptors.cache_eq
  · have hmore := accounts.fetchedInOrder
    rw [hserver] at hmore
    exact descriptors.fetchedInOrder.append hmore

namespace CreationCourse

variable {env : Surroundings} {content : NsInstanceContent} {s s' : Session} {t t' : Traffic}
  {lookups changes : History} {result : Except SessionError Unit}

theorem adds (course : CreationCourse env content s t lookups changes result s' t') :
    Adds env (s.authorization, t) (s'.authorization, t') (lookups ++ changes) := by
  cases course with
  | undescribed descriptors => simpa using descriptors.adds
  | noDescriptor descriptors => simpa using descriptors.adds
  | unlocated descriptors _ accounts => simpa using descriptors.adds.trans accounts.adds
  | noAccount descriptors _ accounts => simpa using descriptors.adds.trans accounts.adds
  | posted descriptors _ accounts _ exchange =>
      exact (descriptors.adds.trans accounts.adds).trans exchange.adds

/-- The creation of an instance does not touch the cache of the instances. -/
theorem nsInstances_eq (course : CreationCourse env content s t lookups changes result s' t') :
    s'.nsInstances = s.nsInstances := by
  have described {h : History} {entries : Except HttpError (Dictionary String)} {s s' : Session}
      {t t' : Traffic} (descriptors : Consulted env .descriptors s t h entries s' t') :
      s'.nsInstances = s.nsInstances :=
    descriptors.frame (fun _ _ => rfl) fun _ _ => rfl
  have located {h : History} {entries : Except HttpError (Dictionary String)} {s s' : Session}
      {t t' : Traffic} (accounts : Consulted env .accounts s t h entries s' t') :
      s'.nsInstances = s.nsInstances :=
    accounts.frame (fun _ _ => rfl) fun _ _ => rfl
  cases course with
  | undescribed descriptors => exact described descriptors
  | noDescriptor descriptors => exact described descriptors
  | unlocated descriptors _ accounts => exact (located accounts).trans (described descriptors)
  | noAccount descriptors _ accounts => exact (located accounts).trans (described descriptors)
  | posted descriptors _ accounts => exact (located accounts).trans (described descriptors)

theorem eq_ok_iff (course : CreationCourse env content s t lookups changes result s' t') :
    result = .ok () ↔ ∃ q r, changes = [(q, .ok r)] ∧ r.status.isSuccess = true := by
  cases course with
  | posted _ _ _ _ exchange =>
      rw [← exchange.posted_eq_ok_iff]
      exact mapError_eq_ok_iff
  | _ => simp

end CreationCourse

namespace DeployCourse

variable {env : Surroundings} {content : NsInstanceContent} {s s' : Session} {t t' : Traffic}
  {lookups changes : History} {result : Except SessionError Deployment}

/-- The requests of a deployment are all that goes out, token requests aside. -/
theorem adds (course : DeployCourse env content s t lookups changes result s' t') :
    Adds env (s.authorization, t) (s'.authorization, t') (lookups ++ changes) := by
  cases course with
  | unlisted instances => simpa using instances.adds
  | ambiguous instances => simpa using instances.adds
  | existing instances _ exchange => exact instances.adds.trans exchange.adds
  | missing instances _ creation =>
      rw [List.append_assoc]
      exact instances.adds.trans creation.adds

end DeployCourse

namespace Session

/-- The session with other caches of descriptors and accounts. -/
def withCatalog (s : Session) (descriptors accounts : LookupCache String) : Session :=
  { s with nsDescriptors := descriptors, vimAccounts := accounts }

/-- An operation that neither looks at the caches of descriptors and accounts nor changes them. -/
def Oblivious {α : Type} (act : SessionAction α) : Prop := ∀ s t descriptors accounts,
  act (s.withCatalog descriptors accounts, t) =
    ((act (s, t)).1, (act (s, t)).2.1.withCatalog descriptors accounts, (act (s, t)).2.2)

namespace Oblivious

variable {α β : Type} (env : Surroundings)

theorem bind {act : SessionAction α} {f : α → SessionAction β} (h : Oblivious act)
    (next : ∀ x, Oblivious (f x)) : Oblivious (act >>= f) := by
  intro s t descriptors accounts
  simp only [Action.bind_apply, h s t]
  rcases act (s, t) with ⟨e | x, s', t'⟩
  · rfl
  · exact next x s' t' _ _

theorem ofExcept (result : Except SessionError α) : Oblivious (Action.ofExcept result) :=
  fun _ _ _ _ => rfl

theorem authorized (act : Action HttpError (Authorization × Traffic) α) :
    Oblivious (authorized act) := by
  intro s t descriptors accounts
  simp only [authorized_apply]
  rfl

theorem url (e : Endpoint) : Oblivious (url e) := fun _ _ _ _ => rfl

theorem fetch (kind : EntityKind) (e : Endpoint) : Oblivious (fetch env kind e) :=
  (url e).bind fun _ => (authorized _).bind fun _ => ofExcept (.ok _)

theorem postDocument (e : Endpoint) (document : Json) : Oblivious (postDocument env e document) :=
  (url e).bind fun _ => (authorized _).bind fun _ => ofExcept (.ok _)

theorem instanceIds : Oblivious (instanceIds env) := by
  intro s t descriptors accounts
  have hsame : (s.withCatalog descriptors accounts).nsInstances = s.nsInstances := rfl
  cases hcache : s.nsInstances with
  | populated entries =>
      simp only [Session.instanceIds, cached, withCatalog, hcache,
        LookupCache.getOrPopulate_populated]
  | unpopulated =>
      have hfetch := fetch env .nsInstance .nsInstancesContent s t descriptors accounts
      simp only [Session.instanceIds, cached, hsame, hcache,
        LookupCache.getOrPopulate_unpopulated, Action.bind_apply, hfetch]
      rcases Session.fetch env .nsInstance .nsInstancesContent (s, t) with ⟨e | x, s', t'⟩ <;> rfl

theorem lookupInstance (name : String) : Oblivious (lookupInstance env name) := by
  rw [lookupInstance_eq]
  exact (instanceIds env).bind fun _ => ofExcept _

end Oblivious

variable (env : Surroundings) (content : NsInstanceContent) (s : Session) (t : Traffic)

/-- A creation goes one of the ways there are. -/
theorem createInstance_course :
    ∃ h changes result s' t', createInstance env content (s, t) = (result, s', t') ∧
      CreationCourse env content s t h changes result s' t' := by
  obtain ⟨h, descriptors, s₁, t₁, hrun, hconsulted⟩ :=
    Collection.descriptors.entries_consulted env s t
  have hrun : descriptorIds env (s, t) = _ := hrun
  simp only [createInstance, lookupDescriptor_eq, lookupAccount_eq, Action.bind_apply, hrun]
  cases descriptors with
  | error e => exact ⟨_, _, _, _, _, rfl, .undescribed hconsulted⟩
  | ok entries =>
      simp only [mapError_ok, Action.ofExcept, idIn]
      cases hfind : entries.find? content.nsdName with
      | none => exact ⟨_, _, _, _, _, rfl, .noDescriptor hconsulted hfind⟩
      | some nsdId =>
          obtain ⟨more, accounts, s₂, t₂, hrun', haccounts⟩ :=
            Collection.accounts.entries_consulted env s₁ t₁
          have hrun' : accountIds env (s₁, t₁) = _ := hrun'
          simp only [hrun']
          cases accounts with
          | error e => exact ⟨_, _, _, _, _, rfl, .unlocated hconsulted hfind haccounts⟩
          | ok entries' =>
              simp only [mapError_ok]
              cases hfind' : entries'.find? content.vimAccountName with
              | none => exact ⟨_, _, _, _, _, rfl, .noAccount hconsulted hfind haccounts hfind'⟩
              | some accountId =>
                  obtain ⟨changes, result, a, t', hpost, hexchange⟩ :=
                    postDocument_exchanged env .nsInstancesContent
                      (content.createRequest nsdId accountId) s₂ t₂
                  have hserver : s₂.connection = s.connection :=
                    (haccounts.adds.connection).trans hconsulted.adds.connection
                  rw [hserver] at hexchange
                  exact ⟨_, _, _, _, _, hpost, .posted hconsulted hfind haccounts hfind' hexchange⟩

/-- A deployment goes one of the ways there are. If its name is not found, then it is bound to
nothing in the entries that are left. -/
theorem deploy_course :
    ∃ h changes result s' t', deploy env content (s, t) = (result, s', t') ∧
      DeployCourse env content s t h changes result s' t' ∧
      ∀ kind missing, (lookupInstance env content.name (s, t)).1 = .error (.notFound kind missing) →
        ∃ instances, s'.nsInstances = .populated instances ∧
          (instances.find? content.name).getD [] = [] := by
  obtain ⟨h, instances, s₁, t₁, hrun, hconsulted⟩ :=
    Collection.instances.entries_consulted env s t
  have hrun : instanceIds env (s, t) = _ := hrun
  simp only [deploy, lookupInstance_eq, Action.bind_apply, hrun]
  cases instances with
  | error e => exact ⟨_, _, _, _, _, rfl, .unlisted hconsulted, fun _ _ h => by cases h⟩
  | ok entries =>
      simp only [mapError_ok, Action.ofExcept, instanceIn]
      rcases hbound : (entries.find? content.name).getD [] with _ | ⟨id, _ | ⟨id', ids⟩⟩
      · obtain ⟨more, changes, result, s', t', hcreate, hcourse⟩ :=
          createInstance_course env content s₁ t₁
        simp only [Action.map_apply, hcreate]
        refine ⟨_, _, _, _, _, rfl, .missing hconsulted hbound hcourse, fun _ _ _ => ?_⟩
        exact ⟨entries, hcourse.nsInstances_eq.trans hconsulted.cache_eq, hbound⟩
      · obtain ⟨changes, result, a, t', hpost, hexchange⟩ :=
          postDocument_exchanged env (.nsInstanceAction id) content.upgradeRequest s₁ t₁
        have hserver : s₁.connection = s.connection := hconsulted.adds.connection
        rw [hserver] at hexchange
        simp only [upgradeInstance, Action.map_apply, hpost]
        refine ⟨_, _, _, _, _, ?_, .existing hconsulted hbound hexchange, fun _ _ h => by cases h⟩
        cases result <;> rfl
      · exact ⟨_, _, _, _, _, rfl, .ambiguous hconsulted hbound (by simp), fun _ _ h => by cases h⟩

end Session

end Northbound
