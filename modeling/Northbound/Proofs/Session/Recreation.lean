import Northbound.Proofs.Session.Collections
import Northbound.Proofs.Session.Deployment

/-!
# Deploying a name again

A session looks at the instances once. A name that it found no instance of stays without one for it,
also after it has created the instance itself; so each later deployment of the name creates another
one.
-/

namespace Northbound

open Http

/-- Entries that are at hand are used as they are. -/
theorem Consulted.eq_of_cached {α : Type} {env : Surroundings} {col : Collection α}
    {s s' : Session} {t t' : Traffic} {h : History} {entries : Dictionary α}
    {result : Except HttpError (Dictionary α)} (consulted : Consulted env col s t h result s' t')
    (cached : col.cache s = .populated entries) :
    h = [] ∧ result = .ok entries ∧ s' = s ∧ t' = t := by
  cases consulted with
  | known cached' =>
      rw [cached, LookupCache.populated.injEq] at cached'
      exact ⟨rfl, by rw [cached'], rfl, rfl⟩
  | failed unpopulated => simp [cached] at unpopulated
  | fetched unpopulated => simp [cached] at unpopulated

namespace CreationCourse

variable {env : Surroundings} {content : NsInstanceContent} {s s' : Session} {t t' : Traffic}
  {lookups changes : History} {result : Except SessionError Unit}

/-- A creation posts nothing but an instance, of a descriptor and an account. -/
theorem changes_eq (course : CreationCourse env content s t lookups changes result s' t') :
    changes = [] ∧ (∃ e, result = .error e) ∨
      ∃ nsdId accountId host token reply,
        changes = [((documentForm s.connection .nsInstancesContent
          (content.createRequest nsdId accountId) host).withBearer token, reply)] := by
  cases course with
  | @posted _ _ _ _ nsdId _ _ _ _ accountId _ _ _ _ _ _ _ _ exchange =>
      rcases exchange.posted with ⟨rfl, e, rfl⟩ | ⟨host, token, reply, -, -, rfl, -⟩
      · exact Or.inl ⟨rfl, _, rfl⟩
      · exact Or.inr ⟨nsdId, accountId, host, token.id, reply, rfl⟩
  | _ => exact Or.inl ⟨rfl, _, rfl⟩

/-- A creation fetches the accounts after the descriptors, if at all. -/
theorem fetchedInOrder (course : CreationCourse env content s t lookups changes result s' t') :
    FetchedInOrder s.connection [.nsDescriptor, .vimAccount] lookups := by
  have first {h : History} {result : Except HttpError (Dictionary String)} {s₁ : Session}
      {t₁ : Traffic} (descriptors : Consulted env .descriptors s t h result s₁ t₁) :
      FetchedInOrder s.connection [.nsDescriptor, .vimAccount] h :=
    descriptors.fetchedInOrder.mono (by decide)
  cases course with
  | undescribed descriptors => exact first descriptors
  | noDescriptor descriptors => exact first descriptors
  | unlocated descriptors _ accounts => exact (descriptors.descriptors_then_accounts accounts).2
  | noAccount descriptors _ accounts => exact (descriptors.descriptors_then_accounts accounts).2
  | posted descriptors _ accounts => exact (descriptors.descriptors_then_accounts accounts).2

/-- After an instance was created, its descriptor and its account are at hand, and the server has a
host. -/
theorem known_of_ok (course : CreationCourse env content s t lookups changes result s' t')
    (created : result = .ok ()) :
    (∃ descriptors nsdId, s'.nsDescriptors = .populated descriptors ∧
      descriptors.find? content.nsdName = some nsdId) ∧
    (∃ accounts accountId, s'.vimAccounts = .populated accounts ∧
      accounts.find? content.vimAccountName = some accountId) ∧
    ∃ host, Request.hostField? (s.connection.url .nsInstancesContent) = some host := by
  cases course with
  | posted descriptors descriptor accounts account exchange =>
      obtain ⟨hdescriptors, -⟩ := descriptors.descriptors_then_accounts accounts
      refine ⟨⟨_, _, hdescriptors, descriptor⟩, ⟨_, _, accounts.cache_eq, account⟩, ?_⟩
      rcases exchange.posted with ⟨-, e, rfl⟩ | ⟨host, token, reply, hhost, -⟩
      · cases created
      · exact ⟨host, hhost⟩
  | _ => cases created

/-- With the descriptor and the account at hand, the instance is posted right away. -/
theorem of_known {descriptors accounts : Dictionary String} {nsdId accountId : String}
    (course : CreationCourse env content s t lookups changes result s' t')
    (described : s.nsDescriptors = .populated descriptors)
    (descriptor : descriptors.find? content.nsdName = some nsdId)
    (located : s.vimAccounts = .populated accounts)
    (account : accounts.find? content.vimAccountName = some accountId) :
    lookups = [] ∧ ∃ posting y,
      Exchanged env (documentRequest s.connection .nsInstancesContent
        (content.createRequest nsdId accountId)) Northbound.posted (s.authorization, t) changes
        posting y := by
  have fromDescriptors {h : History} {s₁ : Session} {t₁ : Traffic}
      {result : Except HttpError (Dictionary String)}
      (consulted : Consulted env .descriptors s t h result s₁ t₁) :
      h = [] ∧ result = .ok descriptors ∧ s₁ = s ∧ t₁ = t :=
    consulted.eq_of_cached described
  have fromAccounts {h : History} {s₁ : Session} {t₁ : Traffic}
      {result : Except HttpError (Dictionary String)}
      (consulted : Consulted env .accounts s t h result s₁ t₁) :
      h = [] ∧ result = .ok accounts ∧ s₁ = s ∧ t₁ = t :=
    consulted.eq_of_cached located
  cases course with
  | undescribed consulted =>
      obtain ⟨-, hresult, -, -⟩ := fromDescriptors consulted
      cases hresult
  | noDescriptor consulted missing =>
      obtain ⟨-, hresult, -, -⟩ := fromDescriptors consulted
      cases hresult
      simp [descriptor] at missing
  | unlocated consulted _ consulted' =>
      obtain ⟨-, -, rfl, rfl⟩ := fromDescriptors consulted
      obtain ⟨-, hresult, -, -⟩ := fromAccounts consulted'
      cases hresult
  | noAccount consulted _ consulted' missing =>
      obtain ⟨-, -, rfl, rfl⟩ := fromDescriptors consulted
      obtain ⟨-, hresult, -, -⟩ := fromAccounts consulted'
      cases hresult
      simp [account] at missing
  | posted consulted descriptor' consulted' account' exchange =>
      obtain ⟨rfl, hdescriptors, rfl, rfl⟩ := fromDescriptors consulted
      obtain ⟨rfl, haccounts, rfl, rfl⟩ := fromAccounts consulted'
      cases hdescriptors
      cases haccounts
      rw [descriptor, Option.some.injEq] at descriptor'
      rw [account, Option.some.injEq] at account'
      rw [descriptor', account']
      exact ⟨rfl, _, _, exchange⟩

end CreationCourse

namespace DeployCourse

variable {env : Surroundings} {content : NsInstanceContent} {s s' : Session} {t t' : Traffic}
  {lookups changes : History} {result : Except SessionError Deployment}

/-- If entries at hand bind the name to nothing, the instance is created. -/
theorem of_unbound {instances : Dictionary (List String)}
    (course : DeployCourse env content s t lookups changes result s' t')
    (cached : s.nsInstances = .populated instances)
    (unbound : (instances.find? content.name).getD [] = []) :
    ∃ creation, result = creation.map (fun _ => .created) ∧
      CreationCourse env content s t lookups changes creation s' t' := by
  have known {h : History} {s₁ : Session} {t₁ : Traffic}
      {result : Except HttpError (Dictionary (List String))}
      (consulted : Consulted env .instances s t h result s₁ t₁) :
      h = [] ∧ result = .ok instances ∧ s₁ = s ∧ t₁ = t :=
    consulted.eq_of_cached cached
  cases course with
  | unlisted consulted =>
      obtain ⟨-, hresult, -, -⟩ := known consulted
      cases hresult
  | ambiguous consulted bound several =>
      obtain ⟨-, hresult, -, -⟩ := known consulted
      cases hresult
      rw [unbound] at bound
      simp [← bound] at several
  | existing consulted bound =>
      obtain ⟨-, hresult, -, -⟩ := known consulted
      cases hresult
      simp [unbound] at bound
  | missing consulted _ creation =>
      obtain ⟨rfl, -, rfl, rfl⟩ := known consulted
      exact ⟨_, rfl, creation⟩

/-- A deployment that created an instance leaves entries that bind the name to nothing. -/
theorem unbound_of_created (course : DeployCourse env content s t lookups changes result s' t')
    (created : result = .ok .created) :
    (∃ instances, s'.nsInstances = .populated instances ∧
      (instances.find? content.name).getD [] = []) ∧
    ∃ s₁ t₁ h, s₁.connection = s.connection ∧
      CreationCourse env content s₁ t₁ h changes (.ok ()) s' t' := by
  cases course with
  | unlisted => cases created
  | ambiguous => cases created
  | @existing _ _ _ _ _ _ result => cases result <;> cases created
  | @missing _ _ _ _ _ _ creation _ _ consulted unbound course =>
      refine ⟨⟨_, course.nsInstances_eq.trans consulted.cache_eq, unbound⟩, ?_⟩
      cases creation with
      | error e => cases created
      | ok _ => exact ⟨_, _, _, consulted.adds.connection, course⟩

end DeployCourse

/-- No token can be had that a request could be authorized with. -/
def Authorization.Tokenless (env : Surroundings) (a : Authorization) (t : Traffic) : Prop :=
  ∃ token a' t', Acquired env a t token a' t' ∧
    ∀ token', token = .ok token' → Headers.value? ("Bearer " ++ token'.id) = none

/-- A request that can be drafted goes out unless no token can be had. -/
theorem Exchanged.tokenless {α : Type} {env : Surroundings} {parts : List Part}
    {read : Except TransportError Response → Except HttpError α} {x y : Authorization × Traffic}
    {result : Except HttpError α} {r : Request} (exchange : Exchanged env parts read x [] result y)
    (drafted : draft parts = .ok r) : x.1.Tokenless env x.2 := by
  cases exchange with
  | unsent failed =>
      generalize herror : (Except.error _ : Except HttpError Request) = q at failed
      cases failed with
      | undrafted failed => simp [drafted] at failed
      | @drafted r' _ _ _ _ acquired =>
          refine ⟨_, _, _, acquired, ?_⟩
          rintro token rfl
          cases hfield : Headers.value? ("Bearer " ++ token.id) with
          | none => rfl
          | some field =>
              have hauth : r'.authorized token.id = .ok _ :=
                Request.authorized_eq_ok_iff.mpr ⟨field, hfield, rfl⟩
              cases herror.trans hauth

namespace Session

variable {env : Surroundings} {c : Connection} {s : Session} {t : Traffic}

/-- What a fetch has brought is known throughout the rest of a run, and remembered. -/
theorem run_knows (ops : List Operation) (before : s.Remembers c (env.history [] t.sent)) :
    (run env ops (s, t)).2.1.Remembers c (env.history [] (run env ops (s, t)).2.2.sent) ∧
      ∀ kind views, firstViews c kind (env.history [] t.sent) = some views →
        firstViews c kind (env.history [] (run env ops (s, t)).2.2.sent) = some views := by
  induction ops generalizing s t with
  | nil => exact ⟨before, fun _ _ known => known⟩
  | cons op ops ih =>
      obtain ⟨hsettles, -⟩ := settles_perform env op before
      obtain ⟨hafter, hknows⟩ := ih hsettles.remembers
      refine ⟨hafter, fun kind views known => ?_⟩
      apply hknows
      exact hsettles.known known

/-- Entries that are at hand stay so throughout the rest of a run. -/
theorem run_keeps {α : Type} (col : Collection α) {entries : Dictionary α} (ops : List Operation)
    (read : ∀ {h s}, Remembers c h s → col.cache s = .ofViews col.index (firstViews c col.kind h))
    (before : s.Remembers c (env.history [] t.sent)) (cached : col.cache s = .populated entries) :
    col.cache (run env ops (s, t)).2.1 = .populated entries := by
  rw [read before] at cached
  cases hviews : firstViews c col.kind (env.history [] t.sent) with
  | none => simp [hviews, LookupCache.ofViews] at cached
  | some views =>
      obtain ⟨hafter, hknows⟩ := run_knows ops before
      rw [read hafter, hknows _ _ hviews, ← cached, hviews]

/-- The caches of a session bind the name of a content to no instance, but the names of its
descriptor and account to IDs, on a server that has a host. -/
structure Unaware (s : Session) (content : NsInstanceContent) : Prop where
  instances : ∃ entries, s.nsInstances = .populated entries ∧
    (entries.find? content.name).getD [] = []
  descriptor : ∃ entries nsdId, s.nsDescriptors = .populated entries ∧
    entries.find? content.nsdName = some nsdId
  account : ∃ entries accountId, s.vimAccounts = .populated entries ∧
    entries.find? content.vimAccountName = some accountId
  host : ∃ host, Request.hostField? (s.connection.url .nsInstancesContent) = some host

namespace Unaware

variable {content first second : NsInstanceContent}

/-- A session that has created an instance is unaware of it. -/
theorem of_created (created : (deploy env content (s, t)).1 = .ok .created) :
    (deploy env content (s, t)).2.1.Unaware content := by
  obtain ⟨_, _, result, s', t', hrun, course, -⟩ := deploy_course env content s t
  rw [hrun] at created ⊢
  obtain ⟨hinstances, s₁, t₁, h, hserver, creation⟩ := course.unbound_of_created created
  obtain ⟨⟨entries, nsdId, hdescriptor⟩, ⟨entries', accountId, haccount⟩, host, hhost⟩ :=
    creation.known_of_ok rfl
  refine ⟨hinstances, ⟨entries, nsdId, hdescriptor⟩, ⟨entries', accountId, haccount⟩, host, ?_⟩
  have hserver' : s'.connection = s₁.connection := creation.adds.connection
  rw [hserver', hhost]

/-- It stays so throughout the rest of a run. -/
theorem run (unaware : s.Unaware content) (ops : List Operation)
    (before : s.Remembers c (env.history [] t.sent)) :
    (run env ops (s, t)).2.1.Unaware content := by
  obtain ⟨⟨instances, hinstances, hunbound⟩, ⟨descriptors, nsdId, hdescriptors, hdescriptor⟩,
    ⟨accounts, accountId, haccounts, haccount⟩, host, hhost⟩ := unaware
  refine ⟨⟨instances, ?_, hunbound⟩, ⟨descriptors, nsdId, ?_, hdescriptor⟩,
    ⟨accounts, accountId, ?_, haccount⟩, host, ?_⟩
  · exact run_keeps .instances ops Remembers.instances before hinstances
  · exact run_keeps .descriptors ops Remembers.descriptors before hdescriptors
  · exact run_keeps .accounts ops Remembers.accounts before haccounts
  · obtain ⟨hafter, -⟩ := run_knows ops before
    rw [hafter.server, ← before.server, hhost]

/-- An unaware session creates an instance, whether there is one by now or not. -/
theorem deploy (unaware : s.Unaware first) (env : Surroundings) (t : Traffic)
    (same : second.name = first.name) :
    ∃ lookups changes creation s' t',
      deploy env second (s, t) = (creation.map fun _ => .created, s', t') ∧
      CreationCourse env second s t lookups changes creation s' t' ∧
      (second.nsdName = first.nsdName → second.vimAccountName = first.vimAccountName →
        lookups = [] ∧ (changes = [] → s.authorization.Tokenless env t)) := by
  obtain ⟨⟨instances, hinstances, hunbound⟩, ⟨descriptors, nsdId, hdescriptors, hdescriptor⟩,
    ⟨accounts, accountId, haccounts, haccount⟩, host, hhost⟩ := unaware
  obtain ⟨lookups, changes, result, s', t', hrun, course, -⟩ := deploy_course env second s t
  obtain ⟨creation, rfl, hcreation⟩ := course.of_unbound hinstances (by rw [same, hunbound])
  refine ⟨lookups, changes, creation, s', t', hrun, hcreation, ?_⟩
  intro sameDescriptor sameAccount
  rw [← sameDescriptor] at hdescriptor
  rw [← sameAccount] at haccount
  obtain ⟨hlookups, posting, y, exchange⟩ :=
    hcreation.of_known hdescriptors hdescriptor haccounts haccount
  refine ⟨hlookups, ?_⟩
  rintro rfl
  exact exchange.tokenless (draft_documentRequest_eq_ok_iff.mpr ⟨host, hhost, rfl⟩)

end Unaware

/-- Whether a request creates an instance. -/
def isCreation (c : Connection) (q : Request) : Bool :=
  q.method = .post ∧ q.url? = some (c.url .nsInstancesContent)

/-- The requests of a deployment that create instances. -/
def creations (env : Surroundings) (content : NsInstanceContent) (st : Session × Traffic) :
    List Request :=
  ((Session.deploy env content st).2.2.sent.drop st.2.sent.length).filter
    (isCreation st.1.connection)

/-- A token request creates no instance. -/
theorem isCreation_post {a : Authorization} {post : Request} (h : a.post? = some post) :
    isCreation a.connection post = false := by
  obtain ⟨host, rfl⟩ := Authorization.post?_eq_form h
  have hpath : a.connection.url .tokens ≠ a.connection.url .nsInstancesContent := by
    intro h
    have hpath := congrArg Url.path h
    simp only [Connection.url, Url.setPath, UrlPath.segments.injEq] at hpath
    generalize Url.isSpecial a.connection.baseUrl.scheme = special at hpath
    revert hpath
    cases special <;> decide
  simp [isCreation, Authorization.form, hpath]

/-- Among the requests sent, only changes create instances. -/
theorem filter_isCreation {x y : Authorization × Traffic} {lookups changes : History}
    {order : List EntityKind} (adds : Adds env x y (lookups ++ changes))
    (fetched : FetchedInOrder x.1.connection order lookups)
    (creating : ∀ change ∈ changes, isCreation x.1.connection change.1 = true) :
    (y.2.sent.drop x.2.sent.length).filter (isCreation x.1.connection) =
      changes.map Prod.fst := by
  obtain ⟨new, hsent, hown⟩ := adds.sent
  have hlookups : lookups.filter (fun q => isCreation x.1.connection q.1) = [] := by
    rw [List.filter_eq_nil_iff]
    intro q hq
    simp [isCreation, fetched.method_eq_get q hq]
  have hposts : ∀ q ∈ env.history x.2.sent new, isCreation x.1.connection q.1 =
      (decide (x.1.post? ≠ some q.1) && isCreation x.1.connection q.1) := by
    intro q _
    by_cases hpost : x.1.post? = some q.1
    · simp [hpost, isCreation_post hpost]
    · simp [hpost]
  calc (y.2.sent.drop x.2.sent.length).filter (isCreation x.1.connection)
    _ = new.filter (isCreation x.1.connection) := by rw [hsent, List.drop_left]
    _ = ((env.history x.2.sent new).filter fun q => isCreation x.1.connection q.1).map
          Prod.fst := by
        conv_lhs => rw [← env.map_fst_history x.2.sent new]
        rw [List.filter_map]
        rfl
    _ = ((x.1.own (env.history x.2.sent new)).filter fun q => isCreation x.1.connection q.1).map
          Prod.fst := by
        rw [Authorization.own, List.filter_filter, List.filter_congr hposts]
        simp only [Bool.and_comm]
    _ = changes.map Prod.fst := by
        rw [hown, List.filter_append, hlookups, List.nil_append, List.filter_eq_self.mpr creating]

/-- A deployment of a name that an earlier one has created an instance for goes the same way again:
it creates an instance of a descriptor and an account, or fails before. If these go by the same
names as before, it fetches nothing, and only a token can be missing. -/
theorem deploy_creates_again (env : Surroundings) (c : Connection) (user : Credentials)
    (before between : List Operation) (first second : NsInstanceContent)
    (same : second.name = first.name)
    (created : (Session.deploy env first (Session.run env before (start c user, {})).2).1 =
      .ok .created) :
    let st₁ := (Session.run env before (start c user, {})).2
    let st₂ := (Session.run env between (Session.deploy env first st₁).2).2
    ∃ lookups changes creation s' t',
      Session.deploy env second st₂ = (creation.map fun _ => .created, s', t') ∧
      CreationCourse env second st₂.1 st₂.2 lookups changes creation s' t' ∧
      Adds env (st₂.1.authorization, st₂.2) (s'.authorization, t') (lookups ++ changes) ∧
      creations env second st₂ = changes.map Prod.fst ∧
      (changes = [] ∧ (∃ e, creation = .error e) ∨
        ∃ nsdId accountId host token reply,
          changes = [((documentForm c .nsInstancesContent
            (second.createRequest nsdId accountId) host).withBearer token, reply)]) ∧
      (second.nsdName = first.nsdName → second.vimAccountName = first.vimAccountName →
        lookups = [] ∧ (changes = [] → st₂.1.authorization.Tokenless env st₂.2)) := by
  intro st₁ st₂
  have hstart : st₁.1.Remembers c (env.history [] st₁.2.sent) :=
    (run_knows before (remembers_start c user)).1
  have hremembers := (settles_deploy env first hstart).remembers
  have hserver : st₂.1.connection = c := (run_knows between hremembers).1.server
  have unaware : st₂.1.Unaware first := (Unaware.of_created created).run between hremembers
  obtain ⟨lookups, changes, creation, s', t', hrun, course, hsame⟩ :=
    unaware.deploy env st₂.2 same
  have hchanges := course.changes_eq
  refine ⟨lookups, changes, creation, s', t', hrun, course, course.adds, ?_, hserver ▸ hchanges,
    hsame⟩
  have hcreations := filter_isCreation course.adds course.fetchedInOrder ?_
  · rw [creations, hrun]
    exact hcreations
  · rcases hchanges with ⟨rfl, -⟩ | ⟨nsdId, accountId, host, token, reply, rfl⟩
    · simp
    · intro change hchange
      rw [List.mem_singleton.mp hchange]
      simp only [isCreation, documentForm, Request.withBearer, Session.connection]
      simp

/-- A plain connection to a server. -/
def sampleConnection : Connection where
  address := {
    host := "osm"
    port := 8008
    httpBase := Address.baseUrl "http" (.domain "osm") 8008
    httpsBase := Address.baseUrl "https" (.domain "osm") 8008 }
  secure := false

/-- A server with a descriptor, an account and the instances that were created on it. -/
def sampleServer : Surroundings where
  answer past q := .ok {
    status := .ok
    body := { bytes := utf8 (
      if q.url? = some (sampleConnection.url .tokens) then "\x7b\"id\": \"t\", \"expires\": 9\x7d"
      else if q.url? = some (sampleConnection.url .nsDescriptors) then
        "[\x7b\"_id\": \"d1\", \"id\": \"nsd\"\x7d]"
      else if q.url? = some (sampleConnection.url .vimAccounts) then
        "[\x7b\"_id\": \"v1\", \"name\": \"vim\"\x7d]"
      else if past.any (isCreation sampleConnection) then
        "[\x7b\"_id\": \"i1\", \"name\": \"ns\"\x7d]"
      else "[]") } }
  clock _ := .zero

/-- An instance of that descriptor on that account. -/
def sampleContent : NsInstanceContent where
  name := "ns"
  nsdName := "nsd"
  vnfName := "vnf"
  vimAccountName := "vim"
  kduName := "kdu"

/-- A new session with that server. -/
def sampleStart : Session × Traffic := (start sampleConnection ⟨"u", "p", "q"⟩, {})

/-- What two deployments in a row do on that server: the first one creates the instance, and the
second one sends a request that creates one. -/
theorem deploy_twice_sample :
    ((deploy sampleServer sampleContent sampleStart).1 matches .ok .created) = true ∧
      (creations sampleServer sampleContent
        (deploy sampleServer sampleContent sampleStart).2).length = 1 := by
  decide +kernel

theorem created_sample : (deploy sampleServer sampleContent sampleStart).1 = .ok .created := by
  obtain ⟨hcreated, -⟩ := deploy_twice_sample
  generalize (deploy sampleServer sampleContent sampleStart).1 = result at hcreated ⊢
  rcases result with e | _ | id
  · cases hcreated
  · rfl
  · cases hcreated

/-- The server lists the instance then, so a new session would upgrade it. -/
example : ((deploy sampleServer sampleContent
    (sampleStart.1, (deploy sampleServer sampleContent sampleStart).2.2)).1 matches
      .ok (.upgraded "i1")) = true := by
  decide +kernel

/-- The second of two deployments of one content creates an instance without a look at the server.
-/
theorem deploy_creates_again_sample :
    (deploy sampleServer sampleContent sampleStart).1 = .ok .created ∧
    ∃ (lookups changes : History) (creation : Except SessionError Unit) (st : Session × Traffic),
      deploy sampleServer sampleContent (deploy sampleServer sampleContent sampleStart).2 =
        (creation.map fun _ => .created, st) ∧ lookups = [] ∧ changes ≠ [] := by
  refine ⟨created_sample, ?_⟩
  obtain ⟨lookups, changes, creation, s', t', hrun, -, -, hcreations, -, hsame⟩ :=
    deploy_creates_again sampleServer sampleConnection ⟨"u", "p", "q"⟩ [] [] sampleContent
      sampleContent rfl created_sample
  refine ⟨lookups, changes, creation, (s', t'), hrun, (hsame rfl rfl).1, ?_⟩
  rintro rfl
  cases deploy_twice_sample.2.symm.trans (congrArg List.length hcreations)

/-- After a deployment that has created an instance, deployments of its name create none. -/
def CreatesOnce (env : Surroundings) (c : Connection) (user : Credentials)
    (before between : List Operation) (first second : NsInstanceContent) : Prop :=
  let st := (run env before (start c user, {})).2
  second.name = first.name → (deploy env first st).1 = .ok .created →
    creations env second (run env between (deploy env first st).2).2 = []

/-- An instance that is deployed twice in a session is created twice. -/
theorem not_createsOnce_sample : ¬CreatesOnce sampleServer sampleConnection ⟨"u", "p", "q"⟩ [] []
    sampleContent sampleContent := by
  intro once
  have hnone := once rfl created_sample
  cases deploy_twice_sample.2.symm.trans (congrArg List.length hnone)

end Session

end Northbound
