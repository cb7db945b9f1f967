import Northbound.Proofs.Connection.Endpoints
import Northbound.Proofs.Session.Alike
import Northbound.Proofs.Session.Exchanged
import Northbound.Proofs.Session.Lookup
import Northbound.Session.Run

/-!
# Secrets stay where they belong

Where two runs differ only in the password and in the IDs of the tokens, they get the same results,
send the same requests and show the same debugging texts, apart from the places that secrets are
meant for. Each operation is confined in this sense, because what it is made of is; a run is by
induction on its operations.
-/

namespace Northbound

open Http

namespace Authorization

variable {c : Connection} {env env' : Surroundings} {a a' : Authorization} {t t' : Traffic}

/-- A token is acquired from what is at hand, or from the reply to a token request. -/
theorem accessToken_apply (env : Surroundings) (a : Authorization) (t : Traffic) :
    accessToken env (a, t) =
      match a.token?.filter fun token => !token.hasExpiredAt (env.clock t.readings) with
      | some token => (.ok token, a, a.checked t)
      | none =>
        match draft a.tokenRequest with
        | .error e => (.error e, a, a.checked t)
        | .ok post =>
          (Token.ofReply (env.answer t.sent post), a.keep (Token.ofReply (env.answer t.sent post)),
            (a.checked t).record post) := by
  simp only [accessToken, freshToken?_apply, requestToken_apply]
  cases a.token?.filter fun token => !token.hasExpiredAt (env.clock t.readings) with
  | some token => rfl
  | none =>
    cases draft a.tokenRequest with
    | error e => rfl
    | ok post =>
      simp only [sent_checked]
      cases Token.ofReply (env.answer t.sent post) <;> rfl

/-- A token is acquired alike: with the same failure or with tokens that are alike. -/
theorem accessToken_alike (clock : env.clock = env'.clock) (h : a.Alike c a')
    (traffic : t.Alike c t')
    (replies : RepliesAlike c env env' (accessToken env (a, t)).2.2.sent
      (accessToken env' (a', t')).2.2.sent) :
    ResultsAlike Token.Alike (accessToken env (a, t)).1 (accessToken env' (a', t')).1 ∧
      (accessToken env (a, t)).2.1.Alike c (accessToken env' (a', t')).2.1 ∧
      (accessToken env (a, t)).2.2.Alike c (accessToken env' (a', t')).2.2 := by
  have fresh := Token.filter_alike h.token (env.clock t.readings)
  have checked := h.checked traffic
  revert replies
  rw [accessToken_apply, accessToken_apply, ← clock, ← traffic.readings]
  generalize
    (a.token?.filter fun token => !token.hasExpiredAt (env.clock t.readings)) = x at fresh ⊢
  generalize
    (a'.token?.filter fun token => !token.hasExpiredAt (env.clock t.readings)) = y at fresh ⊢
  cases fresh with
  | some alike =>
    intro
    exact ⟨.ok alike, h, checked⟩
  | none =>
    have drafts := h.draft
    generalize draft a.tokenRequest = p, draft a'.tokenRequest = p' at drafts ⊢
    cases drafts with
    | error e =>
      intro
      exact ⟨.error e, h, checked⟩
    | @ok post post' same =>
      intro replies
      have answers := replies.last checked same
      rw [sent_checked, sent_checked] at answers
      exact ⟨answers.ofReply, h.keep answers.ofReply, checked.record same⟩

/-- What is acquired and sent adds to the traffic. -/
theorem sent_accessToken (env : Surroundings) (a : Authorization) (t : Traffic) :
    t.sent <+: (accessToken env (a, t)).2.2.sent := by
  have same : t.sent <+: (a.checked t).sent := (sent_checked a t).symm ▸ List.prefix_refl _
  rw [accessToken_apply]
  split
  · exact same
  · split
    · exact same
    · exact same.trans (List.prefix_append _ _)

/-- What becomes of a draft once a token was acquired for it, or was not. -/
def dispatch {τ : Type} (env : Surroundings) (handlers : List (Handler τ)) (m : τ) (r : Request) :
    Except HttpError Token × Authorization × Traffic →
      Except HttpError (Reply × τ) × Authorization × Traffic
  | (.error e, a, t) => (.error e, a, t)
  | (.ok token, a, t) =>
    match r.authorized token.id with
    | .error e => (.error e, a, t)
    | .ok q => (conclude handlers m (env.answer t.sent q), a, t.record q)

section

variable {τ : Type} {parts : List Part} (handlers : List (Handler τ)) (m : τ)

/-- A request is drafted, then a token is acquired for it, and then it is sent. -/
theorem send_apply (env : Surroundings) (target : ∃ url, Part.target url ∈ parts)
    (a : Authorization) (t : Traffic) :
    send env parts handlers m (a, t) =
      match Http.draft parts with
      | .error e => (.error e, a, t)
      | .ok r => dispatch env handlers m r (accessToken env (a, t)) := by
  simp only [send, Exchange.withBuilder, perform_apply, bearer]
  rw [build_bearer target]
  cases Http.draft parts with
  | error e => rfl
  | ok r =>
    simp only [Action.bind_apply]
    rcases accessToken env (a, t) with ⟨e | token, a', t'⟩
    · rfl
    · simp only [Action.pure_apply, dispatch]
      cases r.authorized token.id <;> rfl

theorem sent_dispatch (env : Surroundings) (r : Request)
    (acquired : Except HttpError Token × Authorization × Traffic) :
    acquired.2.2.sent <+: (dispatch env handlers m r acquired).2.2.sent := by
  obtain ⟨e | token, a, t⟩ := acquired
  · exact List.prefix_refl _
  · simp only [dispatch]
    cases r.authorized token.id with
    | error e => exact List.prefix_refl _
    | ok q => exact List.prefix_append _ _

theorem sent_send (env : Surroundings) (target : ∃ url, Part.target url ∈ parts) (a : Authorization)
    (t : Traffic) : t.sent <+: (send env parts handlers m (a, t)).2.2.sent := by
  rw [send_apply _ _ env target]
  cases Http.draft parts with
  | error e => exact List.prefix_refl _
  | ok r => exact (sent_accessToken env a t).trans (sent_dispatch handlers m env r _)

/-- A draft is sent alike with tokens that are alike, and the result is the same. -/
theorem dispatch_alike (r : Request)
    {acquired acquired' : Except HttpError Token × Authorization × Traffic}
    (results : ResultsAlike Token.Alike acquired.1 acquired'.1)
    (h : acquired.2.1.Alike c acquired'.2.1) (traffic : acquired.2.2.Alike c acquired'.2.2)
    (replies : RepliesAlike c env env' (dispatch env handlers m r acquired).2.2.sent
      (dispatch env' handlers m r acquired').2.2.sent) :
    (dispatch env handlers m r acquired).1 = (dispatch env' handlers m r acquired').1 ∧
      (dispatch env handlers m r acquired).2.1.Alike c (dispatch env' handlers m r acquired').2.1 ∧
      (dispatch env handlers m r acquired).2.2.Alike c
        (dispatch env' handlers m r acquired').2.2 := by
  obtain ⟨x, a, t⟩ := acquired
  obtain ⟨y, a', t'⟩ := acquired'
  cases results with
  | error e => exact ⟨rfl, h, traffic⟩
  | @ok x y tokens =>
    have requests := Request.authorized_alike c r tokens
    revert replies
    simp only [dispatch]
    generalize r.authorized x.id = p, r.authorized y.id = p' at requests ⊢
    cases requests with
    | error e =>
      intro
      exact ⟨rfl, h, traffic⟩
    | @ok q q' requests =>
      intro replies
      obtain ⟨same, other⟩ := requests
      have answers := (replies.last traffic same).eq other
      exact ⟨congrArg (conclude handlers m) answers, h, traffic.record same⟩

/-- A request is sent alike, and the result is the same. -/
theorem send_alike (target : ∃ url, Part.target url ∈ parts) (clock : env.clock = env'.clock)
    (h : a.Alike c a') (traffic : t.Alike c t')
    (replies : RepliesAlike c env env' (send env parts handlers m (a, t)).2.2.sent
      (send env' parts handlers m (a', t')).2.2.sent) :
    (send env parts handlers m (a, t)).1 = (send env' parts handlers m (a', t')).1 ∧
      (send env parts handlers m (a, t)).2.1.Alike c (send env' parts handlers m (a', t')).2.1 ∧
      (send env parts handlers m (a, t)).2.2.Alike c (send env' parts handlers m (a', t')).2.2 := by
  revert replies
  rw [send_apply _ _ env target, send_apply _ _ env' target]
  cases Http.draft parts with
  | error e =>
    intro
    exact ⟨rfl, h, traffic⟩
  | ok r =>
    intro replies
    obtain ⟨results, h', traffic'⟩ := accessToken_alike clock h traffic
      (replies.mono (sent_dispatch handlers m env r _) (sent_dispatch handlers m env' r _))
    exact dispatch_alike handlers m r results h' traffic' replies

end

end Authorization

/-- Sessions, with their traffic, that differ only in secrets. -/
structure Session.Alike (c : Connection) (x y : Session × Traffic) : Prop where
  authorization : x.1.authorization.Alike c y.1.authorization
  nsDescriptors : x.1.nsDescriptors = y.1.nsDescriptors
  vimAccounts : x.1.vimAccounts = y.1.vimAccounts
  nsInstances : x.1.nsInstances = y.1.nsInstances
  traffic : x.2.Alike c y.2

/-- Sessions that differ only in secrets have the same debugging texts. -/
theorem Session.Alike.debug_eq {c : Connection} {x y : Session × Traffic}
    (h : Session.Alike c x y) :
    x.1.debug = y.1.debug := by
  unfold Session.debug Session.connection
  rw [h.authorization.debug_eq.1, h.authorization.connection, h.authorization.connection',
    h.nsDescriptors, h.vimAccounts, h.nsInstances]

/-- An operation that only adds to the traffic, and gives the same result for sessions that differ
only in secrets, as long as the replies do. -/
structure Confined {α : Type} (c : Connection) (act : Surroundings → SessionAction α) : Prop where
  grows : ∀ env x, x.2.sent <+: (act env x).2.2.sent
  alike : ∀ {env env' x y}, env.clock = env'.clock → Session.Alike c x y →
    RepliesAlike c env env' (act env x).2.2.sent (act env' y).2.2.sent →
    (act env x).1 = (act env' y).1 ∧ Session.Alike c (act env x).2 (act env' y).2

namespace Confined

variable {c : Connection} {α β : Type}

theorem ofExcept (result : Except SessionError α) :
    Confined c fun _ => (Action.ofExcept result : SessionAction α) :=
  ⟨fun _ _ => List.prefix_refl _, fun _ h _ => ⟨rfl, h⟩⟩

/-- What is done depending on a result, be it a failure, is done with the same result. -/
theorem after {act : Surroundings → SessionAction α}
    (next : Except SessionError α → Surroundings → SessionAction β) (first : Confined c act)
    (rest : ∀ result, Confined c (next result)) :
    Confined c fun env x => next (act env x).1 env (act env x).2 := by
  refine ⟨fun env x => (first.grows env x).trans ((rest _).grows env _), ?_⟩
  intro env env' x y clock alike replies
  obtain ⟨same, alike'⟩ := first.alike clock alike
    (replies.mono ((rest _).grows env _) ((rest _).grows env' _))
  rw [same] at replies ⊢
  exact (rest _).alike clock alike' replies

/-- Goes on from a value, and reports a failure. -/
def onValue (next : α → Surroundings → SessionAction β) :
    Except SessionError α → Surroundings → SessionAction β
  | .ok x => next x
  | .error e => fun _ => Action.ofExcept (.error e)

theorem bind {act : Surroundings → SessionAction α} {next : α → Surroundings → SessionAction β}
    (first : Confined c act) (rest : ∀ x, Confined c (next x)) :
    Confined c fun env => act env >>= fun x => next x env := by
  have step : (fun env => act env >>= fun x => next x env) =
      fun env st => onValue next (act env st).1 env (act env st).2 := by
    funext env st
    rw [Action.bind_apply]
    rcases act env st with ⟨e | x, st'⟩ <;> rfl
  rw [step]
  apply after (onValue next) first
  intro result
  cases result with
  | ok x => exact rest x
  | error e => exact ofExcept (.error e)

theorem map {act : Surroundings → SessionAction α} (f : α → β) (h : Confined c act) :
    Confined c fun env => f <$> act env := by
  have step :
      (fun env => f <$> act env) = fun env => act env >>= fun x => Action.ofExcept (.ok (f x)) := by
    funext env st
    rw [Action.map_apply, Action.bind_apply]
    rcases act env st with ⟨e | x, st'⟩ <;> rfl
  rw [step]
  exact h.bind fun x => ofExcept (.ok (f x))

/-- The URL of an endpoint is the same, as the server is. -/
theorem url (e : Endpoint) : Confined c fun _ => Session.url e := by
  refine ⟨fun _ _ => List.prefix_refl _, ?_⟩
  intro env env' x y _ alike _
  refine ⟨?_, alike⟩
  rw [Session.url_apply, Session.url_apply, Session.connection, Session.connection,
    alike.authorization.connection, alike.authorization.connection']

theorem send {τ : Type} {parts : List Part} (target : ∃ url, Part.target url ∈ parts)
    (handlers : List (Handler τ)) (m : τ) :
    Confined c fun env => Session.authorized (Authorization.send env parts handlers m) := by
  constructor
  · intro env x
    rw [Session.authorized_apply]
    exact Authorization.sent_send handlers m env target _ _
  · intro env env' x y clock alike replies
    rw [Session.authorized_apply, Session.authorized_apply] at replies ⊢
    obtain ⟨same, authorization, traffic⟩ := Authorization.send_alike handlers m target clock
      alike.authorization alike.traffic replies
    refine ⟨by rw [same], authorization, ?_, ?_, ?_, traffic⟩
    · exact alike.nsDescriptors
    · exact alike.vimAccounts
    · exact alike.nsInstances

/-- The entries of a cache are the same if they are populated with the same. -/
theorem cached {get : Session → LookupCache α} {set : Session → LookupCache α → Session}
    {populate : Surroundings → SessionAction (Dictionary α)}
    (gets : ∀ x y, Session.Alike c x y → get x.1 = get y.1)
    (sets : ∀ x y cache, Session.Alike c x y →
      Session.Alike c (set x.1 cache, x.2) (set y.1 cache, y.2))
    (h : Confined c populate) : Confined c fun env => Session.cached get set (populate env) := by
  constructor
  · intro env ⟨s, t⟩
    have grows := h.grows env (s, t)
    simp only [Session.cached]
    cases get s with
    | populated entries => exact List.prefix_refl _
    | unpopulated =>
      rw [LookupCache.getOrPopulate_unpopulated]
      generalize populate env (s, t) = out at grows ⊢
      obtain ⟨e | entries, s', t'⟩ := out <;> exact grows
  · intro env env' ⟨s, t⟩ ⟨s', t'⟩ clock alike
    have populates := h.alike clock alike
    simp only [Session.cached]
    rw [gets _ _ alike]
    cases get s' with
    | populated entries =>
      intro
      exact ⟨rfl, sets _ _ _ alike⟩
    | unpopulated =>
      rw [LookupCache.getOrPopulate_unpopulated, LookupCache.getOrPopulate_unpopulated]
      generalize populate env (s, t) = out, populate env' (s', t') = out' at populates ⊢
      obtain ⟨e | entries, s₁, t₁⟩ := out
      · obtain ⟨e' | entries', s₂, t₂⟩ := out'
        · intro replies
          obtain ⟨same, alike⟩ := populates replies
          exact ⟨same, sets _ _ .unpopulated alike⟩
        · exact fun replies => nomatch (populates replies).1
      · obtain ⟨e' | entries', s₂, t₂⟩ := out'
        · exact fun replies => nomatch (populates replies).1
        · intro replies
          obtain ⟨same, alike⟩ := populates replies
          cases same
          exact ⟨rfl, sets _ _ (.populated entries) alike⟩

end Confined

namespace Session

variable {c : Connection}

theorem confined_fetch (kind : EntityKind) (e : Endpoint) :
    Confined c fun env => fetch env kind e := by
  apply Confined.bind (.url e)
  intro target
  apply Confined.bind
  · exact Confined.send ⟨target, by simp⟩ _ _
  · rintro ⟨-, views⟩
    exact .ofExcept (.ok views)

theorem confined_postDocument (e : Endpoint) (document : Json) :
    Confined c fun env => postDocument env e document := by
  apply Confined.bind (.url e)
  intro target
  apply Confined.bind
  · exact Confined.send ⟨target, by simp⟩ _ _
  · rintro ⟨-, -⟩
    exact Confined.ofExcept (.ok ())

theorem confined_descriptorIds : Confined c descriptorIds := by
  apply Confined.cached
  · exact fun _ _ h => h.nsDescriptors
  · exact fun _ _ _ h => ⟨h.authorization, rfl, h.vimAccounts, h.nsInstances, h.traffic⟩
  · exact (confined_fetch ..).bind fun views => .ofExcept (.ok (EntityView.idByName views))

theorem confined_accountIds : Confined c accountIds := by
  apply Confined.cached
  · exact fun _ _ h => h.vimAccounts
  · exact fun _ _ _ h => ⟨h.authorization, h.nsDescriptors, rfl, h.nsInstances, h.traffic⟩
  · exact (confined_fetch ..).bind fun views => .ofExcept (.ok (EntityView.idByName views))

theorem confined_instanceIds : Confined c instanceIds := by
  apply Confined.cached
  · exact fun _ _ h => h.nsInstances
  · exact fun _ _ _ h => ⟨h.authorization, h.nsDescriptors, h.vimAccounts, rfl, h.traffic⟩
  · exact (confined_fetch ..).bind fun views => .ofExcept (.ok (EntityView.idsByName views))

theorem confined_lookupDescriptor (name : String) :
    Confined c fun env => lookupDescriptor env name := by
  simp only [lookupDescriptor_eq]
  exact confined_descriptorIds.bind fun entries => .ofExcept (idIn .nsDescriptor name entries)

theorem confined_lookupAccount (name : String) : Confined c fun env => lookupAccount env name := by
  simp only [lookupAccount_eq]
  exact confined_accountIds.bind fun entries => .ofExcept (idIn .vimAccount name entries)

theorem confined_lookupInstance (name : String) :
    Confined c fun env => lookupInstance env name := by
  simp only [lookupInstance_eq]
  exact confined_instanceIds.bind fun entries => .ofExcept (instanceIn name entries)

theorem confined_createInstance (content : NsInstanceContent) :
    Confined c fun env => createInstance env content := by
  apply Confined.bind (confined_lookupDescriptor content.nsdName)
  intro nsdId
  apply Confined.bind (confined_lookupAccount content.vimAccountName)
  intro accountId
  exact confined_postDocument ..

/-- A deployment from the look-up of its instance on. Not every failure of the look-up is one of the
deployment. -/
def deployOn (content : NsInstanceContent) :
    Except SessionError String → Surroundings → SessionAction Deployment
  | .ok id, env => (fun _ => .upgraded id) <$> upgradeInstance env id content
  | .error (.notFound _ _), env => (fun _ => .created) <$> createInstance env content
  | .error e, _ => Action.ofExcept (.error e)

theorem confined_deploy (content : NsInstanceContent) :
    Confined c fun env => deploy env content := by
  have step : (fun env => deploy env content) = fun env st =>
      deployOn content (lookupInstance env content.name st).1 env
        (lookupInstance env content.name st).2 := by
    funext env st
    simp only [deploy]
    rcases lookupInstance env content.name st with ⟨(_ | _ | _ | _ | _ | _) | id, st'⟩ <;> rfl
  rw [step]
  apply Confined.after (deployOn content) (confined_lookupInstance content.name)
  intro result
  rcases result with (_ | _ | _ | _ | _ | _) | id
  case error.notFound => exact (confined_createInstance content).map _
  case ok => exact (confined_postDocument ..).map _
  all_goals exact .ofExcept (.error _)

theorem confined_uploadAs (kind : PackageKind) (p : Package) :
    Confined c fun env => uploadAs env kind p := by
  apply Confined.bind (.url kind.collection)
  intro collection
  apply Confined.bind (.url (kind.item p.id))
  intro item
  apply Confined.bind
  · exact Confined.send ⟨collection, by simp [Package.uploadRequest]⟩ _ _
  rintro ⟨reply, -⟩
  by_cases conflict : reply.status = .conflict
  · simp only [conflict, if_true]
    apply Confined.bind
    · exact Confined.send ⟨item, by simp [Package.uploadRequest]⟩ _ _
    · exact fun _ => .ofExcept (.ok PackageUpload.updated)
  · simp only [conflict, if_false]
    exact .ofExcept (.ok PackageUpload.created)

theorem confined_upload (p : Package) : Confined c fun env => upload env p := by
  simp only [upload]
  cases p.kind? with
  | none => exact .ofExcept (.error (.unsupportedPackageType p.source))
  | some kind => exact confined_uploadAs kind p

theorem confined_uploadDirectory (fs : FileSystem) (path : Path) :
    Confined c fun env => uploadDirectory env fs path := by
  simp only [uploadDirectory]
  cases Package.absoluteSource fs path with
  | error e => exact .ofExcept (.error (.archive e))
  | ok source =>
    simp only
    cases (Package.nameOf? source).bind PackageKind.ofName? with
    | none => exact .ofExcept (.error (.unsupportedPackageType source))
    | some kind =>
      simp only
      cases Package.pack fs source with
      | error e => exact .ofExcept (.error (.archive e))
      | ok p => exact confined_upload p

end Session

/-- An answer without the ID of a token. -/
def Answer.redacted : Answer → Answer
  | .token t => .token { t with id := "" }
  | answer => answer

namespace Session

variable {c : Connection} {env env' : Surroundings} {x y : Session × Traffic}

theorem confined_perform (op : Operation) (other : op ≠ .accessToken) :
    Confined c fun env => op.perform env := by
  cases op with
  | accessToken => exact absurd rfl other
  | lookupDescriptor name => exact (confined_lookupDescriptor name).map Answer.id
  | lookupAccount name => exact (confined_lookupAccount name).map Answer.id
  | lookupInstance name => exact (confined_lookupInstance name).map Answer.id
  | deploy content => exact (confined_deploy content).map Answer.deployment
  | upload p => exact (confined_upload p).map Answer.upload
  | uploadDirectory fs path => exact (confined_uploadDirectory fs path).map Answer.upload

theorem perform_accessToken (env : Surroundings) (s : Session) (t : Traffic) :
    Operation.accessToken.perform env (s, t) =
      let out := Authorization.accessToken env (s.authorization, t)
      ((out.1.mapError .http).map Answer.token, { s with authorization := out.2.1 }, out.2.2) := by
  rw [Operation.perform, Action.map_apply, accessToken, authorized_apply]

/-- Every operation adds to the traffic. -/
theorem sent_perform (op : Operation) (env : Surroundings) (x : Session × Traffic) :
    x.2.sent <+: (op.perform env x).2.2.sent := by
  by_cases h : op = .accessToken
  · rw [h, perform_accessToken]
    exact Authorization.sent_accessToken env _ _
  · exact (confined_perform (c := x.1.connection) op h).grows env x

/-- An operation gives the same answer, apart from the ID of a token. -/
theorem perform_alike (op : Operation) (clock : env.clock = env'.clock) (h : Alike c x y)
    (replies : RepliesAlike c env env' (op.perform env x).2.2.sent (op.perform env' y).2.2.sent) :
    (op.perform env x).1.map Answer.redacted = (op.perform env' y).1.map Answer.redacted ∧
      Alike c (op.perform env x).2 (op.perform env' y).2 := by
  by_cases other : op = .accessToken
  · rw [other, perform_accessToken, perform_accessToken] at replies ⊢
    obtain ⟨results, authorization, traffic⟩ :=
      Authorization.accessToken_alike clock h.authorization h.traffic replies
    have answers {r r' : Except HttpError Token} (h : ResultsAlike Token.Alike r r') :
        (((r.mapError SessionError.http).map Answer.token).map Answer.redacted) =
          (((r'.mapError SessionError.http).map Answer.token).map Answer.redacted) := by
      cases h with
      | ok tokens => simp only [mapError_ok, Except.map, Answer.redacted, tokens.expiresAt]
      | error e => rfl
    exact ⟨answers results, authorization, h.nsDescriptors, h.vimAccounts, h.nsInstances, traffic⟩
  · obtain ⟨same, alike⟩ := (confined_perform op other).alike clock h replies
    exact ⟨congrArg _ same, alike⟩

theorem sent_run (env : Surroundings) (ops : List Operation) (x : Session × Traffic) :
    x.2.sent <+: (run env ops x).2.2.sent := by
  induction ops generalizing x with
  | nil => exact List.prefix_refl _
  | cons op ops ih => exact (sent_perform op env x).trans (ih _)

/-- A run gives the same answers, apart from the IDs of tokens. -/
theorem run_alike (ops : List Operation) (clock : env.clock = env'.clock) (h : Alike c x y)
    (replies : RepliesAlike c env env' (run env ops x).2.2.sent (run env' ops y).2.2.sent) :
    (run env ops x).1.map (·.map Answer.redacted) = (run env' ops y).1.map (·.map Answer.redacted) ∧
      Alike c (run env ops x).2 (run env' ops y).2 := by
  induction ops generalizing x y with
  | nil => exact ⟨rfl, h⟩
  | cons op ops ih =>
    obtain ⟨same, alike⟩ := perform_alike op clock h
      (replies.mono (sent_run env ops _) (sent_run env' ops _))
    obtain ⟨rest, alike⟩ := ih alike replies
    have cons (env : Surroundings) (x : Session × Traffic) :
        (run env (op :: ops) x).1 =
          (op.perform env x).1 :: (run env ops (op.perform env x).2).1 := rfl
    refine ⟨?_, alike⟩
    rw [cons, cons, List.map_cons, List.map_cons, same, rest]

/-- The operations up to a point have sent the first of the requests. -/
theorem sent_run_take (env : Surroundings) (ops : List Operation) (k : Nat)
    (x : Session × Traffic) :
    (run env (ops.take k) x).2.2.sent <+: (run env ops x).2.2.sent := by
  induction ops generalizing k x with
  | nil => cases k <;> exact List.prefix_refl _
  | cons op ops ih =>
    cases k with
    | zero => exact sent_run env (op :: ops) x
    | succ k => exact ih k _

/-- New sessions differ only in secrets if their users differ in their passwords. -/
theorem alike_start (c : Connection) (username project password password' : String) :
    Alike c (start c ⟨username, password, project⟩, {})
      (start c ⟨username, password', project⟩, {}) :=
  ⟨⟨rfl, rfl, rfl, rfl, .none⟩, rfl, rfl, rfl, rfl, rfl⟩

/-- Two users with different passwords get the same out of a session, as long as the replies differ
only in the IDs of tokens. After each operation, the answers up to then are the same apart from the
IDs of tokens, the requests sent are the same apart from what authorizes them and the credentials in
them, and no debugging text tells the sessions apart. -/
theorem run_confines_secrets (c : Connection) (username project password password' : String)
    (env env' : Surroundings) (clock : env.clock = env'.clock) (ops : List Operation) :
    let first := start c ⟨username, password, project⟩
    let second := start c ⟨username, password', project⟩
    RepliesAlike c env env' (run env ops (first, {})).2.2.sent
      (run env' ops (second, {})).2.2.sent →
    ∀ k, let out := run env (ops.take k) (first, {})
      let out' := run env' (ops.take k) (second, {})
      out.1.map (·.map Answer.redacted) = out'.1.map (·.map Answer.redacted) ∧
        out.2.2.sent.map (Request.redacted c) = out'.2.2.sent.map (Request.redacted c) ∧
        out.2.1.debug = out'.2.1.debug ∧
        out.2.1.authorization.debug = out'.2.1.authorization.debug ∧
        out.2.1.authorization.credentials.debug = out'.2.1.authorization.credentials.debug := by
  intro first second replies k out out'
  obtain ⟨answers, alike⟩ := run_alike (ops.take k) clock
    (alike_start c username project password password')
    (replies.mono (sent_run_take env ops k _) (sent_run_take env' ops k _))
  exact ⟨answers, alike.traffic.sent, alike.debug_eq, alike.authorization.debug_eq⟩

end Session

namespace Token

/-- A document with a text as its ID and a whole second as its time of expiry. -/
def described? (document : Bytes) : Option (String × Int) :=
  match (Json.parse document).toOption with
  | none => none
  | some v =>
    match v.member? "id", v.member? "expires" with
    | some (.text id), some (.int second) => some (id, second)
    | _, _ => none

theorem describedAlike_of_described? {x y : Bytes} {id id' : String} {second : Int}
    (h : described? x = some (id, second)) (h' : described? y = some (id', second))
    (legal : LegalId id) (legal' : LegalId id') : DescribedAlike x y := by
  have member {document : Bytes} {id : String} (h : described? document = some (id, second)) :
      ∃ v, Json.parse document = .ok v ∧ v.member? "id" = some (.text id) ∧
        v.member? "expires" = some (.int second) := by
    simp only [described?] at h
    cases parsed : Json.parse document with
    | error e => simp [parsed, Except.toOption] at h
    | ok v =>
      simp only [parsed, Except.toOption] at h
      split at h
      · next hid hexpires =>
        cases h
        exact ⟨v, rfl, hid, hexpires⟩
      · cases h
  obtain ⟨v, parsed, hid, hexpires⟩ := member h
  obtain ⟨w, parsed', hid', hexpires'⟩ := member h'
  exact ⟨v, w, id, id', parsed, parsed', hexpires.trans hexpires'.symm, hid, hid', legal, legal'⟩

end Token

namespace Session

/-- A plain connection to a server on this host. -/
def localConnection : Connection := ⟨Connection.localAddress, false⟩

/-- The user of a server, with a password. -/
def localUser (password : String) : Credentials := ⟨"u", password, "q"⟩

/-- A reply that issues a token. -/
def issuing (id : String) : Response where
  status := .ok
  body := { bytes := utf8 ("\x7b\"id\": \"" ++ id ++ "\", \"expires\": 9\x7d") }

/-- A reply that lists a descriptor. -/
def listing : Response where
  status := .ok
  body := { bytes := utf8 "[\x7b\"_id\": \"d1\", \"id\": \"nsd\"\x7d]" }

/-- A server with a descriptor, which knows the password of its user and the ID of the token that it
issues, and turns others away. -/
def issuer (password id : String) : Surroundings where
  answer _ q :=
    if q.url? = some (localConnection.url .tokens) ∧
        q.body = utf8 (localUser password).toJson.render then
      .ok (issuing id)
    else if q.headers.lookup "authorization" = some (utf8 ("Bearer " ++ id)) then
      .ok listing
    else .ok { status := .conflict }
  clock _ := .zero

/-- Two operations of a session on that server. -/
def localRun (password id : String) : List (Except SessionError Answer) × (Session × Traffic) :=
  run (issuer password id) [.accessToken, .lookupDescriptor "nsd"]
    (start localConnection (localUser password), {})

def localHost : Bytes := utf8 "localhost:8008"

def localSent (password id : String) : List Request :=
  [Authorization.form ⟨localConnection, localUser password, none⟩ localHost,
      (EntityKind.nsDescriptor.form localConnection localHost).withBearer id]

theorem sent_localRun :
    (localRun "p" "t").2.2.sent = localSent "p" "t" ∧
      (localRun "secret" "top secret").2.2.sent = localSent "secret" "top secret" := by
  decide +kernel

theorem eq_or_eq_of_prefix {a b q : Request} {past : List Request} (h : past ++ [q] <+: [a, b]) :
    past = [] ∧ q = a ∨ past = [a] ∧ q = b := by
  obtain ⟨more, h⟩ := h
  rcases past with _ | ⟨x, _ | ⟨y, past⟩⟩
  · simp only [List.nil_append, List.singleton_append, List.cons.injEq] at h
    exact .inl ⟨rfl, h.1⟩
  · simp only [List.cons_append, List.nil_append, List.cons.injEq] at h
    exact .inr ⟨by rw [h.1], h.2.1⟩
  · simp at h

/-- Both servers accept the password that is sent to them, and the token that they have issued. -/
theorem repliesAlike_issuer :
    RepliesAlike localConnection (issuer "p" "t") (issuer "secret" "top secret")
      (localRun "p" "t").2.2.sent (localRun "secret" "top secret").2.2.sent := by
  have posted (password id : String) (past : List Request) :
      (issuer password id).answer past
        (Authorization.form ⟨localConnection, localUser password, none⟩ localHost) =
          .ok (issuing id) := by
    simp [issuer, Authorization.form]
  have fetched (password id : String) (past : List Request) :
      (issuer password id).answer past
        ((EntityKind.nsDescriptor.form localConnection localHost).withBearer id) = .ok listing := by
    have other : ¬(((EntityKind.nsDescriptor.form localConnection localHost).withBearer id).url? =
          some (localConnection.url .tokens) ∧
        ((EntityKind.nsDescriptor.form localConnection localHost).withBearer id).body =
          utf8 (localUser password).toJson.render) := by
      rintro ⟨url, -⟩
      have elsewhere : localConnection.url .nsDescriptors ≠ localConnection.url .tokens := by decide
      exact elsewhere (Option.some.inj url)
    have bearer :
        ((EntityKind.nsDescriptor.form localConnection localHost).withBearer id).headers.lookup
        "authorization" = some (utf8 ("Bearer " ++ id)) := rfl
    simp only [issuer, if_neg other, if_pos bearer]
  rw [sent_localRun.1, sent_localRun.2]
  intro past q past' q' first first' same
  have lengths := congrArg List.length same
  simp only [List.length_map, List.length_append, List.length_singleton] at lengths
  rcases eq_or_eq_of_prefix first with ⟨rfl, rfl⟩ | ⟨rfl, rfl⟩ <;>
    rcases eq_or_eq_of_prefix first' with ⟨rfl, rfl⟩ | ⟨rfl, rfl⟩
  · have post : Request.isTokenPost localConnection
        (Authorization.form ⟨localConnection, localUser "p", none⟩ localHost) = true :=
      Authorization.isTokenPost_form (a := ⟨localConnection, localUser "p", none⟩) localHost
    have status (id : String) : (issuing id).status = .ok := rfl
    have failure (id : String) : (issuing id).body.failure? = none := rfl
    refine .inr ⟨post, _, _, posted .., posted .., (status _).trans (status _).symm,
      (failure _).trans (failure _).symm, ?_⟩
    have described : Token.described? (issuing "t").body.bytes = some ("t", 9) := by decide +kernel
    have described' :
        Token.described? (issuing "top secret").body.bytes = some ("top secret", 9) := by
      decide +kernel
    exact Token.describedAlike_of_described? described described' (by decide) (by decide)
  · cases lengths
  · cases lengths
  · exact .inl ((fetched ..).trans (fetched ..).symm)

/-- The two servers tell the users apart, and the sessions do not show it. -/
theorem run_confines_secrets_issuer :
    RepliesAlike localConnection (issuer "p" "t") (issuer "secret" "top secret")
        (localRun "p" "t").2.2.sent (localRun "secret" "top secret").2.2.sent ∧
      (localRun "p" "t").2.2.sent ≠ (localRun "secret" "top secret").2.2.sent ∧
      (localRun "p" "t").2.2.sent.map (Request.redacted localConnection) =
        (localRun "secret" "top secret").2.2.sent.map (Request.redacted localConnection) ∧
      (localRun "p" "t").2.1.debug = (localRun "secret" "top secret").2.1.debug := by
  obtain ⟨-, sent, debug, -⟩ := run_confines_secrets localConnection "u" "q" "p" "secret"
    (issuer "p" "t") (issuer "secret" "top secret") rfl [.accessToken, .lookupDescriptor "nsd"]
    repliesAlike_issuer 2
  refine ⟨repliesAlike_issuer, ?_, sent, debug⟩
  rw [sent_localRun.1, sent_localRun.2]
  decide +kernel

end Session

end Northbound
