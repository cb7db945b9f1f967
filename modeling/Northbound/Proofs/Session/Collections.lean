import Northbound.Proofs.Session.Fetches
import Northbound.Proofs.Session.Lookup
import Northbound.Proofs.Session.Upload
import Northbound.Session.Run

/-!
# Collections are fetched once

The caches of a session hold what the first successful fetches have brought, and nothing else; so
they follow from the history. The main statement says this of every run of operations, with what it
means for the requests of the operation after it: which of them there are, how many, and what comes
of them.
-/

namespace Northbound

open Http

/-- The cache of what was brought, if anything was. -/
def LookupCache.ofViews {α : Type} (index : List EntityView → Dictionary α) :
    Option (List EntityView) → LookupCache α
  | none => .unpopulated
  | some views => .populated (index views)

/-- The caches of a session hold what a history of its server has brought first. -/
structure Session.Remembers (c : Connection) (h : History) (s : Session) : Prop where
  server : s.connection = c
  descriptors : s.nsDescriptors = .ofViews EntityView.idByName (firstViews c .nsDescriptor h)
  accounts : s.vimAccounts = .ofViews EntityView.idByName (firstViews c .vimAccount h)
  instances : s.nsInstances = .ofViews EntityView.idsByName (firstViews c .nsInstance h)

/-- An operation fetches what it needs and keeps what it fetches. -/
def Settles {α : Type} (env : Surroundings) (c : Connection) (needs : EntityKind → Prop)
    (st : Session × Traffic) (out : Except SessionError α × Session × Traffic) : Prop :=
  ∃ new, out.2.2.sent = st.2.sent ++ new ∧ out.2.1.Remembers c (env.history [] out.2.2.sent) ∧
    Economical c needs (env.history [] st.2.sent) (env.history st.2.sent new) out.1

theorem Surroundings.history_sent_append (env : Surroundings) (sent new : List Request) :
    env.history [] (sent ++ new) = env.history [] sent ++ env.history sent new := by
  rw [history_append, List.nil_append]

namespace Settles

variable {env : Surroundings} {c : Connection} {needs needs' : EntityKind → Prop} {α β : Type}
  {st st' : Session × Traffic} {result : Except SessionError α}

/-- An operation that has nothing to do with the server. -/
theorem silent (result : Except SessionError α)
    (before : st.1.Remembers c (env.history [] st.2.sent)) :
    Settles env c needs st (result, st) :=
  ⟨[], by simp, before, Economical.idle fun _ => rfl⟩

theorem mono {result' : Except SessionError β} (h : Settles env c needs st (result, st'))
    (weaker : ∀ kind, needs kind → needs' kind)
    (errors : ∀ e, result = .error (.http e) → result' = .error (.http e)) :
    Settles env c needs' st (result', st') := by
  obtain ⟨new, hsent, hrem, heco⟩ := h
  exact ⟨new, hsent, hrem, heco.mono weaker errors⟩

/-- One operation after another, if the first one did not fail to fetch. -/
theorem seq {out : Except SessionError β × Session × Traffic}
    (h : Settles env c needs st (result, st')) (success : ∀ e, result ≠ .error (.http e))
    (next : Settles env c needs st' out) : Settles env c needs st out := by
  obtain ⟨new, hsent, -, heco⟩ := h
  obtain ⟨more, hmore, hrem, hnext⟩ := next
  refine ⟨new ++ more, by rw [hmore, hsent, List.append_assoc], hrem, ?_⟩
  rw [hsent, env.history_sent_append] at hnext
  rw [Surroundings.history_append]
  exact heco.seq success hnext

theorem known {out : Except SessionError α × Session × Traffic} {kind : EntityKind}
    {views : List EntityView} (h : Settles env c needs st out)
    (first : firstViews c kind (env.history [] st.2.sent) = some views) :
    firstViews c kind (env.history [] out.2.2.sent) = some views := by
  obtain ⟨new, hsent, -, -⟩ := h
  rw [hsent, env.history_sent_append]
  exact firstViews_append_of_some first _

theorem remembers {out : Except SessionError α × Session × Traffic}
    (h : Settles env c needs st out) : out.2.1.Remembers c (env.history [] out.2.2.sent) := by
  obtain ⟨new, -, hrem, -⟩ := h
  exact hrem

/-- An operation that is done with a value if the one before yields it. -/
theorem bind {act : SessionAction α} {f : α → SessionAction β}
    (h : Settles env c needs st (act st))
    (next : ∀ x st', act st = (.ok x, st') → st'.1.Remembers c (env.history [] st'.2.sent) →
      Settles env c needs st' (f x st')) :
    Settles env c needs st ((act >>= f) st) := by
  rw [Action.bind_apply]
  rcases hact : act st with ⟨e | x, st'⟩
  · rw [hact] at h
    apply h.mono fun _ hk => hk
    intro e' he
    cases he
    rfl
  · rw [hact] at h
    exact h.seq (fun e he => by cases he) (next x st' hact h.remembers)

theorem map {act : SessionAction α} {f : α → β} (h : Settles env c needs st (act st)) :
    Settles env c needs st ((f <$> act) st) := by
  rw [Action.map_apply]
  apply h.mono fun _ hk => hk
  intro e he
  rw [he]
  rfl

end Settles

namespace Session

variable (env : Surroundings) {c : Connection} {needs : EntityKind → Prop} {s : Session}
  {t : Traffic}

/-- Token requests fetch nothing. -/
theorem fetchReplies_posts {a : Authorization} {past posts : List Request} {kind : EntityKind}
    (h : ∀ p ∈ posts, a.post? = some p) :
    fetchReplies c kind (env.history past posts) = [] := by
  apply fetchReplies_eq_nil
  intro x hx
  have hmem : x.1 ∈ posts := by
    rw [← env.map_fst_history past posts]
    exact List.mem_map_of_mem hx
  obtain ⟨host, hform⟩ := Authorization.post?_eq_form (h _ hmem)
  simp [hform, Authorization.form]

/-- What is sent with a token fetches what the request itself fetches, if it goes out. -/
theorem send_cases {τ : Type} {parts : List Part} (target : ∃ url, Part.target url ∈ parts)
    (handlers : List (Handler τ)) (m : τ) (s : Session) (t : Traffic) :
    ∃ new result a' t', authorized (Authorization.send env parts handlers m) (s, t) =
        (result.mapError .http, { s with authorization := a' }, t') ∧
      a'.connection = s.connection ∧ t'.sent = t.sent ++ new ∧
      ((∃ e, result = .error e ∧ ∀ kind, fetchReplies c kind (env.history t.sent new) = []) ∨
        ∃ r q id reply, draft parts = .ok r ∧ r.authorized id = .ok q ∧
          result = conclude handlers m reply ∧
          ∀ kind, fetchReplies c kind (env.history t.sent new) =
            fetchReplies c kind [(q, reply)]) := by
  obtain ⟨q, a', t', hprep, hsend⟩ :=
    Authorization.send_prepared env target handlers m s.authorization t
  obtain ⟨posts, hsent, -, hposts, -⟩ := hprep.history
  rw [authorized_apply, hsend]
  cases q with
  | error e =>
      refine ⟨posts, _, a', t', rfl, hprep.keeps.1, hsent, Or.inl ⟨e, rfl, fun kind => ?_⟩⟩
      exact fetchReplies_posts env hposts
  | ok request =>
      obtain ⟨r, token, hdraft, -, hauth⟩ := hprep.eq_ok rfl
      refine ⟨posts ++ [request], _, a', t'.record request, rfl, hprep.keeps.1, by simp [hsent],
        Or.inr ⟨r, request, token.id, _, hdraft, hauth, rfl, fun kind => ?_⟩⟩
      rw [Surroundings.history_append, fetchReplies_append, fetchReplies_posts env hposts, ← hsent]
      rfl

/-- A session that gets nothing from what follows remembers as much as before. -/
theorem Remembers.after {h new : History} {a' : Authorization} (before : s.Remembers c h)
    (server : a'.connection = s.connection) (unfetched : ∀ kind, fetchReplies c kind new = []) :
    { s with authorization := a' }.Remembers c (h ++ new) := by
  have same (kind : EntityKind) : firstViews c kind (h ++ new) = firstViews c kind h :=
    firstViews_append_of_none (firstViews_of_unfetched (unfetched kind))
  refine ⟨server.trans before.server, ?_, ?_, ?_⟩
  · rw [same]
    exact before.descriptors
  · rw [same]
    exact before.accounts
  · rw [same]
    exact before.instances

/-- Sending a request that is no fetch settles nothing. -/
theorem settles_send {τ : Type} {parts : List Part} (target : ∃ url, Part.target url ∈ parts)
    (method : ∀ r, draft parts = .ok r → r.method ≠ .get) (handlers : List (Handler τ)) (m : τ)
    (before : s.Remembers c (env.history [] t.sent)) :
    Settles env c needs (s, t) (authorized (Authorization.send env parts handlers m) (s, t)) := by
  obtain ⟨new, result, a', t', hrun, hserver, hsent, hcases⟩ :=
    send_cases env (c := c) target handlers m s t
  have unfetched : ∀ kind, fetchReplies c kind (env.history t.sent new) = [] := by
    rcases hcases with ⟨-, -, hnone⟩ | ⟨r, q, id, reply, hdraft, hauth, -, hsame⟩
    · exact hnone
    · intro kind
      rw [hsame]
      apply fetchReplies_eq_nil
      intro x hx
      obtain ⟨field, -, rfl⟩ := Request.authorized_eq_ok_iff.mp hauth
      rw [List.mem_singleton.mp hx]
      exact method r hdraft
  rw [hrun]
  refine ⟨new, hsent, ?_, Economical.idle unfetched⟩
  rw [hsent, env.history_sent_append]
  exact before.after hserver unfetched

/-- The draft of a fetch asks for the collection. -/
theorem draft_fetch_eq_ok {url : Url} {r : Request}
    (h : draft [.method .get, .target url, .accept [.json]] = .ok r) :
    r.method = .get ∧ r.url? = some url := by
  simp only [draft, assemble_cons_eq_ok_iff, apply_accept_singleton] at h
  simp only [Part.apply, assemble, Request.setTarget_eq_ok_iff, Except.ok.injEq] at h
  obtain ⟨_, rfl, _, ⟨host, -, rfl⟩, _, rfl, rfl⟩ := h
  exact ⟨rfl, rfl⟩

/-- The draft of a request with a document posts it. -/
theorem draft_document_eq_ok {url : Url} {v : Json} {r : Request}
    (h : draft [.method .post, .target url, .accept [.json], .content .yaml, .document (.ok v)] =
      .ok r) : r.method = .post := by
  simp only [draft, assemble_cons_eq_ok_iff, apply_accept_singleton, apply_content] at h
  simp only [Part.apply, assemble, Request.setTarget_eq_ok_iff, Except.ok.injEq] at h
  obtain ⟨_, rfl, _, ⟨host, -, rfl⟩, _, rfl, _, rfl, _, rfl, rfl⟩ := h
  rfl

/-- A fetch that runs takes its course and yields what comes of it. -/
theorem fetch_course (kind : EntityKind) (server : s.connection = c) :
    ∃ new result a' t', fetch env kind kind.collection (s, t) =
        (result.mapError .http, { s with authorization := a' }, t') ∧
      a'.connection = s.connection ∧ t'.sent = t.sent ++ new ∧
      FetchCourse c kind (env.history t.sent new) result := by
  have target : ∃ url, Part.target url ∈
      [.method .get, .target (s.connection.url kind.collection), .accept [.json]] :=
    ⟨s.connection.url kind.collection, by simp⟩
  obtain ⟨new, result, a', t', hrun, hserver, hsent, hcases⟩ := send_cases env (c := c) target
    [.expect .success, .readJson Handler.documentStatus kind.parseViews fun views _ => views] [] s t
  refine ⟨new, result.map Prod.snd, a', t', ?_, hserver, hsent, ?_⟩
  · simp only [fetch, Action.bind_apply, url_apply, hrun]
    cases result <;> rfl
  · rcases hcases with ⟨e, rfl, hnone⟩ | ⟨r, q, id, reply, hdraft, hauth, rfl, hsame⟩
    · exact .unsent e hnone
    · have hconclude : (conclude
          [.expect .success, .readJson Handler.documentStatus kind.parseViews fun views _ => views]
          [] reply).map Prod.snd = kind.outcome reply := by
        apply conclude_document
        intro code hcode
        have hvalue := (accepts_ofNats [200] code).mp hcode
        simp only [List.mem_singleton] at hvalue
        simp [StatusCode.isSuccess, hvalue]
      rw [hconclude]
      apply FetchCourse.answered
      intro other
      obtain ⟨hmethod, hurl⟩ := draft_fetch_eq_ok hdraft
      obtain ⟨field, -, rfl⟩ := Request.authorized_eq_ok_iff.mp hauth
      rw [hsame]
      apply fetchReplies_singleton
      · exact hmethod
      · exact server ▸ hurl

/-- An answer that is given from what was brought first. If nothing was, it says why. -/
def Answered {α : Type} (answer : List EntityView → Except SessionError α)
    (views? : Option (List EntityView)) (result : Except SessionError α) : Prop :=
  match views? with
  | some views => result = answer views
  | none => ∃ e, result = .error (.http e)

theorem Answered.map {α β : Type} {answer : List EntityView → Except SessionError α}
    {views? : Option (List EntityView)} {result : Except SessionError α}
    (h : Answered answer views? result) (f : α → β) :
    Answered (fun views => (answer views).map f) views? (result.map f) := by
  cases views? with
  | some views =>
      simp only [Answered] at h ⊢
      rw [h]
  | none =>
      obtain ⟨e, rfl⟩ := h
      exact ⟨e, rfl⟩

/-- A cache of the collection of a kind fetches it unless it is known, and answers from what was
brought first. -/
theorem settles_cached {α : Type} {get : Session → LookupCache α}
    {set : Session → LookupCache α → Session} {index : List EntityView → Dictionary α}
    (kind : EntityKind)
    (read : ∀ {h s}, Remembers c h s → get s = .ofViews index (firstViews c kind h))
    (written : ∀ {h new s a'}, Remembers c h s → a'.connection = s.connection →
      (∀ other, other ≠ kind → firstViews c other (h ++ new) = firstViews c other h) →
      Remembers c (h ++ new)
        (set { s with authorization := a' } (.ofViews index (firstViews c kind (h ++ new)))))
    (before : s.Remembers c (env.history [] t.sent)) :
    let out := cached get set (do return index (← fetch env kind kind.collection)) (s, t)
    Settles env c (· = kind) (s, t) out ∧
      Answered (fun views => .ok (index views)) (firstViews c kind (env.history [] out.2.2.sent))
        out.1 := by
  intro out
  cases hviews : firstViews c kind (env.history [] t.sent) with
  | some views =>
      have hget : get s = .populated (index views) := by rw [read before, hviews]; rfl
      have hout : out = (.ok (index views), set s (.populated (index views)), t) := by
        simp only [out, cached, hget, LookupCache.getOrPopulate_populated]
      have hrem : Remembers c (env.history [] t.sent) (set s (.populated (index views))) := by
        have hset := written before (rfl : s.authorization.connection = s.connection)
          fun other _ => congrArg (firstViews c other) (List.append_nil _)
        rw [List.append_nil, hviews] at hset
        exact hset
      rw [hout]
      refine ⟨⟨[], by simp, hrem, Economical.idle fun _ => rfl⟩, ?_⟩
      simp only [hviews]
      rfl
  | none =>
      have hget : get s = .unpopulated := by rw [read before, hviews]; rfl
      obtain ⟨new, result, a', t', hrun, hserver, hsent, course⟩ :=
        fetch_course env (t := t) kind before.server
      have hout : out = ((result.map index).mapError .http,
          set { s with authorization := a' } (.ofViews index result.toOption), t') := by
        simp only [out, cached, hget, LookupCache.getOrPopulate_unpopulated, Action.bind_apply,
          hrun]
        cases result <;> rfl
      have hfirst := course.firstViews_self hviews
      have hrem := written before hserver fun other hne => course.firstViews_other hne
      rw [hfirst] at hrem
      rw [hout]
      simp only [hsent, env.history_sent_append, hfirst]
      refine ⟨⟨new, hsent, ?_, course.economical hviews index⟩, ?_⟩
      · simpa only [hsent, env.history_sent_append] using hrem
      · cases result with
        | ok views => rfl
        | error e => exact ⟨e, rfl⟩

theorem settles_descriptorIds (before : s.Remembers c (env.history [] t.sent)) :
    Settles env c (· = .nsDescriptor) (s, t) (descriptorIds env (s, t)) ∧
      Answered (fun views => .ok (EntityView.idByName views))
        (firstViews c .nsDescriptor (env.history [] (descriptorIds env (s, t)).2.2.sent))
        (descriptorIds env (s, t)).1 := by
  refine settles_cached env .nsDescriptor Remembers.descriptors ?_ before
  intro h new s a' before server same
  refine ⟨server.trans before.server, rfl, ?_, ?_⟩
  · rw [same .vimAccount (by decide)]
    exact before.accounts
  · rw [same .nsInstance (by decide)]
    exact before.instances

theorem settles_accountIds (before : s.Remembers c (env.history [] t.sent)) :
    Settles env c (· = .vimAccount) (s, t) (accountIds env (s, t)) ∧
      Answered (fun views => .ok (EntityView.idByName views))
        (firstViews c .vimAccount (env.history [] (accountIds env (s, t)).2.2.sent))
        (accountIds env (s, t)).1 := by
  refine settles_cached env .vimAccount Remembers.accounts ?_ before
  intro h new s a' before server same
  refine ⟨server.trans before.server, ?_, rfl, ?_⟩
  · rw [same .nsDescriptor (by decide)]
    exact before.descriptors
  · rw [same .nsInstance (by decide)]
    exact before.instances

theorem settles_instanceIds (before : s.Remembers c (env.history [] t.sent)) :
    Settles env c (· = .nsInstance) (s, t) (instanceIds env (s, t)) ∧
      Answered (fun views => .ok (EntityView.idsByName views))
        (firstViews c .nsInstance (env.history [] (instanceIds env (s, t)).2.2.sent))
        (instanceIds env (s, t)).1 := by
  refine settles_cached env .nsInstance Remembers.instances ?_ before
  intro h new s a' before server same
  refine ⟨server.trans before.server, ?_, ?_, rfl⟩
  · rw [same .nsDescriptor (by decide)]
    exact before.descriptors
  · rw [same .vimAccount (by decide)]
    exact before.accounts

/-- A lookup in the entries of a cache fetches what the cache does, and answers from what was
brought first. -/
theorem settles_lookup {α β : Type} {kind : EntityKind} {entries : SessionAction α}
    {index : List EntityView → α} (f : α → Except SessionError β)
    (h : Settles env c (· = kind) (s, t) (entries (s, t)) ∧
      Answered (fun views => .ok (index views))
        (firstViews c kind (env.history [] (entries (s, t)).2.2.sent)) (entries (s, t)).1) :
    let out := (entries >>= fun x => Action.ofExcept (f x)) (s, t)
    Settles env c (· = kind) (s, t) out ∧
      Answered (fun views => f (index views))
        (firstViews c kind (env.history [] out.2.2.sent)) out.1 := by
  intro out
  obtain ⟨hsettles, hanswer⟩ := h
  simp only [out, Action.bind_apply]
  rcases hrun : entries (s, t) with ⟨e | x, s', t'⟩
  · rw [hrun] at hsettles hanswer
    constructor
    · apply hsettles.mono (fun _ hk => hk)
      intro e' he
      cases he
      rfl
    · change Answered _ (firstViews c kind (env.history [] t'.sent)) (.error e)
      cases hviews : firstViews c kind (env.history [] t'.sent) with
      | some views => simp [hviews, Answered] at hanswer
      | none => simpa [hviews, Answered] using hanswer
  · rw [hrun] at hsettles hanswer
    constructor
    · apply hsettles.mono (fun _ hk => hk)
      intro e he
      cases he
    · change Answered _ (firstViews c kind (env.history [] t'.sent)) (f x)
      cases hviews : firstViews c kind (env.history [] t'.sent) with
      | some views =>
          obtain rfl : x = index views := by simpa [hviews, Answered] using hanswer
          rfl
      | none => simp [hviews, Answered] at hanswer

theorem settles_lookupDescriptor (name : String) (before : s.Remembers c (env.history [] t.sent)) :
    Settles env c (· = .nsDescriptor) (s, t) (lookupDescriptor env name (s, t)) ∧
      Answered (fun views => idIn .nsDescriptor name (EntityView.idByName views))
        (firstViews c .nsDescriptor (env.history [] (lookupDescriptor env name (s, t)).2.2.sent))
        (lookupDescriptor env name (s, t)).1 := by
  rw [lookupDescriptor_eq]
  exact settles_lookup env _ (settles_descriptorIds env before)

theorem settles_lookupAccount (name : String) (before : s.Remembers c (env.history [] t.sent)) :
    Settles env c (· = .vimAccount) (s, t) (lookupAccount env name (s, t)) ∧
      Answered (fun views => idIn .vimAccount name (EntityView.idByName views))
        (firstViews c .vimAccount (env.history [] (lookupAccount env name (s, t)).2.2.sent))
        (lookupAccount env name (s, t)).1 := by
  rw [lookupAccount_eq]
  exact settles_lookup env _ (settles_accountIds env before)

theorem settles_lookupInstance (name : String) (before : s.Remembers c (env.history [] t.sent)) :
    Settles env c (· = .nsInstance) (s, t) (lookupInstance env name (s, t)) ∧
      Answered (fun views => instanceIn name (EntityView.idsByName views))
        (firstViews c .nsInstance (env.history [] (lookupInstance env name (s, t)).2.2.sent))
        (lookupInstance env name (s, t)).1 := by
  rw [lookupInstance_eq]
  exact settles_lookup env _ (settles_instanceIds env before)

theorem settles_postDocument (e : Endpoint) (document : Json)
    (before : s.Remembers c (env.history [] t.sent)) :
    Settles env c needs (s, t) (postDocument env e document (s, t)) := by
  apply Settles.bind (Settles.silent _ before)
  intro target st' h before
  cases h
  apply Settles.bind
  · apply settles_send env ⟨s.connection.url e, by simp⟩ _ _ _ before
    intro r hr
    simp [draft_document_eq_ok hr]
  · intro _ st' _ before
    exact Settles.silent _ before

/-- The accounts are looked at only for a descriptor that was found. -/
theorem settles_createInstance (content : NsInstanceContent)
    (before : s.Remembers c (env.history [] t.sent)) :
    let out := createInstance env content (s, t)
    Settles env c
      (fun kind => kind = .nsDescriptor ∨ kind = .vimAccount ∧ ∃ views id,
        firstViews c .nsDescriptor (env.history [] out.2.2.sent) = some views ∧
          idIn .nsDescriptor content.nsdName (EntityView.idByName views) = .ok id)
      (s, t) out := by
  intro out
  obtain ⟨hsettles, hanswer⟩ := settles_lookupDescriptor env content.nsdName before
  have hout : out = (lookupDescriptor env content.nsdName >>= fun nsdId =>
      lookupAccount env content.vimAccountName >>= fun vimAccountId =>
        postDocument env .nsInstancesContent
          (content.createRequest nsdId vimAccountId)) (s, t) := rfl
  rw [Action.bind_apply] at hout
  rcases hrun : lookupDescriptor env content.nsdName (s, t) with ⟨e | id, st'⟩
  · rw [hrun] at hsettles hout
    rw [hout]
    exact hsettles.mono (fun _ hk => Or.inl hk) fun e' he => by cases he; rfl
  · rw [hrun] at hsettles hanswer hout
    have hrest : Settles env c (· = .vimAccount) st' out := by
      rw [hout]
      apply Settles.bind (settles_lookupAccount env content.vimAccountName hsettles.remembers).1
      intro accountId st'' _ before
      exact settles_postDocument env _ _ before
    cases hviews : firstViews c .nsDescriptor (env.history [] st'.2.sent) with
    | none =>
        simp only [hviews, Answered] at hanswer
        obtain ⟨e, he⟩ := hanswer
        cases he
    | some views =>
        simp only [hviews, Answered] at hanswer
        apply (hsettles.mono (fun _ hk => Or.inl hk) fun _ he => he).seq (fun _ he => by cases he)
        apply hrest.mono _ fun _ he => he
        intro kind hk
        exact Or.inr ⟨hk, views, id, hrest.known hviews, hanswer.symm⟩

end Session

namespace Operation

/-- The collections that an operation needs, given what is known in the end. A deployment needs the
descriptors if there is no instance of the name, and the accounts if there is the descriptor then.
-/
def Needs (views? : EntityKind → Option (List EntityView)) : Operation → EntityKind → Prop
  | .lookupDescriptor _, kind => kind = .nsDescriptor
  | .lookupAccount _, kind => kind = .vimAccount
  | .lookupInstance _, kind => kind = .nsInstance
  | .deploy content, kind =>
    kind = .nsInstance ∨
      (∃ instances, views? .nsInstance = some instances ∧
        Session.instanceIn content.name (EntityView.idsByName instances) =
          .error (.notFound .nsInstance content.name)) ∧
      (kind = .nsDescriptor ∨ kind = .vimAccount ∧ ∃ descriptors id,
        views? .nsDescriptor = some descriptors ∧
          Session.idIn .nsDescriptor content.nsdName (EntityView.idByName descriptors) = .ok id)
  | .accessToken, _ => False
  | .upload _, _ => False
  | .uploadDirectory _ _, _ => False

/-- Lookups answer from what is known of their collection in the end. -/
def AnswersFrom (views? : EntityKind → Option (List EntityView)) :
    Operation → Except SessionError Answer → Prop
  | .lookupDescriptor name, result =>
    Session.Answered (fun views =>
      (Session.idIn .nsDescriptor name (EntityView.idByName views)).map .id)
      (views? .nsDescriptor) result
  | .lookupAccount name, result =>
    Session.Answered (fun views =>
      (Session.idIn .vimAccount name (EntityView.idByName views)).map .id)
      (views? .vimAccount) result
  | .lookupInstance name, result =>
    Session.Answered (fun views =>
      (Session.instanceIn name (EntityView.idsByName views)).map .id)
      (views? .nsInstance) result
  | _, _ => True

end Operation

namespace Session

variable (env : Surroundings) {c : Connection} {needs : EntityKind → Prop} {s : Session}
  {t : Traffic}

theorem instanceIn_eq_notFound {name : String} {entries : Dictionary (List String)}
    {kind : EntityKind} {missing : String}
    (h : instanceIn name entries = .error (.notFound kind missing)) :
    kind = .nsInstance ∧ missing = name := by
  simp only [instanceIn] at h
  split at h
  · cases h
    exact ⟨rfl, rfl⟩
  · cases h
  · cases h

/-- The descriptors and accounts are looked at only if there is no instance of the name. -/
theorem settles_deploy (content : NsInstanceContent)
    (before : s.Remembers c (env.history [] t.sent)) :
    let out := deploy env content (s, t)
    Settles env c (Operation.Needs (fun kind => firstViews c kind (env.history [] out.2.2.sent))
      (.deploy content)) (s, t) out := by
  intro out
  obtain ⟨hsettles, hanswer⟩ := settles_lookupInstance env content.name before
  have hout : out = deploy env content (s, t) := rfl
  simp only [deploy] at hout
  rcases hrun : lookupInstance env content.name (s, t) with ⟨e | id, s', t'⟩
  · rw [hrun] at hsettles hanswer hout
    cases e with
    | notFound kind missing =>
        have hcreated :
            out = ((fun _ => Deployment.created) <$> createInstance env content) (s', t') :=
          hout
        have htraffic : (createInstance env content (s', t')).2 = out.2 := by
          rw [hcreated, Action.map_apply]
        have hrest := (settles_createInstance env (s := s') content hsettles.remembers).map
          (f := fun _ => Deployment.created)
        rw [← hcreated, htraffic] at hrest
        cases hviews : firstViews c .nsInstance (env.history [] t'.sent) with
        | none => simp [hviews, Answered] at hanswer
        | some views =>
            have hin : instanceIn content.name (EntityView.idsByName views) =
                .error (.notFound kind missing) := by
              simpa [hviews, Answered, eq_comm] using hanswer
            obtain ⟨rfl, rfl⟩ := instanceIn_eq_notFound hin
            apply (hsettles.mono (fun _ hk => Or.inl hk) fun _ he => he).seq
              (fun _ he => by cases he)
            apply hrest.mono _ fun _ he => he
            intro kind hk
            exact Or.inr ⟨⟨views, hrest.known hviews, hin⟩, hk⟩
    | _ =>
        rw [hout]
        exact hsettles.mono (fun _ hk => Or.inl hk) fun _ he => by cases he <;> rfl
  · rw [hrun] at hsettles hout
    rw [hout]
    apply (hsettles.mono (fun _ hk => Or.inl hk) fun _ he => he).seq (fun _ he => by cases he)
    exact (settles_postDocument env _ _ hsettles.remembers).map

theorem settles_upload (p : Package) (before : s.Remembers c (env.history [] t.sent)) :
    Settles env c needs (s, t) (upload env p (s, t)) := by
  have send (method : Method) (e : Endpoint) (post : method ≠ .get)
      (expected : StatusExpectation) {s : Session} {t : Traffic}
      (before : s.Remembers c (env.history [] t.sent)) :
      Settles env c needs (s, t) (authorized (Authorization.send env
        (p.uploadRequest method (c.url e)) [.expect expected] ()) (s, t)) := by
    apply settles_send env (Package.target_mem_uploadRequest ..) _ _ _ before
    intro r hr
    obtain ⟨host, -, -, -, rfl⟩ := Package.draft_uploadRequest_eq_ok_iff.mp hr
    exact post
  simp only [upload]
  cases p.kind? with
  | none => exact Settles.silent _ before
  | some kind =>
      apply Settles.bind (Settles.silent _ before)
      intro collection st' h before
      cases h
      apply Settles.bind (Settles.silent _ before)
      intro item st' h before
      cases h
      have hserver := before.server
      simp only [hserver]
      apply Settles.bind (send .post _ (by decide) _ before)
      rintro ⟨reply, -⟩ st' - before
      by_cases hconf : reply.status = .conflict
      · simp only [hconf, if_true]
        apply Settles.bind (send .put _ (by decide) _ before)
        intro _ st' _ before
        exact Settles.silent _ before
      · simp only [hconf, if_false]
        exact Settles.silent _ before

theorem settles_uploadDirectory (fs : FileSystem) (path : Path)
    (before : s.Remembers c (env.history [] t.sent)) :
    Settles env c needs (s, t) (uploadDirectory env fs path (s, t)) := by
  simp only [uploadDirectory]
  cases Package.absoluteSource fs path with
  | error e => exact Settles.silent _ before
  | ok source =>
      simp only
      cases (Package.nameOf? source).bind PackageKind.ofName? with
      | none => exact Settles.silent _ before
      | some kind =>
          simp only
          cases Package.pack fs source with
          | error e => exact Settles.silent _ before
          | ok p => exact settles_upload env p before

theorem settles_accessToken (before : s.Remembers c (env.history [] t.sent)) :
    Settles env c needs (s, t) (accessToken env (s, t)) := by
  obtain ⟨token, a', t', hrun, hacq⟩ :=
    Authorization.accessToken_acquired env s.authorization t
  obtain ⟨posts, hsent, -, hposts, -⟩ := hacq.history
  have unfetched : ∀ kind, fetchReplies c kind (env.history t.sent posts) = [] :=
    fun kind => fetchReplies_posts env hposts
  rw [accessToken, authorized_apply, hrun]
  refine ⟨posts, hsent, ?_, Economical.idle unfetched⟩
  simp only [hsent, env.history_sent_append]
  exact before.after hacq.keeps.1 unfetched

/-- Every operation fetches what it needs, keeps what it fetches, and answers from that. -/
theorem settles_perform (op : Operation) (before : s.Remembers c (env.history [] t.sent)) :
    let out := op.perform env (s, t)
    Settles env c
      (op.Needs fun kind => firstViews c kind (env.history [] out.2.2.sent)) (s, t) out ∧
      op.AnswersFrom (fun kind => firstViews c kind (env.history [] out.2.2.sent)) out.1 := by
  intro out
  cases op with
  | accessToken => exact ⟨(settles_accessToken env before).map, trivial⟩
  | lookupDescriptor name =>
      obtain ⟨hsettles, hanswer⟩ := settles_lookupDescriptor env name before
      refine ⟨hsettles.map, ?_⟩
      simp only [out, Operation.perform, Action.map_apply]
      exact hanswer.map _
  | lookupAccount name =>
      obtain ⟨hsettles, hanswer⟩ := settles_lookupAccount env name before
      refine ⟨hsettles.map, ?_⟩
      simp only [out, Operation.perform, Action.map_apply]
      exact hanswer.map _
  | lookupInstance name =>
      obtain ⟨hsettles, hanswer⟩ := settles_lookupInstance env name before
      refine ⟨hsettles.map, ?_⟩
      simp only [out, Operation.perform, Action.map_apply]
      exact hanswer.map _
  | deploy content =>
      have hsettles := (settles_deploy env content before).map (f := Answer.deployment)
      refine ⟨?_, trivial⟩
      simp only [out, Operation.perform, Action.map_apply] at hsettles ⊢
      exact hsettles
  | upload p => exact ⟨(settles_upload env p before).map, trivial⟩
  | uploadDirectory fs path => exact ⟨(settles_uploadDirectory env fs path before).map, trivial⟩

/-- A collection whose fetch succeeded is not fetched again. -/
def FetchesEnd (c : Connection) (h : History) : Prop :=
  ∀ kind earlier reply later, fetchReplies c kind h = earlier ++ reply :: later →
    (kind.viewsIn reply).isSome = true → later = []

theorem FetchesEnd.append {α : Type} {h new : History} {result : Except SessionError α}
    (ends : FetchesEnd c h) (next : Economical c needs h new result) : FetchesEnd c (h ++ new) := by
  intro kind earlier reply later hsplit hsuccess
  rw [fetchReplies_append] at hsplit
  have hlen := next.once kind
  rcases List.append_eq_append_iff.mp hsplit.symm with ⟨rest, hbefore, hnew⟩ | ⟨rest, rfl, hnew⟩
  · cases rest with
    | nil =>
        rw [List.nil_append] at hnew
        rw [← hnew] at hlen
        simpa using hlen
    | cons reply' rest =>
        rw [List.cons_append, List.cons.injEq] at hnew
        obtain ⟨rfl, rfl⟩ := hnew
        have hrest := ends kind earlier reply rest hbefore hsuccess
        have hknown : (firstViews c kind h).isSome = true := by
          rw [firstViews, hbefore, List.findSome?_isSome_iff]
          exact ⟨reply, by simp, hsuccess⟩
        rw [hrest, next.settled kind hknown, List.append_nil]
  · rw [hnew] at hlen
    simp only [List.length_append, List.length_cons] at hlen
    exact List.eq_nil_of_length_eq_zero (by omega)

/-- Whether two sessions have the same cache of the collection of a kind. -/
def AgreesOn (s s' : Session) : EntityKind → Prop
  | .nsDescriptor => s'.nsDescriptors = s.nsDescriptors
  | .vimAccount => s'.vimAccounts = s.vimAccounts
  | .nsInstance => s'.nsInstances = s.nsInstances

/-- A cache changes only if its own collection is brought. -/
theorem Remembers.agreesOn {h new : History} {s s' : Session} (before : s.Remembers c h)
    (after : s'.Remembers c (h ++ new)) {kind : EntityKind}
    (nothing : firstViews c kind new = none) : s.AgreesOn s' kind := by
  have same := firstViews_append_of_none (h := h) nothing
  cases kind with
  | nsDescriptor => exact (same ▸ after.descriptors).trans before.descriptors.symm
  | vimAccount => exact (same ▸ after.accounts).trans before.accounts.symm
  | nsInstance => exact (same ▸ after.instances).trans before.instances.symm

theorem remembers_start (c : Connection) (user : Credentials) : (start c user).Remembers c [] :=
  ⟨rfl, rfl, rfl, rfl⟩

/-- After every run, the caches hold what was brought, and no collection was fetched after that. -/
theorem run_remembers (ops : List Operation) (before : s.Remembers c (env.history [] t.sent))
    (ends : FetchesEnd c (env.history [] t.sent)) :
    (run env ops (s, t)).2.1.Remembers c (env.history [] (run env ops (s, t)).2.2.sent) ∧
      FetchesEnd c (env.history [] (run env ops (s, t)).2.2.sent) := by
  induction ops generalizing s t with
  | nil => exact ⟨before, ends⟩
  | cons op ops ih =>
      obtain ⟨⟨new, hsent, hafter, heco⟩, -⟩ := settles_perform env op before
      apply ih hafter
      rw [hsent, env.history_sent_append]
      exact ends.append heco

/-- Each collection is fetched once. After every run of a new session, the caches hold what the
first successful fetches have brought. The operation that follows fetches a collection at most once,
only if it needs it, and not if a fetch has succeeded; it fails if a fetch does; lookups answer from
what the first successful fetch has brought; and a cache changes only when its own collection is
brought. -/
theorem collections_fetched_once (env : Surroundings) (c : Connection) (user : Credentials)
    (ops : List Operation) (op : Operation) :
    let st := (run env ops (start c user, {})).2
    let out := op.perform env st
    let past := env.history [] st.2.sent
    let all := env.history [] out.2.2.sent
    ∃ new, out.2.2.sent = st.2.sent ++ new ∧
      st.1.Remembers c past ∧ out.2.1.Remembers c all ∧
      Economical c (op.Needs fun kind => firstViews c kind all) past (env.history st.2.sent new)
        out.1 ∧
      op.AnswersFrom (fun kind => firstViews c kind all) out.1 ∧
      FetchesEnd c all ∧
      ∀ kind, firstViews c kind (env.history st.2.sent new) = none →
        st.1.AgreesOn out.2.1 kind := by
  intro st out past all
  have ends : FetchesEnd c [] := by
    intro kind earlier reply later h
    simp [fetchReplies] at h
  obtain ⟨hbefore, hends⟩ :=
    run_remembers env (t := {}) ops (remembers_start c user) ends
  obtain ⟨⟨new, hsent, hafter, heco⟩, hanswer⟩ := settles_perform env op hbefore
  have hall : all = past ++ env.history st.2.sent new :=
    (congrArg (env.history []) hsent).trans (env.history_sent_append ..)
  refine ⟨new, hsent, hbefore, hafter, heco, hanswer, ?_, ?_⟩
  · rw [hall]
    exact hends.append heco
  · intro kind nothing
    apply Remembers.agreesOn hbefore _ nothing
    rw [← hall]
    exact hafter

end Session

end Northbound
