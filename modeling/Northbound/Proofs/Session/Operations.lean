import Northbound.Proofs.Session.Conversation
import Northbound.Proofs.Session.Lookup
import Northbound.Session.Run

/-!
# Every run is a conversation

Whatever operations a session performs, all its traffic is a conversation with one server on behalf
of one user. The main statement says this of every run, and of the operation after it that its
result reports the request that could not be sent, if there is one.
-/

namespace Northbound

open Http

/-- What an operation has to do with the server is a conversation, and its result reports it. -/
def Converses {α : Type} (env : Surroundings) (st : Session × Traffic)
    (out : Except SessionError α × Session × Traffic) : Prop :=
  ∃ log, Conversation env (st.1.authorization, st.2) log (out.2.1.authorization, out.2.2) ∧
    Reported log out.1

namespace Converses

variable {env : Surroundings} {α β : Type} {s : Session} {t : Traffic}

/-- An operation that has nothing to do with the server. -/
theorem silent {s' : Session} (result : Except SessionError α)
    (h : s'.authorization = s.authorization) : Converses env (s, t) (result, s', t) :=
  ⟨[], h ▸ .done, .complete (by simp)⟩

/-- What is done with a result, without the server. -/
theorem mono {out : Except SessionError α × Session × Traffic} {s' : Session}
    {result : Except SessionError β} (h : Converses env (s, t) out)
    (auth : s'.authorization = out.2.1.authorization)
    (errors : ∀ e, out.1 = .error e → result = .error e) :
    Converses env (s, t) (result, s', out.2.2) := by
  obtain ⟨log, hconv, hrep⟩ := h
  obtain ⟨r, s'', t''⟩ := out
  refine ⟨log, by simpa only [auth] using hconv, ?_⟩
  cases hrep with
  | complete sent => exact .complete sent
  | failed sent request =>
      rw [errors _ rfl]
      exact .failed sent request

/-- One operation after another. -/
theorem seq {st : Session × Traffic} {x : α} {st' : Session × Traffic}
    {out : Except SessionError β × Session × Traffic} (h : Converses env st (.ok x, st'))
    (next : Converses env st' out) : Converses env st out := by
  obtain ⟨log, hconv, hrep⟩ := h
  obtain ⟨more, hmore, hnext⟩ := next
  refine ⟨log ++ more, hconv.append hmore, ?_⟩
  generalize hr : (Except.ok x : Except SessionError α) = r at hrep
  cases hrep with
  | failed => cases hr
  | complete sent =>
      generalize hout : out.1 = result at hnext ⊢
      cases hnext with
      | complete later =>
          refine .complete fun x hx => ?_
          rcases List.mem_append.mp hx with hx | hx
          · exact sent x hx
          · exact later x hx
      | failed later request =>
          rw [← List.append_assoc]
          refine .failed (fun x hx => ?_) request
          rcases List.mem_append.mp hx with hx | hx
          · exact sent x hx
          · exact later x hx

theorem bind {act : SessionAction α} {f : α → SessionAction β} {st : Session × Traffic}
    (h : Converses env st (act st))
    (next : ∀ x st', act st = (.ok x, st') → Converses env st' (f x st')) :
    Converses env st ((act >>= f) st) := by
  rw [Action.bind_apply]
  rcases hact : act st with ⟨e | x, st'⟩
  · rw [hact] at h
    apply h.mono rfl
    intro e' he
    cases he
    rfl
  · rw [hact] at h
    exact h.seq (next x st' hact)

theorem map {act : SessionAction α} {f : α → β} {st : Session × Traffic}
    (h : Converses env st (act st)) : Converses env st ((f <$> act) st) := by
  rw [Action.map_apply]
  apply h.mono rfl
  intro e he
  rw [he]
  rfl

end Converses

namespace Session

variable (env : Surroundings) {α : Type} {s : Session} {t : Traffic}

/-- Sending a request is a conversation of that request alone. -/
theorem converses_send {τ : Type} {parts : List Part} (asked : Asked s.connection parts)
    (handlers : List (Handler τ)) (m : τ) :
    Converses env (s, t) (authorized (Authorization.send env parts handlers m) (s, t)) := by
  obtain ⟨e, htarget⟩ := asked.target
  obtain ⟨q, a', t', hprep, hsend⟩ :=
    Authorization.send_prepared env ⟨_, htarget⟩ handlers m s.authorization t
  rw [authorized_apply, hsend]
  have hlawful := hprep.lawful asked
  cases q with
  | error e => exact ⟨[_], .sending hlawful .done, Reported.failed (List.forall_mem_nil _) rfl⟩
  | ok request =>
      exact ⟨[_], .sending hlawful .done, .complete (by simp [Except.isOk, Except.toBool])⟩

/-- A session stays with its server. -/
theorem connection_send {τ : Type} (env : Surroundings) {parts : List Part} {c : Connection}
    (asked : Asked c parts) (handlers : List (Handler τ)) (m : τ) (s : Session) (t : Traffic) :
    (authorized (Authorization.send env parts handlers m) (s, t)).2.1.connection =
      s.connection := by
  obtain ⟨e, htarget⟩ := asked.target
  obtain ⟨q, a', t', hprep, hsend⟩ :=
    Authorization.send_prepared env ⟨_, htarget⟩ handlers m s.authorization t
  rw [authorized_apply, hsend]
  cases q with
  | error e => exact hprep.keeps.1
  | ok request => exact hprep.keeps.1

theorem converses_fetch (kind : EntityKind) (e : Endpoint) :
    Converses env (s, t) (fetch env kind e (s, t)) := by
  apply Converses.bind (Converses.silent _ rfl)
  intro target st' h
  cases h
  apply Converses.bind (converses_send env (.collection e) _ _)
  intro views st' _
  exact Converses.silent _ rfl

theorem converses_postDocument (e : Endpoint) (document : Json) :
    Converses env (s, t) (postDocument env e document (s, t)) := by
  apply Converses.bind (Converses.silent _ rfl)
  intro target st' h
  cases h
  apply Converses.bind (converses_send env (.document e document) _ _)
  intro views st' _
  exact Converses.silent _ rfl

/-- A cache causes no traffic of its own. -/
theorem converses_cached {get : Session → LookupCache α}
    {set : Session → LookupCache α → Session} {populate : SessionAction (Dictionary α)}
    (auth : ∀ s cache, (set s cache).authorization = s.authorization)
    (h : Converses env (s, t) (populate (s, t))) :
    Converses env (s, t) (cached get set populate (s, t)) := by
  simp only [cached]
  cases hget : get s with
  | populated entries =>
      rw [LookupCache.getOrPopulate_populated]
      exact Converses.silent _ (auth ..)
  | unpopulated =>
      rw [LookupCache.getOrPopulate_unpopulated]
      rcases hpop : populate (s, t) with ⟨e | entries, s', t'⟩
      · rw [hpop] at h
        exact h.mono (auth ..) fun _ he => he
      · rw [hpop] at h
        exact h.mono (auth ..) fun _ he => he

theorem converses_descriptorIds : Converses env (s, t) (descriptorIds env (s, t)) := by
  apply converses_cached env fun _ _ => rfl
  exact Converses.bind (converses_fetch ..) fun _ _ _ => Converses.silent _ rfl

theorem converses_accountIds : Converses env (s, t) (accountIds env (s, t)) := by
  apply converses_cached env fun _ _ => rfl
  exact Converses.bind (converses_fetch ..) fun _ _ _ => Converses.silent _ rfl

theorem converses_instanceIds : Converses env (s, t) (instanceIds env (s, t)) := by
  apply converses_cached env fun _ _ => rfl
  exact Converses.bind (converses_fetch ..) fun _ _ _ => Converses.silent _ rfl

theorem converses_lookupDescriptor (name : String) :
    Converses env (s, t) (lookupDescriptor env name (s, t)) := by
  rw [lookupDescriptor_eq]
  exact Converses.bind (converses_descriptorIds env) fun _ _ _ => Converses.silent _ rfl

theorem converses_lookupAccount (name : String) :
    Converses env (s, t) (lookupAccount env name (s, t)) := by
  rw [lookupAccount_eq]
  exact Converses.bind (converses_accountIds env) fun _ _ _ => Converses.silent _ rfl

theorem converses_lookupInstance (name : String) :
    Converses env (s, t) (lookupInstance env name (s, t)) := by
  rw [lookupInstance_eq]
  exact Converses.bind (converses_instanceIds env) fun _ _ _ => Converses.silent _ rfl

theorem converses_createInstance (content : NsInstanceContent) :
    Converses env (s, t) (createInstance env content (s, t)) := by
  apply Converses.bind (converses_lookupDescriptor env content.nsdName)
  intro nsdId st' _
  apply Converses.bind (converses_lookupAccount env content.vimAccountName)
  intro accountId st'' _
  exact converses_postDocument ..

/-- An instance that was not found is not a request that was not sent. -/
theorem converses_deploy (content : NsInstanceContent) :
    Converses env (s, t) (deploy env content (s, t)) := by
  have hlookup : Converses env (s, t) (lookupInstance env content.name (s, t)) :=
    converses_lookupInstance env content.name
  simp only [deploy]
  rcases hrun : lookupInstance env content.name (s, t) with ⟨e | id, s', t'⟩
  · rw [hrun] at hlookup
    cases e with
    | notFound kind name =>
        obtain ⟨log, hconv, hrep⟩ := hlookup
        have hcreate := (converses_createInstance env (s := s') (t := t') content).map
          (f := fun _ => Deployment.created)
        have hfound : Converses env (s, t) (.ok (), s', t') := by
          refine ⟨log, hconv, ?_⟩
          cases hrep with
          | complete sent => exact .complete sent
        exact hfound.seq hcreate
    | _ => exact hlookup.mono rfl fun _ he => by cases he; rfl
  · rw [hrun] at hlookup
    exact hlookup.seq (converses_postDocument ..).map

theorem converses_uploadAs (kind : PackageKind) (p : Package) :
    Converses env (s, t) (uploadAs env kind p (s, t)) := by
  apply Converses.bind (Converses.silent _ rfl)
  intro collection st' h
  cases h
  apply Converses.bind (Converses.silent _ rfl)
  intro item st' h
  cases h
  apply Converses.bind (converses_send env (.package p .post _) _ _)
  intro ⟨reply, _⟩ st' hrun
  have hconn : st'.1.connection = s.connection := by
    rw [← connection_send env (.package p .post _) _ _ s t, hrun]
  by_cases hconf : reply.status = .conflict
  · simp only [hconf, if_true]
    apply Converses.bind
    · exact converses_send env (hconn ▸ .package p .put _) _ _
    · intro _ _ _
      exact Converses.silent _ rfl
  · simp only [hconf, if_false]
    exact Converses.silent _ rfl

theorem converses_upload (p : Package) : Converses env (s, t) (upload env p (s, t)) := by
  simp only [upload]
  cases p.kind? with
  | none => exact Converses.silent _ rfl
  | some kind => exact converses_uploadAs env kind p

theorem converses_uploadDirectory (fs : FileSystem) (path : Path) :
    Converses env (s, t) (uploadDirectory env fs path (s, t)) := by
  simp only [uploadDirectory]
  cases Package.absoluteSource fs path with
  | error e => exact Converses.silent _ rfl
  | ok source =>
      simp only
      cases (Package.nameOf? source).bind PackageKind.ofName? with
      | none => exact Converses.silent _ rfl
      | some kind =>
          simp only
          cases Package.pack fs source with
          | error e => exact Converses.silent _ rfl
          | ok p => exact converses_upload env p

/-- Asking for a token is no request of its own, and reports that none came. -/
theorem converses_accessToken : Converses env (s, t) (accessToken env (s, t)) := by
  obtain ⟨token, a', t', hrun, hacq⟩ :=
    Authorization.accessToken_acquired env s.authorization t
  rw [accessToken, authorized_apply, hrun]
  exact ⟨[], .token hacq .done, .complete (by simp)⟩

/-- Every operation is a conversation. -/
theorem converses_perform (op : Operation) (st : Session × Traffic) :
    Converses env st (op.perform env st) := by
  obtain ⟨s, t⟩ := st
  cases op with
  | accessToken => exact (converses_accessToken env).map
  | lookupDescriptor name => exact (converses_lookupDescriptor env name).map
  | lookupAccount name => exact (converses_lookupAccount env name).map
  | lookupInstance name => exact (converses_lookupInstance env name).map
  | deploy content => exact (converses_deploy env content).map
  | upload p => exact (converses_upload env p).map
  | uploadDirectory fs path => exact (converses_uploadDirectory env fs path).map

/-- Every run is a conversation. -/
theorem conversation_run (ops : List Operation) (st : Session × Traffic) :
    ∃ log, Conversation env (st.1.authorization, st.2) log
      ((run env ops st).2.1.authorization, (run env ops st).2.2) := by
  induction ops generalizing st with
  | nil => exact ⟨[], .done⟩
  | cons op ops ih =>
      obtain ⟨log, hconv, -⟩ := converses_perform env op st
      obtain ⟨more, hmore⟩ := ih (op.perform env st).2
      exact ⟨log ++ more, hconv.append hmore⟩

end Session

end Northbound
