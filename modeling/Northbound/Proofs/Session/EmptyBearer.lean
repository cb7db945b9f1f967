import Northbound.Proofs.Session.Operations
import Northbound.Proofs.Session.Recreation
import Northbound.Proofs.Text.Encoding

/-!
# Requests with an empty bearer token

A token with an empty ID has always expired, so it is not used once it is at hand. It is used by the
request for which it was issued, though, because a token that has just come is not looked at. The
main statement says of every run that a request carries an empty token exactly in this case, and a
sample run has one.
-/

namespace Northbound

open Http

/-- Whether a request is authorized with a token that is empty. -/
def Http.Request.BearsNothing (q : Request) : Prop :=
  q.headers.lookup "authorization" = some (utf8 "Bearer ")

instance : DecidablePred Http.Request.BearsNothing := fun q =>
  inferInstanceAs (Decidable (q.headers.lookup "authorization" = some (utf8 "Bearer ")))

theorem Http.Request.bearsNothing_authorized_iff {r q : Request} {id : String}
    (h : r.authorized id = .ok q) : q.BearsNothing ↔ id = "" := by
  rw [BearsNothing, lookup_authorization h, Option.some.injEq]
  constructor
  · intro hbytes
    have htext := congrArg String.toList (utf8_inj hbytes)
    simpa using htext
  · rintro rfl
    rfl

namespace History

variable {post? : Option Request} {issued : Prop}

/-- Whether an exchange is a token request whose reply brought a token with an empty ID. -/
def IssuesNothing (post? : Option Request) (x : Request × Except TransportError Response) : Prop :=
  post? = some x.1 ∧ ∃ token, Token.ofReply x.2 = .ok token ∧ token.id = ""

/-- Whether such an exchange is the last one of a history, or the last one before if the history is
empty. -/
def endsIssuing (post? : Option Request) (issued : Prop) (h : History) : Prop :=
  h.foldl (fun _ x => IssuesNothing post? x) issued

/-- Whether the requests of a history that carry an empty token are those that follow such an
exchange, other than token requests. -/
def BearsWhatIsIssued (post? : Option Request) : Prop → History → Prop
  | _, [] => True
  | issued, x :: rest =>
    (x.1.BearsNothing ↔ post? ≠ some x.1 ∧ issued) ∧
      BearsWhatIsIssued post? (IssuesNothing post? x) rest

theorem endsIssuing_append (h more : History) :
    endsIssuing post? issued (h ++ more) = endsIssuing post? (endsIssuing post? issued h) more :=
  List.foldl_append ..

theorem bearsWhatIsIssued_append_iff {h more : History} :
    BearsWhatIsIssued post? issued (h ++ more) ↔ BearsWhatIsIssued post? issued h ∧
      BearsWhatIsIssued post? (endsIssuing post? issued h) more := by
  induction h generalizing issued with
  | nil => simp [BearsWhatIsIssued, endsIssuing]
  | cons x h ih =>
      rw [List.cons_append, BearsWhatIsIssued, ih, BearsWhatIsIssued, and_assoc]
      rfl

/-- What ends a history is the exchange of the last request. -/
theorem endsIssuing_history_iff (env : Surroundings) {past new : List Request} :
    endsIssuing post? False (env.history past new) ↔ ∃ earlier post token, new = earlier ++ [post] ∧
      post? = some post ∧ Token.ofReply (env.answer (past ++ earlier) post) = .ok token ∧
        token.id = "" := by
  rcases List.eq_nil_or_concat new with rfl | ⟨earlier, post, rfl⟩
  · simp [endsIssuing, Surroundings.history]
  · rw [List.concat_eq_append, env.history_append, endsIssuing_append]
    constructor
    · rintro ⟨hpost, token, hreply, hid⟩
      exact ⟨earlier, post, token, rfl, hpost, hreply, hid⟩
    · rintro ⟨earlier', post', token, heq, hpost, hreply, hid⟩
      obtain ⟨rfl, hlast⟩ := List.append_inj' heq rfl
      cases hlast
      exact ⟨hpost, token, hreply, hid⟩

end History

open History

/-- Whether the token at hand has an empty ID. -/
def Authorization.Nameless (a : Authorization) : Prop :=
  ∃ token, a.token? = some token ∧ token.id = ""

/-- Between two points, empty tokens are carried as they are issued, and the token at hand in the
end is empty if the last exchange has issued an empty one. -/
structure Placed (env : Surroundings) (issued : Prop) (x y : Authorization × Traffic)
    (new : List Request) : Prop where
  sent : y.2.sent = x.2.sent ++ new
  post? : y.1.post? = x.1.post?
  bears : BearsWhatIsIssued x.1.post? issued (env.history x.2.sent new)
  nameless : endsIssuing x.1.post? issued (env.history x.2.sent new) → y.1.Nameless

namespace Placed

variable {env : Surroundings} {issued : Prop} {x y z : Authorization × Traffic}
  {new more : List Request}

theorem append (h : Placed env issued x y new)
    (rest : Placed env (endsIssuing x.1.post? issued (env.history x.2.sent new)) y z more) :
    Placed env issued x z (new ++ more) := by
  obtain ⟨hsent, hpost, hbears, hnameless⟩ := rest
  rw [h.sent, h.post?] at hbears hnameless
  refine ⟨by rw [hsent, h.sent, List.append_assoc], hpost.trans h.post?, ?_, ?_⟩
  · rw [env.history_append]
    exact bearsWhatIsIssued_append_iff.mpr ⟨h.bears, hbears⟩
  · rw [env.history_append, endsIssuing_append]
    exact hnameless

/-- Nothing was sent. -/
theorem silent {a : Authorization} {t t' : Traffic} (sent : t'.sent = t.sent)
    (nameless : issued → a.Nameless) : Placed env issued (a, t) (a, t') [] :=
  ⟨by simp [sent], rfl, trivial, nameless⟩

/-- A token request was sent. -/
theorem token (env : Surroundings) (issued : Prop) {a : Authorization} {t t' : Traffic}
    {post : Request} (hpost : a.post? = some post) (sent : t'.sent = t.sent) :
    Placed env issued (a, t) (a.keep (Token.ofReply (env.answer t.sent post)), t'.record post)
      [post] := by
  obtain ⟨hconn, hcred⟩ := a.keep_keeps (Token.ofReply (env.answer t.sent post))
  refine ⟨by simp [sent], Authorization.post?_congr hconn hcred, ⟨?_, trivial⟩, ?_⟩
  · simp [Request.BearsNothing, Authorization.lookup_authorization_post hpost, hpost]
  · rintro ⟨-, token, hreply, hid⟩
    exact ⟨token, by rw [hreply]; rfl, hid⟩

/-- A request was sent with a token, which is empty if one was issued just before. -/
theorem request {a : Authorization} {t : Traffic} {r q : Request} {token : Token}
    (h : r.authorized token.id = .ok q) (just : token.id = "" ↔ issued) :
    Placed env issued (a, t) (a, t.record q) [q] := by
  have other : a.post? ≠ some q := Authorization.post?_ne_authorized h
  refine ⟨rfl, rfl, ⟨?_, trivial⟩, fun hissues => absurd hissues.1 other⟩
  rw [Request.bearsNothing_authorized_iff h, just]
  exact ⟨fun hissued => ⟨other, hissued⟩, And.right⟩

/-- A request was to be sent with such a token. -/
theorem send {a : Authorization} {t : Traffic} {token : Token} (r : Request)
    (just : token.id = "" ↔ issued) (nameless : issued → a.Nameless) :
    ∃ new, Placed env issued (a, t) (a, t.send (r.authorized token.id)) new := by
  cases hq : r.authorized token.id with
  | error e => exact ⟨[], silent rfl nameless⟩
  | ok q => exact ⟨[q], request hq just⟩

end Placed

namespace Authorization

variable {env : Surroundings} {a a' : Authorization} {t t' : Traffic} {issued : Prop}

/-- A token that has not expired has an ID. -/
theorem id_ne_empty_of_valid {token : Token} {now : Binary64}
    (valid : token.hasExpiredAt now = false) : token.id ≠ "" := by
  intro hid
  obtain ⟨id, expiry⟩ := token
  cases hid
  rw [Token.hasExpiredAt_of_id_empty] at valid
  cases valid

theorem not_nameless_of_fresh {token : Token} {now : Binary64} (cached : a.token? = some token)
    (valid : token.hasExpiredAt now = false) : ¬a.Nameless := by
  rintro ⟨token', cached', hid⟩
  cases cached.symm.trans cached'
  exact id_ne_empty_of_valid valid hid

/-- A token that is acquired is empty only if it was issued. -/
theorem Acquired.placed {result : Except HttpError Token} (h : Acquired env a t result a' t')
    (nameless : issued → a.Nameless) : ∃ new, Placed env issued (a, t) (a', t') new := by
  cases h with
  | fresh => exact ⟨[], .silent (Traffic.sent_reading t) nameless⟩
  | unbuilt => exact ⟨[], .silent (sent_checked a t) nameless⟩
  | replied stale built =>
      exact ⟨_, .token env issued (post?_eq_some_iff.mpr built) (sent_checked a t)⟩

end Authorization

/-- A token that was issued for a request is used whatever its ID. One that was at hand before is
used only if it has an ID. -/
theorem Sending.Lawful.placed {env : Surroundings} {x : Sending} {issued : Prop}
    (h : x.Lawful env) (nameless : issued → x.before.1.Nameless) :
    ∃ new, Placed env issued x.before x.after new := by
  obtain ⟨parts, ⟨a, t⟩, request, after⟩ := x
  cases hdraft : draft parts with
  | error e =>
      obtain ⟨-, hafter⟩ := h.undrafted e hdraft
      cases hafter
      exact ⟨[], .silent rfl nameless⟩
  | ok r =>
      by_cases stale : a.Stale env t
      · obtain ⟨post, hpost, hrequest, hafter⟩ := h.stale r hdraft stale
        dsimp only at hpost hrequest hafter
        have hfirst := Placed.token env issued hpost (Authorization.sent_checked a t)
        rw [hafter, hrequest]
        cases hreply : Token.ofReply (env.answer t.sent post) with
        | error e =>
            rw [hreply] at hfirst
            exact ⟨[post], hfirst⟩
        | ok token =>
            rw [hreply] at hfirst
            have just : token.id = "" ↔
                endsIssuing a.post? issued (env.history t.sent [post]) := by
              constructor
              · exact fun hid => ⟨hpost, token, hreply, hid⟩
              · rintro ⟨-, token', hreply', hid⟩
                cases hreply.symm.trans hreply'
                exact hid
            obtain ⟨new, hnew⟩ := Placed.send r just hfirst.nameless
            exact ⟨[post] ++ new, hfirst.append hnew⟩
      · simp only [Authorization.Stale, Classical.not_forall] at stale
        obtain ⟨token, cached, valid⟩ := stale
        have valid : token.hasExpiredAt (env.clock t.readings) = false := by simpa using valid
        obtain ⟨hrequest, hafter⟩ := h.fresh r token hdraft cached valid
        dsimp only at hrequest hafter
        rw [hafter, hrequest]
        have just : token.id = "" ↔ issued :=
          iff_of_false (Authorization.id_ne_empty_of_valid valid) fun hissued =>
            Authorization.not_nameless_of_fresh cached valid (nameless hissued)
        obtain ⟨new, hnew⟩ := Placed.send (t := t.reading) r just nameless
        exact ⟨[] ++ new, (Placed.silent (Traffic.sent_reading t) nameless).append hnew⟩

/-- In a conversation, empty tokens are carried as they are issued. -/
theorem Conversation.placed {env : Surroundings} {x y : Authorization × Traffic}
    {log : List Sending} (h : Conversation env x log y) {issued : Prop}
    (nameless : issued → x.1.Nameless) : ∃ new, Placed env issued x y new := by
  induction h generalizing issued with
  | done => exact ⟨[], .silent rfl nameless⟩
  | token acquired _ ih =>
      obtain ⟨new, hnew⟩ := acquired.placed nameless
      obtain ⟨more, hmore⟩ := ih hnew.nameless
      exact ⟨new ++ more, hnew.append hmore⟩
  | sending lawful _ ih =>
      obtain ⟨new, hnew⟩ := lawful.placed nameless
      obtain ⟨more, hmore⟩ := ih hnew.nameless
      exact ⟨new ++ more, hnew.append hmore⟩

namespace Session

/-- Over every run, of any session, a request carries an empty token exactly if it directly follows
the token request that was made for it, and the token in the reply has an empty ID. So an empty
token that is at hand is not used, and no token that has just come is held back for being empty. -/
theorem run_bears_nothing_iff (env : Surroundings) (ops : List Operation) (s : Session)
    (t : Traffic) :
    ∃ new, (run env ops (s, t)).2.2.sent = t.sent ++ new ∧
      ∀ before q later, new = before ++ q :: later →
        (q.BearsNothing ↔ s.authorization.post? ≠ some q ∧ ∃ earlier post token,
          before = earlier ++ [post] ∧ s.authorization.post? = some post ∧
            Token.ofReply (env.answer (t.sent ++ earlier) post) = .ok token ∧ token.id = "") := by
  obtain ⟨log, hlog⟩ := conversation_run env ops (s, t)
  obtain ⟨new, hnew⟩ := hlog.placed False.elim
  refine ⟨new, hnew.sent, ?_⟩
  rintro before q later rfl
  have hbears := hnew.bears
  rw [env.history_append, bearsWhatIsIssued_append_iff] at hbears
  obtain ⟨-, hq, -⟩ := hbears
  rw [hq, endsIssuing_history_iff]

/-- No request of a run carries an empty token. -/
def NeverBearsNothing (env : Surroundings) (ops : List Operation) (st : Session × Traffic) : Prop :=
  ∀ q ∈ (run env ops st).2.2.sent, ¬q.BearsNothing

/-- A server whose tokens have an expiry far ahead but no ID, and whose collections hold one item.
-/
def namelessServer : Surroundings where
  answer _ q := .ok {
    status := .ok
    body := { bytes := utf8 (
      if q.url? = some (sampleConnection.url .tokens) then "\x7b\"expires\":9000000000.0\x7d"
      else "[\x7b\"_id\":\"v1\",\"name\":\"vim\"\x7d]") } }
  clock _ := .zero

/-- A look-up on that server fetches the accounts with an empty token. -/
theorem not_neverBearsNothing_sample :
    ¬NeverBearsNothing namelessServer [.lookupAccount "vim"] sampleStart := by
  unfold NeverBearsNothing
  decide +kernel

/-- Each look-up asks for a token anew, since the empty one at hand counts as expired. -/
example : ((run namelessServer [.lookupAccount "vim", .lookupDescriptor "nsd"]
    sampleStart).2.2.sent.map (·.headers.lookup "authorization")) =
      [none, some (utf8 "Bearer "), none, some (utf8 "Bearer ")] := by
  decide +kernel

end Session

end Northbound
