import Northbound.Proofs.Session.History
import Northbound.Session.Upload

/-!
# The upload protocol

A package is posted to the collection of its kind. Only a reply that says that it exists already is
followed by a second request, which puts the same package, in the same words, in place of the old
one. An upload is described by the requests that it sent and the answers to them, token requests
left out.
-/

namespace Northbound

open Http

namespace Package

variable (p : Package)

/-- A package as it goes out to a target at a host, apart from the token that authorizes it. -/
def form (method : Method) (target : Url) (host : Bytes) : Request :=
  { method, url? := some target, body := p.data
    headers := [("host", host), ("accept", utf8 "application/json"),
      ("content-type", utf8 "application/gzip"), ("content-filename", utf8 p.archiveFileName),
      ("content-file-md5", utf8 p.hash), ("content-length", utf8 (Text.decimal p.data.length))] }

/-- The request that creates a package. -/
def creation (c : Connection) (kind : PackageKind) : List Part :=
  p.uploadRequest .post (c.url kind.collection)

/-- The request that replaces a package. -/
def replacement (c : Connection) (kind : PackageKind) : List Part :=
  p.uploadRequest .put (c.url (kind.item p.id))

variable {p}

theorem target_mem_uploadRequest (method : Method) (target : Url) :
    ∃ url, Part.target url ∈ p.uploadRequest method target :=
  ⟨target, by simp [uploadRequest]⟩

/-- A package can go out if its name, its hash and the host can stand in header fields. -/
theorem draft_uploadRequest_eq_ok_iff {method : Method} {target : Url} {r : Request} :
    draft (p.uploadRequest method target) = .ok r ↔
      ∃ host, Request.hostField? target = some host ∧
        (Headers.value? p.archiveFileName).isSome = true ∧
        (Headers.value? p.hash).isSome = true ∧ r = p.form method target host := by
  simp only [draft, uploadRequest, assemble_cons_eq_ok_iff, apply_accept_singleton, apply_content]
  simp only [Part.apply, assemble, Request.setTarget_eq_ok_iff, Request.setHeader_eq_ok_iff,
    Except.ok.injEq, Option.isSome_iff_exists]
  constructor
  · rintro ⟨_, rfl, _, ⟨host, hhost, rfl⟩, _, rfl, _, rfl, _, ⟨name, hname, rfl⟩, _,
      ⟨hash, hhash, rfl⟩, _, rfl, rfl⟩
    refine ⟨host, hhost, ⟨name, hname⟩, ⟨hash, hhash⟩, ?_⟩
    rw [Headers.eq_utf8_of_value? hname, Headers.eq_utf8_of_value? hhash]
    rfl
  · rintro ⟨host, hhost, ⟨name, hname⟩, ⟨hash, hhash⟩, rfl⟩
    refine ⟨_, rfl, _, ⟨host, hhost, rfl⟩, _, rfl, _, rfl, _, ⟨name, hname, rfl⟩, _,
      ⟨hash, hhash, rfl⟩, _, rfl, ?_⟩
    rw [Headers.eq_utf8_of_value? hname, Headers.eq_utf8_of_value? hhash]
    rfl

/-- What is prepared to upload a package is its form with the token at hand. -/
theorem eq_form_of_prepared {env : Surroundings} {a a' : Authorization} {t t' : Traffic}
    {method : Method} {target : Url} {q : Request}
    (h : Authorization.Prepared env (p.uploadRequest method target) a t (.ok q) a' t') :
    ∃ host token, Request.hostField? target = some host ∧
      (draft (p.uploadRequest method target)).isOk = true ∧ a'.token? = some token ∧
      q = (p.form method target host).withBearer token.id := by
  obtain ⟨r, token, hdraft, hacq, hauth⟩ := h.eq_ok rfl
  obtain ⟨host, hhost, -, -, rfl⟩ := draft_uploadRequest_eq_ok_iff.mp hdraft
  refine ⟨host, token, hhost, by simp [hdraft, Except.isOk, Except.toBool], hacq.token?_eq, ?_⟩
  exact Request.eq_withBearer rfl hauth

end Package

/-- How the upload of a package of a kind goes: the requests sent and the answers to them, token
requests left out, the result, and what becomes of the authorization and the traffic. -/
inductive UploadCourse (env : Surroundings) (p : Package) (kind : PackageKind) (a : Authorization)
    (t : Traffic) : History → Except HttpError PackageUpload → Authorization → Traffic → Prop
  | unsent {e a₁ t₁}
      (failed : Authorization.Prepared env (p.creation a.connection kind) a t (.error e) a₁ t₁) :
      UploadCourse env p kind a t [] (.error e) a₁ t₁
  | lost {post a₁ t₁ e}
      (prepared : Authorization.Prepared env (p.creation a.connection kind) a t (.ok post) a₁ t₁)
      (reply : env.answer t₁.sent post = .error e) :
      UploadCourse env p kind a t [(post, .error e)] (.error (failureOf e)) a₁ (t₁.record post)
  | refused {post a₁ t₁ r}
      (prepared : Authorization.Prepared env (p.creation a.connection kind) a t (.ok post) a₁ t₁)
      (reply : env.answer t₁.sent post = .ok r) (status : r.status.value ∉ [201, 409]) :
      UploadCourse env p kind a t [(post, .ok r)] (.error (.unexpectedStatus r.status)) a₁
        (t₁.record post)
  | created {post a₁ t₁ r}
      (prepared : Authorization.Prepared env (p.creation a.connection kind) a t (.ok post) a₁ t₁)
      (reply : env.answer t₁.sent post = .ok r) (status : r.status.value = 201) :
      UploadCourse env p kind a t [(post, .ok r)] (.ok .created) a₁ (t₁.record post)
  | unreplaced {post a₁ t₁ r e a₂ t₂}
      (prepared : Authorization.Prepared env (p.creation a.connection kind) a t (.ok post) a₁ t₁)
      (reply : env.answer t₁.sent post = .ok r) (status : r.status.value = 409)
      (failed : Authorization.Prepared env (p.replacement a.connection kind) a₁ (t₁.record post)
        (.error e) a₂ t₂) :
      UploadCourse env p kind a t [(post, .ok r)] (.error e) a₂ t₂
  | replaced {post a₁ t₁ r put a₂ t₂}
      (prepared : Authorization.Prepared env (p.creation a.connection kind) a t (.ok post) a₁ t₁)
      (reply : env.answer t₁.sent post = .ok r) (status : r.status.value = 409)
      (again : Authorization.Prepared env (p.replacement a.connection kind) a₁ (t₁.record post)
        (.ok put) a₂ t₂) :
      UploadCourse env p kind a t [(post, .ok r), (put, env.answer t₂.sent put)]
        ((accepted .success (env.answer t₂.sent put)).map fun _ => .updated) a₂ (t₂.record put)

namespace UploadCourse

variable {env : Surroundings} {p : Package} {kind : PackageKind} {a a' : Authorization}
  {t t' : Traffic} {own : History} {result : Except HttpError PackageUpload}

/-- The requests of an upload are all that went out, token requests aside. -/
theorem exists_history (h : UploadCourse env p kind a t own result a' t') :
    ∃ new, t'.sent = t.sent ++ new ∧ a.own (env.history t.sent new) = own := by
  have join {past new more : List Request} {x y : History}
      (hx : a.own (env.history past new) = x) (hy : a.own (env.history (past ++ new) more) = y) :
      a.own (env.history past (new ++ more)) = x ++ y := by
    rw [Surroundings.history_append, Authorization.own_append, hx, hy]
  cases h with
  | unsent failed => exact failed.own_history
  | lost prepared reply => exact reply ▸ prepared.own_history_record
  | refused prepared reply status => exact reply ▸ prepared.own_history_record
  | created prepared reply status => exact reply ▸ prepared.own_history_record
  | unreplaced prepared reply status failed =>
      obtain ⟨new, hnew, hown⟩ := prepared.own_history_record
      obtain ⟨more, hmore, hnone⟩ := failed.own_history
      simp only [Authorization.own, prepared.post?_eq] at hnone
      refine ⟨new ++ more, by rw [hmore, hnew, List.append_assoc], ?_⟩
      rw [join hown (hnew ▸ hnone), reply]
      rfl
  | replaced prepared reply status again =>
      obtain ⟨new, hnew, hown⟩ := prepared.own_history_record
      obtain ⟨more, hmore, hput⟩ := again.own_history_record
      simp only [Authorization.own, prepared.post?_eq] at hput
      refine ⟨new ++ more, by rw [hmore, hnew, List.append_assoc], ?_⟩
      rw [join hown (hnew ▸ hput), reply]
      rfl

/-- An upload sends at most two requests: the package to its collection, then the package in place
of the old one, in the same words but for method and target and maybe the token. -/
theorem map_fst_prefix (h : UploadCourse env p kind a t own result a' t') :
    ∃ host id id', own.map Prod.fst <+:
      [(p.form .post (a.connection.url kind.collection) host).withBearer id,
        (p.form .put (a.connection.url (kind.item p.id)) host).withBearer id'] := by
  cases h with
  | unsent failed => exact ⟨[], "", "", List.nil_prefix⟩
  | lost prepared reply =>
      obtain ⟨host, token, -, -, -, rfl⟩ := Package.eq_form_of_prepared prepared
      exact ⟨host, token.id, "", by simp⟩
  | refused prepared reply status =>
      obtain ⟨host, token, -, -, -, rfl⟩ := Package.eq_form_of_prepared prepared
      exact ⟨host, token.id, "", by simp⟩
  | created prepared reply status =>
      obtain ⟨host, token, -, -, -, rfl⟩ := Package.eq_form_of_prepared prepared
      exact ⟨host, token.id, "", by simp⟩
  | unreplaced prepared reply status failed =>
      obtain ⟨host, token, -, -, -, rfl⟩ := Package.eq_form_of_prepared prepared
      exact ⟨host, token.id, "", by simp⟩
  | replaced prepared reply status again =>
      obtain ⟨host, token, hhost, -, -, rfl⟩ := Package.eq_form_of_prepared prepared
      obtain ⟨host', token', hhost', -, -, rfl⟩ := Package.eq_form_of_prepared again
      rw [Connection.hostField?_url _ _ kind.collection, hhost] at hhost'
      cases hhost'
      exact ⟨host, token.id, token'.id, List.prefix_rfl⟩

end UploadCourse

namespace Session

variable {env : Surroundings} {p : Package} {kind : PackageKind}

end Session

end Northbound
