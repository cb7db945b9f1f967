import Mathlib.Data.List.Nodup
import Northbound.Proofs.Dictionary
import Northbound.Proofs.Http.Draft

/-!
# The concerns of a request

Each standard builder settles one concern of a request. The parts that builders apply, with the
tokens that some of them acquire, say all there is to say about the request: of each concern, the
last part counts. The main statement says so of every list of standard builders, and that the order
of builders of different concerns does not matter.
-/

namespace Northbound.Http

namespace Headers

variable {name : String} {value : Bytes} {hs hs' : Headers}

theorem mem_map_fst_set {n : String} (h : n ∈ (hs.set name value).map Prod.fst) :
    n = name ∨ n ∈ hs.map Prod.fst := by
  induction hs with
  | nil => simpa [set] using h
  | cons field rest ih =>
      obtain ⟨m, v⟩ := field
      simp only [set] at h
      split at h
      next heq =>
        subst heq
        rw [List.map_cons, List.mem_cons] at h
        rcases h with rfl | h
        · exact Or.inl rfl
        · obtain ⟨field, hfield, rfl⟩ := List.mem_map.mp h
          exact Or.inr
            (List.mem_cons_of_mem _ (List.mem_map_of_mem (List.mem_of_mem_filter hfield)))
      next =>
        rw [List.map_cons, List.mem_cons] at h
        rcases h with rfl | h
        · exact Or.inr List.mem_cons_self
        · exact (ih h).imp_right (List.mem_cons_of_mem _)

/-- Setting a field does not repeat one. -/
theorem nodup_map_fst_set (h : (hs.map Prod.fst).Nodup) (name : String) (value : Bytes) :
    ((hs.set name value).map Prod.fst).Nodup := by
  induction hs with
  | nil => simp [set]
  | cons field rest ih =>
      obtain ⟨m, v⟩ := field
      rw [List.map_cons, List.nodup_cons] at h
      simp only [set]
      split
      next heq =>
        subst heq
        have hsub : (rest.filter (·.1 != m)).map Prod.fst ⊆ rest.map Prod.fst :=
          (List.filter_sublist.map _).subset
        rw [List.map_cons, List.nodup_cons]
        refine ⟨fun hm => h.1 (hsub hm), h.2.sublist ?_⟩
        exact List.filter_sublist.map _
      next hne =>
        rw [List.map_cons, List.nodup_cons]
        refine ⟨fun hm => ?_, ih h.2⟩
        rcases mem_map_fst_set hm with heq | hm
        · exact hne heq
        · exact h.1 hm

/-- Fields without repetition are the same up to their order if they are found alike. -/
theorem perm_of_lookup (h : (hs.map Prod.fst).Nodup) (h' : (hs'.map Prod.fst).Nodup)
    (same : ∀ name, hs.lookup name = hs'.lookup name) : hs.Perm hs' := by
  rw [List.perm_ext_iff_of_nodup h.of_map h'.of_map]
  rintro ⟨name, value⟩
  rw [← lookup_eq_some_iff_mem h, ← lookup_eq_some_iff_mem h', same]

end Headers

/-- The concerns of a request that standard builders settle. -/
inductive Concern where
  | method
  | target
  | accept
  | content
  | authorization
  | body
deriving DecidableEq, Repr

namespace Part

/-- The concern that a part settles, unless it is an arbitrary header field. -/
def concern? : Part → Option Concern
  | .method _ => some .method
  | .target _ => some .target
  | .accept _ => some .accept
  | .content _ => some .content
  | .header name _ => if name = "authorization" then some .authorization else none
  | .body _ => some .body
  | .document _ => some .body

/-- The method that a part asks for. -/
def method? : Part → Option Method
  | .method m => some m
  | _ => none

/-- The target that a part names. -/
def target? : Part → Option Url
  | .target url => some url
  | _ => none

/-- The list of kinds of content that a part accepts. No kinds are no list. -/
def accept? : Part → Option String
  | .accept [] => none
  | .accept types => some (String.intercalate ", " (types.map MediaType.text))
  | _ => none

/-- The kind of content that a part announces. -/
def content? : Part → Option String
  | .content type => some type.text
  | _ => none

/-- What a part puts into the authorization field. -/
def authorization? : Part → Option String
  | .header name value => if name = "authorization" then some value else none
  | _ => none

/-- The body that a part gives. -/
def body? : Part → Option Bytes
  | .body data => some data
  | .document (.ok value) => some (utf8 value.render)
  | _ => none

/-- The header field that a part sets. -/
def field? : Part → Option (String × Bytes)
  | .target url => (Request.hostField? url).map ("host", ·)
  | .accept types => (accept? (.accept types)).map fun text => ("accept", utf8 text)
  | .content type => some ("content-type", utf8 type.text)
  | .header name value => some (name, utf8 value)
  | .body data => some ("content-length", utf8 (Text.decimal data.length))
  | .document (.ok value) =>
    some ("content-length", utf8 (Text.decimal (utf8 value.render).length))
  | _ => none

/-- Whether a part can be applied. -/
def Legal : Part → Prop
  | .target url => (Request.hostField? url).isSome = true
  | .accept types => ∀ text, accept? (.accept types) = some text →
      (Headers.value? text).isSome = true
  | .content type => (Headers.value? type.text).isSome = true
  | .header _ value => (Headers.value? value).isSome = true
  | .document value => value.isOk = true
  | _ => True

/-- What a part makes of a request. -/
def settle (r : Request) (p : Part) : Request where
  method := p.method?.getD r.method
  url? := p.target?.or r.url?
  headers := (p.field?.map fun field => r.headers.set field.1 field.2).getD r.headers
  body := p.body?.getD r.body

theorem setHeader_eq_ok_iff_legal {r q : Request} {name value : String} :
    r.setHeader name value = .ok q ↔
      (Headers.value? value).isSome = true ∧
        q = { r with headers := r.headers.set name (utf8 value) } := by
  rw [Request.setHeader_eq_ok_iff]
  constructor
  · rintro ⟨bytes, hbytes, rfl⟩
    rw [← Headers.eq_utf8_of_value? hbytes, hbytes]
    exact ⟨rfl, rfl⟩
  · rintro ⟨hlegal, rfl⟩
    obtain ⟨bytes, hbytes⟩ := Option.isSome_iff_exists.mp hlegal
    exact ⟨bytes, hbytes, by rw [Headers.eq_utf8_of_value? hbytes]⟩

/-- Whether a part can be applied does not depend on the request. -/
theorem apply_eq_ok_iff {p : Part} {r q : Request} :
    p.apply r = .ok q ↔ p.Legal ∧ q = p.settle r := by
  cases p with
  | method m => simp [apply, Legal, settle, method?, target?, field?, body?, eq_comm]
  | target url =>
      simp only [apply, Request.setTarget_eq_ok_iff, Legal, settle, method?, target?, field?, body?]
      cases Request.hostField? url <;> simp
  | accept types =>
      cases types with
      | nil =>
          have hlegal : Legal (.accept []) := fun text h => by cases h
          simp only [apply, hlegal, true_and, Except.ok.injEq]
          exact eq_comm
      | cons t types =>
          simp only [apply, setHeader_eq_ok_iff_legal, Legal, settle, method?, target?, field?,
            body?, accept?]
          simp
  | content type =>
      simp only [apply, setHeader_eq_ok_iff_legal, Legal, settle, method?, target?, field?, body?]
      simp
  | header name value =>
      simp only [apply, setHeader_eq_ok_iff_legal, Legal, settle, method?, target?, field?, body?]
      simp
  | body data =>
      simp [apply, Request.setBody, Legal, settle, method?, target?, field?, body?, eq_comm]
  | document value =>
      cases value with
      | error e => simp [apply, Legal, Except.isOk, Except.toBool]
      | ok v =>
          simp [apply, Request.setBody, Legal, settle, method?, target?, field?, body?, eq_comm,
            Except.isOk, Except.toBool]

end Part

/-- Parts can be assembled if each can be applied, and then each settles what it is about. -/
theorem assemble_eq_ok_iff {parts : List Part} {r q : Request} :
    assemble parts r = .ok q ↔ (∀ p ∈ parts, p.Legal) ∧ q = parts.foldl Part.settle r := by
  induction parts generalizing r with
  | nil => simp [assemble, eq_comm]
  | cons p parts ih =>
      simp only [assemble_cons_eq_ok_iff, Part.apply_eq_ok_iff, ih, List.forall_mem_cons,
        List.foldl_cons]
      constructor
      · rintro ⟨_, ⟨hp, rfl⟩, hrest, rfl⟩
        exact ⟨⟨hp, hrest⟩, rfl⟩
      · rintro ⟨⟨hp, hrest⟩, rfl⟩
        exact ⟨_, ⟨hp, rfl⟩, hrest, rfl⟩

namespace Part

/-- What the last part that tells something about it tells. -/
def last {α : Type} (view : Part → Option α) (parts : List Part) : Option α :=
  (parts.filterMap view).getLast?

theorem last_map {α β : Type} (view : Part → Option α) (f : α → β) (parts : List Part) :
    last (fun p => (view p).map f) parts = (last view parts).map f := by
  rw [last, last, ← List.map_filterMap, List.getLast?_map]

/-- What each part leaves or replaces is in the end as the last part tells. -/
theorem foldl_settle {α : Type} (get : Request → α) (view : Part → Option α)
    (step : ∀ r p, get (settle r p) = (view p).getD (get r)) (parts : List Part) (r : Request) :
    get (parts.foldl settle r) = (last view parts).getD (get r) := by
  induction parts generalizing r with
  | nil => rfl
  | cons p parts ih =>
      rw [List.foldl_cons, ih, step, last, last, List.filterMap_cons]
      cases view p with
      | none => rfl
      | some a => simp [List.getLast?_cons]

/-- The value that a part gives to a header field. -/
def value? (name : String) (p : Part) : Option Bytes :=
  p.field?.bind fun field => if field.1 = name then some field.2 else none

theorem lookup_settle (name : String) (r : Request) (p : Part) :
    (settle r p).headers.lookup name =
      ((p.value? name).map some).getD (r.headers.lookup name) := by
  simp only [settle, value?]
  cases p.field? with
  | none => rfl
  | some field =>
      obtain ⟨n, v⟩ := field
      by_cases hn : n = name
      · subst hn
        simp [Headers.lookup_set_self]
      · simp [hn, Headers.lookup_set_of_ne (Ne.symm hn)]

/-- A header field of a request that had none has the value that the last part gives it. -/
theorem lookup_foldl_settle (name : String) (parts : List Part) :
    (parts.foldl settle {}).headers.lookup name = last (value? name) parts := by
  rw [foldl_settle (·.headers.lookup name) _ (lookup_settle name), last_map]
  cases last (value? name) parts <;> rfl

/-- A request that had no target has the one that the last part names. -/
theorem url?_foldl_settle (parts : List Part) :
    (parts.foldl settle {}).url? = last target? parts := by
  have step (r : Request) (p : Part) :
      (settle r p).url? = (p.target?.map some).getD r.url? := by
    rw [settle]
    cases p.target? <;> rfl
  rw [foldl_settle Request.url? _ step, last_map]
  cases last target? parts <;> rfl

theorem nodup_foldl_settle (parts : List Part) {r : Request}
    (h : (r.headers.map Prod.fst).Nodup) :
    ((parts.foldl settle r).headers.map Prod.fst).Nodup := by
  induction parts generalizing r with
  | nil => exact h
  | cons p parts ih =>
      apply ih
      simp only [settle]
      cases p.field? with
      | none => exact h
      | some field => exact Headers.nodup_map_fst_set h field.1 field.2

/-- What only parts of one concern tell is settled by these. -/
theorem last_filter {α : Type} {view : Part → Option α} {k : Concern}
    (only : ∀ p, (view p).isSome = true → p.concern? = some k) (parts : List Part) :
    last view (parts.filter (·.concern? = some k)) = last view parts := by
  rw [last, last, List.filterMap_filter]
  congr 1
  apply List.filterMap_congr
  intro p _
  cases hview : view p with
  | none => simp
  | some a => simp [only p (by simp [hview])]

end Part

/-- The names of the header fields of a request that standard builders make. -/
def standardFields : List String :=
  ["host", "accept", "content-type", "authorization", "content-length"]

/-- Of each concern of a request, the last part counts. -/
structure Request.SettledBy (parts : List Part) (r : Request) : Prop where
  method : r.method = (Part.last Part.method? parts).getD .get
  /-- The host field shows the host of the target, and a port if the target shows one. -/
  target : ∃ url host, Part.last Part.target? parts = some url ∧ url.hostText? = some host ∧
    r.url? = some url ∧ r.headers.lookup "host" = some (utf8 (match url.port? with
      | some port => host ++ ":" ++ Text.decimal port
      | none => host))
  accept : r.headers.lookup "accept" = (Part.last Part.accept? parts).map utf8
  content : r.headers.lookup "content-type" = (Part.last Part.content? parts).map utf8
  authorization : r.headers.lookup "authorization" =
    (Part.last Part.authorization? parts).map utf8
  body : r.body = (Part.last Part.body? parts).getD []
  /-- The length is that of the body, and there is one if there is a part that gives a body. -/
  length : r.headers.lookup "content-length" =
    (Part.last Part.body? parts).map fun _ => utf8 (Text.decimal r.body.length)
  /-- There are no other fields, and none twice. -/
  fields : ∀ field ∈ r.headers, field.1 ∈ standardFields
  nodup : (r.headers.map Prod.fst).Nodup

/-- Requests that are the same, but for the order of their header fields. -/
structure Request.Same (r q : Request) : Prop where
  method : r.method = q.method
  url? : r.url? = q.url?
  headers : r.headers.Perm q.headers
  body : r.body = q.body

namespace Part

/-- Whether parts go by the standard concerns. -/
def Standard (parts : List Part) : Prop := ∀ p ∈ parts, p.concern?.isSome = true

variable {parts parts' : List Part} {r : Request}

/-- A standard part sets a standard field, if any. -/
theorem field?_standard {p : Part} (h : p.concern?.isSome = true) {field : String × Bytes}
    (hfield : p.field? = some field) : field.1 ∈ standardFields := by
  cases p with
  | method m => cases hfield
  | target url =>
      obtain ⟨host, -, rfl⟩ := Option.map_eq_some_iff.mp hfield
      simp [standardFields]
  | accept types =>
      obtain ⟨text, -, rfl⟩ := Option.map_eq_some_iff.mp hfield
      simp [standardFields]
  | content type =>
      cases hfield
      simp [standardFields]
  | header name value =>
      cases hfield
      simp only [concern?] at h
      split at h
      next hname => simp [standardFields, hname]
      next => cases h
  | body data =>
      cases hfield
      simp [standardFields]
  | document value =>
      cases value with
      | error e => cases hfield
      | ok v =>
          cases hfield
          simp [standardFields]

/-- Standard parts set standard fields only. -/
theorem fields_foldl_settle (standard : Standard parts) :
    ∀ field ∈ (parts.foldl settle {}).headers, field.1 ∈ standardFields := by
  rintro ⟨name, value⟩ hmem
  have hnodup := nodup_foldl_settle parts (r := {}) List.nodup_nil
  rw [← lookup_eq_some_iff_mem hnodup, lookup_foldl_settle] at hmem
  obtain ⟨p, hp, hvalue⟩ := List.mem_filterMap.mp (List.mem_of_getLast? hmem)
  obtain ⟨field, hfield, hname⟩ := Option.bind_eq_some_iff.mp hvalue
  have hstandard := field?_standard (standard p hp) hfield
  obtain ⟨rfl, -⟩ := Option.ite_none_right_eq_some.mp hname
  exact hstandard

theorem eq_of_target? {p : Part} {url : Url} (h : p.target? = some url) : p = .target url := by
  cases p with
  | target url' =>
      cases h
      rfl
  | _ => cases h

/-- The host field of a request to a target shows its host, and its port if there is one. -/
theorem hostField?_eq_some {url : Url} {bytes : Bytes} (h : Request.hostField? url = some bytes) :
    ∃ host, url.hostText? = some host ∧ bytes = utf8 (match url.port? with
      | some port => host ++ ":" ++ Text.decimal port
      | none => host) := by
  obtain ⟨authority, hauthority, hvalue⟩ := Option.bind_eq_some_iff.mp h
  obtain ⟨host, hhost, rfl⟩ := Option.map_eq_some_iff.mp hauthority
  exact ⟨host, hhost, Headers.eq_utf8_of_value? hvalue⟩

/-- What stands in the host field of a request to a target. -/
def hostBytes (url : Url) : Bytes := (Request.hostField? url).getD []

/-- A part gives values to the fields of its concern only. -/
structure Fields (p : Part) : Prop where
  host : p.value? "host" = p.target?.map hostBytes
  accept : p.value? "accept" = p.accept?.map utf8
  content : p.value? "content-type" = p.content?.map utf8
  authorization : p.value? "authorization" = p.authorization?.map utf8
  length : p.value? "content-length" = p.body?.map fun body => utf8 (Text.decimal body.length)

theorem fields_of_standard {p : Part} (h : p.concern?.isSome = true) (legal : p.Legal) :
    p.Fields := by
  cases p with
  | method m => exact ⟨rfl, rfl, rfl, rfl, rfl⟩
  | target url =>
      obtain ⟨host, hhost⟩ := Option.isSome_iff_exists.mp legal
      constructor <;> simp [value?, field?, target?, accept?, content?, authorization?, body?,
        hostBytes, hhost]
  | accept types =>
      cases htypes : accept? (.accept types) <;>
        constructor <;> simp [value?, field?, target?, content?, authorization?, body?, htypes]
  | content type =>
      constructor <;> simp [value?, field?, target?, accept?, content?, authorization?, body?]
  | header name value =>
      simp only [concern?] at h
      split at h
      next hname =>
        constructor <;>
          simp [value?, field?, target?, accept?, content?, authorization?, body?, hname]
      next => cases h
  | body data =>
      constructor <;> simp [value?, field?, target?, accept?, content?, authorization?, body?]
  | document value =>
      cases value <;>
        constructor <;> simp [value?, field?, target?, accept?, content?, authorization?, body?]

/-- What standard parts make of an empty request, if that has a target. -/
theorem settledBy_of_assemble (standard : Standard parts) (h : assemble parts {} = .ok r)
    (target : r.url?.isSome = true) : r.SettledBy parts := by
  obtain ⟨legal, rfl⟩ := assemble_eq_ok_iff.mp h
  have lookup {α : Type} {name : String} {view : Part → Option α} {f : α → Bytes}
      (same : ∀ p, p.Fields → p.value? name = (view p).map f) :
      (parts.foldl settle {}).headers.lookup name = (last view parts).map f := by
    rw [lookup_foldl_settle, ← last_map, last, last]
    congr 1
    apply List.filterMap_congr
    exact fun p hp => same p (fields_of_standard (standard p hp) (legal p hp))
  have hbody : (parts.foldl settle {}).body = (last body? parts).getD [] :=
    foldl_settle Request.body body? (fun _ _ => rfl) parts {}
  constructor
  case method => exact foldl_settle Request.method method? (fun _ _ => rfl) parts {}
  case target =>
    have hurl := url?_foldl_settle parts
    obtain ⟨url, hlast⟩ := Option.isSome_iff_exists.mp (hurl ▸ target)
    obtain ⟨p, hp, htarget⟩ := List.mem_filterMap.mp (List.mem_of_getLast? hlast)
    obtain rfl := eq_of_target? htarget
    obtain ⟨bytes, hbytes⟩ := Option.isSome_iff_exists.mp (legal _ hp)
    obtain ⟨host, hhost, hfield⟩ := hostField?_eq_some hbytes
    refine ⟨url, host, hlast, hhost, hurl.trans hlast, ?_⟩
    rw [lookup fun p hp => hp.host, hlast, Option.map_some, hostBytes, hbytes, hfield]
    rfl
  case accept => exact lookup fun p hp => hp.accept
  case content => exact lookup fun p hp => hp.content
  case authorization => exact lookup fun p hp => hp.authorization
  case body => exact hbody
  case length =>
    rw [lookup fun p hp => hp.length, hbody]
    cases last body? parts <;> rfl
  case fields => exact fields_foldl_settle standard
  case nodup => exact nodup_foldl_settle parts List.nodup_nil

end Part

/-- A standard builder. -/
inductive Setting (σ : Type) where
  | method (m : Method)
  | target (url : Url)
  | accept (types : List MediaType)
  | content (type : MediaType)
  | authorization (value : String)
  /-- Authorizes with a token that is acquired when the request is built. -/
  | bearer (acquire : Action HttpError σ String)
  | body (content : Bytes)
  | document (value : Except Json.Error Json)

namespace Setting

variable {σ : Type}

/-- The concern of a builder. -/
def concern : Setting σ → Concern
  | .method _ => .method
  | .target _ => .target
  | .accept _ => .accept
  | .content _ => .content
  | .authorization _ => .authorization
  | .bearer _ => .authorization
  | .body _ => .body
  | .document _ => .body

/-- What a builder does to a request. -/
def builder : Setting σ → Builder σ
  | .method m => .ofPart (.method m)
  | .target url => .ofPart (.target url)
  | .accept types => .ofPart (.accept types)
  | .content type => .ofPart (.content type)
  | .authorization value => .ofPart (.authorization value)
  | .bearer acquire => .bearer acquire
  | .body data => .ofPart (.body data)
  | .document value => .ofPart (.document value)

/-- The part that a builder applies. One that authorizes with a token acquires it. -/
def part : Setting σ → Action HttpError σ Part
  | .method m => return .method m
  | .target url => return .target url
  | .accept types => return .accept types
  | .content type => return .content type
  | .authorization value => return .authorization value
  | .bearer acquire => do return .authorization ("Bearer " ++ (← acquire))
  | .body data => return .body data
  | .document value => return .document value

/-- The part of a builder that does not act on the state. -/
def plain? : Setting σ → Option Part
  | .method m => some (.method m)
  | .target url => some (.target url)
  | .accept types => some (.accept types)
  | .content type => some (.content type)
  | .authorization value => some (.authorization value)
  | .bearer _ => none
  | .body data => some (.body data)
  | .document value => some (.document value)

/-- Whether two lists of builders have the builders of each concern in the same order. -/
def Agree (xs ys : List (Setting σ)) : Prop :=
  ∀ k, xs.filter (·.concern = k) = ys.filter (·.concern = k)

variable {x : Setting σ} {xs ys : List (Setting σ)} {r q : Request} {s s' : σ} {p : Part}
  {parts : List Part}

/-- A builder applies its part. -/
theorem builder_eq (x : Setting σ) (r : Request) :
    x.builder r = x.part >>= fun p => Builder.ofPart p r := by
  cases x with
  | bearer acquire => simp only [builder, Builder.bearer, part, bind_assoc, pure_bind]
  | _ => simp only [builder, part, pure_bind]

theorem builder_eq_ok_iff :
    x.builder r s = (.ok q, s') ↔ ∃ p, x.part s = (.ok p, s') ∧ p.apply r = .ok q := by
  simp only [builder_eq, Action.bind_eq_ok_iff, Builder.ofPart, Action.ofExcept_eq_ok_iff]
  constructor
  · rintro ⟨p, _, hp, happly, rfl⟩
    exact ⟨p, hp, happly⟩
  · rintro ⟨p, hp, happly⟩
    exact ⟨p, s', hp, happly, rfl⟩

/-- The part of a builder is one of its concern. -/
theorem concern?_part (h : x.part s = (.ok p, s')) : p.concern? = some x.concern := by
  cases x with
  | bearer acquire =>
      obtain ⟨id, _, -, hp⟩ := Action.bind_eq_ok h
      cases hp
      rfl
  | _ =>
      cases h
      rfl

/-- Only authorization acts on the state. -/
theorem part_of_concern_ne (h : x.concern ≠ .authorization) (s : σ) :
    ∃ p, x.plain? = some p ∧ x.part s = (.ok p, s) := by
  cases x with
  | authorization value => exact absurd rfl h
  | bearer acquire => exact absurd rfl h
  | _ => exact ⟨_, rfl, rfl⟩

theorem mapM_part_cons_eq_ok_iff :
    (x :: xs).mapM part s = (.ok parts, s') ↔ ∃ p s₁ rest, x.part s = (.ok p, s₁) ∧
      xs.mapM part s₁ = (.ok rest, s') ∧ parts = p :: rest := by
  simp only [List.mapM_cons, Action.bind_eq_ok_iff, Action.pure_eq_ok_iff]
  constructor
  · rintro ⟨p, s₁, hp, rest, _, hrest, rfl, rfl⟩
    exact ⟨p, s₁, rest, hp, hrest, rfl⟩
  · rintro ⟨p, s₁, rest, hp, hrest, rfl⟩
    exact ⟨p, s₁, hp, rest, _, hrest, rfl, rfl⟩

/-- Builders apply their parts, with tokens acquired in order. -/
theorem applyAll_eq_ok_iff :
    Builder.applyAll (xs.map builder) r s = (.ok q, s') ↔
      ∃ parts, xs.mapM part s = (.ok parts, s') ∧ assemble parts r = .ok q := by
  induction xs generalizing r s with
  | nil => simp [Builder.applyAll, Action.pure_eq_ok_iff, assemble, and_comm]
  | cons x xs ih =>
      simp only [List.map_cons, Builder.applyAll, Action.bind_eq_ok_iff, builder_eq_ok_iff, ih,
        mapM_part_cons_eq_ok_iff]
      constructor
      · rintro ⟨r', s₁, ⟨p, hp, happly⟩, rest, hrest, hassemble⟩
        exact ⟨_, ⟨p, s₁, rest, hp, hrest, rfl⟩,
          assemble_cons_eq_ok_iff.mpr ⟨r', happly, hassemble⟩⟩
      · rintro ⟨_, ⟨p, s₁, rest, hp, hrest, rfl⟩, hassemble⟩
        obtain ⟨r', happly, hassemble⟩ := assemble_cons_eq_ok_iff.mp hassemble
        exact ⟨r', s₁, ⟨p, hp, happly⟩, rest, hrest, hassemble⟩

/-- A request is built if its parts can be had and assembled, and there is a target. -/
theorem build_eq_ok_iff :
    Builder.build (xs.map builder) s = (.ok r, s') ↔
      ∃ parts, xs.mapM part s = (.ok parts, s') ∧ assemble parts {} = .ok r ∧
        r.url?.isSome = true := by
  rw [Builder.build, Action.bind_eq_ok_iff]
  simp only [applyAll_eq_ok_iff]
  constructor
  · rintro ⟨r', s₁, ⟨parts, hparts, hassemble⟩, hcheck⟩
    split at hcheck
    next hnone => cases hcheck
    next hurl =>
      cases hcheck
      exact ⟨parts, hparts, hassemble, Option.isSome_iff_ne_none.mpr (by simpa using hurl)⟩
  · rintro ⟨parts, hparts, hassemble, hurl⟩
    refine ⟨r, s', ⟨parts, hparts, hassemble⟩, ?_⟩
    have hnone : r.url?.isNone = false := by simpa using hurl
    simp [hnone, Action.pure_apply]

/-- The parts of a concern other than authorization are those of its builders. -/
theorem filter_parts_eq (h : xs.mapM part s = (.ok parts, s')) {k : Concern}
    (other : k ≠ .authorization) :
    parts.filter (·.concern? = some k) = (xs.filter (·.concern = k)).filterMap plain? := by
  induction xs generalizing s parts with
  | nil =>
      cases h
      rfl
  | cons x xs ih =>
      obtain ⟨p, s₁, rest, hp, hrest, rfl⟩ := mapM_part_cons_eq_ok_iff.mp h
      have hconcern := concern?_part hp
      rw [List.filter_cons, List.filter_cons, hconcern, ih hrest]
      by_cases hx : x.concern = k
      · obtain ⟨p', hplain, hp'⟩ := part_of_concern_ne (hx ▸ other) s
        cases hp'.symm.trans hp
        simp [hx, hplain]
      · simp [hx]

/-- Tokens are acquired by the builders that authorize, whatever builders stand between them. -/
theorem mapM_part_filter_iff {authorizing : List Part} :
    (xs.filter (·.concern = .authorization)).mapM part s = (.ok authorizing, s') ↔
      ∃ parts, xs.mapM part s = (.ok parts, s') ∧
        parts.filter (·.concern? = some .authorization) = authorizing := by
  induction xs generalizing s authorizing with
  | nil => simp [Action.pure_eq_ok_iff, and_comm]
  | cons x xs ih =>
      rw [List.filter_cons]
      by_cases hx : x.concern = .authorization
      · simp only [hx, decide_true, if_true, mapM_part_cons_eq_ok_iff, ih]
        constructor
        · rintro ⟨p, s₁, _, hp, ⟨parts, hparts, rfl⟩, rfl⟩
          refine ⟨p :: parts, ⟨p, s₁, parts, hp, hparts, rfl⟩, ?_⟩
          simp [concern?_part hp, hx]
        · rintro ⟨_, ⟨p, s₁, parts, hp, hparts, rfl⟩, rfl⟩
          refine ⟨p, s₁, _, hp, ⟨parts, hparts, rfl⟩, ?_⟩
          simp [concern?_part hp, hx]
      · obtain ⟨p, -, hpart⟩ := part_of_concern_ne hx s
        have hp : p.concern? ≠ some .authorization := by simp [concern?_part hpart, hx]
        simp only [hx, decide_false, Bool.false_eq_true, if_false, mapM_part_cons_eq_ok_iff, ih]
        constructor
        · rintro ⟨parts, hparts, rfl⟩
          exact ⟨p :: parts, ⟨p, s, parts, hpart, hparts, rfl⟩, by simp [hp]⟩
        · rintro ⟨_, ⟨p', s₁, parts, hp', hparts, rfl⟩, rfl⟩
          cases hpart.symm.trans hp'
          exact ⟨parts, hparts, by simp [hp]⟩

/-- Builders that agree within each concern have parts that do, and acquire the same tokens. -/
theorem exists_parts_of_agree (agree : Agree xs ys) (h : xs.mapM part s = (.ok parts, s')) :
    ∃ parts', ys.mapM part s = (.ok parts', s') ∧
      ∀ k, parts.filter (·.concern? = some k) = parts'.filter (·.concern? = some k) := by
  have hauthorizing := mapM_part_filter_iff.mpr ⟨parts, h, rfl⟩
  rw [agree] at hauthorizing
  obtain ⟨parts', h', hsame⟩ := mapM_part_filter_iff.mp hauthorizing
  refine ⟨parts', h', fun k => ?_⟩
  by_cases hk : k = .authorization
  · rw [hk, hsame]
  · rw [filter_parts_eq h hk, filter_parts_eq h' hk, agree]

theorem standard_parts (h : xs.mapM part s = (.ok parts, s')) : Part.Standard parts := by
  induction xs generalizing s parts with
  | nil =>
      cases h
      simp [Part.Standard]
  | cons x xs ih =>
      obtain ⟨p, s₁, rest, hp, hrest, rfl⟩ := mapM_part_cons_eq_ok_iff.mp h
      exact List.forall_mem_cons.mpr ⟨by simp [concern?_part hp], ih hrest⟩

end Setting

namespace Part

variable {parts parts' : List Part} {r r' : Request}

/-- Parts of one concern are among the parts. -/
theorem mem_of_agree (standard : Standard parts')
    (agree : ∀ k, parts.filter (·.concern? = some k) = parts'.filter (·.concern? = some k))
    {p : Part} (h : p ∈ parts') : p ∈ parts := by
  obtain ⟨k, hk⟩ := Option.isSome_iff_exists.mp (standard p h)
  have hmem : p ∈ parts'.filter (·.concern? = some k) := List.mem_filter.mpr ⟨h, by simp [hk]⟩
  rw [← agree] at hmem
  exact List.mem_of_mem_filter hmem

/-- What only parts of one concern tell is told alike. -/
theorem last_of_agree {α : Type} {view : Part → Option α} (k : Concern)
    (only : ∀ p, (view p).isSome = true → p.concern? = some k)
    (agree : ∀ k, parts.filter (·.concern? = some k) = parts'.filter (·.concern? = some k)) :
    last view parts = last view parts' := by
  rw [← last_filter only, agree, last_filter only]

theorem last_target?_of_agree
    (agree : ∀ k, parts.filter (·.concern? = some k) = parts'.filter (·.concern? = some k)) :
    last target? parts = last target? parts' :=
  last_of_agree .target (fun p hp => by cases p <;> simp_all [target?, concern?]) agree

/-- Requests that parts settle alike within each concern are the same. -/
theorem same_of_agree (first : r.SettledBy parts) (second : r'.SettledBy parts')
    (agree : ∀ k, parts.filter (·.concern? = some k) = parts'.filter (·.concern? = some k)) :
    r.Same r' := by
  have hmethod : last method? parts = last method? parts' :=
    last_of_agree .method (fun p hp => by cases p <;> simp_all [method?, concern?]) agree
  have htarget := last_target?_of_agree agree
  have haccept : last accept? parts = last accept? parts' :=
    last_of_agree .accept (fun p hp => by cases p <;> simp_all [accept?, concern?]) agree
  have hcontent : last content? parts = last content? parts' :=
    last_of_agree .content (fun p hp => by cases p <;> simp_all [content?, concern?]) agree
  have hauthorization : last authorization? parts = last authorization? parts' :=
    last_of_agree .authorization
      (fun p hp => by cases p <;> simp_all [authorization?, concern?]) agree
  have hbody : last body? parts = last body? parts' :=
    last_of_agree .body (fun p hp => by cases p <;> simp_all [body?, concern?]) agree
  have hbodies : r.body = r'.body := by rw [first.body, second.body, hbody]
  obtain ⟨url, host, hurl, hhost, htarget₁, hfield₁⟩ := first.target
  obtain ⟨url', host', hurl', hhost', htarget₂, hfield₂⟩ := second.target
  rw [htarget, hurl', Option.some.injEq] at hurl
  subst hurl
  rw [hhost', Option.some.injEq] at hhost
  subst hhost
  refine ⟨by rw [first.method, second.method, hmethod], htarget₁.trans htarget₂.symm, ?_, hbodies⟩
  apply Headers.perm_of_lookup first.nodup second.nodup
  intro name
  by_cases hname : name ∈ standardFields
  · simp only [standardFields, List.mem_cons, List.not_mem_nil, or_false] at hname
    rcases hname with rfl | rfl | rfl | rfl | rfl
    · rw [hfield₁, hfield₂]
    · rw [first.accept, second.accept, haccept]
    · rw [first.content, second.content, hcontent]
    · rw [first.authorization, second.authorization, hauthorization]
    · rw [first.length, second.length, hbody, hbodies]
  · have absent {q : Request} {parts : List Part} (settled : q.SettledBy parts) :
        q.headers.lookup name = none := by
      rw [List.lookup_eq_none_iff]
      intro field hfield
      have hne : name ≠ field.1 := fun h => hname (h ▸ settled.fields field hfield)
      simpa using hne
    rw [absent first, absent second]

end Part

/-- The concerns of a request are independent. A request that standard builders make is settled by
the last part of each concern; and builders that agree with them on the order within each concern
make the same request, with the same effect on the state. -/
theorem build_settled_by_last {σ : Type} (xs : List (Setting σ)) (s s' : σ) (r : Request)
    (built : Builder.build (xs.map Setting.builder) s = (.ok r, s')) :
    ∃ parts, xs.mapM Setting.part s = (.ok parts, s') ∧ r.SettledBy parts ∧
      ∀ ys, Setting.Agree xs ys →
        ∃ r', Builder.build (ys.map Setting.builder) s = (.ok r', s') ∧ r.Same r' := by
  obtain ⟨parts, hparts, hassemble, htarget⟩ := Setting.build_eq_ok_iff.mp built
  have hsettled := Part.settledBy_of_assemble (Setting.standard_parts hparts) hassemble htarget
  refine ⟨parts, hparts, hsettled, fun ys agree => ?_⟩
  obtain ⟨parts', hparts', hsame⟩ := Setting.exists_parts_of_agree agree hparts
  have standard := Setting.standard_parts hparts'
  obtain ⟨legal, -⟩ := assemble_eq_ok_iff.mp hassemble
  have hassemble' : assemble parts' {} = .ok (parts'.foldl Part.settle {}) :=
    assemble_eq_ok_iff.mpr ⟨fun p hp => legal p (Part.mem_of_agree standard hsame hp), rfl⟩
  have htarget' : (parts'.foldl Part.settle {}).url?.isSome = true := by
    obtain ⟨-, rfl⟩ := assemble_eq_ok_iff.mp hassemble
    rw [Part.url?_foldl_settle, ← Part.last_target?_of_agree hsame, ← Part.url?_foldl_settle]
    exact htarget
  have hsettled' := Part.settledBy_of_assemble standard hassemble' htarget'
  exact ⟨_, Setting.build_eq_ok_iff.mpr ⟨parts', hparts', hassemble', htarget'⟩,
    Part.same_of_agree hsettled hsettled' hsame⟩

/-- Builders of all concerns, some of which are overridden by later ones. The tokens are numbered.
-/
def overriding : List (Setting Nat) :=
  let token : Action HttpError Nat String := fun n => (.ok (Text.decimal n), n + 1)
  let site (name : String) (port? : Option Nat) : Url :=
    { scheme := "http", host? := some (.domain name), port?, path := .segments [""] }
  [.bearer token, .target (site "a" none), .body (utf8 "xyz"), .method .post, .accept [.json],
    .content .json, .bearer token, .target (site "b" (some 8)),
    .document (.ok (.list [])), .accept [], .method .put, .accept [.yaml, .gzip], .content .yaml]

/-- What the builders of all concerns make. -/
def overridden : Request where
  method := .put
  url? :=
    some { scheme := "http", host? := some (.domain "b"), port? := some 8, path := .segments [""] }
  headers :=
    [("authorization", utf8 "Bearer 1"), ("host", utf8 "b:8"), ("content-length", utf8 "2"),
      ("accept", utf8 "application/yaml, application/gzip"),
      ("content-type", utf8 "application/yaml")]
  body := utf8 "[]"

theorem build_settled_by_last_overriding :
    Builder.build (overriding.map Setting.builder) 0 = (.ok overridden, 2) ∧
      ∃ parts, overriding.mapM Setting.part 0 = (.ok parts, 2) ∧ overridden.SettledBy parts ∧
        ∀ ys, Setting.Agree overriding ys →
          ∃ r', Builder.build (ys.map Setting.builder) 0 = (.ok r', 2) ∧ overridden.Same r' := by
  have built : Builder.build (overriding.map Setting.builder) 0 = (.ok overridden, 2) := by
    rfl
  exact ⟨built, build_settled_by_last overriding 0 2 overridden built⟩

end Northbound.Http
