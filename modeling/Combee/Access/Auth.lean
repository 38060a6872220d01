import Combee.Access.ApiKeys
import Combee.ApiServer.Request

/-!
# Auth — who a request acts for

`auth_middleware` turns the headers of a request into the `AuthContext` that the other middlewares
and the handlers read. In key mode the tenant is the owner of the presented API key. A request
with the key of the platform's own service is *internal*: it may name another tenant in the header
`x-combee-on-behalf-tenant`. Nothing behind the middleware reads that header.
-/

namespace Combee.Access

open Billing (TenantId)
open ApiServer (AuthContext Request defaultTenant parseUuid)

/-! ## Headers -/

/-- A `HeaderMap` as the list of its entries, with names in lower case. -/
abbrev Headers := List (String × List UInt8)

namespace Headers

/-- `HeaderMap::get`: the first value of a name. -/
def get (h : Headers) (name : String) : Option (List UInt8) :=
  (h.find? (·.1 = name)).map Prod.snd

def isVisibleAscii (b : UInt8) : Bool :=
  (32 ≤ b && b < 127) || b == 9

def toStr (value : List UInt8) : Option String :=
  if value.all isVisibleAscii then
    some (String.ofList (value.map fun b => Char.ofNat b.toNat))
  else none

/-- `headers.get(name).and_then(|v| v.to_str().ok())`. -/
def text (h : Headers) (name : String) : Option String :=
  (h.get name).bind toStr

end Headers

def apiKeyHeader : String := "x-api-key"

def onBehalfHeader : String := "x-combee-on-behalf-tenant"

/-- What the middleware reads of a request, and the path, which the others read. -/
structure HttpRequest where
  headers : Headers
  path : String

/-! ## The middleware -/

inductive AuthMode where
  | off
  | key
  deriving DecidableEq, Repr

/-- What the middleware reads; `storeError` is the error of a failing lookup in the metadata store.
-/
structure AppState where
  authMode : AuthMode
  bffServiceKey : Option String
  metadata : KeyStore
  storeError : Option CombeeError

def AppState.lookupApiKeyByHash (st : AppState) (keyHash : String) :
    Result (Option ApiKeyRecord) :=
  match st.storeError with
  | some e => .error e
  | none => .ok (st.metadata.lookupApiKeyByHash keyHash)

/-- A response that ends the request, with its `ErrorBody`. -/
structure Rejection where
  status : Nat
  code : String
  error : String
  deriving DecidableEq, Repr

def unauthorized : Rejection := ⟨401, "unauthorized", "unauthorized"⟩

def invalidOnBehalf : Rejection := ⟨400, "invalid_request", "invalid x-combee-on-behalf-tenant"⟩

section

variable (hash : String → String) (st : AppState)

def tenantOfKey (key : String) : Except Rejection TenantId :=
  match st.lookupApiKeyByHash (hash key) with
  | .ok (some record) => .ok record.tenantId
  | _ => .error unauthorized

/-- The first part of `auth_middleware`: the tenant, and whether the request is internal. -/
def authenticate (h : Headers) : Except Rejection AuthContext :=
  match st.authMode with
  | .off => .ok ⟨defaultTenant, false⟩
  | .key =>
    match h.text apiKeyHeader with
    | none => .error unauthorized
    | some key => (tenantOfKey hash st key).map fun t => ⟨t, st.bffServiceKey = some key⟩

/-- The second part: an internal request may name its tenant. -/
def onBehalf (h : Headers) (auth : AuthContext) : Except Rejection AuthContext :=
  if auth.internal then
    match h.text onBehalfHeader with
    | none => .ok auth
    | some raw =>
      match parseUuid raw.toList with
      | some t => .ok { auth with tenantId := ⟨t⟩ }
      | none => .error invalidOnBehalf
  else .ok auth

/-- `auth_middleware`: the request that goes on to the other middlewares. -/
def authMiddleware (req : HttpRequest) : Except Rejection Request := do
  let auth ← authenticate hash st req.headers
  let auth ← onBehalf req.headers auth
  return ⟨some auth, req.path⟩

end

/-! ## The other headers -/

/-- The same request but for the header that names a tenant. -/
structure SameButOnBehalf (req req' : HttpRequest) : Prop where
  path : req'.path = req.path
  headers : req'.headers.filter (·.1 ≠ onBehalfHeader) = req.headers.filter (·.1 ≠ onBehalfHeader)

lemma Headers.get_filter_ne (h : Headers) {name other : String} (hne : name ≠ other) :
    Headers.get (h.filter (·.1 ≠ other)) name = h.get name := by
  have hfind : (h.filter (·.1 ≠ other)).find? (·.1 = name) = h.find? (·.1 = name) := by
    rw [List.find?_filter]
    congr 1
    funext e
    by_cases he : e.1 = name
    · simp [he, hne]
    · simp [he]
  rw [Headers.get, hfind, Headers.get]

lemma SameButOnBehalf.text_apiKey {req req' : HttpRequest} (h : SameButOnBehalf req req') :
    req'.headers.text apiKeyHeader = req.headers.text apiKeyHeader := by
  have hne : apiKeyHeader ≠ onBehalfHeader := by decide
  calc req'.headers.text apiKeyHeader
      = Headers.text (req'.headers.filter (·.1 ≠ onBehalfHeader)) apiKeyHeader := by
        simp only [Headers.text, Headers.get_filter_ne _ hne]
    _ = Headers.text (req.headers.filter (·.1 ≠ onBehalfHeader)) apiKeyHeader := by
        rw [h.headers]
    _ = req.headers.text apiKeyHeader := by
        simp only [Headers.text, Headers.get_filter_ne _ hne]

/-! ## The key of the service -/

def PresentsServiceKey (st : AppState) (req : HttpRequest) : Prop :=
  ∃ key, req.headers.text apiKeyHeader = some key ∧ st.bffServiceKey = some key

def OwnsPresented (hash : String → String) (st : AppState) (req : HttpRequest) (t : TenantId) :
    Prop :=
  ∃ key, req.headers.text apiKeyHeader = some key ∧
    ∃ k ∈ st.metadata.apiKeys, k.keyHash = hash key ∧ k.revokedAt = none ∧ k.tenantId = t

section

variable {hash : String → String} {st : AppState} {req : HttpRequest}

lemma tenantOfKey_eq_ok {key : String} {t : TenantId} (h : tenantOfKey hash st key = .ok t) :
    ∃ k ∈ st.metadata.apiKeys, k.keyHash = hash key ∧ k.revokedAt = none ∧ k.tenantId = t := by
  unfold tenantOfKey AppState.lookupApiKeyByHash at h
  cases herr : st.storeError with
  | some e => simp [herr] at h
  | none =>
    cases hfind : st.metadata.lookupApiKeyByHash (hash key) with
    | none => simp [herr, hfind] at h
    | some k =>
      have ht : k.tenantId = t := by simpa [herr, hfind] using h
      have hk := List.find?_some hfind
      simp only [Bool.and_eq_true, decide_eq_true_eq, Option.isNone_iff_eq_none] at hk
      exact ⟨k, List.mem_of_find?_eq_some hfind, hk.1, hk.2, ht⟩

/-- What the first part lets through in key mode. -/
lemma authenticate_eq_ok (hmode : st.authMode = .key) {auth : AuthContext}
    (h : authenticate hash st req.headers = .ok auth) :
    OwnsPresented hash st req auth.tenantId ∧ (auth.internal ↔ PresentsServiceKey st req) := by
  unfold authenticate at h
  cases hkey : req.headers.text apiKeyHeader with
  | none => simp [hmode, hkey] at h
  | some key =>
    cases ht : tenantOfKey hash st key with
    | error e => simp [hmode, hkey, ht, Except.map] at h
    | ok t =>
      have hauth : auth = ⟨t, st.bffServiceKey = some key⟩ := by
        simpa [hmode, hkey, ht, Except.map] using h.symm
      subst hauth
      exact ⟨⟨key, hkey, tenantOfKey_eq_ok ht⟩, by simp [PresentsServiceKey, hkey]⟩

lemma onBehalf_of_external {h : Headers} {auth : AuthContext} (hext : auth.internal = false) :
    onBehalf h auth = .ok auth := by
  simp [onBehalf, hext]

lemma authMiddleware_of_not_serviceKey (hmode : st.authMode = .key)
    (hkey : ¬ PresentsServiceKey st req) :
    authMiddleware hash st req =
      (authenticate hash st req.headers).map fun auth => ⟨some auth, req.path⟩ := by
  cases hauth : authenticate hash st req.headers with
  | error e => simp only [authMiddleware, hauth]; rfl
  | ok auth =>
    have hext : auth.internal = false := by
      simpa [hkey] using (authenticate_eq_ok hmode hauth).2
    simp only [authMiddleware, hauth]
    exact congrArg (Except.map _) (onBehalf_of_external hext)

lemma authenticate_congr {req' : HttpRequest} (h : SameButOnBehalf req req') :
    authenticate hash st req'.headers = authenticate hash st req.headers := by
  simp only [authenticate, h.text_apiKey]

end

/-- Only the key of the service makes a request internal or lets it name its tenant; any other
request acts for the owner of its key, whatever the header says. -/
theorem on_behalf_confined (hash : String → String) (st : AppState) (hmode : st.authMode = .key)
    (req : HttpRequest) :
    (∀ r, authMiddleware hash st req = .ok r → r.internal = true → PresentsServiceKey st req) ∧
    (¬ PresentsServiceKey st req →
      (∀ r, authMiddleware hash st req = .ok r →
        r.internal = false ∧ OwnsPresented hash st req r.tenant ∧ r.path = req.path) ∧
      ∀ req', SameButOnBehalf req req' →
        authMiddleware hash st req' = authMiddleware hash st req) := by
  have hother : ¬ PresentsServiceKey st req → ∀ r, authMiddleware hash st req = .ok r →
      r.internal = false ∧ OwnsPresented hash st req r.tenant ∧ r.path = req.path := by
    intro hkey r hr
    rw [authMiddleware_of_not_serviceKey hmode hkey] at hr
    cases hauth : authenticate hash st req.headers with
    | error e => simp [hauth, Except.map] at hr
    | ok auth =>
      have hr' : r = ⟨some auth, req.path⟩ := by simpa [hauth, Except.map] using hr.symm
      subst hr'
      rcases authenticate_eq_ok hmode hauth with ⟨howns, hint⟩
      have hext : auth.internal = false := by simpa [hkey] using hint
      exact ⟨hext, howns, rfl⟩
  refine ⟨fun r hr hint => ?_, fun hkey => ⟨hother hkey, fun req' hsame => ?_⟩⟩
  · by_contra hkey
    simp [(hother hkey r hr).1] at hint
  · have hkey' : ¬ PresentsServiceKey st req' := by
      simpa only [PresentsServiceKey, hsame.text_apiKey] using hkey
    rw [authMiddleware_of_not_serviceKey hmode hkey, authMiddleware_of_not_serviceKey hmode hkey',
      authenticate_congr hsame, hsame.path]

/-- A server with the identity for a hash, one key `a` of the tenant `7`, and a key of the
service. -/
def oneKey : AppState :=
  ⟨.key, some "service", ⟨[], [⟨⟨1⟩, ⟨7⟩, "default", "a", 0, none⟩]⟩, none⟩

/-- With the key `a` a request cannot act for the tenant `9`. -/
theorem on_behalf_confined_tenant_key :
    authMiddleware id oneKey
        ⟨[(onBehalfHeader, "00000000-0000-0000-0000-000000000009".toUTF8.toList),
          (apiKeyHeader, [97])], "/v1/databases"⟩ =
      .ok ⟨some ⟨⟨7⟩, false⟩, "/v1/databases"⟩ := by
  have hkey : ¬ PresentsServiceKey oneKey ⟨[(apiKeyHeader, [97])], "/v1/databases"⟩ := by
    rintro ⟨key, hkey, hservice⟩
    cases hservice
    exact absurd hkey (by decide)
  exact (((on_behalf_confined id oneKey rfl _).2 hkey).2 _ ⟨rfl, by decide⟩).trans rfl

end Combee.Access
