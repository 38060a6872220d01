import Combee.Billing.Ledger

/-!
# ApiKeys — tenants and their API keys in the two metadata stores

Both stores keep a record for each tenant and for each API key; of a key only the hash is kept. A
key that is revoked keeps its record. The stores differ in what they refuse:

* the in-memory store has maps from ids to records, and any number of records may have one hash;
* PostgreSQL has a table with primary keys, and `key_hash` is `UNIQUE`, whether or not the key is
  revoked.

UUIDs and times that a call draws are arguments. The function `hash` is an argument as well:
nothing here depends on which it is.
-/

namespace Combee.Access

open Billing (TenantId)

/-! ## Records -/

structure KeyId where
  raw : Nat
  deriving DecidableEq, Repr

structure TenantRecord where
  id : TenantId
  createdAt : Nat
  status : String
  deriving DecidableEq, Repr

structure ApiKeyRecord where
  id : KeyId
  tenantId : TenantId
  name : String
  keyHash : String
  createdAt : Nat
  revokedAt : Option Nat
  deriving DecidableEq, Repr

/-- The tenants and keys of a store; a map is listed in the order of its iteration. -/
structure KeyStore where
  tenants : List TenantRecord
  apiKeys : List ApiKeyRecord
  deriving DecidableEq, Repr

namespace KeyStore

def empty : KeyStore := ⟨[], []⟩

/-- `lookup_api_key_by_hash`: both stores look for a record that is not revoked. -/
def lookupApiKeyByHash (s : KeyStore) (keyHash : String) : Option ApiKeyRecord :=
  s.apiKeys.find? fun k => k.keyHash = keyHash && k.revokedAt.isNone

end KeyStore

/-! ## The in-memory store -/

namespace InMemory

def createTenant (s : KeyStore) (tenant : TenantId) (now : Nat) :
    Result TenantRecord × KeyStore :=
  let record : TenantRecord := ⟨tenant, now, "active"⟩
  (.ok record, { s with tenants := s.tenants.filter (·.id ≠ tenant) ++ [record] })

def createApiKey (s : KeyStore) (tenant : TenantId) (keyHash name : String) (id : KeyId)
    (now : Nat) : Result ApiKeyRecord × KeyStore :=
  let record : ApiKeyRecord := ⟨id, tenant, name, keyHash, now, none⟩
  (.ok record, { s with apiKeys := s.apiKeys.filter (·.id ≠ id) ++ [record] })

/-- A key that is revoked already gets a new time. -/
def revokeApiKey (s : KeyStore) (tenant : TenantId) (id : KeyId) (now : Nat) :
    Result Unit × KeyStore :=
  match s.apiKeys.find? (·.id = id) with
  | none => (.error .apiKeyNotFound, s)
  | some k =>
    if k.tenantId ≠ tenant then (.error .apiKeyNotFound, s)
    else
      (.ok (), { s with
        apiKeys := s.apiKeys.map fun k' =>
          if k'.id = id then { k' with revokedAt := some now } else k' })

end InMemory

/-! ## PostgreSQL -/

namespace Postgres

/-- The error of an `INSERT` that a constraint refuses. -/
def duplicateKey (constraint : String) : CombeeError :=
  .internal ("postgres error: error returned from database: duplicate key value violates unique " ++
    s!"constraint \"{constraint}\"")

def createTenant (s : KeyStore) (tenant : TenantId) (now : Nat) :
    Result TenantRecord × KeyStore :=
  if s.tenants.any (·.id = tenant) then (.error (duplicateKey "tenants_pkey"), s)
  else
    let record : TenantRecord := ⟨tenant, now, "active"⟩
    (.ok record, { s with tenants := s.tenants ++ [record] })

/-- The row of a revoked key still takes its hash. -/
def createApiKey (s : KeyStore) (tenant : TenantId) (keyHash name : String) (id : KeyId)
    (now : Nat) : Result ApiKeyRecord × KeyStore :=
  if s.apiKeys.any (·.id = id) then (.error (duplicateKey "api_keys_pkey"), s)
  else if s.apiKeys.any (·.keyHash = keyHash) then
    (.error (duplicateKey "api_keys_key_hash_key"), s)
  else
    let record : ApiKeyRecord := ⟨id, tenant, name, keyHash, now, none⟩
    (.ok record, { s with apiKeys := s.apiKeys ++ [record] })

/-- The rows that the `UPDATE` of `revoke_api_key` changes. -/
def Revocable (tenant : TenantId) (id : KeyId) (k : ApiKeyRecord) : Bool :=
  k.id = id && k.tenantId = tenant && k.revokedAt.isNone

def revokeApiKey (s : KeyStore) (tenant : TenantId) (id : KeyId) (now : Nat) :
    Result Unit × KeyStore :=
  if s.apiKeys.any (Revocable tenant id) then
    (.ok (), { s with
      apiKeys := s.apiKeys.map fun k =>
        if Revocable tenant id k then { k with revokedAt := some now } else k })
  else (.error .apiKeyNotFound, s)

end Postgres

/-! ## Either store -/

inductive Backend where
  | inMemory
  | postgres
  deriving DecidableEq, Repr

structure Configured where
  key : String
  tenant : TenantId
  keyId : KeyId
  now : Nat
  deriving DecidableEq, Repr

namespace Backend

def createTenant : Backend → KeyStore → TenantId → Nat →
    Result TenantRecord × KeyStore
  | inMemory => InMemory.createTenant
  | postgres => Postgres.createTenant

def createApiKey : Backend → KeyStore → TenantId → String → String → KeyId → Nat →
    Result ApiKeyRecord × KeyStore
  | inMemory => InMemory.createApiKey
  | postgres => Postgres.createApiKey

def revokeApiKey : Backend → KeyStore → TenantId → KeyId → Nat →
    Result Unit × KeyStore
  | inMemory => InMemory.revokeApiKey
  | postgres => Postgres.revokeApiKey

variable (b : Backend) (hash : String → String)

/-- One turn of the loop of `bootstrap_api_keys`, which is the same text in both stores. -/
def bootstrapKey (c : Configured) (s : KeyStore) : Result Unit × KeyStore :=
  let keyHash := hash c.key
  if (s.lookupApiKeyByHash keyHash).isSome then (.ok (), s)
  else
    match b.createTenant s c.tenant c.now with
    | (.error e, s₁) => (.error e, s₁)
    | (.ok _, s₁) =>
      match b.createApiKey s₁ c.tenant keyHash "bootstrap" c.keyId c.now with
      | (.error e, s₂) => (.error e, s₂)
      | (.ok _, s₂) => (.ok (), s₂)

/-- `bootstrap_api_keys`: the first error ends the loop, and what was created before it stays. -/
def bootstrapApiKeys : List Configured → KeyStore → Result Unit × KeyStore
  | [], s => (.ok (), s)
  | c :: cs, s =>
    match b.bootstrapKey hash c s with
    | (.error e, s₁) => (.error e, s₁)
    | (.ok (), s₁) => bootstrapApiKeys cs s₁

end Backend

/-! ## Histories -/

inductive KeyOp where
  | create (tenant : TenantId) (key name : String) (id : KeyId) (now : Nat)
  | bootstrap (keys : List Configured)
  | revoke (tenant : TenantId) (id : KeyId) (now : Nat)
  deriving DecidableEq, Repr

namespace Backend

def perform (b : Backend) (hash : String → String) (s : KeyStore) : KeyOp → KeyStore
  | .create tenant key name id now => (b.createApiKey s tenant (hash key) name id now).2
  | .bootstrap keys => (b.bootstrapApiKeys hash keys s).2
  | .revoke tenant id now => (b.revokeApiKey s tenant id now).2

def after (b : Backend) (hash : String → String) (ops : List KeyOp) : KeyStore :=
  ops.foldl (b.perform hash) KeyStore.empty

end Backend

end Combee.Access
