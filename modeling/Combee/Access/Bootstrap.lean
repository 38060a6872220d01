import Combee.Access.ApiKeys

/-!
# Bootstrap — the configured keys at every start of the server

At its start the server sees to it that each configured key is valid. A key that is valid is left
alone, and one that was never seen gets a tenant of its own. A configured key that was revoked
makes the stores part: in memory it becomes valid again, for another tenant, and in PostgreSQL the
`UNIQUE` constraint ends the start with an error, with a tenant without keys left behind.

`bootstrap_repeatable_iff` says that such keys are the only obstacle, in any state of either store.
-/

namespace Combee.Access

open List
open Billing (TenantId)
open KeyStore

/-! ## What a store says of a hash -/

namespace KeyStore

def Owns (s : KeyStore) (keyHash : String) (t : TenantId) : Prop :=
  ∃ k ∈ s.apiKeys, k.keyHash = keyHash ∧ k.revokedAt = none ∧ k.tenantId = t

def Valid (s : KeyStore) (keyHash : String) : Prop :=
  ∃ k ∈ s.apiKeys, k.keyHash = keyHash ∧ k.revokedAt = none

def Revoked (s : KeyStore) (keyHash : String) : Prop :=
  (∃ k ∈ s.apiKeys, k.keyHash = keyHash) ∧ ¬ s.Valid keyHash

instance (s : KeyStore) (keyHash : String) : Decidable (s.Valid keyHash) :=
  inferInstanceAs (Decidable (∃ k ∈ s.apiKeys, _ ∧ _))

instance (s : KeyStore) (keyHash : String) : Decidable (s.Revoked keyHash) :=
  inferInstanceAs (Decidable (_ ∧ _))

variable {s : KeyStore} {keyHash : String} {t : TenantId}

lemma lookup_isSome_iff : (s.lookupApiKeyByHash keyHash).isSome ↔ s.Valid keyHash := by
  simp only [lookupApiKeyByHash, find?_isSome, Valid, Bool.and_eq_true, decide_eq_true_eq,
    Option.isNone_iff_eq_none]

lemma not_row_of_not_revoked (hvalid : ¬ s.Valid keyHash) (hrev : ¬ s.Revoked keyHash) :
    ∀ k ∈ s.apiKeys, k.keyHash ≠ keyHash :=
  fun k hk hh => hrev ⟨⟨k, hk, hh⟩, hvalid⟩

end KeyStore

/-! ## UUIDs that are new -/

structure Fresh (s : KeyStore) (keys : List Configured) : Prop where
  tenant_new : ∀ c ∈ keys, ∀ t ∈ s.tenants, t.id ≠ c.tenant
  keyId_new : ∀ c ∈ keys, ∀ k ∈ s.apiKeys, k.id ≠ c.keyId
  tenants_distinct : (keys.map Configured.tenant).Nodup
  keyIds_distinct : (keys.map Configured.keyId).Nodup

/-! ## One key -/

def Configured.record (c : Configured) (keyHash : String) : ApiKeyRecord :=
  ⟨c.keyId, c.tenant, "bootstrap", keyHash, c.now, none⟩

def KeyStore.withTenant (s : KeyStore) (c : Configured) : KeyStore :=
  { s with tenants := s.tenants ++ [⟨c.tenant, c.now, "active"⟩] }

def KeyStore.withKey (s : KeyStore) (c : Configured) (keyHash : String) : KeyStore :=
  ⟨(s.withTenant c).tenants, s.apiKeys ++ [c.record keyHash]⟩

section

variable {b : Backend} {hash : String → String} {s : KeyStore} {c : Configured}
  {cs : List Configured}

lemma Fresh.withKey (h : Fresh s (c :: cs)) (keyHash : String) :
    Fresh (s.withKey c keyHash) cs := by
  have htenants : c.tenant ∉ cs.map Configured.tenant ∧ (cs.map Configured.tenant).Nodup := by
    simpa using h.tenants_distinct
  have hkeys : c.keyId ∉ cs.map Configured.keyId ∧ (cs.map Configured.keyId).Nodup := by
    simpa using h.keyIds_distinct
  refine ⟨fun c' hc' => forall_mem_append.mpr ⟨h.tenant_new c' (.tail c hc'), ?_⟩,
    fun c' hc' => forall_mem_append.mpr ⟨h.keyId_new c' (.tail c hc'), ?_⟩,
    htenants.2, hkeys.2⟩
  · refine forall_mem_singleton.mpr ?_
    exact (ne_of_mem_of_not_mem (mem_map_of_mem hc') htenants.1).symm
  · refine forall_mem_singleton.mpr ?_
    exact (ne_of_mem_of_not_mem (mem_map_of_mem hc') hkeys.1).symm

lemma Fresh.tail (h : Fresh s (c :: cs)) : Fresh s cs :=
  ⟨(forall_mem_cons.mp h.tenant_new).2,
    (forall_mem_cons.mp h.keyId_new).2,
    (nodup_cons.mp h.tenants_distinct).2, (nodup_cons.mp h.keyIds_distinct).2⟩

lemma createTenant_new (h : ∀ t ∈ s.tenants, t.id ≠ c.tenant) :
    b.createTenant s c.tenant c.now = (.ok ⟨c.tenant, c.now, "active"⟩, s.withTenant c) := by
  cases b with
  | inMemory =>
    have hfilter : s.tenants.filter (·.id ≠ c.tenant) = s.tenants := by
      simpa [filter_eq_self] using h
    simp only [Backend.createTenant, InMemory.createTenant, withTenant, hfilter]
  | postgres =>
    have hany : s.tenants.any (·.id = c.tenant) = false := by
      simpa [any_eq_false] using h
    simp [Backend.createTenant, Postgres.createTenant, withTenant, hany]

lemma createApiKey_new {keyHash : String} (hid : ∀ k ∈ s.apiKeys, k.id ≠ c.keyId)
    (hhash : b = .postgres → ∀ k ∈ s.apiKeys, k.keyHash ≠ keyHash) :
    b.createApiKey (s.withTenant c) c.tenant keyHash "bootstrap" c.keyId c.now =
      (.ok (c.record keyHash), s.withKey c keyHash) := by
  cases b with
  | inMemory =>
    have hfilter : s.apiKeys.filter (·.id ≠ c.keyId) = s.apiKeys := by
      simpa [filter_eq_self] using hid
    simp only [Backend.createApiKey, InMemory.createApiKey, withTenant, hfilter]
    rfl
  | postgres =>
    have hany : s.apiKeys.any (·.id = c.keyId) = false := by
      simpa [any_eq_false] using hid
    have hhash' : s.apiKeys.any (·.keyHash = keyHash) = false := by
      simpa [any_eq_false] using hhash rfl
    simp only [Backend.createApiKey, Postgres.createApiKey, withTenant, hany, hhash']
    rfl

lemma bootstrapKey_of_valid (h : s.Valid (hash c.key)) :
    b.bootstrapKey hash c s = (.ok (), s) := by
  simp only [Backend.bootstrapKey, lookup_isSome_iff.mpr h, if_true]

lemma bootstrapKey_of_new (hfresh : Fresh s (c :: cs)) (hvalid : ¬ s.Valid (hash c.key))
    (hrev : b = .postgres → ¬ s.Revoked (hash c.key)) :
    b.bootstrapKey hash c s = (.ok (), s.withKey c (hash c.key)) := by
  have hlookup : (s.lookupApiKeyByHash (hash c.key)).isSome = false := by
    simpa [← lookup_isSome_iff] using hvalid
  have hid := hfresh.keyId_new c mem_cons_self
  simp only [Backend.bootstrapKey, hlookup, Bool.false_eq_true, if_false,
    createTenant_new (b := b) (hfresh.tenant_new c mem_cons_self),
    createApiKey_new hid fun hb => not_row_of_not_revoked hvalid (hrev hb)]

/-- PostgreSQL has created the tenant when it refuses the hash. -/
lemma bootstrapKey_of_revoked (hfresh : Fresh s (c :: cs)) (hrev : s.Revoked (hash c.key)) :
    Backend.postgres.bootstrapKey hash c s =
      (.error (Postgres.duplicateKey "api_keys_key_hash_key"), s.withTenant c) := by
  have hlookup : (s.lookupApiKeyByHash (hash c.key)).isSome = false := by
    simpa [← lookup_isSome_iff] using hrev.2
  have hid : s.apiKeys.any (·.id = c.keyId) = false := by
    simpa [any_eq_false] using hfresh.keyId_new c mem_cons_self
  have hhash : s.apiKeys.any (·.keyHash = hash c.key) = true := by
    simpa [any_eq_true] using hrev.1
  simp only [Backend.bootstrapKey, hlookup, Bool.false_eq_true, if_false,
    createTenant_new (b := .postgres) (hfresh.tenant_new c mem_cons_self)]
  simp only [Backend.createApiKey, Postgres.createApiKey, withTenant, hid, hhash,
    Bool.false_eq_true, if_false, if_true]

end

/-! ## All keys -/

section

variable {b : Backend} {hash : String → String} {s : KeyStore} {c : Configured}

variable {keyHash keyHash' : String}

lemma valid_withKey :
    (s.withKey c keyHash).Valid keyHash' ↔ s.Valid keyHash' ∨ keyHash = keyHash' := by
  simp only [Valid, withKey, Configured.record, mem_append,
    mem_singleton, or_and_right, exists_or, exists_eq_left, and_true]

lemma revoked_of_withKey
    (h : (s.withKey c keyHash).Revoked keyHash') : s.Revoked keyHash' := by
  rcases h with ⟨⟨k, hk, hh⟩, hvalid⟩
  have hold : ¬ s.Valid keyHash' := fun h => hvalid (valid_withKey.mpr (.inl h))
  rcases mem_append.mp hk with hk | hk
  · exact ⟨⟨k, hk, hh⟩, hold⟩
  · -- the new record is valid, so it is not one of a revoked hash
    rw [mem_singleton.mp hk] at hh
    exact absurd (valid_withKey.mpr (.inr hh)) hvalid

structure Added (hash : String → String) (keys : List Configured) (s s' : KeyStore)
    (new : List ApiKeyRecord) : Prop where
  apiKeys : s'.apiKeys = s.apiKeys ++ new
  configured : ∀ k ∈ new, ∃ c ∈ keys, hash c.key = k.keyHash
  was_invalid : ∀ k ∈ new, ¬ s.Valid k.keyHash
  all_valid : ∀ c ∈ keys, s'.Valid (hash c.key)

lemma bootstrapApiKeys_ok (b : Backend) (hash : String → String) :
    ∀ (keys : List Configured) (s : KeyStore), Fresh s keys →
    (∀ c ∈ keys, b = .postgres → ¬ s.Revoked (hash c.key)) →
    ∃ s' new, b.bootstrapApiKeys hash keys s = (.ok (), s') ∧ Added hash keys s s' new
  | [], s, _, _ => ⟨s, [], rfl, by simp, by simp, by simp, by simp⟩
  | c :: cs, s, hfresh, hrev => by
      by_cases hvalid : s.Valid (hash c.key)
      · rcases bootstrapApiKeys_ok b hash cs s hfresh.tail
          (forall_mem_cons.mp hrev).2 with ⟨s', new, hrun, hadded⟩
        have hrun' : b.bootstrapApiKeys hash (c :: cs) s = (.ok (), s') := by
          simp only [Backend.bootstrapApiKeys, bootstrapKey_of_valid hvalid, hrun]
        refine ⟨s', new, hrun', hadded.apiKeys,
          fun k hk => exists_mem_cons_of_exists (hadded.configured k hk), hadded.was_invalid,
          forall_mem_cons.mpr ⟨?_, hadded.all_valid⟩⟩
        rcases hvalid with ⟨k, hk, hk'⟩
        exact ⟨k, hadded.apiKeys ▸ mem_append_left new hk, hk'⟩
      · have hturn := bootstrapKey_of_new hfresh hvalid (hrev c mem_cons_self)
        rcases bootstrapApiKeys_ok b hash cs _ (hfresh.withKey (hash c.key)) (fun c' hc' hb h =>
          hrev c' (mem_cons_of_mem c hc') hb (revoked_of_withKey h)) with
          ⟨s', new, hrun, hadded⟩
        refine ⟨s', c.record (hash c.key) :: new,
          by simp only [Backend.bootstrapApiKeys, hturn, hrun],
          by simp [hadded.apiKeys, withKey],
          forall_mem_cons.mpr ⟨⟨c, mem_cons_self, rfl⟩, fun k hk =>
            exists_mem_cons_of_exists (hadded.configured k hk)⟩,
          forall_mem_cons.mpr ⟨hvalid, fun k hk h =>
            hadded.was_invalid k hk (valid_withKey.mpr (.inl h))⟩,
          forall_mem_cons.mpr ⟨⟨c.record (hash c.key), ?_, rfl, rfl⟩, hadded.all_valid⟩⟩
        simp [hadded.apiKeys, withKey]

lemma bootstrapApiKeys_of_valid : ∀ keys : List Configured,
    (∀ c ∈ keys, s.Valid (hash c.key)) → b.bootstrapApiKeys hash keys s = (.ok (), s)
  | [], _ => rfl
  | c :: cs, h => by
      simp only [Backend.bootstrapApiKeys, bootstrapKey_of_valid (h c mem_cons_self)]
      exact bootstrapApiKeys_of_valid cs (forall_mem_cons.mp h).2

lemma bootstrapApiKeys_fails : ∀ (keys : List Configured) (s : KeyStore), Fresh s keys →
    (∃ c ∈ keys, s.Revoked (hash c.key)) →
    (Backend.postgres.bootstrapApiKeys hash keys s).1 =
      .error (Postgres.duplicateKey "api_keys_key_hash_key")
  | [], _, _, h => by simp at h
  | c :: cs, s, hfresh, h => by
      by_cases hc : s.Revoked (hash c.key)
      · simp only [Backend.bootstrapApiKeys, bootstrapKey_of_revoked hfresh hc]
      · -- the revoked key is further on, and the turn for `c` leaves it revoked
        have hrest := (or_exists_of_exists_mem_cons h).resolve_left hc
        by_cases hvalid : s.Valid (hash c.key)
        · simp only [Backend.bootstrapApiKeys, bootstrapKey_of_valid hvalid]
          exact bootstrapApiKeys_fails cs s hfresh.tail hrest
        · simp only [Backend.bootstrapApiKeys, bootstrapKey_of_new hfresh hvalid fun _ => hc]
          apply bootstrapApiKeys_fails cs _ (hfresh.withKey (hash c.key))
          rcases hrest with ⟨c', hc', hrow, hinvalid⟩
          have hne : hash c.key ≠ hash c'.key := by
            intro heq
            exact hc (heq ▸ ⟨hrow, hinvalid⟩)
          refine ⟨c', hc', ?_, fun h => (valid_withKey.mp h).elim hinvalid hne⟩
          rcases hrow with ⟨k, hk, hh⟩
          exact ⟨k, mem_append_left _ hk, hh⟩

end

/-! ## Repeatable starts -/

/-- What is asked of a start in the state `s` with the configured keys `keys`. -/
structure Repeatable (b : Backend) (hash : String → String) (s : KeyStore)
    (keys : List Configured) : Prop where
  succeeds : (b.bootstrapApiKeys hash keys s).1 = .ok ()
  again : ∀ keys', keys'.map Configured.key = keys.map Configured.key →
    b.bootstrapApiKeys hash keys' (b.bootstrapApiKeys hash keys s).2 =
      (.ok (), (b.bootstrapApiKeys hash keys s).2)
  keeps_tenant : ∀ keyHash, s.Valid keyHash → ∀ t,
    (b.bootstrapApiKeys hash keys s).2.Owns keyHash t ↔ s.Owns keyHash t
  stays_revoked : ∀ keyHash, s.Revoked keyHash →
    ¬ (b.bootstrapApiKeys hash keys s).2.Valid keyHash

section

variable {b : Backend} {hash : String → String} {s s' : KeyStore} {keys : List Configured}
  {new : List ApiKeyRecord}

section

variable (h : Added hash keys s s' new)
include h

lemma Added.again {keys' : List Configured}
    (hkeys : keys'.map Configured.key = keys.map Configured.key) :
    b.bootstrapApiKeys hash keys' s' = (.ok (), s') := by
  apply bootstrapApiKeys_of_valid
  intro c' hc'
  have hmem : c'.key ∈ keys.map Configured.key := hkeys ▸ mem_map_of_mem hc'
  rcases mem_map.mp hmem with ⟨c, hc, hkey⟩
  exact hkey ▸ h.all_valid c hc

lemma Added.owns_iff {keyHash : String}
    (hvalid : s.Valid keyHash) (t : TenantId) : s'.Owns keyHash t ↔ s.Owns keyHash t := by
  constructor
  · rintro ⟨k, hk, hh, hlive, ht⟩
    rcases mem_append.mp (h.apiKeys ▸ hk) with hk | hk
    · exact ⟨k, hk, hh, hlive, ht⟩
    · exact absurd (hh ▸ hvalid) (h.was_invalid k hk)
  · rintro ⟨k, hk, hk'⟩
    exact ⟨k, h.apiKeys ▸ mem_append_left new hk, hk'⟩

lemma Added.stays_revoked (hkeys : ∀ c ∈ keys, ¬ s.Revoked (hash c.key)) {keyHash : String}
    (hrev : s.Revoked keyHash) : ¬ s'.Valid keyHash := by
  rintro ⟨k, hk, hh, hlive⟩
  rcases mem_append.mp (h.apiKeys ▸ hk) with hk | hk
  · exact hrev.2 ⟨k, hk, hh, hlive⟩
  · rcases h.configured k hk with ⟨c, hc, hc'⟩
    exact hkeys c hc (hc'.trans hh ▸ hrev)

end

end

/-- A start is repeatable exactly if no configured key was revoked. -/
theorem bootstrap_repeatable_iff (b : Backend) (hash : String → String) (s : KeyStore)
    (keys : List Configured) (hfresh : Fresh s keys) :
    Repeatable b hash s keys ↔ ∀ c ∈ keys, ¬ s.Revoked (hash c.key) := by
  constructor
  · intro h c hc hrev
    cases b with
    | inMemory =>
      rcases bootstrapApiKeys_ok .inMemory hash keys s hfresh
        (fun _ _ hb => by cases hb) with ⟨s', new, hrun, hadded⟩
      have hvalid := hadded.all_valid c hc
      rw [← show (Backend.inMemory.bootstrapApiKeys hash keys s).2 = s' by rw [hrun]] at hvalid
      exact h.stays_revoked _ hrev hvalid
    | postgres =>
      have hfails := bootstrapApiKeys_fails keys s hfresh ⟨c, hc, hrev⟩
      rw [h.succeeds] at hfails
      cases hfails
  · intro hkeys
    rcases bootstrapApiKeys_ok b hash keys s hfresh (fun c hc _ => hkeys c hc) with
      ⟨s', new, hrun, hadded⟩
    refine ⟨by rw [hrun], fun keys' hkeys' => ?_, fun keyHash hvalid t => ?_,
      fun keyHash hrev => ?_⟩
    · rw [hrun]
      exact hadded.again hkeys'
    · rw [hrun]
      exact hadded.owns_iff hvalid t
    · rw [hrun]
      exact hadded.stays_revoked hkeys hrev

/-- The first start with two keys, one of them configured twice, and an identity for a hash. -/
theorem bootstrap_repeatable_first_start :
    Repeatable .postgres id empty
      [⟨"a", ⟨1⟩, ⟨1⟩, 0⟩, ⟨"b", ⟨2⟩, ⟨2⟩, 0⟩, ⟨"a", ⟨3⟩, ⟨3⟩, 0⟩] :=
  (bootstrap_repeatable_iff .postgres id empty _
    ⟨by simp [empty], by simp [empty], by simp, by simp⟩).mpr (by decide)

/-- The configured key `a` was created by the first start and then revoked. -/
def revokedBefore : List KeyOp :=
  [.bootstrap [⟨"a", ⟨1⟩, ⟨1⟩, 0⟩], .revoke ⟨1⟩ ⟨1⟩ 1]

def configuredAgain : List Configured :=
  [⟨"a", ⟨2⟩, ⟨2⟩, 2⟩]

def nextStart (b : Backend) : Result Unit × KeyStore :=
  b.bootstrapApiKeys id configuredAgain (b.after id revokedBefore)

lemma revoked_before (b : Backend) : (b.after id revokedBefore).Revoked "a" := by
  cases b <;> decide

/-- In memory the next start makes the key valid again, for another tenant; in PostgreSQL it fails
and leaves a tenant behind. -/
theorem bootstrap_not_repeatable :
    (∀ b : Backend, ¬ Repeatable b id (b.after id revokedBefore) configuredAgain) ∧
    ((nextStart .inMemory).2.lookupApiKeyByHash "a").map ApiKeyRecord.tenantId = some ⟨2⟩ ∧
    (nextStart .postgres).1 = .error (Postgres.duplicateKey "api_keys_key_hash_key") ∧
    (nextStart .postgres).2.tenants.map TenantRecord.id = [⟨1⟩, ⟨2⟩] ∧
    (Backend.postgres.bootstrapApiKeys id [⟨"a", ⟨3⟩, ⟨3⟩, 3⟩]
      (nextStart .postgres).2).2.tenants.map TenantRecord.id = [⟨1⟩, ⟨2⟩, ⟨3⟩] := by
  refine ⟨fun b h => ?_, by decide, rfl, by decide, by decide⟩
  cases b with
  | inMemory => exact h.stays_revoked "a" (revoked_before .inMemory) (by decide)
  | postgres => cases h.succeeds

end Combee.Access
