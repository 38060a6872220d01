import Combee.Kv.Commands

/-!
# TtlPath — the two paths of `kv_ttl`

`kv_ttl` answers from the cache when it holds an unexpired entry for the key, and from SQLite
otherwise. The SQLite path encodes a persistent key as `-1`; the cache path returns the remaining
seconds of the entry, which a persistent entry does not have. The two paths therefore agree exactly
when the key is not cached as a persistent one.
-/

namespace Combee.Kv

/-- Nothing for a missing or expired key, `-1` for a persistent one, the seconds left otherwise. -/
def ttlOf (row : Option KvRow) (now : Int) : Option Int :=
  match row with
  | none => none
  | some row =>
    if isExpired row.expiresAt now then none
    else match row.expiresAt with
      | none => some (-1)
      | some e => some (e - now)

def KvState.CacheAgrees (s : KvState) : Prop :=
  ∀ k v, s.cache k = some v → Agrees (s.row k) v

/-- The SQLite path computes `ttlOf`, whatever the cache holds. -/
lemma evalM_ttl (db : DatabaseId) (s : KvState) (key : String) :
    evalM db s (ttl key) = (.ok (ttlOf (s.row ⟨db, key⟩) s.clock), s) := by
  unfold ttl
  cases h : s.row ⟨db, key⟩ with
  | none => simp [h, ttlOf]
  | some row =>
    obtain ⟨value, _ | e, version⟩ := row
    · simp [h, ttlOf]
    · by_cases he : e ≤ s.clock
      · simp [h, ttlOf, he]
      · have hpos : max (e - s.clock) 0 = e - s.clock := by omega
        simp [h, ttlOf, he, hpos]

lemma row_setEntry (s : KvState) (k k' : CacheKey) (v : Option CachedValue) :
    (s.setEntry k v).row k' = s.row k' := rfl

lemma serve_ttl (db : DatabaseId) (s : KvState) (key : String) :
    (serve db s (.ttl key)).1 = match s.cache ⟨db, key⟩ with
      | none => .ok (.ttl (ttlOf (s.row ⟨db, key⟩) s.clock))
      | some v =>
        if isExpired v.expiresAt s.clock then .ok (.ttl (ttlOf (s.row ⟨db, key⟩) s.clock))
        else .ok (.ttl (ttlOrRemaining v.expiresAt s.clock)) := by
  unfold serve fastPath
  cases h : s.cache ⟨db, key⟩ with
  | none => simp [evalFast_cacheGet, h, Closure.prog, evalM_ttl]
  | some v =>
    by_cases he : isExpired v.expiresAt s.clock
    · simp [evalFast_cacheGet, h, he, Closure.prog, evalM_ttl, row_setEntry]
      rfl
    · simp [evalFast_cacheGet, h, he]

/-- The cache path and the SQLite path answer as `ttlOf` says exactly when the cache does not hold
the key without an expiry. -/
theorem serve_ttl_eq_sqlite_iff (db : DatabaseId) (s : KvState) (key : String)
    (hagree : s.CacheAgrees) :
    (evalM db s (Closure.ttl key).prog).1 = .ok (.ttl (ttlOf (s.row ⟨db, key⟩) s.clock)) ∧
    ((serve db s (.ttl key)).1 = (evalM db s (Closure.ttl key).prog).1 ↔
      ¬ ∃ v, s.cache ⟨db, key⟩ = some v ∧ v.expiresAt = none) := by
  have hslow : (evalM db s (Closure.ttl key).prog).1 =
      .ok (.ttl (ttlOf (s.row ⟨db, key⟩) s.clock)) := by
    simp [Closure.prog, evalM_ttl]
  refine ⟨hslow, ?_⟩
  rw [hslow, serve_ttl]
  cases h : s.cache ⟨db, key⟩ with
  | none => simp
  | some v =>
    obtain ⟨row, hrow, _, hexp⟩ := hagree _ _ h
    obtain ⟨value, _ | e⟩ := v
    · simp [hrow, ttlOf, hexp, ttlOrRemaining]
    · by_cases he : e ≤ s.clock
      · simp [he]
      · have hpos : max (e - s.clock) 0 = e - s.clock := by omega
        simp [he, hrow, ttlOf, hexp, ttlOrRemaining, hpos]

/-- One Cell that holds the key `k`, in the table and in the cache, at time 100. -/
def oneKey (expiresAt : Option Int) : KvState where
  tables := fun _ => (∅ : KvTable).insert "k" ⟨"v", expiresAt, 1⟩
  cache := fun k => if k = ⟨⟨0⟩, "k"⟩ then some ⟨"v", expiresAt⟩ else none
  clock := 100

lemma oneKey_cacheAgrees (expiresAt : Option Int) : (oneKey expiresAt).CacheAgrees := by
  intro k v hv
  by_cases hk : k = ⟨⟨0⟩, "k"⟩
  · subst hk
    obtain rfl : (⟨"v", expiresAt⟩ : CachedValue) = v := by simpa [oneKey] using hv
    exact ⟨⟨"v", expiresAt, 1⟩, by simp [KvState.row, oneKey], rfl, rfl⟩
  · simp [oneKey, hk] at hv

/-- A cached key with 60 seconds left is answered alike by both paths. -/
theorem serve_ttl_expiring_key :
    (oneKey (some 160)).CacheAgrees ∧
    (serve ⟨0⟩ (oneKey (some 160)) (.ttl "k")).1 =
      (evalM ⟨0⟩ (oneKey (some 160)) (Closure.ttl "k").prog).1 :=
  ⟨oneKey_cacheAgrees _,
    (serve_ttl_eq_sqlite_iff ⟨0⟩ (oneKey (some 160)) "k" (oneKey_cacheAgrees _)).2.mpr
      (by simp [oneKey])⟩

/-- A cached persistent key: the cache path says "no such key", SQLite says `-1`. -/
theorem serve_ttl_persistent_key :
    (oneKey none).CacheAgrees ∧
    (serve ⟨0⟩ (oneKey none) (.ttl "k")).1 = .ok (.ttl none) ∧
    (evalM ⟨0⟩ (oneKey none) (Closure.ttl "k").prog).1 = .ok (.ttl (some (-1))) :=
  ⟨oneKey_cacheAgrees _, rfl, rfl⟩

end Combee.Kv
