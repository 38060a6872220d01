import Combee.Kv.Coherence
import Combee.Kv.Liveness

/-!
# Readers — the cache is invisible to GET, EXISTS and MGET

The reading commands answer from the cache where it holds an unexpired entry and from SQLite
otherwise. Run alone at one time, with a cache whose unexpired entries agree with their rows, they
answer with what is live in the table, whatever the cache holds, and leave such a cache behind.

MGET is the one with a loop: the scan of the cache leaves the positions it missed, and the loop on
the connection fills exactly those (`FilledBut`).
-/

namespace Combee.Kv

open Foundation

/-! ## What a reading command is meant to answer -/

def liveValues (db : DatabaseId) (s : KvState) (keys : List String) : List (Option String) :=
  keys.map fun key => (s.liveValue ⟨db, key⟩).map (·.value)

/-- The answer by what is live in the table; only the three commands that read values have one. -/
def readReply (db : DatabaseId) (s : KvState) : KvRequest → Option KvReply
  | .get key => some (.entry ((s.liveValue ⟨db, key⟩).map fun v =>
    ⟨v.value, ttlOrRemaining v.expiresAt s.clock⟩))
  | .exists key => some (.flag (s.liveValue ⟨db, key⟩).isSome)
  | .mget keys => some (.values (liveValues db s keys))
  | _ => none

/-- What a read may do to the node: nothing that is live changes, and the cache stays coherent. -/
structure Unseen (s s' : KvState) : Prop where
  clock : s'.clock = s.clock
  live : ∀ k, s'.liveValue k = s.liveValue k
  coherent : CoherentExcept none s'

namespace Unseen

variable {s s' s'' : KvState}

lemma refl (h : CoherentExcept none s) : Unseen s s :=
  ⟨rfl, fun _ => rfl, h⟩

lemma trans (h : Unseen s s') (h' : Unseen s' s'') : Unseen s s'' :=
  ⟨h'.clock.trans h.clock, fun k => (h'.live k).trans (h.live k), h'.coherent⟩

section

variable (h : CoherentExcept none s)
include h

lemma drop (k : CacheKey) : Unseen s (s.setEntry k none) :=
  ⟨rfl, fun _ => rfl, h.fades (Fades.drop s k)⟩

lemma purge (k : CacheKey) : Unseen s (s.purge k) := by
  refine ⟨KvState.clock_purge, KvState.liveValue_purge, fun k' v hv he hx => ?_⟩
  rw [KvState.cache_purge] at hv
  rw [KvState.clock_purge] at he
  obtain ⟨row, hrow, hval, hexp⟩ := h k' v hv he hx
  have hlive : s.liveValue k' = some ⟨row.value, row.expiresAt⟩ :=
    KvState.liveValue_eq_some.mpr ⟨row, hrow, by rw [hexp]; exact he, rfl⟩
  rw [← KvState.liveValue_purge (k := k)] at hlive
  obtain ⟨row', hrow', _, heq⟩ := KvState.liveValue_eq_some.mp hlive
  obtain ⟨hval', hexp'⟩ : row.value = row'.value ∧ row.expiresAt = row'.expiresAt := by
    simpa using heq
  exact ⟨row', hrow', hval'.symm.trans hval, hexp'.symm.trans hexp⟩

lemma fill {k : CacheKey} {v : CachedValue}
    (hlive : s.liveValue k = some v) : Unseen s (s.setEntry k (some v)) := by
  obtain ⟨row, hrow, _, rfl⟩ := KvState.liveValue_eq_some.mp hlive
  refine ⟨rfl, fun _ => rfl, h.weaken.setEntry ?_⟩
  rintro _ ⟨⟩
  exact ⟨row, hrow, rfl, rfl⟩

end

end Unseen

section Readers

variable {db : DatabaseId} {s : KvState} {key : String}

lemma evalFast_cacheGet_coherent (db : DatabaseId) (key : String) (h : CoherentExcept none s) :
    Unseen s (evalFast db s (cacheGet key s.clock)).2 ∧
    ∀ entry, (evalFast db s (cacheGet key s.clock)).1 = some entry →
      ∃ v, s.liveValue ⟨db, key⟩ = some v ∧
        entry = ⟨v.value, ttlOrRemaining v.expiresAt s.clock⟩ := by
  rw [evalFast_cacheGet]
  cases hc : s.cache ⟨db, key⟩ with
  | none => exact ⟨.refl h, by simp⟩
  | some v =>
    by_cases he : isExpired v.expiresAt s.clock = true
    · simp only [he, if_true]
      exact ⟨.drop h _, by simp⟩
    · simp only [he]
      refine ⟨.refl h, fun entry hentry => ⟨v, ?_, by simpa using hentry.symm⟩⟩
      obtain ⟨row, hrow, hval, hexp⟩ := h _ v hc (by simpa using he) (by simp)
      exact KvState.liveValue_eq_some.mpr
        ⟨row, hrow, by rw [hexp]; simpa using he, by rw [hval, hexp]⟩

/-! ## GET and EXISTS -/

lemma evalM_getEntry (db : DatabaseId) (key : String) (h : CoherentExcept none s) :
    Unseen s (evalM db s (Closure.getEntry key)).2 ∧
    (evalM db s (Closure.getEntry key)).1 = .ok ((s.liveValue ⟨db, key⟩).map fun v =>
      ⟨v.value, ttlOrRemaining v.expiresAt s.clock⟩) := by
  have hpurge := Unseen.purge h ⟨db, key⟩
  unfold Closure.getEntry
  cases hlive : s.liveValue ⟨db, key⟩ with
  | none => simpa [evalM_readWithExpiry, hlive] using hpurge
  | some v =>
    simp only [evalM_bind, evalM_unixNow, evalM_readWithExpiry, hlive, Option.map_some,
      evalM_put, evalM_pure]
    exact ⟨hpurge.trans (.fill hpurge.coherent (by rw [hpurge.live, hlive])), trivial⟩

lemma serve_get (h : CoherentExcept none s) :
    Unseen s (serve db s (.get key)).2 ∧
    (serve db s (.get key)).1 = .ok (.entry ((s.liveValue ⟨db, key⟩).map fun v =>
      ⟨v.value, ttlOrRemaining v.expiresAt s.clock⟩)) := by
  obtain ⟨hfast, hhit⟩ := evalFast_cacheGet_coherent db key h
  unfold serve fastPath
  simp only [evalFast_bind, evalFast_unixNow]
  cases hr : (evalFast db s (cacheGet key s.clock)).1 with
  | some entry =>
    obtain ⟨v, hlive, rfl⟩ := hhit entry hr
    simpa [hlive] using hfast
  | none =>
    obtain ⟨hclosure, hreply⟩ := evalM_getEntry db key hfast.coherent
    simp only [Prog.pure_eq_ret, evalFast_ret, Closure.prog, evalM_map]
    rw [hfast.live, hfast.clock] at hreply
    rcases hm : evalM db _ (Closure.getEntry key) with ⟨res, s'⟩
    rw [hm] at hclosure hreply
    obtain rfl : res = _ := hreply
    exact ⟨hfast.trans hclosure, rfl⟩

lemma serve_exists (h : CoherentExcept none s) :
    Unseen s (serve db s (.exists key)).2 ∧
    (serve db s (.exists key)).1 = .ok (.flag (s.liveValue ⟨db, key⟩).isSome) := by
  obtain ⟨hfast, hhit⟩ := evalFast_cacheGet_coherent db key h
  unfold serve fastPath
  simp only [evalFast_bind, evalFast_unixNow]
  cases hr : (evalFast db s (cacheGet key s.clock)).1 with
  | some entry =>
    obtain ⟨v, hlive, _⟩ := hhit entry hr
    simpa [hlive] using hfast
  | none =>
    simp only [Prog.pure_eq_ret, evalFast_ret, Closure.prog, evalM_map, evalM_exists, hfast.live]
    exact ⟨hfast, trivial⟩

/-! ## MGET -/

/-- `out` is the wanted list, up to the positions still to be read (counted from `i`), which are
empty. -/
structure FilledBut (want : List (Option String)) (i : Nat) (miss : List Nat)
    (out : List (Option String)) : Prop where
  length : out.length = want.length
  filled : ∀ j, j < want.length → out[j]? = want[j]? ∨ (out[j]? = some none ∧ i + j ∈ miss)

variable {want out : List (Option String)}

lemma FilledBut.eq_of_nil {i : Nat} (h : FilledBut want i [] out) : out = want := by
  refine List.ext_getElem? fun j => ?_
  by_cases hj : j < want.length
  · simpa using h.filled j hj
  · rw [List.getElem?_eq_none (by rw [h.length]; omega), List.getElem?_eq_none (by omega)]

lemma FilledBut.read {want out out' : List (Option String)} {m : Nat} {miss : List Nat}
    (h : FilledBut want 0 (m :: miss) out) (hlen : out'.length = out.length)
    (hread : m < want.length → out'[m]? = want[m]?) (hrest : ∀ j, j ≠ m → out'[j]? = out[j]?) :
    FilledBut want 0 miss out' := by
  refine ⟨hlen.trans h.length, fun j hj => ?_⟩
  by_cases hjm : j = m
  · subst hjm
    exact .inl (hread hj)
  · rw [hrest j hjm]
    rcases h.filled j hj with hj' | ⟨hnone, hmem⟩
    · exact .inl hj'
    · exact .inr ⟨hnone, by simpa [hjm] using hmem⟩

lemma FilledBut.hit {i : Nat} {miss : List Nat}
    (h : FilledBut want (i + 1) miss out) (x : Option String) :
    FilledBut (x :: want) i miss (x :: out) := by
  refine ⟨by simp [h.length], fun j hj => ?_⟩
  cases j with
  | zero => exact .inl rfl
  | succ j =>
    have hj' := h.filled j (by simpa using hj)
    rw [Nat.add_right_comm, Nat.add_assoc] at hj'
    simpa using hj'

lemma FilledBut.miss {i : Nat} {miss : List Nat}
    (h : FilledBut want (i + 1) miss out) (x : Option String) :
    FilledBut (x :: want) i (i :: miss) (none :: out) := by
  refine ⟨by simp [h.length], fun j hj => ?_⟩
  cases j with
  | zero => exact .inr ⟨rfl, by simp⟩
  | succ j =>
    have hj' := h.filled j (by simpa using hj)
    rw [Nat.add_right_comm, Nat.add_assoc] at hj'
    rcases hj' with hj' | ⟨hnone, hmem⟩
    · exact .inl (by simpa using hj')
    · exact .inr ⟨by simpa using hnone, List.mem_cons_of_mem _ hmem⟩

lemma Unseen.liveValues {s' : KvState} (h : Unseen s s') (keys : List String) :
    liveValues db s' keys = liveValues db s keys := by
  simp [Kv.liveValues, h.live]

lemma evalFast_mgetFast (db : DatabaseId) (h : CoherentExcept none s) (keys : List String)
    (i : Nat) :
    Unseen s (evalFast db s (mgetFast s.clock keys i)).2 ∧
    FilledBut (liveValues db s keys) i (evalFast db s (mgetFast s.clock keys i)).1.2
      (evalFast db s (mgetFast s.clock keys i)).1.1 := by
  induction keys generalizing s i with
  | nil => exact ⟨.refl h, rfl, by simp [liveValues]⟩
  | cons key keys ih =>
    obtain ⟨hfast, hhit⟩ := evalFast_cacheGet_coherent db key h
    obtain ⟨hrest, hfill⟩ := ih hfast.coherent (i + 1)
    rw [hfast.clock] at hrest hfill
    rw [hfast.liveValues] at hfill
    unfold mgetFast
    simp only [evalFast_bind]
    cases hr : (evalFast db s (cacheGet key s.clock)).1 with
    | some entry =>
      obtain ⟨v, hlive, rfl⟩ := hhit entry hr
      simp only [evalFast_bind, Prog.pure_eq_ret, evalFast_ret]
      refine ⟨hfast.trans hrest, ?_⟩
      simpa [liveValues, hlive] using hfill.hit (some v.value)
    | none =>
      simp only [evalFast_bind, Prog.pure_eq_ret, evalFast_ret]
      exact ⟨hfast.trans hrest, hfill.miss _⟩

lemma evalM_mgetLoop (h : CoherentExcept none s) (keys : List String) (miss : List Nat)
    (out : List (Option String)) (hout : FilledBut (liveValues db s keys) 0 miss out) :
    Unseen s (evalM db s (mgetLoop keys miss out)).2 ∧
    (evalM db s (mgetLoop keys miss out)).1 = .ok (liveValues db s keys) := by
  induction miss generalizing s out with
  | nil => exact ⟨.refl h, congrArg Except.ok hout.eq_of_nil⟩
  | cons m miss ih =>
    have hpurge := Unseen.purge h ⟨db, keys.getD m ""⟩
    have hwant : ∀ {k : String}, keys.getD m "" = k → m < (liveValues db s keys).length →
        (liveValues db s keys)[m]? = some ((s.liveValue ⟨db, k⟩).map (·.value)) := by
      rintro k rfl hm
      have hm' : m < keys.length := by simpa [liveValues] using hm
      simp [liveValues, hm']
    unfold mgetLoop
    simp only [evalM_bind, evalM_readWithExpiry]
    cases hlive : s.liveValue ⟨db, keys.getD m ""⟩ with
    | none =>
      -- the position stays empty, which is what is wanted there
      have hstill :
          FilledBut (liveValues db (s.purge ⟨db, keys.getD m ""⟩) keys) 0 miss out := by
        rw [hpurge.liveValues]
        refine hout.read rfl (fun hm => ?_) fun _ _ => rfl
        rcases hout.filled m hm with hm' | ⟨hnone, _⟩
        · exact hm'
        · rw [hnone, hwant rfl hm, hlive]
          rfl
      obtain ⟨hrest, hres⟩ := ih hpurge.coherent out hstill
      rw [hpurge.liveValues] at hres
      exact ⟨hpurge.trans hrest, hres⟩
    | some v =>
      have hfill := hpurge.trans (.fill hpurge.coherent (hpurge.live _ ▸ hlive))
      have hset : FilledBut (liveValues db
          ((s.purge ⟨db, keys.getD m ""⟩).setEntry ⟨db, keys.getD m ""⟩ (some v)) keys) 0 miss
          (out.set m (some v.value)) := by
        rw [hfill.liveValues]
        refine hout.read (by simp) (fun hm => ?_) fun j hj => ?_
        · rw [hwant rfl hm, hlive, List.getElem?_set_self (by rw [hout.length]; exact hm)]
          rfl
        · exact List.getElem?_set_ne (Ne.symm hj)
      obtain ⟨hrest, hres⟩ := ih hfill.coherent _ hset
      rw [hfill.liveValues] at hres
      simp only [Option.map_some, evalM_bind, evalM_put]
      exact ⟨hfill.trans hrest, hres⟩

lemma serve_mget (h : CoherentExcept none s) (keys : List String) :
    Unseen s (serve db s (.mget keys)).2 ∧
    (serve db s (.mget keys)).1 = .ok (.values (liveValues db s keys)) := by
  obtain ⟨hfast, hfill⟩ := evalFast_mgetFast db h keys 0
  unfold serve fastPath
  simp only [evalFast_bind, evalFast_unixNow]
  rcases hr : evalFast db s (mgetFast s.clock keys 0) with ⟨⟨out, miss⟩, s'⟩
  rw [hr] at hfast hfill
  cases miss with
  | nil =>
    simp only [List.isEmpty_nil, if_true, Prog.pure_eq_ret, evalFast_ret]
    exact ⟨hfast, congrArg (fun vs => Except.ok (KvReply.values vs)) hfill.eq_of_nil⟩
  | cons m miss =>
    simp only [List.isEmpty_cons, Bool.false_eq_true, if_false, Prog.pure_eq_ret, evalFast_ret,
      Closure.prog, evalM_map]
    rw [← hfast.liveValues] at hfill
    obtain ⟨hloop, hres⟩ := evalM_mgetLoop hfast.coherent keys (m :: miss) out hfill
    rw [hfast.liveValues] at hres
    rcases hm : evalM db s' (mgetLoop keys (m :: miss) out) with ⟨res, s''⟩
    rw [hm] at hloop hres
    obtain rfl : res = _ := hres
    exact ⟨hfast.trans hloop, rfl⟩

end Readers

/-! ## The cache is invisible -/

lemma serve_read {db : DatabaseId} {s : KvState} {r : KvRequest} {reply : KvReply}
    (h : CoherentExcept none s) (hr : readReply db s r = some reply) :
    Unseen s (serve db s r).2 ∧ (serve db s r).1 = .ok reply := by
  cases r with
  | get key =>
    cases hr
    exact serve_get h
  | «exists» key =>
    cases hr
    exact serve_exists h
  | mget keys =>
    cases hr
    exact serve_mget h keys
  | _ => cases hr

/-- GET, EXISTS and MGET answer with what is live in the table, whatever coherent cache there is. -/
theorem serve_read_cache_invisible (db : DatabaseId) (s : KvState)
    (c₁ c₂ : CacheKey → Option CachedValue) (r : KvRequest) (reply : KvReply)
    (h₁ : CoherentExcept none { s with cache := c₁ })
    (h₂ : CoherentExcept none { s with cache := c₂ }) (hr : readReply db s r = some reply) :
    (serve db { s with cache := c₁ } r).1 = .ok reply ∧
    (serve db { s with cache := c₂ } r).1 = .ok reply ∧
    CoherentExcept none (serve db { s with cache := c₁ } r).2 ∧
    CoherentExcept none (serve db { s with cache := c₂ } r).2 := by
  -- what is meant to be answered does not depend on the cache
  have hsame : ∀ c, readReply db { s with cache := c } r = some reply := fun _ => hr
  obtain ⟨hunseen₁, hreply₁⟩ := serve_read h₁ (hsame c₁)
  obtain ⟨hunseen₂, hreply₂⟩ := serve_read h₂ (hsame c₂)
  exact ⟨hreply₁, hreply₂, hunseen₁.coherent, hunseen₂.coherent⟩

/-- A Cell with a persistent key `a` and an expired key `b`, at time 100. -/
def oneLiveKey : KvState where
  tables := fun _ => ((∅ : KvTable).insert "a" ⟨"1", none, 1⟩).insert "b" ⟨"2", some 50, 1⟩
  cache := fun _ => none
  clock := 100

/-- The key `a` and a leftover of the key `b`. -/
def fullCache : CacheKey → Option CachedValue := fun k =>
  if k = ⟨⟨0⟩, "a"⟩ then some ⟨"1", none⟩
  else if k = ⟨⟨0⟩, "b"⟩ then some ⟨"2", some 50⟩ else none

lemma fullCache_coherent : CoherentExcept none { oneLiveKey with cache := fullCache } := by
  intro k v hv he _
  simp only [fullCache] at hv
  split at hv
  · subst k
    cases hv
    exact ⟨⟨"1", none, 1⟩, rfl, rfl, rfl⟩
  · split at hv
    · cases hv
      simp [oneLiveKey] at he
    · cases hv

/-- MGET of a repeated, an expired and a missing key, without a cache and with one. -/
theorem serve_read_cache_invisible_mget :
    readReply ⟨0⟩ oneLiveKey (.mget ["a", "b", "a", "c"]) =
      some (.values [some "1", none, some "1", none]) ∧
    (serve ⟨0⟩ oneLiveKey (.mget ["a", "b", "a", "c"])).1 =
      .ok (.values [some "1", none, some "1", none]) ∧
    (serve ⟨0⟩ { oneLiveKey with cache := fullCache } (.mget ["a", "b", "a", "c"])).1 =
      .ok (.values [some "1", none, some "1", none]) := by
  have hempty : CoherentExcept none { oneLiveKey with cache := fun _ => none } := by
    intro k v hv
    cases hv
  have h := serve_read_cache_invisible ⟨0⟩ oneLiveKey (fun _ => none) fullCache
    (.mget ["a", "b", "a", "c"]) _ hempty fullCache_coherent rfl
  exact ⟨rfl, h.1, h.2.1⟩

end Combee.Kv
