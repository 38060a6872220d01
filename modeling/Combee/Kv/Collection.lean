import Mathlib.Data.Finset.Sort
import Mathlib.Data.String.Basic
import Combee.Kv.Coherence
import Combee.Kv.Liveness
import Combee.Kv.TtlPath

/-!
# Collection — the TTL garbage collection cannot be observed

The garbage collection deletes rows that have expired, a limited number at a time. The functions of
`kv.rs` that go by liveness (GET, MGET, EXISTS, TTL, EXPIRE, INCR, plain SET and SCAN) cannot tell
whether it has run: two Cells with the same live keys answer alike and keep the same live keys
(`SameLive`), and neither a collection nor the passing of time separates them.

SET NX, SET XX and DEL are not among these functions; see `Conditional`.
-/

namespace Combee.Kv

open Foundation KvM

/-! ## The remaining functions of `kv.rs` -/

def get (key : String) : KvM (Option KvEntry) := do
  let now ← unixNow
  match ← readWithExpiry key with
  | some (value, expiresAt) => pure (some ⟨value, ttlOrRemaining expiresAt now⟩)
  | none => pure none

def mget : List String → KvM (List (Option String))
  | [] => pure []
  | key :: keys => do
      let entry ← get key
      let rest ← mget keys
      pure (entry.map (·.value) :: rest)

/-- SQLite's `LIKE`: `%` stands for any text, `_` for any character, letters match in either
case. -/
def like : List Char → List Char → Bool
  | [], text => text.isEmpty
  | '%' :: pattern, text => text.tails.any (like pattern)
  | '_' :: pattern, text =>
    match text with
    | _ :: text => like pattern text
    | [] => false
  | c :: pattern, text =>
    match text with
    | d :: text => c.toLower == d.toLower && like pattern text
    | [] => false

/-- A text as the pattern matcher of SQLite reads it: a NUL ends it. -/
def upToNul (text : List Char) : List Char :=
  text.takeWhile (· != '\x00')

/-- A character as SQLite decodes it: the two noncharacters become the replacement character. -/
def utf8Read (c : Char) : Char :=
  if c = '\uFFFE' ∨ c = '\uFFFF' then '\uFFFD' else c

/-- `key LIKE pre || '%'`. -/
def likePrefix (pre key : String) : Bool :=
  like ((upToNul (pre.toList ++ ['%'])).map utf8Read) ((upToNul key.toList).map utf8Read)

structure ScanPage where
  keys : List String
  nextCursor : String
  deriving DecidableEq, Repr

/-- The rows that SCAN selects, in the order of their keys. -/
def scanRows (t : KvTable) (now : Int) (pre cursor : String) : List String :=
  (t.keys.filter fun key => !expiredAt t now key && likePrefix pre key &&
    (cursor.isEmpty || decide (cursor < key))).sort (· ≤ ·)

/-- One row more than the limit is asked for, and tells whether there is a next page. -/
def pageOfRows (limit : UInt32) (selected : List String) : ScanPage :=
  let limit := max 1 (min limit.toNat 1000)
  let rows := selected.take (limit + 1)
  let keys := rows.take limit
  ⟨keys, if limit < rows.length then keys.getLast?.getD "" else ""⟩

/-- SQLite's limit on the bytes of a `LIKE` pattern. -/
def maxPatternBytes : Nat := 50000

/-- SCAN: one page of keys, and the cursor of the next page if there is one. -/
def scan (t : KvTable) (now : Int) (pre : String) (limit : UInt32) (cursor : String) :
    Result ScanPage :=
  -- a pattern that is too long is noticed where it is applied: at a row that has not expired
  if maxPatternBytes < pre.utf8ByteSize + 1 ∧ ∃ key ∈ t.keys, expiredAt t now key = false then
    .error (.sql "LIKE or GLOB pattern too complex")
  else .ok (pageOfRows limit (scanRows t now pre cursor))

/-- The expired rows that `gc_expired` selects, up to the limit; a negative limit is none. -/
def gcRows (t : KvTable) (now : Int) (limit : Int) (picked : List String) : List String :=
  let expired := picked.filter (expiredAt t now)
  if limit < 0 then expired else expired.take limit.toNat

/-- `gc_expired`: the selected rows are deleted. -/
def collect (t : KvTable) (now : Int) (limit : Int) (picked : List String) : KvTable :=
  (gcRows t now limit picked).foldl (fun t key => t.erase key) t

variable {key : String}

lemma exists_of_expiredAt {t : KvTable} {now : Int}
    (h : expiredAt t now key = true) :
    ∃ row, t.lookup key = some row ∧ isExpired row.expiresAt now = true := by
  unfold expiredAt at h
  cases hrow : t.lookup key with
  | none => simp [hrow] at h
  | some row => exact ⟨row, rfl, by simpa [hrow] using h⟩

lemma expiredAt_of_mem_gcRows {t : KvTable} {now limit : Int} {picked : List String}
    (h : key ∈ gcRows t now limit picked) : expiredAt t now key = true := by
  unfold gcRows at h
  split at h
  · exact (List.mem_filter.mp h).2
  · exact (List.mem_filter.mp (List.mem_of_mem_take h)).2

/-! ## Runs of calls on one Cell -/

inductive KvCall where
  | get (key : String)
  | mget (keys : List String)
  | exists (key : String)
  | ttl (key : String)
  | expire (key : String) (ttlSeconds : Option UInt64)
  | incr (key : String) (delta : Int) (ttlSeconds : Option UInt64)
  | set (key value : String) (ttlSeconds : Option UInt64)
  | scan (pre : String) (limit : UInt32) (cursor : String)
  deriving DecidableEq, Repr

inductive KvOut where
  | reply (r : Result KvReply)
  | page (p : Result ScanPage)

def KvCall.run (db : DatabaseId) (s : KvState) : KvCall → KvOut × KvState
  | get key => (evalM db s (KvReply.entry <$> Kv.get key)).map .reply id
  | mget keys => (evalM db s (KvReply.values <$> Kv.mget keys)).map .reply id
  | .exists key => (evalM db s (KvReply.flag <$> Kv.exists key)).map .reply id
  | ttl key => (evalM db s (KvReply.ttl <$> Kv.ttl key)).map .reply id
  | expire key ttlSeconds => (evalM db s (KvReply.flag <$> Kv.expire key ttlSeconds)).map .reply id
  | incr key delta ttlSeconds =>
    (evalM db s (KvReply.int <$> Kv.incr key delta ttlSeconds)).map .reply id
  | set key value ttlSeconds =>
    (evalM db s (KvReply.flag <$> Kv.set key value ttlSeconds false false)).map .reply id
  | scan pre limit cursor => (.page (Kv.scan (s.tables db) s.clock pre limit cursor), s)

/-- What happens to a Cell: a call, a round of the garbage collection, or time passes. -/
inductive CellEvent where
  | call (c : KvCall)
  | gc (limit : Int) (picked : List String)
  | tick (elapsed : Nat)
  deriving DecidableEq, Repr

def CellEvent.isGc : CellEvent → Bool
  | gc _ _ => true
  | _ => false

def runEvents (db : DatabaseId) : KvState → List CellEvent → List KvOut × KvState
  | s, [] => ([], s)
  | s, .call c :: es =>
    ((c.run db s).1 :: (runEvents db (c.run db s).2 es).1, (runEvents db (c.run db s).2 es).2)
  | s, .gc limit picked :: es =>
    runEvents db (s.setTable db (collect (s.tables db) s.clock limit picked)) es
  | s, .tick elapsed :: es => runEvents db (s.tick elapsed) es

/-! ## Cells with the same live keys -/

/-- The same keys are live in the Cell, with the same values and expiries. -/
structure SameLive (db : DatabaseId) (s s' : KvState) : Prop where
  clock : s'.clock = s.clock
  live : ∀ key, s'.liveValue ⟨db, key⟩ = s.liveValue ⟨db, key⟩

namespace SameLive

variable {db : DatabaseId} {s s' s'' : KvState} {key : String}

lemma refl (s : KvState) : SameLive db s s :=
  ⟨rfl, fun _ => rfl⟩

lemma symm (h : SameLive db s s') : SameLive db s' s :=
  ⟨h.clock.symm, fun key => (h.live key).symm⟩

lemma trans (h : SameLive db s s') (h' : SameLive db s' s'') : SameLive db s s'' :=
  ⟨h'.clock.trans h.clock, fun key => (h'.live key).trans (h.live key)⟩

lemma purge (s : KvState) (k : CacheKey) : SameLive db s (s.purge k) :=
  ⟨KvState.clock_purge, fun _ => KvState.liveValue_purge _⟩

end SameLive

/-! ## What one step does to the live keys -/

namespace KvState

variable {db : DatabaseId} {s : KvState}

/-- A row is live with the value and expiry it was given, unless that expiry has passed. -/
def settle (v : CachedValue) (now : Int) : Option CachedValue :=
  if isExpired v.expiresAt now then none else some v

lemma liveValue_setTable_exec {st : Stmt} {row : KvRow}
    (hrow : (st.exec (s.tables db)).2.lookup st.key = some row) (key : String) :
    (s.setTable db (st.exec (s.tables db)).2).liveValue ⟨db, key⟩ =
      if key = st.key then settle ⟨row.value, row.expiresAt⟩ s.clock
      else s.liveValue ⟨db, key⟩ := by
  by_cases hkey : key = st.key
  · subst hkey
    simp only [liveValue, row_setTable, hrow, if_true, settle]
    rfl
  · have hne : (⟨db, key⟩ : CacheKey) ≠ ⟨db, st.key⟩ := fun h => hkey (CacheKey.mk.inj h).2
    simp only [liveValue, row_setTable_of_ne hne, hkey, if_false]
    rfl

lemma liveValue_upsert (key value : String) (expiresAt : Option Int) (key' : String) :
    (s.setTable db ((Stmt.upsert key value expiresAt).exec (s.tables db)).2).liveValue ⟨db, key'⟩ =
      if key' = key then settle ⟨value, expiresAt⟩ s.clock else s.liveValue ⟨db, key'⟩ := by
  obtain ⟨version, hrow⟩ := lookup_exec_set (t := s.tables db) (.inl rfl)
    (upsert_exec_pos key value expiresAt (s.tables db))
  exact liveValue_setTable_exec hrow key'

lemma liveValue_setExpiresAt {key : String} {v : CachedValue}
    (h : s.liveValue ⟨db, key⟩ = some v) (expiresAt : Option Int) (key' : String) :
    (s.setTable db ((Stmt.setExpiresAt key expiresAt).exec (s.tables db)).2).liveValue ⟨db, key'⟩ =
      if key' = key then settle ⟨v.value, expiresAt⟩ s.clock else s.liveValue ⟨db, key'⟩ := by
  obtain ⟨row, hlookup, _, rfl⟩ := liveValue_eq_some.mp h
  have hrow : ((Stmt.setExpiresAt key expiresAt).exec (s.tables db)).2.lookup
      (Stmt.setExpiresAt key expiresAt).key =
        some { row with expiresAt, version := row.version + 1 } := by
    have hlookup : (s.tables db).lookup key = some row := hlookup
    simp [Stmt.exec, Stmt.key, hlookup]
  exact liveValue_setTable_exec hrow key'

lemma liveValue_tick (elapsed : Nat) (k : CacheKey) :
    (s.tick elapsed).liveValue k =
      (s.liveValue k).bind fun v => settle v (s.clock + elapsed) := by
  have hrow : (s.tick elapsed).row k = s.row k := rfl
  have hle : s.clock ≤ s.clock + elapsed := by omega
  unfold liveValue
  rw [hrow]
  cases s.row k with
  | none => rfl
  | some row =>
    by_cases he : isExpired row.expiresAt s.clock = true
    · simp [he, isExpired_mono hle he, tick]
    · simp only [he, Bool.false_eq_true, if_false, Option.bind_some]
      rfl

end KvState

/-! ## The functions that cannot tell -/

/-- A function answers alike in two Cells with the same live keys, and leaves the same live keys in
both. -/
def Blind {α : Type} (db : DatabaseId) (p : KvM α) : Prop :=
  ∀ s s', SameLive db s s' →
    (evalM db s' p).1 = (evalM db s p).1 ∧ SameLive db (evalM db s p).2 (evalM db s' p).2

section Blind

variable {α β : Type} {db : DatabaseId} {key : String}

lemma blind_pure (a : α) : Blind db (pure a : KvM α) :=
  fun _ _ h => ⟨rfl, h⟩

lemma blind_bind {p : KvM α} {f : α → KvM β} (hp : Blind db p) (hf : ∀ a, Blind db (f a)) :
    Blind db (p >>= f) := by
  intro s s' h
  have hp := hp s s' h
  simp only [evalM_bind]
  revert hp
  obtain ⟨r, t⟩ := evalM db s p
  obtain ⟨r', t'⟩ := evalM db s' p
  rintro ⟨hres, hlive⟩
  obtain rfl : r' = r := hres
  cases r' with
  | ok a => exact hf a t t' hlive
  | error e => exact ⟨rfl, hlive⟩

lemma blind_map {f : α → β} {p : KvM α} (hp : Blind db p) : Blind db (f <$> p) :=
  blind_bind hp fun a => blind_pure (f a)

lemma blind_unixNow : Blind db unixNow := by
  intro s s' h
  simp only [evalM_unixNow, h.clock]
  exact ⟨trivial, h⟩

lemma blind_readWithExpiry : Blind db (readWithExpiry key) := by
  intro s s' h
  simp only [evalM_readWithExpiry, h.live]
  exact ⟨trivial, ((SameLive.purge s _).symm.trans h).trans (SameLive.purge s' _)⟩

lemma blind_get : Blind db (get key) := by
  refine blind_bind blind_unixNow fun now => blind_bind blind_readWithExpiry fun found => ?_
  cases found with
  | none => exact blind_pure none
  | some entry => exact blind_pure _

lemma blind_mget (keys : List String) : Blind db (mget keys) := by
  induction keys with
  | nil => exact blind_pure []
  | cons key keys ih => exact blind_bind blind_get fun _ => blind_bind ih fun _ => blind_pure _

lemma blind_exists : Blind db (Kv.exists key) := by
  intro s s' h
  simp only [evalM_exists, h.live]
  exact ⟨trivial, h⟩

lemma ttlOf_row (s : KvState) (k : CacheKey) :
    ttlOf (s.row k) s.clock = (s.liveValue k).map fun v => match v.expiresAt with
      | none => -1
      | some e => e - s.clock := by
  unfold ttlOf KvState.liveValue
  cases s.row k with
  | none => rfl
  | some row =>
    by_cases he : isExpired row.expiresAt s.clock = true
    · simp [he]
    · simp only [he, Bool.false_eq_true, if_false, Option.map_some]
      cases row.expiresAt <;> rfl

lemma blind_ttl : Blind db (ttl key) := by
  intro s s' h
  have hrow := ttlOf_row s' ⟨db, key⟩
  rw [h.live, h.clock, ← ttlOf_row] at hrow
  simp only [evalM_ttl, h.clock, hrow]
  exact ⟨trivial, h⟩

lemma blind_expire (ttlSeconds : Option UInt64) : Blind db (expire key ttlSeconds) := by
  intro s s' h
  simp only [evalM_expire, h.live, h.clock]
  cases hlive : s.liveValue ⟨db, key⟩ with
  | none => exact ⟨rfl, h⟩
  | some v =>
    refine ⟨rfl, h.clock, fun key' => ?_⟩
    rw [KvState.liveValue_setExpiresAt hlive,
      KvState.liveValue_setExpiresAt ((h.live key).trans hlive), h.live, h.clock]

lemma SameLive.upsert {s s' : KvState} (h : SameLive db s s') (value : String)
    (expiresAt : Option Int) :
    SameLive db (s.setTable db ((Stmt.upsert key value expiresAt).exec (s.tables db)).2)
      (s'.setTable db ((Stmt.upsert key value expiresAt).exec (s'.tables db)).2) := by
  refine ⟨h.clock, fun key' => ?_⟩
  rw [KvState.liveValue_upsert, KvState.liveValue_upsert, h.live, h.clock]

lemma blind_set (value : String) (ttlSeconds : Option UInt64) :
    Blind db (set key value ttlSeconds false false) := by
  intro s s' h
  by_cases hkey : key.isEmpty = true
  · simp [set, hkey, h]
  · have hkey : key.isEmpty = false := by simpa using hkey
    simp only [evalM_set _ _ _ _ hkey, h.clock]
    exact ⟨rfl, h.upsert value _⟩

lemma blind_incr (delta : Int) (ttlSeconds : Option UInt64) :
    Blind db (incr key delta ttlSeconds) := by
  intro s s' h
  by_cases hkey : key.isEmpty = true
  · simp [incr, hkey, h]
  · have hkey : key.isEmpty = false := by simpa using hkey
    have hpurge : SameLive db (s.purge ⟨db, key⟩) (s'.purge ⟨db, key⟩) :=
      ((SameLive.purge s _).symm.trans h).trans (SameLive.purge s' _)
    simp only [evalM_incr _ _ hkey, h.live, h.clock]
    cases incrLive (s.liveValue ⟨db, key⟩) delta ttlSeconds s.clock with
    | error e => exact ⟨rfl, hpurge⟩
    | ok new => exact ⟨rfl, hpurge.upsert _ _⟩

end Blind

lemma mem_keys_and_not_expiredAt {db : DatabaseId} {s : KvState} :
    (key ∈ (s.tables db).keys ∧ expiredAt (s.tables db) s.clock key = false) ↔
      (s.liveValue ⟨db, key⟩).isSome = true := by
  rw [Finmap.mem_keys, ← Finmap.lookup_isSome]
  unfold expiredAt KvState.liveValue KvState.row
  cases (s.tables db).lookup key with
  | none => simp
  | some row => by_cases he : isExpired row.expiresAt s.clock = true <;> simp [he]

lemma scan_sameLive {db : DatabaseId} {s s' : KvState} (h : SameLive db s s') (pre : String)
    (limit : UInt32) (cursor : String) :
    scan (s'.tables db) s'.clock pre limit cursor =
      scan (s.tables db) s.clock pre limit cursor := by
  have hlive : ∀ key,
      (key ∈ (s'.tables db).keys ∧ expiredAt (s'.tables db) s'.clock key = false) ↔
        key ∈ (s.tables db).keys ∧ expiredAt (s.tables db) s.clock key = false := by
    intro key
    rw [mem_keys_and_not_expiredAt, mem_keys_and_not_expiredAt, h.live]
  have hrows : scanRows (s'.tables db) s'.clock pre cursor =
      scanRows (s.tables db) s.clock pre cursor := by
    unfold scanRows
    congr 1
    ext key
    simp only [Finset.mem_filter, Bool.and_eq_true, Bool.not_eq_true', ← and_assoc, hlive]
  simp only [scan, hrows, hlive]

/-! ## Whole runs -/

variable {db : DatabaseId} {s s' : KvState}

lemma KvCall.run_sameLive (h : SameLive db s s') (c : KvCall) :
    (c.run db s').1 = (c.run db s).1 ∧ SameLive db (c.run db s).2 (c.run db s').2 := by
  have hblind {α : Type} {p : KvM α} (f : α → KvReply) (hp : Blind db p) :
      ((evalM db s' (f <$> p)).map KvOut.reply id).1 =
        ((evalM db s (f <$> p)).map KvOut.reply id).1 ∧
      SameLive db ((evalM db s (f <$> p)).map KvOut.reply id).2
        ((evalM db s' (f <$> p)).map KvOut.reply id).2 := by
    obtain ⟨hres, hlive⟩ := blind_map (f := f) hp s s' h
    exact ⟨congrArg KvOut.reply hres, hlive⟩
  cases c with
  | get key => exact hblind _ blind_get
  | mget keys => exact hblind _ (blind_mget keys)
  | «exists» key => exact hblind _ blind_exists
  | ttl key => exact hblind _ blind_ttl
  | expire key ttlSeconds => exact hblind _ (blind_expire ttlSeconds)
  | incr key delta ttlSeconds => exact hblind _ (blind_incr delta ttlSeconds)
  | set key value ttlSeconds => exact hblind _ (blind_set value ttlSeconds)
  | scan pre limit cursor => exact ⟨congrArg KvOut.page (scan_sameLive h pre limit cursor), h⟩

lemma SameLive.tick (h : SameLive db s s') (elapsed : Nat) :
    SameLive db (s.tick elapsed) (s'.tick elapsed) := by
  refine ⟨by simp [KvState.tick, h.clock], fun key => ?_⟩
  rw [KvState.liveValue_tick, KvState.liveValue_tick, h.live, h.clock]

lemma SameLive.collect (s : KvState) (limit : Int) (picked : List String) :
    SameLive db s (s.setTable db (collect (s.tables db) s.clock limit picked)) := by
  refine ⟨rfl, fun key => ?_⟩
  unfold KvState.liveValue
  rw [KvState.row_setTable, Kv.collect, lookup_foldl_erase]
  by_cases hmem : key ∈ gcRows (s.tables db) s.clock limit picked
  · obtain ⟨row, hrow, hdead⟩ := exists_of_expiredAt (expiredAt_of_mem_gcRows hmem)
    have hrow : s.row ⟨db, key⟩ = some row := hrow
    simp only [hmem, if_true, hrow, hdead]
  · simp only [hmem, if_false]
    rfl

/-- A run with garbage collections and the run of the same calls without them, from the same live
keys. -/
lemma runEvents_sameLive (h : SameLive db s s') (es : List CellEvent) :
    (runEvents db s' es).1 = (runEvents db s (es.filter fun e => !e.isGc)).1 ∧
      SameLive db (runEvents db s (es.filter fun e => !e.isGc)).2 (runEvents db s' es).2 := by
  induction es generalizing s s' with
  | nil => exact ⟨rfl, h⟩
  | cons e es ih =>
    cases e with
    | call c =>
      obtain ⟨hres, hlive⟩ := c.run_sameLive h
      obtain ⟨hrest, hend⟩ := ih hlive
      exact ⟨congrArg₂ List.cons hres hrest, hend⟩
    | gc limit picked => exact ih (h.trans (SameLive.collect s' limit picked))
    | tick elapsed => exact ih (h.tick elapsed)

/-- The garbage collection cannot be observed: with and without it the calls give the same answers
and leave the same live keys. -/
theorem gc_unobservable (db : DatabaseId) (s : KvState) (es : List CellEvent) :
    (runEvents db s es).1 = (runEvents db s (es.filter fun e => !e.isGc)).1 ∧
      ∀ key, (runEvents db s es).2.liveValue ⟨db, key⟩ =
        (runEvents db s (es.filter fun e => !e.isGc)).2.liveValue ⟨db, key⟩ := by
  obtain ⟨hres, hlive⟩ := runEvents_sameLive (SameLive.refl s) es
  exact ⟨hres, hlive.live⟩

end Combee.Kv
