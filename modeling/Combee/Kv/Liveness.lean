import Combee.Kv.Serving

/-!
# Liveness — the functions of `kv.rs` by what is live in the table

A row whose expiry has passed stays in the table until a read deletes it or the garbage collection
takes it. Every function of `kv.rs` is described here by what is live in the table at the current
time, where the function can be described that way: reads, EXISTS, TTL, EXPIRE, INCR and plain SET.

* `liveValue` — the value and expiry of a key, if its row is there and not expired;
* `purge` — the lazy deletion of one key;
* `evalM_*` — one equation for each function, run alone at one time.
-/

namespace Combee.Kv

open Foundation
open KvState

/-! ## What is live -/

namespace KvState

/-- The value and the expiry of a key, if its row is there and not expired. -/
def liveValue (s : KvState) (k : CacheKey) : Option CachedValue :=
  match s.row k with
  | some row => if isExpired row.expiresAt s.clock then none else some ⟨row.value, row.expiresAt⟩
  | none => none

def purge (s : KvState) (k : CacheKey) : KvState :=
  match s.row k with
  | some row =>
    if isExpired row.expiresAt s.clock then
      s.setTable k.databaseId ((s.tables k.databaseId).erase k.key)
    else s
  | none => s

variable {s : KvState} {k : CacheKey} {v : CachedValue}

lemma liveValue_eq_some :
    s.liveValue k = some v ↔ ∃ row, s.row k = some row ∧
      isExpired row.expiresAt s.clock = false ∧ v = ⟨row.value, row.expiresAt⟩ := by
  unfold liveValue
  cases hrow : s.row k with
  | none => simp
  | some row =>
    by_cases he : isExpired row.expiresAt s.clock = true
    · simp [he]
    · simp only [he, Bool.false_eq_true, if_false, Option.some.injEq, exists_eq_left']
      exact ⟨fun h => ⟨by simp, h.symm⟩, fun h => h.2.symm⟩

lemma liveValue_eq_none :
    s.liveValue k = none ↔ ∀ row, s.row k = some row → isExpired row.expiresAt s.clock = true := by
  unfold liveValue
  cases hrow : s.row k with
  | none | some => simp

lemma row_setTable (t : KvTable) (db : DatabaseId) (key : String) :
    (s.setTable db t).row ⟨db, key⟩ = t.lookup key := by
  simp [row, setTable]

lemma row_setTable_of_db_ne {db db' : DatabaseId} (t : KvTable) (key : String) (h : db' ≠ db) :
    (s.setTable db t).row ⟨db', key⟩ = s.row ⟨db', key⟩ := by
  simp [row, setTable, h]

@[simp] lemma clock_purge : (s.purge k).clock = s.clock := by
  unfold purge
  split
  · split <;> rfl
  · rfl

@[simp] lemma cache_purge : (s.purge k).cache = s.cache := by
  unfold purge
  split
  · split <;> rfl
  · rfl

lemma liveValue_purge (k' : CacheKey) : (s.purge k).liveValue k' = s.liveValue k' := by
  obtain ⟨db, key⟩ := k
  obtain ⟨db', key'⟩ := k'
  unfold purge
  cases hrow : s.row ⟨db, key⟩ with
  | none => rfl
  | some row =>
    by_cases he : isExpired row.expiresAt s.clock = true
    · simp only [he, if_true]
      by_cases hdb : db' = db
      · subst hdb
        by_cases hkey : key' = key
        · subst hkey
          have hdead : s.liveValue ⟨db', key'⟩ = none := by simp [liveValue, hrow, he]
          rw [hdead, liveValue_eq_none, row_setTable]
          simp
        · unfold liveValue
          rw [row_setTable, Finmap.lookup_erase_ne hkey]
          rfl
      · unfold liveValue
        rw [row_setTable_of_db_ne _ _ hdb]
        rfl
    · simp [he]

end KvState

/-! ## The functions of `kv.rs` -/

section Eval

variable {α : Type} {db : DatabaseId} {s : KvState} {key : String}

open KvM

@[simp] lemma evalM_execute (st : Stmt) :
    evalM db s (execute st) =
      (.ok (st.exec (s.tables db)).1, s.setTable db (st.exec (s.tables db)).2) := by
  change (Except.ok (st.exec ((s.tick 0).tables db)).1,
    (s.tick 0).setTable db (st.exec ((s.tick 0).tables db)).2) = _
  simp

@[simp] lemma evalM_put (v : CachedValue) :
    evalM db s (put key v) = (.ok (), s.setEntry ⟨db, key⟩ (some v)) := by
  change (Except.ok (), (s.tick 0).setEntry ⟨db, key⟩ (some v)) = _
  simp

@[simp] lemma evalM_invalidate :
    evalM db s (invalidate key) = (.ok (), s.setEntry ⟨db, key⟩ none) := by
  change (Except.ok (), (s.tick 0).setEntry ⟨db, key⟩ none) = _
  simp

@[simp] lemma evalM_ignore (p : KvM α) : evalM db s (ignore p) = (.ok (), (evalM db s p).2) := by
  unfold evalM ignore calm
  change Prog.run (answer db) (fun _ => ({} : Outside)) s
    ((p.run >>= fun _ => pure ()) >>= fun a => pure (Except.ok a)) = _
  rw [Prog.run_bind_const, Prog.run_bind_const]
  rfl

lemma evalM_readWithExpiry :
    evalM db s (readWithExpiry key) =
      (.ok ((s.liveValue ⟨db, key⟩).map fun v => (v.value, v.expiresAt)),
        s.purge ⟨db, key⟩) := by
  unfold readWithExpiry
  cases hrow : s.row ⟨db, key⟩ with
  | none => simp [hrow, liveValue, purge]
  | some row =>
    by_cases he : isExpired row.expiresAt s.clock = true
    · have hlookup : (s.tables db).lookup key = some row := hrow
      simp [hrow, he, liveValue, purge, del, Stmt.exec, hlookup]
    · simp [hrow, he, liveValue, purge]

lemma evalM_exists : evalM db s (Kv.exists key) = (.ok (s.liveValue ⟨db, key⟩).isSome, s) := by
  unfold Kv.exists
  cases hrow : s.row ⟨db, key⟩ with
  | none => simp [hrow, liveValue]
  | some row =>
    by_cases he : isExpired row.expiresAt s.clock = true <;>
      simp [hrow, he, liveValue]

lemma evalM_expire (ttlSeconds : Option UInt64) :
    evalM db s (expire key ttlSeconds) = match s.liveValue ⟨db, key⟩ with
      | none => (.ok false, s)
      | some _ => (.ok true, s.setTable db ((Stmt.setExpiresAt key
          (expiresAtFrom ttlSeconds s.clock)).exec (s.tables db)).2) := by
  unfold expire
  cases hlive : s.liveValue ⟨db, key⟩ with
  | none | some => simp [evalM_exists, hlive]

/-- SET answers by the number of rows that its statement changes, plain SET always with true. -/
lemma evalM_set (value : String) (ttlSeconds : Option UInt64) (nx xx : Bool)
    (hkey : key.isEmpty = false) :
    evalM db s (set key value ttlSeconds nx xx) =
      (.ok (decide (0 < if nx || xx then ((setStmt key value (expiresAtFrom ttlSeconds s.clock)
          nx xx).exec (s.tables db)).1 else 1)),
        s.setTable db ((setStmt key value (expiresAtFrom ttlSeconds s.clock) nx xx).exec
          (s.tables db)).2) := by
  unfold set
  simp [hkey]

/-- The value and expiry that INCR writes, by what is live; it does not look at the version. -/
def incrLive (live : Option CachedValue) (delta : Int) (ttlSeconds : Option UInt64) (now : Int) :
    Result (Int × Option Int) :=
  match live with
  | none => .ok (delta, expiresAtFrom ttlSeconds now)
  | some v => incrRow ⟨v.value, v.expiresAt, 0⟩ delta ttlSeconds now

lemma evalM_incr (delta : Int) (ttlSeconds : Option UInt64) (hkey : key.isEmpty = false) :
    evalM db s (incr key delta ttlSeconds) =
      match incrLive (s.liveValue ⟨db, key⟩) delta ttlSeconds s.clock with
      | .error e => (.error e, s.purge ⟨db, key⟩)
      | .ok (n, expiresAt) => (.ok n, (s.purge ⟨db, key⟩).setTable db
          ((Stmt.upsert key (toString n) expiresAt).exec ((s.purge ⟨db, key⟩).tables db)).2) := by
  unfold incr
  cases hrow : s.row ⟨db, key⟩ with
  | none => simp [hkey, hrow, liveValue, purge, incrLive]
  | some row =>
    have hlookup : (s.tables db).lookup key = some row := hrow
    by_cases he : isExpired row.expiresAt s.clock = true
    · simp [hkey, hrow, he, liveValue, purge, incrLive, del, Stmt.exec, hlookup]
    · simp only [hkey, Bool.false_eq_true, if_false, evalM_bind, evalM_pure, evalM_unixNow,
        evalM_readRow, hrow, he, liveValue, purge, incrLive]
      -- the version of the row plays no part in the new value
      have hversion : incrRow ⟨row.value, row.expiresAt, 0⟩ delta ttlSeconds s.clock =
          incrRow row delta ttlSeconds s.clock := rfl
      have heval : ∀ r : Result (Int × Option Int),
          evalM db s (ExceptT.mk (pure r)) = (r, s) := fun _ => rfl
      rw [heval, hversion]
      cases incrRow row delta ttlSeconds s.clock with
      | error e => rfl
      | ok p => simp

end Eval

end Combee.Kv
