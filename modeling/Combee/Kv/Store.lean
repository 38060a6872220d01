import Mathlib.Data.Finmap
import Combee.Common
import Combee.Foundation.Program

/-!
# Store — the `__sys_kv` table, the KV cache and the calls made on them

A data node keeps the keys of a Cell in the `__sys_kv` table of the Cell's SQLite database, and a
shared cache of `(Cell, key)` entries in front of it. This module has the two stores, the clock,
and the atomic calls that the KV commands are made of:

* `KvOp` — the calls of a closure that runs on the Cell's connection: read the clock, select a row,
  execute one statement, put or invalidate a cache entry;
* `CacheOp` — the calls of the lock-free fast paths, which reach the cache only.

SQLite statements are atomic: one that fails reports an error and changes nothing.
-/

namespace Combee.Kv

open Foundation

/-! ## Expiry -/

/-- `expires_at <= now` counts as expired; a key without `expires_at` never expires. -/
def isExpired (expiresAt : Option Int) (now : Int) : Bool :=
  match expiresAt with
  | some e => decide (e ≤ now)
  | none => false

def ttlOrRemaining (expiresAt : Option Int) (now : Int) : Option Int :=
  expiresAt.map fun e => max (e - now) 0

/-- `now + s as i64`: both the cast of the `u64` and the sum wrap. -/
def expiresAtFrom (ttlSeconds : Option UInt64) (now : Int) : Option Int :=
  ttlSeconds.map fun s => wrapI64 (now + wrapI64 s.toNat)

@[simp] lemma isExpired_none (now : Int) : isExpired none now = false := rfl

@[simp] lemma isExpired_some (e now : Int) : isExpired (some e) now = decide (e ≤ now) := rfl

variable {expiresAt : Option Int}

lemma isExpired_mono {now later : Int} (hle : now ≤ later)
    (h : isExpired expiresAt now = true) : isExpired expiresAt later = true := by
  cases expiresAt with
  | none => simp at h
  | some e =>
    simp only [isExpired_some, decide_eq_true_eq] at h ⊢
    omega

/-! ## The table -/

/-- A row of `__sys_kv` (its key is the key of the map). -/
structure KvRow where
  value : String
  expiresAt : Option Int
  version : Nat
  deriving DecidableEq, Repr

abbrev KvTable := Finmap fun _ : String => KvRow

inductive Stmt where
  | upsert (key value : String) (expiresAt : Option Int)
  | insertIfAbsent (key value : String) (expiresAt : Option Int)
  | updateIfPresent (key value : String) (expiresAt : Option Int)
  | delete (key : String)
  | setExpiresAt (key : String) (expiresAt : Option Int)
  deriving DecidableEq, Repr

namespace Stmt

def key : Stmt → String
  | upsert key _ _ => key
  | insertIfAbsent key _ _ => key
  | updateIfPresent key _ _ => key
  | delete key => key
  | setExpiresAt key _ => key

def exec : Stmt → KvTable → Nat × KvTable
  | upsert key value expiresAt, t =>
    match t.lookup key with
    | some row => (1, t.insert key ⟨value, expiresAt, row.version + 1⟩)
    | none => (1, t.insert key ⟨value, expiresAt, 1⟩)
  | insertIfAbsent key value expiresAt, t =>
    match t.lookup key with
    | some _ => (0, t)
    | none => (1, t.insert key ⟨value, expiresAt, 1⟩)
  | updateIfPresent key value expiresAt, t =>
    match t.lookup key with
    | some row => (1, t.insert key ⟨value, expiresAt, row.version + 1⟩)
    | none => (0, t)
  | delete key, t =>
    match t.lookup key with
    | some _ => (1, t.erase key)
    | none => (0, t)
  | setExpiresAt key expiresAt, t =>
    match t.lookup key with
    | some row => (1, t.insert key { row with expiresAt, version := row.version + 1 })
    | none => (0, t)

lemma lookup_exec_of_ne (st : Stmt) (t : KvTable) {k : String} (hk : k ≠ st.key) :
    (st.exec t).2.lookup k = t.lookup k := by
  cases st <;> simp only [key] at hk <;> simp only [exec] <;> split <;>
    simp [Finmap.lookup_insert_of_ne _ hk, Finmap.lookup_erase_ne hk]

lemma exec_eq_self_of_zero (st : Stmt) (t : KvTable) (h : (st.exec t).1 = 0) :
    (st.exec t).2 = t := by
  cases st <;> simp only [exec] at h ⊢ <;> split <;> simp_all

end Stmt

/-- SET of the three statement forms: if it reports a changed row, the row now holds the value. -/
lemma lookup_exec_set {st : Stmt} {key value : String} {t : KvTable}
    (hst : st = .upsert key value expiresAt ∨ st = .insertIfAbsent key value expiresAt ∨
      st = .updateIfPresent key value expiresAt)
    (h : 0 < (st.exec t).1) :
    ∃ version, (st.exec t).2.lookup key = some ⟨value, expiresAt, version⟩ := by
  rcases hst with rfl | rfl | rfl <;> simp only [Stmt.exec] at h ⊢ <;> split <;> simp_all

/-! ## The two stores and the clock -/

structure CacheKey where
  databaseId : DatabaseId
  key : String
  deriving DecidableEq, Repr

structure CachedValue where
  value : String
  expiresAt : Option Int
  deriving DecidableEq, Repr

/-- What the KV commands of one data node read and write. -/
structure KvState where
  tables : DatabaseId → KvTable
  cache : CacheKey → Option CachedValue
  /-- The current time, in seconds since the epoch. -/
  clock : Int

namespace KvState

def tick (s : KvState) (elapsed : Nat) : KvState :=
  { s with clock := s.clock + elapsed }

def row (s : KvState) (k : CacheKey) : Option KvRow :=
  (s.tables k.databaseId).lookup k.key

def setTable (s : KvState) (db : DatabaseId) (t : KvTable) : KvState :=
  { s with tables := Function.update s.tables db t }

def setEntry (s : KvState) (k : CacheKey) (v : Option CachedValue) : KvState :=
  { s with cache := Function.update s.cache k v }

end KvState

/-- A cache entry agrees with a row: the row is there, with the same value and expiry. -/
def Agrees (row : Option KvRow) (v : CachedValue) : Prop :=
  ∃ r, row = some r ∧ r.value = v.value ∧ r.expiresAt = v.expiresAt

/-! ## Calls -/

/-- How much time has passed since the call before, and whether SQLite fails. -/
structure Outside where
  elapsed : Nat := 0
  fault : Option String := none
  deriving DecidableEq, Repr

/-- The calls of a closure run by `with_conn` on the connection of one Cell. -/
inductive KvOp where
  | now
  | readRow (key : String)
  | execute (st : Stmt)
  | put (key : String) (v : CachedValue)
  | invalidate (key : String)

def KvOp.Res : KvOp → Type
  | now => Int
  | readRow _ => Result (Option KvRow)
  | execute _ => Result Nat
  | put _ _ => Unit
  | invalidate _ => Unit

/-- The answer of the stores to one call of a closure that runs for the Cell `db`. -/
def answer (db : DatabaseId) (s : KvState) (op : KvOp) (o : Outside) : op.Res × KvState :=
  let s := s.tick o.elapsed
  match op with
  | .now => (s.clock, s)
  | .readRow key =>
    match o.fault with
    | some e => (.error (.sql e), s)
    | none => (.ok (s.row ⟨db, key⟩), s)
  | .execute st =>
    match o.fault with
    | some e => (.error (.sql e), s)
    | none => (.ok (st.exec (s.tables db)).1, s.setTable db (st.exec (s.tables db)).2)
  | .put key v => ((), s.setEntry ⟨db, key⟩ (some v))
  | .invalidate key => ((), s.setEntry ⟨db, key⟩ none)

/-- The calls of the lock-free fast paths. -/
inductive CacheOp where
  | now
  | get (key : String)
  | invalidate (key : String)

def CacheOp.Res : CacheOp → Type
  | now => Int
  | get _ => Option CachedValue
  | invalidate _ => Unit

def answerCache (db : DatabaseId) (s : KvState) (op : CacheOp) (o : Outside) : op.Res × KvState :=
  let s := s.tick o.elapsed
  match op with
  | .now => (s.clock, s)
  | .get key => (s.cache ⟨db, key⟩, s)
  | .invalidate key => ((), s.setEntry ⟨db, key⟩ none)

end Combee.Kv
