import Combee.Kv.Store

/-!
# Commands — the KV commands of a data node, call by call

Three layers of the source, each as programs over the calls of `Store`:

* the functions of `kv.rs`, which run on a connection and know nothing of the cache;
* the closures that the `kv_*` methods pass to `with_conn`, which add the cache updates;
* the part of each `kv_*` method that runs before `with_conn`: the lock-free cache lookup of the
  reading commands. It either answers or hands over to the closure.
-/

namespace Combee.Kv

open Foundation

abbrev KvM := ExceptT CombeeError (Prog KvOp KvOp.Res)

abbrev FastM := Prog CacheOp CacheOp.Res

namespace KvM

def unixNow : KvM Int :=
  ExceptT.lift (.call KvOp.now .ret)

def readRow (key : String) : KvM (Option KvRow) :=
  ExceptT.mk (.call (KvOp.readRow key) .ret)

def execute (st : Stmt) : KvM Nat :=
  ExceptT.mk (.call (KvOp.execute st) .ret)

def put (key : String) (v : CachedValue) : KvM Unit :=
  ExceptT.lift (.call (KvOp.put key v) .ret)

def invalidate (key : String) : KvM Unit :=
  ExceptT.lift (.call (KvOp.invalidate key) .ret)

/-- `let _ = p;`: the result of `p` is dropped, an error included. -/
def ignore {α : Type} (p : KvM α) : KvM Unit := ExceptT.lift (p.run >>= fun _ => pure ())

end KvM

namespace FastM

def unixNow : FastM Int :=
  .call CacheOp.now .ret

def lookup (key : String) : FastM (Option CachedValue) :=
  .call (CacheOp.get key) .ret

def invalidate (key : String) : FastM Unit :=
  .call (CacheOp.invalidate key) .ret

end FastM

open KvM

/-! ## Integers as text -/

def parseDigits : List Char → Option Nat
  | [] => none
  | cs =>
    if cs.all Char.isDigit then some (cs.foldl (fun n c => n * 10 + (c.toNat - 48)) 0) else none

def checkI64 (n : Int) : Option Int :=
  if -(2 ^ 63) ≤ n ∧ n < 2 ^ 63 then some n else none

/-- `str::parse::<i64>`: an optional sign and at least one digit. -/
def parseI64 (text : String) : Option Int :=
  match text.toList with
  | '-' :: ds => (parseDigits ds).bind fun n => checkI64 (-n)
  | '+' :: ds => (parseDigits ds).bind fun n => checkI64 n
  | ds => (parseDigits ds).bind fun n => checkI64 n

def checkedAdd (a b : Int) : Option Int :=
  checkI64 (a + b)

/-! ## The functions of `kv.rs` -/

def invalid (message : String) : CombeeError :=
  .invalidRequest message

def del (key : String) : KvM Bool := do
  let n ← execute (.delete key)
  pure (decide (0 < n))

/-- The value of a key and its absolute expiry; an expired row is deleted on the way. -/
def readWithExpiry (key : String) : KvM (Option (String × Option Int)) := do
  let now ← unixNow
  match ← readRow key with
  | some row =>
    if isExpired row.expiresAt now then do
      -- the result of the lazy deletion is thrown away
      ignore (del key)
      pure none
    else
      pure (some (row.value, row.expiresAt))
  | none => pure none

/-- The statement behind SET, by its NX and XX flags (NX wins). -/
def setStmt (key value : String) (expiresAt : Option Int) (nx xx : Bool) : Stmt :=
  if nx then .insertIfAbsent key value expiresAt
  else if xx then .updateIfPresent key value expiresAt
  else .upsert key value expiresAt

/-- SET key value [EX seconds] [NX|XX]: whether the row was written. -/
def set (key value : String) (ttlSeconds : Option UInt64) (nx xx : Bool) : KvM Bool := do
  if key.isEmpty then throw (invalid "key must not be empty")
  let now ← unixNow
  let changed ← execute (setStmt key value (expiresAtFrom ttlSeconds now) nx xx)
  -- the plain upsert ignores the reported count and takes it as one row
  pure (decide (0 < if nx || xx then changed else 1))

/-- EXISTS key; an expired row counts as absent. -/
def «exists» (key : String) : KvM Bool := do
  let now ← unixNow
  match ← readRow key with
  | some row => pure (!isExpired row.expiresAt now)
  | none => pure false

/-- TTL key: the seconds left, `-1` for a persistent key, nothing for an absent or expired one. -/
def ttl (key : String) : KvM (Option Int) := do
  let now ← unixNow
  match ← readRow key with
  | some ⟨_, some e, _⟩ =>
    if isExpired (some e) now then pure none else pure (some (max (e - now) 0))
  | some ⟨_, none, _⟩ => pure (some (-1))
  | none => pure none

/-- EXPIRE key seconds, or PERSIST key without a ttl: whether the key exists. -/
def expire (key : String) (ttlSeconds : Option UInt64) : KvM Bool := do
  if !(← «exists» key) then
    pure false
  else do
    let now ← unixNow
    let _ ← execute (.setExpiresAt key (expiresAtFrom ttlSeconds now))
    pure true

/-- The new value and expiry that INCR computes from a live row. -/
def incrRow (row : KvRow) (delta : Int) (ttlSeconds : Option UInt64) (now : Int) :
    Result (Int × Option Int) :=
  match parseI64 row.value with
  | none => .error (invalid s!"value is not an integer: {row.value.quote}")
  | some old =>
    match checkedAdd old delta with
    | none => .error (invalid "integer overflow")
    | some new => .ok (new, (expiresAtFrom ttlSeconds now).or row.expiresAt)

/-- INCR / DECR key. A missing or expired key starts from zero; without a ttl a live key keeps its
expiry. -/
def incr (key : String) (delta : Int) (ttlSeconds : Option UInt64) : KvM Int := do
  if key.isEmpty then throw (invalid "key must not be empty")
  let now ← unixNow
  let (newValue, expiresAt) ← match ← readRow key with
    | some row =>
      if isExpired row.expiresAt now then do
        -- an expired counter starts anew, and its old expiry goes with the row
        ignore (del key)
        pure (delta, expiresAtFrom ttlSeconds now)
      else
        ExceptT.mk (pure (incrRow row delta ttlSeconds now))
    | none => pure (delta, expiresAtFrom ttlSeconds now)
  let _ ← execute (.upsert key (toString newValue) expiresAt)
  pure newValue

/-! ## The closures passed to `with_conn` -/

structure KvEntry where
  value : String
  ttlSeconds : Option Int
  deriving DecidableEq, Repr

structure KvSetItem where
  key : String
  value : String
  ttlSeconds : Option UInt64
  deriving DecidableEq, Repr

inductive KvReply where
  | entry (e : Option KvEntry)
  | flag (b : Bool)
  | values (vs : List (Option String))
  | ttl (t : Option Int)
  | int (n : Int)
  | unit
  deriving DecidableEq, Repr

inductive Closure where
  | get (key : String)
  | set (key value : String) (ttlSeconds : Option UInt64) (nx xx : Bool)
  | del (key : String)
  | exists (key : String)
  | mget (keys : List String) (out : List (Option String)) (miss : List Nat)
  | mset (items : List KvSetItem)
  | ttl (key : String)
  | expire (key : String) (ttlSeconds : Option UInt64)
  | incr (key : String) (delta : Int) (ttlSeconds : Option UInt64)
  deriving DecidableEq, Repr

/-- SET and the cache update after it. The cache entry's expiry comes from a clock read of its
own. -/
def setAndCache (key value : String) (ttlSeconds : Option UInt64) (nx xx : Bool) : KvM Bool := do
  let written ← set key value ttlSeconds nx xx
  if written then do
    let now ← unixNow
    put key ⟨value, expiresAtFrom ttlSeconds now⟩
    pure written
  else
    pure written

/-- The loop of `kv_mget` over the keys that were not in the cache. -/
def mgetLoop (keys : List String) : List Nat → List (Option String) → KvM (List (Option String))
  | [], out => pure out
  | i :: miss, out => do
      match ← readWithExpiry (keys.getD i "") with
      | some (value, expiresAt) => do
          put (keys.getD i "") ⟨value, expiresAt⟩
          mgetLoop keys miss (out.set i (some value))
      | none => mgetLoop keys miss out

def msetLoop : List KvSetItem → KvM Unit
  | [] => pure ()
  | it :: items => do
      let _ ← setAndCache it.key it.value it.ttlSeconds false false
      msetLoop items

namespace Closure

def getEntry (key : String) : KvM (Option KvEntry) := do
  let now ← unixNow
  match ← readWithExpiry key with
  | some (value, expiresAt) => do
      put key ⟨value, expiresAt⟩
      pure (some ⟨value, ttlOrRemaining expiresAt now⟩)
  | none => pure none

def delAndInvalidate (key : String) : KvM Bool := do
  let deleted ← Kv.del key
  if deleted then do
    invalidate key
    pure deleted
  else
    pure deleted

def expireAndInvalidate (key : String) (ttlSeconds : Option UInt64) : KvM Bool := do
  let updated ← Kv.expire key ttlSeconds
  if updated then do
    invalidate key
    pure updated
  else
    pure updated

def incrAndInvalidate (key : String) (delta : Int) (ttlSeconds : Option UInt64) : KvM Int := do
  let value ← Kv.incr key delta ttlSeconds
  invalidate key
  pure value

def prog : Closure → KvM KvReply
  | get key => KvReply.entry <$> getEntry key
  | set key value ttlSeconds nx xx => KvReply.flag <$> setAndCache key value ttlSeconds nx xx
  | del key => KvReply.flag <$> delAndInvalidate key
  | .exists key => KvReply.flag <$> Kv.exists key
  | mget keys out miss => KvReply.values <$> mgetLoop keys miss out
  | mset items => (fun _ => KvReply.unit) <$> msetLoop items
  | ttl key => KvReply.ttl <$> Kv.ttl key
  | expire key ttlSeconds => KvReply.flag <$> expireAndInvalidate key ttlSeconds
  | incr key delta ttlSeconds => KvReply.int <$> incrAndInvalidate key delta ttlSeconds

end Closure

/-! ## The part before `with_conn` -/

inductive KvRequest where
  | get (key : String)
  | set (key value : String) (ttlSeconds : Option UInt64) (nx xx : Bool)
  | del (key : String)
  | exists (key : String)
  | mget (keys : List String)
  | mset (items : List KvSetItem)
  | ttl (key : String)
  | expire (key : String) (ttlSeconds : Option UInt64)
  | incr (key : String) (delta : Int) (ttlSeconds : Option UInt64)
  deriving DecidableEq, Repr

/-- `KvCache::get`: an expired entry is invalidated and counts as a miss. -/
def cacheGet (key : String) (now : Int) : FastM (Option KvEntry) := do
  match ← FastM.lookup key with
  | some v =>
    if isExpired v.expiresAt now then do
      FastM.invalidate key
      pure none
    else
      pure (some ⟨v.value, ttlOrRemaining v.expiresAt now⟩)
  | none => pure none

/-- The scan of the cache in `kv_mget`: the values found, and the positions that were missed. -/
def mgetFast (now : Int) : List String → Nat → FastM (List (Option String) × List Nat)
  | [], _ => pure ([], [])
  | key :: keys, i => do
      match ← cacheGet key now with
      | some entry => do
          let (out, miss) ← mgetFast now keys (i + 1)
          pure (some entry.value :: out, miss)
      | none => do
          let (out, miss) ← mgetFast now keys (i + 1)
          pure (none :: out, i :: miss)

/-- What a `kv_*` method does before `with_conn`: an answer, or the closure to run. -/
def fastPath : KvRequest → FastM (KvReply ⊕ Closure)
  | .get key => do
      let now ← FastM.unixNow
      match ← cacheGet key now with
      | some entry => pure (.inl (.entry (some entry)))
      | none => pure (.inr (.get key))
  | .exists key => do
      let now ← FastM.unixNow
      match ← cacheGet key now with
      | some _ => pure (.inl (.flag true))
      | none => pure (.inr (.exists key))
  | .mget keys => do
      let now ← FastM.unixNow
      let (out, miss) ← mgetFast now keys 0
      -- one miss is enough to go to the connection, with the hits kept
      if miss.isEmpty then pure (.inl (.values out)) else pure (.inr (.mget keys out miss))
  | .ttl key => do
      let now ← FastM.unixNow
      match ← cacheGet key now with
      -- the remaining seconds as the cache has them; a persistent entry has none
      | some entry => pure (.inl (.ttl entry.ttlSeconds))
      | none => pure (.inr (.ttl key))
  | .set key value ttlSeconds nx xx => pure (.inr (.set key value ttlSeconds nx xx))
  | .del key => pure (.inr (.del key))
  | .mset items => pure (.inr (.mset items))
  | .expire key ttlSeconds => pure (.inr (.expire key ttlSeconds))
  | .incr key delta ttlSeconds => pure (.inr (.incr key delta ttlSeconds))

/-! ## Running a command alone -/

/-- Nothing happens outside: no time passes and SQLite does not fail. -/
def calm : Nat → Outside := fun _ => {}

def evalFast {α : Type} (db : DatabaseId) (s : KvState) (p : FastM α) : α × KvState :=
  Prog.run (answerCache db) calm s p

def evalM {α : Type} (db : DatabaseId) (s : KvState) (p : KvM α) :
    Result α × KvState :=
  Prog.run (answer db) calm s p.run

/-- A whole command run alone: the fast path, then the closure if it did not answer. -/
def serve (db : DatabaseId) (s : KvState) (r : KvRequest) : Result KvReply × KvState :=
  match evalFast db s (fastPath r) with
  | (.inl reply, s) => (.ok reply, s)
  | (.inr c, s) => evalM db s c.prog

@[simp] lemma tick_zero (s : KvState) : s.tick 0 = s := by
  simp [KvState.tick]

section Eval

variable {α β : Type} {db : DatabaseId} {s : KvState}

@[simp] lemma evalM_pure (a : α) : evalM db s (pure a) = (.ok a, s) := rfl

@[simp] lemma evalM_throw (e : CombeeError) : evalM db s (throw e : KvM α) = (.error e, s) := rfl

@[simp] lemma evalM_bind (p : KvM α) (f : α → KvM β) :
    evalM db s (p >>= f) = match evalM db s p with
      | (.ok a, s') => evalM db s' (f a)
      | (.error e, s') => (.error e, s') := by
  refine (Prog.run_bind_const ({} : Outside) s p.run _).trans ?_
  unfold evalM calm
  rcases Prog.run (answer db) (fun _ => ({} : Outside)) s p.run with ⟨_ | _, _⟩ <;> rfl

@[simp] lemma evalM_map (f : α → β) (p : KvM α) :
    evalM db s (f <$> p) = match evalM db s p with
      | (.ok a, s') => (.ok (f a), s')
      | (.error e, s') => (.error e, s') :=
  evalM_bind p fun a => pure (f a)

@[simp] lemma evalM_unixNow : evalM db s unixNow = (.ok s.clock, s) := by
  change (Except.ok (s.tick 0).clock, s.tick 0) = _
  simp

variable (key : String)

@[simp] lemma evalM_readRow : evalM db s (readRow key) = (.ok (s.row ⟨db, key⟩), s) := by
  change (Except.ok ((s.tick 0).row ⟨db, key⟩), s.tick 0) = _
  simp

@[simp] lemma evalFast_ret (a : α) : evalFast db s (.ret a) = (a, s) := rfl

@[simp] lemma evalFast_bind (p : FastM α) (f : α → FastM β) :
    evalFast db s (p >>= f) = evalFast db (evalFast db s p).2 (f (evalFast db s p).1) := by
  unfold evalFast calm
  exact Prog.run_bind_const ({} : Outside) s p f

@[simp] lemma evalFast_unixNow : evalFast db s FastM.unixNow = (s.clock, s) := by
  change ((s.tick 0).clock, s.tick 0) = _
  simp

@[simp] lemma evalFast_lookup : evalFast db s (FastM.lookup key) = (s.cache ⟨db, key⟩, s) := by
  change ((s.tick 0).cache ⟨db, key⟩, s.tick 0) = _
  simp

@[simp] lemma evalFast_invalidate :
    evalFast db s (FastM.invalidate key) = ((), s.setEntry ⟨db, key⟩ none) := by
  change ((), (s.tick 0).setEntry ⟨db, key⟩ none) = _
  simp

/-- `KvCache::get` by the three things it can find. -/
lemma evalFast_cacheGet (now : Int) :
    evalFast db s (cacheGet key now) = match s.cache ⟨db, key⟩ with
      | none => (none, s)
      | some v =>
        if isExpired v.expiresAt now then (none, s.setEntry ⟨db, key⟩ none)
        else (some ⟨v.value, ttlOrRemaining v.expiresAt now⟩, s) := by
  unfold cacheGet
  cases h : s.cache ⟨db, key⟩ with
  | none => simp [h]
  | some v =>
    by_cases he : isExpired v.expiresAt now <;> simp [h, he]

end Eval

end Combee.Kv
