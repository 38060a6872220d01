import Combee.Kv.Commands

/-!
# Writes — the write entry points of a data node

The seven entry points that carry a generation: `kv_set`, `kv_del`, `kv_mset`, `kv_expire`,
`kv_incr`, `execute_sql` and `execute_transaction`. Each is a program whose calls are the points at
which other tasks may run: the lock of the generation table, the lock of the read-only set, the
await on the file size, the wait for the per-Cell lock, and the closure itself, which runs in one
piece while the lock is held.

SQL is a parameter: an engine that takes a request and the Cell's database and returns a result and
the database after it, whatever it does.
-/

namespace Combee.DataNode

open Foundation Kv

/-! ## The state of a data node -/

/-- What the write paths read and write; `U` is the state of the users' own tables. -/
structure Node (U : Type) where
  /-- The fence table; it lives in memory only. -/
  generations : DatabaseId → Option Int
  readonly : DatabaseId → Bool
  /-- The holder of the per-Cell lock. -/
  locks : DatabaseId → Option Nat
  kv : KvState
  user : DatabaseId → U

structure Cell (U : Type) where
  table : KvTable
  user : U
  cache : String → Option CachedValue

namespace Node

variable {U : Type}

def cell (s : Node U) (db : DatabaseId) : Cell U :=
  ⟨s.kv.tables db, s.user db, fun key => s.kv.cache ⟨db, key⟩⟩

def fenceCell (s : Node U) (db : DatabaseId) (generation : Int) : Node U :=
  { s with generations := Function.update s.generations db (some generation) }

/-- `check_generation`: a Cell that was never fenced is at generation 0. -/
def checkGeneration (s : Node U) (db : DatabaseId) (generation : Int) : Result Unit :=
  let cur := (s.generations db).getD 0
  if generation ≠ cur then
    .error (.forbidden s!"cell {db} fenced: write generation {generation} != current {cur}")
  else .ok ()

def checkWritable (s : Node U) (db : DatabaseId) : Result Unit :=
  if s.readonly db then
    .error (.internal (s!"cell {db} is read-only (integrity check failed); " ++
      "contact operator to restore from backup"))
  else .ok ()

def setLock (s : Node U) (db : DatabaseId) (holder : Option Nat) : Node U :=
  { s with locks := Function.update s.locks db holder }

end Node

/-! ## Requests -/

inductive SqlCall where
  | execute (sql : String)
  | transaction (statements : List String)
  deriving DecidableEq, Repr

inductive WriteOp where
  | kvSet (key value : String) (ttlSeconds : Option UInt64) (nx xx : Bool)
  | kvDel (key : String)
  | kvMset (items : List KvSetItem)
  | kvExpire (key : String) (ttlSeconds : Option UInt64)
  | kvIncr (key : String) (delta : Int) (ttlSeconds : Option UInt64)
  | executeSql (sql : String)
  | executeTransaction (statements : List String)
  deriving DecidableEq, Repr

structure WriteRequest where
  db : DatabaseId
  generation : Int
  op : WriteOp
  deriving DecidableEq, Repr

/-- The calls of an entry point; the Cell is the one of the request. -/
inductive NodeOp where
  | checkGeneration (generation : Int)
  | checkWritable
  | storageBytes
  | acquireLock
  | runClosure (c : Closure)
  | runSql (q : SqlCall)

/-- The answers; `R` is what the SQL engine returns. -/
def NodeOp.Res (R : Type) : NodeOp → Type
  | checkGeneration _ => Result Unit
  | checkWritable => Result Unit
  | storageBytes => Nat
  | acquireLock => Unit
  | runClosure _ => Result KvReply
  | runSql _ => Result R

section Entry

variable {R : Type}

abbrev NodeM (R : Type) := ExceptT CombeeError (Prog NodeOp (NodeOp.Res R))

def checkGeneration (generation : Int) : NodeM R Unit :=
  ExceptT.mk (.call (NodeOp.checkGeneration generation) .ret)

def checkWritable : NodeM R Unit :=
  ExceptT.mk (.call NodeOp.checkWritable .ret)

def storageBytes : NodeM R Nat :=
  ExceptT.lift (.call NodeOp.storageBytes .ret)

def withConn (c : Closure) : NodeM R (KvReply ⊕ R) :=
  ExceptT.mk (.call NodeOp.acquireLock fun (_ : Unit) =>
    .call (NodeOp.runClosure c) fun (r : Result KvReply) => .ret (r.map .inl))

def withConnSql (q : SqlCall) : NodeM R (KvReply ⊕ R) :=
  ExceptT.mk (.call NodeOp.acquireLock fun (_ : Unit) =>
    .call (NodeOp.runSql q) fun (r : Result R) => .ret (r.map .inr))

/-! ## Quota checks -/

def checkTtl (quota : QuotaConfig) (ttlSeconds : Option UInt64) : Result Unit :=
  match ttlSeconds with
  | some ttl =>
    if 0 < quota.maxTtlSeconds ∧ quota.maxTtlSeconds < ttl.toNat then
      .error (.quotaExceeded s!"ttl too large: {ttl.toNat}s (max {quota.maxTtlSeconds}s)")
    else .ok ()
  | none => .ok ()

/-- A size limit; `0` switches it off. -/
def checkSize (what : String) (size limit : Nat) : Result Unit :=
  if 0 < limit ∧ limit < size then
    .error (.quotaExceeded s!"{what} too large: {size} bytes (max {limit})")
  else .ok ()

def checkKeySize (quota : QuotaConfig) (key : String) : Result Unit :=
  checkSize "kv key" key.utf8ByteSize quota.maxKvKeyBytes

def checkValueSize (quota : QuotaConfig) (value : String) : Result Unit :=
  checkSize "kv value" value.utf8ByteSize quota.maxKvValueBytes

/-- The storage checks of `kv_set`: the hard limit rejects, the soft limit only warns. -/
def checkStorage (quota : QuotaConfig) (value : String) : NodeM R Unit := do
  if 0 < quota.storageHardBytes then
    let current ← storageBytes
    -- `saturating_add` on `u64`
    let projected := min (current + value.utf8ByteSize) (2 ^ 64 - 1)
    if quota.storageHardBytes < projected then
      throw (.quotaExceeded
        s!"storage hard limit exceeded: {projected} bytes (max {quota.storageHardBytes})")
  if 0 < quota.storageSoftBytes then
    -- the size is read once more, for a warning only
    let _ ← storageBytes

def checkItem (quota : QuotaConfig) (it : KvSetItem) : Result Unit := do
  checkKeySize quota it.key
  checkValueSize quota it.value
  checkTtl quota it.ttlSeconds

/-! ## The entry points -/

def kvSet (quota : QuotaConfig) (key value : String) (ttlSeconds : Option UInt64) (nx xx : Bool)
    (generation : Int) : NodeM R (KvReply ⊕ R) := do
  checkGeneration generation
  checkWritable
  liftM (checkTtl quota ttlSeconds)
  liftM (checkKeySize quota key)
  liftM (checkValueSize quota value)
  checkStorage quota value
  withConn (.set key value ttlSeconds nx xx)

def kvDel (key : String) (generation : Int) : NodeM R (KvReply ⊕ R) := do
  checkGeneration generation
  checkWritable
  withConn (.del key)

def kvMset (quota : QuotaConfig) (items : List KvSetItem) (generation : Int) :
    NodeM R (KvReply ⊕ R) := do
  checkGeneration generation
  checkWritable
  liftM (items.forM (checkItem quota))
  withConn (.mset items)

def kvExpire (quota : QuotaConfig) (key : String) (ttlSeconds : Option UInt64) (generation : Int) :
    NodeM R (KvReply ⊕ R) := do
  checkGeneration generation
  liftM (checkTtl quota ttlSeconds)
  checkWritable
  withConn (.expire key ttlSeconds)

def kvIncr (quota : QuotaConfig) (key : String) (delta : Int) (ttlSeconds : Option UInt64)
    (generation : Int) : NodeM R (KvReply ⊕ R) := do
  checkGeneration generation
  liftM (checkTtl quota ttlSeconds)
  checkWritable
  withConn (.incr key delta ttlSeconds)

/-- The common part of the two SQL entry points; their timeout is part of the machine. -/
def runSqlCall (q : SqlCall) (generation : Int) : NodeM R (KvReply ⊕ R) := do
  checkGeneration generation
  checkWritable
  withConnSql q

def executeSql (sql : String) (generation : Int) : NodeM R (KvReply ⊕ R) :=
  runSqlCall (.execute sql) generation

def executeTransaction (statements : List String) (generation : Int) : NodeM R (KvReply ⊕ R) :=
  runSqlCall (.transaction statements) generation

def entry (quota : QuotaConfig) (r : WriteRequest) : NodeM R (KvReply ⊕ R) :=
  match r.op with
  | .kvSet key value ttlSeconds nx xx => kvSet quota key value ttlSeconds nx xx r.generation
  | .kvDel key => kvDel key r.generation
  | .kvMset items => kvMset quota items r.generation
  | .kvExpire key ttlSeconds => kvExpire quota key ttlSeconds r.generation
  | .kvIncr key delta ttlSeconds => kvIncr quota key delta ttlSeconds r.generation
  | .executeSql sql => executeSql sql r.generation
  | .executeTransaction statements => executeTransaction statements r.generation

lemma checkGeneration_bind_run {α : Type} (generation : Int) (f : Unit → NodeM R α) :
    (checkGeneration generation >>= f).run = .call (NodeOp.checkGeneration generation)
      fun (res : Result Unit) => match res with
        | .ok a => (f a).run
        | .error e => .ret (.error e) := by
  refine congrArg (Prog.call (NodeOp.checkGeneration generation)) (funext fun res => ?_)
  cases res <;> rfl

lemma entry_eq_bind (quota : QuotaConfig) (r : WriteRequest) :
    ∃ rest : Unit → NodeM R (KvReply ⊕ R),
      entry quota r = checkGeneration r.generation >>= rest := by
  obtain ⟨db, generation, op⟩ := r
  cases op <;> exact ⟨_, rfl⟩

end Entry

end Combee.DataNode
