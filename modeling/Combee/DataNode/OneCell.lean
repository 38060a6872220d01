import Combee.DataNode.Writes
import Combee.Kv.Coherence
import Combee.Storage.Archive
import Combee.Storage.Disk

/-!
# OneCell — one Cell of a data node, with its files, its cache and everything that runs on it

Reads and writes of one Cell, interleaved with `reset_database` and `restore`. The database of the
Cell is the list of the changes committed to its files; a request sees the files that the connection
has open, which need not be those at the paths. `with_conn` holds the mutex of the connection table
to the end of the closure, so one closure runs at a time; lock-free reads, the cache and the files
go on meanwhile. The per-Cell lock is left out, so there are more interleavings here than with it.

`log` is a ghost: every change that was ever committed, in order. `reads` and `stale` are the
ghosts of `Kv.KvNode`.
-/

namespace Combee.DataNode.OneCell

open Foundation Kv Storage

/-! ## The database of a Cell -/

inductive Change where
  | kv (st : Stmt)
  | sql (q : SqlCall) (choice : Nat)
  | gc (keys : List String)
  deriving DecidableEq

/-- A committed change and the request that made it; the garbage collection is nobody's. -/
structure Commit where
  task : Option Nat
  change : Change
  deriving DecidableEq

section Database

variable {U R : Type} [Inhabited U] (engine : SqlCall → Nat → U → Result R × U)

/-- User SQL has no access to the internal tables, so it changes the users' own tables only. -/
def Change.apply : Change → KvTable × U → KvTable × U
  | kv st, (t, u) => ((st.exec t).2, u)
  | sql q choice, (t, u) => (t, (engine q choice u).2)
  | gc keys, (t, u) => (keys.foldl (fun t key => t.erase key) t, u)

def database (cs : List Commit) : KvTable × U :=
  cs.foldl (fun d c => c.change.apply engine d) (∅, default)

lemma database_append_singleton (cs : List Commit) (c : Commit) :
    database engine (cs ++ [c]) = c.change.apply engine (database engine cs) := by
  simp [database]

end Database

/-! ## The state -/

structure CellNode where
  generation : Option Int
  readonly : Bool
  disk : Disk Commit
  cache : String → Option CachedValue
  clock : Int
  /-- The request whose closure is running. -/
  holder : Option Nat
  reads : List Int
  stale : Option CacheKey
  store : Option (ObjectStore (List Commit))
  log : List Commit

structure Choice where
  outside : Outside := {}
  bytes : Nat := 0
  openFault : Option (CombeeError × Bool) := none
  sql : Nat := 0
  /-- An object-store call or a file operation fails. -/
  fault : Option String := none
  /-- Closing a connection moves the WAL to the main file; an error there is ignored. -/
  checkpoint : Bool := true
  /-- The answer to `PRAGMA integrity_check`. -/
  integrity : Except String String := .ok "ok"

namespace CellNode

/-- Checkpoint and drop the connection, as `close_database`, the idle timeout and the eviction do.
-/
def closeConn (s : CellNode) (checkpoint : Bool) : CellNode :=
  { s with disk := if checkpoint then s.disk.close else s.disk.crash }

/-- The part of `with_conn` before the closure. -/
def openConn (s : CellNode) (o : Choice) : Result Unit × CellNode :=
  match s.disk.conn with
  | some _ => (.ok (), s)
  | none =>
    match o.openFault with
    -- `storage::open` failed: the Cell is protected from writes from then on
    | some (e, true) => (.error e, { s with readonly := true })
    | some (e, false) => (.error e, s)
    | none => (.ok (), { s with disk := s.disk.openConn })

/-- Changes are committed through the open connection. -/
def commitAll (s : CellNode) (cs : List Commit) : CellNode :=
  { s with disk := cs.foldl Disk.commit s.disk, log := s.log ++ cs }

/-- The entries of the Cell that `clear_database` finds. -/
def cached (s : CellNode) : String → Bool :=
  fun key => (s.cache key).isSome

/-- The second half of `clear_database`: the entries it has found are invalidated. -/
def invalidateAll (s : CellNode) (keys : String → Bool) : CellNode :=
  { s with cache := fun key => if keys key then none else s.cache key }

variable {U R : Type} [Inhabited U] (engine : SqlCall → Nat → U → Result R × U)
  (db : DatabaseId)

/-- The entries of one Cell in the shared cache, without those under the keys `old`. -/
def mask (old : String → Bool) (cache : String → Option CachedValue) :
    CacheKey → Option CachedValue :=
  fun k => if k.databaseId = db ∧ old k.key = false then cache k.key else none

/-- The Cell as the KV commands see it, without the cache entries under the keys `old`. -/
def kvNode (old : String → Bool) (s : CellNode) : KvNode where
  kv :=
    { tables := Function.update (fun _ => ∅) db (database engine s.disk.contents).1
      cache := mask db old s.cache
      clock := s.clock }
  holder := s.holder
  reads := s.reads
  stale := s.stale

def kv (s : CellNode) : KvState :=
  (s.kvNode engine db fun _ => false).kv

/-- The Cell as the checks of the write entry points see it. -/
def asNode (s : CellNode) : Node U where
  generations := fun _ => s.generation
  readonly := fun _ => s.readonly
  locks := fun _ => none
  kv := s.kv engine db
  user := fun _ => (database engine s.disk.contents).2

def committed (i : Nat) (op : KvOp) (o : Outside) : List Commit :=
  match op, o.fault with
  | .execute st, none => [⟨some i, .kv st⟩]
  | _, _ => []

def call (s : CellNode) (i : Nat) (op : KvOp) (o : Outside) : op.Res × CellNode :=
  let r := (s.kvNode engine db fun _ => false).call db op o
  (r.1, { s.commitAll (committed i op o) with
    cache := fun key => r.2.kv.cache ⟨db, key⟩
    clock := r.2.kv.clock
    reads := r.2.reads
    stale := r.2.stale })

def callCache (s : CellNode) (op : CacheOp) (o : Outside) : op.Res × CellNode :=
  let r := answerCache db (s.kv engine db) op o
  (r.1, { s with cache := fun key => r.2.cache ⟨db, key⟩, clock := r.2.clock })

end CellNode

/-! ## `reset_database` -/

inductive ResetPc where
  | close
  | clear
  | invalidate (keys : String → Bool)
  | removeMain
  | removeWal
  | returned
  | failed (e : CombeeError)

/-- Removes a file if it is there; `-shm` and `-journal` hold no data and are left out. -/
def removeFile (file : Option Nat) (removed d : Disk Commit) (fault : Option String) :
    Result (Disk Commit) :=
  match file, fault with
  | none, _ => .ok d
  | some _, none => .ok removed
  | some _, some e => .error (.internal s!"reset remove file failed: {e}")

def resetStep (s : CellNode) (pc : ResetPc) (o : Choice) : Option (CellNode × ResetPc) :=
  match pc with
  | .close =>
    -- `close_database` takes the mutex
    if s.holder = none then
      match o.fault with
      | some e => some (s, .failed (.internal s!"data node task panicked: {e}"))
      | none => some (s.closeConn o.checkpoint, .clear)
    else none
  | .clear => some (s, .invalidate s.cached)
  | .invalidate keys => some (s.invalidateAll keys, .removeMain)
  | .removeMain =>
    match removeFile s.disk.main s.disk.removeMain s.disk o.fault with
    | .ok d => some ({ s with disk := d }, .removeWal)
    | .error e => some (s, .failed e)
  | .removeWal =>
    match removeFile s.disk.wal s.disk.removeWal s.disk o.fault with
    | .ok d => some ({ s with disk := d }, .returned)
    | .error e => some (s, .failed e)
  | .returned => none
  | .failed _ => none

/-! ## `restore` -/

/-- The version asked for: an object under the prefix of the Cell, or something else. -/
inductive Version where
  | own (k : ObjKey)
  | foreign (key : String)
  deriving DecidableEq, Repr

/-- Where a restore stands; `main` and `placed` are what it has downloaded and put in place. -/
inductive RestorePc where
  | close (version : Option Version)
  | listIncr
  | listFull
  | getMain (k : ObjKey) (wal : Option ObjKey)
  | renameMain (main : List Commit) (wal : Option ObjKey)
  | getWal (main : List Commit) (wal : ObjKey)
  | renameWal (main wal : List Commit)
  | dropWal (main : List Commit)
  | check (placed : List Commit)
  | closeBad (res : String)
  | clear (placed : List Commit)
  | invalidate (placed : List Commit) (keys : String → Bool)
  | done (placed : List Commit)
  | failed (e : CombeeError)

def objPath (db : DatabaseId) : ObjKey → String
  | .full ts uid => s!"backups/{db}/{ts}-{uid}.sqlite"
  | .snapshot rev => s!"backups/{db}/incr/snapshot-{rev}.sqlite"
  | .wal rev => s!"backups/{db}/incr/wal-{rev}.sqlite-wal"

def download (s : CellNode) (db : DatabaseId) (k : ObjKey) (fault : Option String) :
    Result (List Commit) :=
  match fault, s.store.bind fun store => store.lookup k with
  | none, some c => .ok c
  | none, none => .error (.internal s!"download backup {objPath db k}: not found")
  | some e, _ => .error (.internal s!"download backup {objPath db k}: {e}")

def restoreStep (db : DatabaseId) (s : CellNode) (pc : RestorePc) (o : Choice) :
    Option (CellNode × RestorePc) :=
  match pc with
  | .close version =>
    match s.store with
    | none => some (s, .failed (.internal "object storage not configured"))
    | some _ =>
      if s.holder = none then
        match o.fault, version with
        | some e, _ => some (s, .failed (.internal s!"data node task panicked: {e}"))
        | none, none => some (s.closeConn o.checkpoint, .listIncr)
        | none, some (.own k) => some (s.closeConn o.checkpoint, .getMain k none)
        | none, some (.foreign _) => some (s.closeConn o.checkpoint,
            .failed (.invalidRequest s!"backup key must be under 'backups/{db}/'"))
      else none
  | .listIncr =>
    match o.fault, s.store.bind latestIncr with
    | some e, _ => some (s, .failed (.internal s!"list incr backups: {e}"))
    | none, some (snap, wal) => some (s, .getMain snap wal)
    | none, none => some (s, .listFull)
  | .listFull =>
    match o.fault, s.store.bind lastListed with
    | some e, _ => some (s, .failed (.internal s!"list backups: {e}"))
    | none, some k => some (s, .getMain k none)
    | none, none => some (s, .failed (.internal s!"no backups found for {db}"))
  | .getMain k wal =>
    match download s db k o.fault with
    | .ok main => some (s, .renameMain main wal)
    | .error e => some (s, .failed e)
  | .renameMain main wal =>
    match o.fault, wal with
    | some e, _ => some (s, .failed (.internal s!"atomic replace: {e}"))
    | none, some k => some ({ s with disk := s.disk.renameMain main }, .getWal main k)
    | none, none => some ({ s with disk := s.disk.renameMain main }, .dropWal main)
  | .getWal main wal =>
    -- the main file is replaced by now, and the WAL of the old one still in place
    match download s db wal o.fault with
    | .ok c => some (s, .renameWal main c)
    | .error e => some (s, .failed e)
  | .renameWal main wal =>
    match o.fault with
    | some e => some (s, .failed (.internal s!"atomic replace: {e}"))
    | none => some ({ s with disk := s.disk.renameWal wal }, .check (main ++ wal))
  | .dropWal main =>
    -- an error of this removal is ignored
    match o.fault with
    | some _ => some (s, .check (main ++ s.disk.walFile))
    | none => some ({ s with disk := s.disk.removeWal }, .check main)
  | .check placed =>
    if s.holder = none then
      match s.openConn o with
      | (.error e, s) => some (s, .failed e)
      | (.ok (), s) =>
        match o.integrity with
        | .error e => some (s, .failed (.internal s!"integrity check: {e}"))
        | .ok res =>
          if trim res.toList = "ok".toList then some (s, .clear placed)
          else some (s, .closeBad res)
    else none
  | .closeBad res =>
    if s.holder = none then
      match o.fault with
      | some e => some (s, .failed (.internal s!"data node task panicked: {e}"))
      | none => some (s.closeConn o.checkpoint,
          .failed (.internal s!"restored database integrity check failed: {res}"))
    else none
  | .clear placed => some (s, .invalidate placed s.cached)
  | .invalidate placed keys => some (s.invalidateAll keys, .done placed)
  | .done _ => none
  | .failed _ => none

/-! ## The machine -/

inductive Request where
  | read (r : KvRequest)
  | write (r : WriteRequest)
  deriving DecidableEq, Repr

abbrev NodeProg (R : Type) := Prog NodeOp (NodeOp.Res R) (Result (KvReply ⊕ R))

inductive Task (R : Type) where
  | arrived (r : Request)
  | fast (p : FastM (KvReply ⊕ Closure))
  /-- A read that goes to SQLite with what it has found in the cache. -/
  | query (c : Closure)
  /-- The program of an entry point; the flag says that its closure has run. -/
  | entry (ran : Bool) (p : NodeProg R)
  | running (c : Closure) (p : Prog KvOp KvOp.Res (Result KvReply))
      (k : Result KvReply → NodeProg R)
  | answered (res : Result (KvReply ⊕ R))
  | reset (pc : ResetPc)
  | restore (pc : RestorePc)

section Machine

variable {U R : Type} [Inhabited U] (quota : QuotaConfig)
  (engine : SqlCall → Nat → U → Result R × U) (db : DatabaseId)

/-- `with_conn`: the mutex, the connection, and then `run`. -/
def withConn {α : Type} (s : CellNode) (k : Result α → NodeProg R) (o : Choice)
    (run : CellNode → CellNode × Task R) : Option (CellNode × Task R) :=
  if s.holder = none then
    match s.openConn o with
    | (.error e, s) => some (s, .entry true (k (.error e)))
    | (.ok (), s) => some (run s)
  else none

def startClosure (s : CellNode) (i : Nat) (c : Closure)
    (k : Result KvReply → NodeProg R) (o : Choice) : Option (CellNode × Task R) :=
  withConn s k o fun s =>
    ({ s with holder := some i, reads := [], stale := none }, .running c c.prog.run k)

/-- A SQL request runs in one piece. -/
def runSql (s : CellNode) (i : Nat) (q : SqlCall) (k : Result R → NodeProg R)
    (o : Choice) : Option (CellNode × Task R) :=
  withConn s k o fun s =>
    let r := engine q o.sql (database engine s.disk.contents).2
    (s.commitAll [⟨some i, .sql q o.sql⟩], .entry true (k r.1))

def act (s : CellNode) (i : Nat) (t : Task R) (o : Choice) : Option (CellNode × Task R) :=
  match t with
  | .arrived (.read r) => some (s, .fast (fastPath r))
  | .arrived (.write r) => some (s, .entry false (entry quota r).run)
  | .fast (.call op k) =>
    some ((s.callCache engine db op o.outside).2,
      .fast (k (s.callCache engine db op o.outside).1))
  | .fast (.ret (.inl reply)) => some (s, .answered (.ok (.inl reply)))
  | .fast (.ret (.inr c)) => some (s, .query c)
  | .query c => startClosure s i c (fun r => .ret (r.map .inl)) o
  | .entry ran (.call (.checkGeneration generation) k) =>
    some (s, .entry ran (k ((s.asNode engine db).checkGeneration db generation)))
  | .entry ran (.call .checkWritable k) =>
    some (s, .entry ran (k ((s.asNode engine db).checkWritable db)))
  | .entry ran (.call .storageBytes k) => some (s, .entry ran (k o.bytes))
  | .entry ran (.call .acquireLock k) => some (s, .entry ran (k ()))
  | .entry _ (.call (.runClosure c) k) => startClosure s i c k o
  | .entry _ (.call (.runSql q) k) => runSql engine s i q k o
  | .entry _ (.ret res) => some (s, .answered res)
  | .running c (.call op kc) k =>
    some ((s.call engine db i op o.outside).2,
      .running c (kc (s.call engine db i op o.outside).1) k)
  | .running _ (.ret r) k =>
    some ({ s with holder := none, reads := [], stale := none }, .entry true (k r))
  | .answered _ => none
  | .reset pc => (resetStep s pc o).map fun (s, pc) => (s, .reset pc)
  | .restore pc => (restoreStep db s pc o).map fun (s, pc) => (s, .restore pc)

inductive Event where
  | tick (elapsed : Nat)
  | evict (key : String)
  /-- The connection is closed because it is idle, or to make room for another Cell. -/
  | sleep (checkpoint : Bool)
  | gc (keys : List String)
  | fence (generation : Int)
  deriving DecidableEq, Repr

def env (s : CellNode) : Event → Option CellNode
  | .tick elapsed => some { s with clock := s.clock + elapsed }
  | .evict key => some { s with cache := Function.update s.cache key none }
  | .sleep checkpoint => if s.holder = none then some (s.closeConn checkpoint) else none
  | .gc keys =>
    -- the collection visits open connections only
    if s.holder = none ∧ s.disk.conn ≠ none then
      (gcExpired (database engine s.disk.contents).1 s.clock keys).map fun _ =>
        s.commitAll [⟨none, .gc keys⟩]
    else none
  | .fence generation => some { s with generation := some generation }

def step (s : Pool CellNode Nat (Task R)) (l : PoolLabel Nat Choice Event) :
    Option (Pool CellNode Nat (Task R)) :=
  Pool.step (act quota engine db) (env engine) (fun _ t => t) s l

end Machine

end Combee.DataNode.OneCell
