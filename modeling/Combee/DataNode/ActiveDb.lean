import Combee.DataNode.Writes
import Combee.Storage.Disk

/-!
# ActiveDb — the calls of `ActiveDbManager` on one Cell, one await point at a time

A call of the manager is a future, which waits for the lock of the Cell and then for its worker, and
the worker, a closure that goes on when the future is dropped. The lock is looked up in a map, and
`close_database` and `delete_database` take it out of the map again, so several lock objects of one
Cell can be alive at once. The workers take turns by the mutex `conns`, which they hold while they
run statements. `timeout_sql` drops the future of a SQL request and then interrupts the statement
that is running on the connection of the Cell, whosever it is.

The closures of KV commands and backups are arbitrary programs of statements; the limit on open
connections and the other users of `conns` are left to the environment.
-/

namespace Combee.DataNode.ActiveDb

open Foundation Storage

/-! ## Statements and closures -/

inductive Stmt where
  | beginTx
  | user (sql : String)
  | commitTx
  deriving DecidableEq, Repr

namespace Stmt

def Res (R : Type) : Stmt → Type
  | beginTx => Result Unit
  | user _ => Result R
  | commitTx => Result Unit

def failed {R : Type} (e : CombeeError) : (st : Stmt) → st.Res R
  | beginTx => Except.error e
  | user _ => Except.error e
  | commitTx => Except.error e

end Stmt

/-- A closure for `with_conn`: statements, each with what follows on its answer. -/
abbrev SqlProg (R : Type) := Prog Stmt (Stmt.Res R) (Result (List R))

section Closures

variable {R : Type}

def executeSqlQuota (sql : String) : SqlProg R :=
  .call (.user sql) fun (r : Result R) => .ret (r.map fun x => [x])

def runStatements : List String → List R → SqlProg R
  | [], results =>
    .call .commitTx fun (r : Result Unit) => .ret (r.map fun _ => results.reverse)
  | sql :: rest, results =>
    .call (.user sql) fun (r : Result R) => match r with
      | .ok x => runStatements rest (x :: results)
      | .error e => .ret (.error e)

def executeTransaction (statements : List String) : SqlProg R :=
  if statements.isEmpty then
    .ret (.error (.invalidRequest "transaction requires at least one statement"))
  else
    .call .beginTx fun (r : Result Unit) => match r with
      | .ok _ => runStatements statements []
      | .error e => .ret (.error e)

def sqlClosure : SqlCall → SqlProg R
  | .execute sql => executeSqlQuota sql
  | .transaction statements => executeTransaction statements

end Closures

/-! ## The state -/

structure Commit where
  call : Nat
  statements : List (String × Nat)
  deriving DecidableEq, Repr

structure Manager where
  /-- The lock object under the Cell in `db_locks`. -/
  lockMap : Option Nat
  nextLock : Nat
  /-- The call that holds a lock object. -/
  holders : Nat → Option Nat
  /-- The call whose worker holds the mutex `conns`. -/
  conns : Option Nat
  disk : Disk Commit
  /-- The statements of the open transaction. -/
  tx : Option (List (String × Nat))
  /-- The call whose statement is running, and whether it has been interrupted. -/
  statement : Option Nat
  interrupted : Bool

/-- A call of the manager; SQL requests alone are under a timeout, and maintenance alone takes no
lock. -/
inductive Job (R : Type) where
  | withConn (closure : SqlProg R)
  | sql (q : SqlCall)
  | maintenance (closure : SqlProg R)
  | closeDatabase
  | deleteDatabase

inductive Future (R : Type) where
  | start
  /-- The call has cloned the lock object and waits for it. -/
  | waiting (lock : Nat)
  /-- The call has the guard and waits for its worker. -/
  | holding (lock : Nat)
  | awaiting
  /-- The timeout has dropped the future, and the interrupt is still to come. -/
  | expired (limit : String)
  | answered (res : Result (List R))

/-- A file of the Cell; `-shm` holds no data and is left out. -/
inductive File where
  | main
  | wal
  deriving DecidableEq, Repr

def File.suffix : File → String
  | main => ""
  | wal => "-wal"

inductive Worker (R : Type) where
  | unspawned
  | queued
  /-- Between two statements, with `conns` locked. -/
  | inside (p : SqlProg R)
  | running (st : Stmt) (k : st.Res R → SqlProg R)
  | removing (files : List File)
  | unlinking
  | finished (res : Result (List R))

def Worker.executing {R : Type} : Worker R → Bool
  | inside _ => true
  | running _ _ => true
  | _ => false

structure Call (R : Type) where
  job : Job R
  future : Future R
  worker : Worker R

/-- Who takes the next step of a call. -/
inductive Side where
  | future
  | worker
  | timer
  deriving DecidableEq, Repr

structure Choice where
  side : Side
  sql : Nat := 0
  openFault : Option CombeeError := none
  fault : Option String := none
  checkpoint : Bool := true

namespace Manager

variable {U R : Type} [Inhabited U] (engine : String → Nat → U → Result (R × U))

def apply (u : U) (statements : List (String × Nat)) : U :=
  statements.foldl (fun u (sql, choice) => ((engine sql choice u).map Prod.snd).toOption.getD u) u

def current (s : Manager) : U :=
  apply engine (s.disk.contents.foldl (fun u c => apply engine u c.statements) default)
    (s.tx.getD [])

/-- A statement has been carried out: outside a transaction it is committed at once. -/
def record (s : Manager) (i : Nat) (x : String × Nat) : Manager :=
  match s.tx with
  | some xs => { s with tx := some (xs ++ [x]) }
  | none => { s with disk := s.disk.commit ⟨i, [x]⟩ }

def execute (s : Manager) (i : Nat) (c : Choice) : (st : Stmt) → st.Res R × Manager
  | .beginTx =>
    match c.fault with
    | some e => (Except.error (.sql e), s)
    | none => (Except.ok (), { s with tx := some [] })
  | .user sql =>
    match engine sql c.sql (s.current engine) with
    | .error e => (Except.error e, s)
    | .ok (r, _) => (Except.ok r, s.record i (sql, c.sql))
  | .commitTx =>
    match c.fault with
    | some e => (Except.error (.sql e), s)
    | none => (Except.ok (), { s with disk := s.disk.commit ⟨i, s.tx.getD []⟩, tx := none })

lemma execute_frame (s : Manager) (i : Nat) (c : Choice) (st : Stmt) :
    (s.execute engine i c st).2.lockMap = s.lockMap ∧
      (s.execute engine i c st).2.holders = s.holders ∧
      (s.execute engine i c st).2.conns = s.conns := by
  cases st with
  | beginTx | commitTx =>
    simp only [execute]
    split <;> exact ⟨rfl, rfl, rfl⟩
  | user sql =>
    simp only [execute, record]
    split
    · exact ⟨rfl, rfl, rfl⟩
    · split <;> exact ⟨rfl, rfl, rfl⟩

lemma execute_conn (s : Manager) (i : Nat) (c : Choice) (st : Stmt) (h : s.disk.conn ≠ none) :
    (s.execute engine i c st).2.disk.conn = s.disk.conn := by
  cases st with
  | beginTx =>
    simp only [execute]
    split <;> rfl
  | user sql =>
    simp only [execute, record]
    split
    · rfl
    · split
      · rfl
      · exact Disk.conn_commit_of_open h _
  | commitTx =>
    simp only [execute]
    split
    · rfl
    · exact Disk.conn_commit_of_open h _

def closeConn (s : Manager) (checkpoint : Bool) : Manager :=
  { s with disk := if checkpoint then s.disk.close else s.disk.crash }

/-- `interrupt` aborts the statement that is running, if there is one. -/
def interrupt (s : Manager) : Manager :=
  { s with interrupted := s.interrupted || s.statement.isSome }

def release (s : Manager) (lock : Nat) : Manager :=
  { s with holders := Function.update s.holders lock none }

end Manager

/-! ## The steps of a call -/

section Steps

variable {U R : Type} [Inhabited U] (engine : String → Nat → U → Result (R × U))
  (path : String) (limit : Option String)

def timeoutError (limit : String) : CombeeError :=
  .sql s!"query timed out after {limit} (interrupted)"

def dbLock (s : Manager) : Nat × Manager :=
  match s.lockMap with
  | some l => (l, s)
  | none => (s.nextLock, { s with lockMap := some s.nextLock, nextLock := s.nextLock + 1 })

def pollFuture (s : Manager) (i : Nat) (t : Call R) : Option (Manager × Call R) :=
  match t.future, t.worker with
  | .start, _ =>
    match t.job with
    -- the maintenance task spawns its worker without the lock
    | .maintenance _ => some (s, { t with future := .awaiting, worker := .queued })
    | _ => some ((dbLock s).2, { t with future := .waiting (dbLock s).1 })
  | .waiting l, _ =>
    if s.holders l = none then
      some ({ s with holders := Function.update s.holders l (some i) },
        { t with future := .holding l, worker := .queued })
    else none
  | .holding l, .finished res => some (s.release l, { t with future := .answered res })
  | .awaiting, .finished res => some (s, { t with future := .answered res })
  | .expired limit, _ =>
    some (s.interrupt, { t with future := .answered (.error (timeoutError limit)) })
  | _, _ => none

/-- The timeout drops the future, and with it the guard. -/
def fireTimer (s : Manager) (t : Call R) : Option (Manager × Call R) :=
  match limit, t.job, t.future with
  | some limit, .sql _, .start => some (s, { t with future := .expired limit })
  | some limit, .sql _, .waiting _ => some (s, { t with future := .expired limit })
  | some limit, .sql _, .holding l => some (s.release l, { t with future := .expired limit })
  | _, _, _ => none

/-- The worker of `with_conn` opens the connection if there is none. -/
def openAndRun (s : Manager) (i : Nat) (p : SqlProg R) (c : Choice) : Manager × Worker R :=
  match s.disk.conn, c.openFault with
  | none, some e => (s, .finished (.error e))
  | _, _ => ({ s with conns := some i, disk := s.disk.openConn }, .inside p)

/-- The worker gets `conns`; closing is done before anybody else gets it. -/
def enter (s : Manager) (i : Nat) (job : Job R) (c : Choice) : Manager × Worker R :=
  match job with
  | .withConn p => openAndRun s i p c
  | .sql q => openAndRun s i (sqlClosure q) c
  | .maintenance p =>
    -- the collection visits open connections only
    if s.disk.conn = none then (s, .finished (.ok []))
    else ({ s with conns := some i }, .inside p)
  | .closeDatabase => (s.closeConn c.checkpoint, .unlinking)
  | .deleteDatabase => (s.closeConn c.checkpoint, .removing [.main, .wal])

/-- One round of `remove_files`. -/
def removeFile (d : Disk Commit) (f : File) (fault : Option String) :
    Result (Disk Commit) :=
  match f, d.main, d.wal, fault with
  | .main, none, _, _ => .ok d
  | .wal, _, none, _ => .ok d
  | .main, some _, _, none => .ok d.removeMain
  | .wal, _, some _, none => .ok d.removeWal
  | _, _, _, some e => .error (.internal s!"remove {path}{f.suffix}: {e}")

def runWorker (s : Manager) (i : Nat) (job : Job R) (w : Worker R) (c : Choice) :
    Option (Manager × Worker R) :=
  match w with
  | .unspawned => none
  | .queued => if s.conns = none then some (enter s i job c) else none
  | .inside (.call st k) =>
    some ({ s with statement := some i, interrupted := false }, .running st k)
  | .running st k =>
    if s.interrupted then
      some ({ s with statement := none, interrupted := false },
        .inside (k (st.failed (.sql "interrupted"))))
    else
      some ({ (s.execute engine i c st).2 with statement := none },
        .inside (k (s.execute engine i c st).1))
  -- a transaction that is still open is rolled back as it is dropped
  | .inside (.ret res) => some ({ s with conns := none, tx := none }, .finished res)
  | .removing (f :: fs) =>
    match removeFile path s.disk f c.fault with
    | .ok d => some ({ s with disk := d }, .removing fs)
    | .error e => some (s, .finished (.error e))
  | .removing [] => some (s, .unlinking)
  | .unlinking => some ({ s with lockMap := none }, .finished (.ok []))
  | .finished _ => none

def act (s : Manager) (i : Nat) (t : Call R) (c : Choice) : Option (Manager × Call R) :=
  match c.side with
  | .future => pollFuture s i t
  | .worker => (runWorker engine path s i t.job t.worker c).map fun (s, w) =>
    (s, { t with worker := w })
  | .timer => fireTimer limit s t

/-- The connection is closed because it is idle, or to make room for another Cell. -/
inductive Event where
  | sleep (checkpoint : Bool)
  deriving DecidableEq, Repr

def env (s : Manager) : Event → Option Manager
  | .sleep checkpoint => if s.conns = none then some (s.closeConn checkpoint) else none

def step : Pool Manager Nat (Call R) → PoolLabel Nat Choice Event →
    Option (Pool Manager Nat (Call R)) :=
  Pool.step (act engine path limit) env fun _ t => t

/-! ## What a step can do -/

inductive Polls (s : Manager) (i : Nat) (job : Job R) :
    Future R → Worker R → Manager → Future R → Worker R → Prop where
  | tick {p w} (hjob : job = .maintenance p) : Polls s i job .start w s .awaiting .queued
  | found {l w} (hmap : s.lockMap = some l) : Polls s i job .start w s (.waiting l) w
  | created {w} (hmap : s.lockMap = none) :
      Polls s i job .start w { s with lockMap := some s.nextLock, nextLock := s.nextLock + 1 }
        (.waiting s.nextLock) w
  | acquired {l w} (free : s.holders l = none) :
      Polls s i job (.waiting l) w { s with holders := Function.update s.holders l (some i) }
        (.holding l) .queued
  | released {l res} :
      Polls s i job (.holding l) (.finished res) (s.release l) (.answered res) (.finished res)
  | ended {res} : Polls s i job .awaiting (.finished res) s (.answered res) (.finished res)
  | interrupts {limit w} :
      Polls s i job (.expired limit) w s.interrupt (.answered (.error (timeoutError limit))) w

variable {s s' : Manager} {i : Nat} {t t' : Call R}

lemma pollFuture_polls (h : pollFuture s i t = some (s', t')) :
    t'.job = t.job ∧ Polls s i t.job t.future t.worker s' t'.future t'.worker := by
  obtain ⟨job, future, worker⟩ := t
  simp only [pollFuture] at h
  split at h
  · split at h
    · rename_i p
      cases h
      exact ⟨rfl, .tick rfl⟩
    · cases hmap : s.lockMap with
      | none =>
        simp only [dbLock, hmap] at h
        cases h
        exact ⟨rfl, .created hmap⟩
      | some l =>
        simp only [dbLock, hmap] at h
        cases h
        exact ⟨rfl, .found hmap⟩
  · split at h
    · rename_i free
      cases h
      exact ⟨rfl, .acquired free⟩
    · cases h
  · cases h
    exact ⟨rfl, .released⟩
  · cases h
    exact ⟨rfl, .ended⟩
  · cases h
    exact ⟨rfl, .interrupts⟩
  · cases h

inductive Expires (s : Manager) : Future R → Manager → Future R → Prop where
  | start {limit : String} : Expires s .start s (.expired limit)
  | waiting {l : Nat} {limit : String} : Expires s (.waiting l) s (.expired limit)
  | holding {l : Nat} {limit : String} : Expires s (.holding l) (s.release l) (.expired limit)

lemma fireTimer_expires (h : fireTimer limit s t = some (s', t')) :
    t'.job = t.job ∧ t'.worker = t.worker ∧ Expires s t.future s' t'.future := by
  obtain ⟨job, future, worker⟩ := t
  simp only [fireTimer] at h
  split at h <;> cases h
  · exact ⟨rfl, rfl, .start⟩
  · exact ⟨rfl, rfl, .waiting⟩
  · exact ⟨rfl, rfl, .holding⟩

/-- The closure that a call runs on the connection. -/
def Job.closure : Job R → Option (SqlProg R)
  | .withConn p => some p
  | .sql q => some (sqlClosure q)
  | .maintenance p => some p
  | .closeDatabase => none
  | .deleteDatabase => none

inductive Works (s : Manager) (i : Nat) (job : Job R) :
    Worker R → Manager → Worker R → Prop where
  /-- The call fails to open the Cell, or there is nothing to visit. -/
  | refused {res} : Works s i job .queued s (.finished res)
  | opened {p} (free : s.conns = none) (hjob : ∀ p, job ≠ .maintenance p)
      (hp : job.closure = some p) :
      Works s i job .queued { s with conns := some i, disk := s.disk.openConn } (.inside p)
  | visits {p} (free : s.conns = none) (hopen : s.disk.conn ≠ none) (hp : job.closure = some p) :
      Works s i job .queued { s with conns := some i } (.inside p)
  | closes {checkpoint} (free : s.conns = none) (hjob : job = .closeDatabase) :
      Works s i job .queued (s.closeConn checkpoint) .unlinking
  | deletes {checkpoint} (free : s.conns = none) (hjob : job = .deleteDatabase) :
      Works s i job .queued (s.closeConn checkpoint) (.removing [.main, .wal])
  | starts {st k} :
      Works s i job (.inside (.call st k)) { s with statement := some i, interrupted := false }
        (.running st k)
  | aborts {st k} (hit : s.interrupted = true) :
      Works s i job (.running st k) { s with statement := none, interrupted := false }
        (.inside (k (st.failed (.sql "interrupted"))))
  | completes {st k c} (hit : s.interrupted = false) :
      Works s i job (.running st k) { (s.execute engine i c st).2 with statement := none }
        (.inside (k (s.execute engine i c st).1))
  | returns {res} :
      Works s i job (.inside (.ret res)) { s with conns := none, tx := none } (.finished res)
  | removes {f fs d} (hconn : d.conn = s.disk.conn) :
      Works s i job (.removing (f :: fs)) { s with disk := d } (.removing fs)
  | stuck {f fs e} : Works s i job (.removing (f :: fs)) s (.finished (.error e))
  | removed : Works s i job (.removing []) s .unlinking
  | unlinks : Works s i job .unlinking { s with lockMap := none } (.finished (.ok []))

variable {c : Choice}

lemma openAndRun_works {job : Job R} {p : SqlProg R} {w' : Worker R}
    (free : s.conns = none) (hjob : ∀ p, job ≠ .maintenance p) (hp : job.closure = some p)
    (h : openAndRun s i p c = (s', w')) : Works engine s i job .queued s' w' := by
  unfold openAndRun at h
  split at h <;> cases h
  · exact .refused
  · exact .opened free hjob hp

lemma removeFile_conn {d d' : Disk Commit} {f : File} {fault : Option String}
    (h : removeFile path d f fault = .ok d') : d'.conn = d.conn := by
  unfold removeFile at h
  split at h <;> cases h <;> rfl

lemma runWorker_works {job : Job R} {w w' : Worker R}
    (h : runWorker engine path s i job w c = some (s', w')) : Works engine s i job w s' w' := by
  unfold runWorker at h
  split at h
  · cases h
  · split at h
    · rename_i free
      cases job with
      | withConn | sql => exact openAndRun_works engine free (by simp) rfl (Option.some.inj h)
      | maintenance p =>
        simp only [enter] at h
        split at h <;> rename_i hconn <;> cases h
        · exact .refused
        · exact .visits free hconn rfl
      | closeDatabase =>
        cases h
        exact .closes free rfl
      | deleteDatabase =>
        cases h
        exact .deletes free rfl
    · cases h
  · cases h
    exact .starts
  · split at h <;> rename_i hit <;> cases h
    · exact .aborts hit
    · exact .completes (by simpa using hit)
  · cases h
    exact .returns
  · split at h
    · rename_i hremove
      cases h
      exact .removes (removeFile_conn path hremove)
    · cases h
      exact .stuck
  · cases h
    exact .removed
  · cases h
    exact .unlinks
  · cases h

/-- A call moves by a poll of its future, a step of its worker or its timer. -/
lemma act_cases (h : act engine path limit s i t c = some (s', t')) :
    t'.job = t.job ∧
      (c.side = .future ∧ Polls s i t.job t.future t.worker s' t'.future t'.worker ∨
      c.side = .worker ∧ t'.future = t.future ∧
        runWorker engine path s i t.job t.worker c = some (s', t'.worker) ∨
      c.side = .timer ∧ t'.worker = t.worker ∧ Expires s t.future s' t'.future) := by
  simp only [act] at h
  split at h
  · exact ⟨(pollFuture_polls h).1, .inl ⟨‹_›, (pollFuture_polls h).2⟩⟩
  · obtain ⟨w, hw, rfl⟩ := of_map_step h
    exact ⟨rfl, .inr (.inl ⟨‹_›, rfl, hw⟩)⟩
  · exact ⟨(fireTimer_expires limit h).1, .inr (.inr ⟨‹_›, (fireTimer_expires limit h).2⟩)⟩

lemma env_cases {e : Event} (h : env s e = some s') :
    s.conns = none ∧ ∃ checkpoint, s' = s.closeConn checkpoint := by
  cases e with
  | sleep checkpoint =>
    simp only [env] at h
    split at h <;> cases h
    exact ⟨‹_›, checkpoint, rfl⟩

end Steps

structure Start {R : Type} (s : Pool Manager Nat (Call R)) : Prop where
  future : ∀ i, (s.procs i).future = .start
  worker : ∀ i, (s.procs i).worker = .unspawned

/-! ## Labels for example runs -/

def noEngine (_ : String) (_ : Nat) (u : Unit) : Result (Unit × Unit) :=
  .ok ((), u)

def poll (i : Nat) : PoolLabel Nat Choice Event :=
  .proc i { side := .future }

def work (i : Nat) : PoolLabel Nat Choice Event :=
  .proc i { side := .worker }

end Combee.DataNode.ActiveDb
