import Combee.Kv.Commands

/-!
# Serving — KV commands interleaved on one data node

Each of any number of KV commands is first in its lock-free part, then waits for `with_conn`, then
runs its closure. `with_conn` holds the mutex of the connection table, so one closure runs at a
time on the node, whatever its Cell; the lock-free parts, cache evictions and the clock go on
meanwhile. The TTL garbage collection takes the same mutex.

Two ghost fields follow the closure that runs: the clock readings it has made, and the key whose
live row it has changed without having reached the cache yet.
-/

namespace Combee.Kv

open Foundation

structure KvNode where
  kv : KvState
  /-- The task whose closure is running. -/
  holder : Option Nat
  /-- The clock readings of that closure, the latest first. -/
  reads : List Int
  /-- The key whose live row that closure has changed, until it updates the cache entry. -/
  stale : Option CacheKey

inductive Task where
  | fast (db : DatabaseId) (p : FastM (KvReply ⊕ Closure))
  | waiting (db : DatabaseId) (c : Closure)
  | running (db : DatabaseId) (c : Closure) (p : Prog KvOp KvOp.Res (Result KvReply))
  | done (r : Result KvReply)

def Task.arrived (db : DatabaseId) (r : KvRequest) : Task :=
  .fast db (fastPath r)

def KvState.live (s : KvState) (k : CacheKey) : Bool :=
  match s.row k with
  | some row => !isExpired row.expiresAt s.clock
  | none => false

namespace KvNode

def readsAfter (n : KvNode) (op : KvOp) (o : Outside) : List Int :=
  match op with
  | .now => (n.kv.clock + o.elapsed) :: n.reads
  | _ => n.reads

def staleAfter (n : KvNode) (db : DatabaseId) (op : KvOp) (o : Outside) : Option CacheKey :=
  match op with
  | .execute st =>
    -- a dead row has no unexpired entry, so only a change of a live one leaves the cache behind
    if o.fault = none ∧ 0 < (st.exec (n.kv.tables db)).1 ∧
        (n.kv.tick o.elapsed).live ⟨db, st.key⟩ = true then
      some ⟨db, st.key⟩
    else n.stale
  | .put key _ => if n.stale = some ⟨db, key⟩ then none else n.stale
  | .invalidate key => if n.stale = some ⟨db, key⟩ then none else n.stale
  | _ => n.stale

/-- One call of the running closure, with the ghost fields kept up to date. -/
def call (db : DatabaseId) (n : KvNode) (op : KvOp) (o : Outside) : op.Res × KvNode :=
  ((answer db n.kv op o).1,
    { n with
      kv := (answer db n.kv op o).2
      reads := n.readsAfter op o
      stale := n.staleAfter db op o })

section Call

variable {db : DatabaseId} {n : KvNode} {o : Outside} {key : String} {st : Stmt} {e : String}

lemma call_now : n.call db .now o = (n.kv.clock + o.elapsed,
    { n with kv := n.kv.tick o.elapsed, reads := (n.kv.clock + o.elapsed) :: n.reads }) := rfl

lemma call_readRow_fault (ho : o.fault = some e) :
    n.call db (.readRow key) o = (.error (.sql e), { n with kv := n.kv.tick o.elapsed }) := by
  unfold call answer
  rw [ho]
  rfl

lemma call_readRow_ok (ho : o.fault = none) :
    n.call db (.readRow key) o =
      (.ok ((n.kv.tick o.elapsed).row ⟨db, key⟩), { n with kv := n.kv.tick o.elapsed }) := by
  unfold call answer
  rw [ho]
  rfl

lemma call_execute_fault (ho : o.fault = some e) :
    n.call db (.execute st) o = (.error (.sql e), { n with kv := n.kv.tick o.elapsed }) := by
  unfold call answer staleAfter
  rw [ho]
  rfl

lemma call_execute_ok (ho : o.fault = none) :
    n.call db (.execute st) o = (.ok (st.exec (n.kv.tables db)).1,
      { n with
        kv := (n.kv.tick o.elapsed).setTable db (st.exec (n.kv.tables db)).2
        stale := n.staleAfter db (.execute st) o }) := by
  unfold call answer
  rw [ho]
  rfl

lemma call_put {v : CachedValue} : n.call db (.put key v) o = ((),
    { n with
      kv := (n.kv.tick o.elapsed).setEntry ⟨db, key⟩ (some v)
      stale := if n.stale = some ⟨db, key⟩ then none else n.stale }) := rfl

lemma call_invalidate : n.call db (.invalidate key) o = ((),
    { n with
      kv := (n.kv.tick o.elapsed).setEntry ⟨db, key⟩ none
      stale := if n.stale = some ⟨db, key⟩ then none else n.stale }) := rfl

end Call

end KvNode

def act (n : KvNode) (i : Nat) (t : Task) (o : Outside) : Option (KvNode × Task) :=
  match t with
  | .fast db (.call op k) =>
    some ({ n with kv := (answerCache db n.kv op o).2 },
      .fast db (k (answerCache db n.kv op o).1))
  | .fast _ (.ret (.inl reply)) => some (n, .done (.ok reply))
  | .fast db (.ret (.inr c)) => some (n, .waiting db c)
  | .waiting db c =>
    if n.holder = none then
      -- the mutex of the connection table is taken for the whole closure
      some ({ n with holder := some i, reads := [], stale := none }, .running db c c.prog.run)
    else none
  | .running db c (.call op k) => some ((n.call db op o).2, .running db c (k (n.call db op o).1))
  | .running _ _ (.ret r) => some ({ n with holder := none, reads := [], stale := none }, .done r)
  | .done _ => none

inductive Event where
  | tick (elapsed : Nat)
  | evict (k : CacheKey)
  | gc (db : DatabaseId) (keys : List String)
  deriving DecidableEq, Repr

/-- Rows removed by one garbage collection of a Cell. -/
def gcLimit : Nat := 1000

def expiredAt (t : KvTable) (now : Int) (key : String) : Bool :=
  match t.lookup key with
  | some row => isExpired row.expiresAt now
  | none => false

/-- `gc_expired`: delete at most `gcLimit` expired rows; SQLite chooses which. -/
def gcExpired (t : KvTable) (now : Int) (keys : List String) : Option KvTable :=
  if keys.length ≤ gcLimit ∧ keys.all (expiredAt t now) then
    some (keys.foldl (fun t key => t.erase key) t)
  else none

def env (n : KvNode) : Event → Option KvNode
  | .tick elapsed => some { n with kv := n.kv.tick elapsed }
  | .evict k => some { n with kv := n.kv.setEntry k none }
  | .gc db keys =>
    -- the collection runs under the same mutex
    if n.holder = none then
      (gcExpired (n.kv.tables db) n.kv.clock keys).map fun t =>
        { n with kv := n.kv.setTable db t }
    else none

/-- The KV commands of one data node, interleaved. -/
def step (s : Pool KvNode Nat Task) (l : PoolLabel Nat Outside Event) :
    Option (Pool KvNode Nat Task) :=
  Pool.step act env (fun _ t => t) s l

/-! ## Coherence -/

/-- Every unexpired cache entry agrees with its row, with the exception of the key `x`. -/
def CoherentExcept (x : Option CacheKey) (s : KvState) : Prop :=
  ∀ k v, s.cache k = some v → isExpired v.expiresAt s.clock = false → x ≠ some k →
    Agrees (s.row k) v

/-- No closure is running, every command has just arrived, and the cache is coherent. -/
structure Fresh (s : Pool KvNode Nat Task) : Prop where
  holder : s.shared.holder = none
  stale : s.shared.stale = none
  coherent : CoherentExcept none s.shared.kv
  arrived : ∀ i, ∃ db r, s.procs i = .arrived db r

/-! ## The second clock read of a SET -/

/-- Whether the clock reading number `n` is the second one for the same key, as in SET and MSET;
only a key with a ttl depends on it. -/
def Closure.rereads : Closure → Nat → Bool
  | .set _ _ ttlSeconds _ _, n => n == 1 && ttlSeconds.isSome
  | .mset items, n => n % 2 == 1 && (items[n / 2]?.any fun it => it.ttlSeconds.isSome)
  | _, _ => false

/-- A step at which the second clock read for a key, if it is one, shows the second of the first. -/
def SameSecond (s : Pool KvNode Nat Task) : PoolLabel Nat Outside Event → Prop
  | .proc i o =>
    match s.procs i with
    | .running _ c (.call .now _) =>
      c.rereads s.shared.reads.length = true →
        s.shared.reads.head? = some (s.shared.kv.clock + o.elapsed)
    | _ => True
  | .env _ => True

end Combee.Kv
