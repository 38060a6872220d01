import Combee.Storage.Archive
import Combee.Storage.Disk

/-!
# World — one Cell across the cluster

The state that the control plane and the data nodes share about one Cell: its record in the metadata
store, and on every data node the fence generation, the database files and the cached entries; the
routing state of every API server; and the Cell's archives in the object store.

Calls between processes may fail, the health registry may say anything about a node, a cached route
may have gone stale, and the milliseconds read by different nodes are unrelated. All of that is a
`Choice` made by the outside at every step.
-/

namespace Combee.Cluster

open Storage
open Function (update)

/-! ## The record -/

/-- The part of a database record that routing, fencing and replication read. -/
structure DatabaseRecord where
  id : DatabaseId
  storageNodeId : Option NodeId
  replicaNodeId : Option NodeId
  generation : Int
  deriving DecidableEq, Repr

namespace DatabaseRecord

/-- `create_database`: generation 0 and no replica. -/
def create (id : DatabaseId) (storage : Option NodeId) : DatabaseRecord :=
  ⟨id, storage, none, 0⟩

def setReplicaNode (r : DatabaseRecord) (replica : Option NodeId) : DatabaseRecord :=
  { r with replicaNodeId := replica }

/-- `promote_replica`: the replica becomes the storage node. -/
def promoteReplica (r : DatabaseRecord) : Result DatabaseRecord :=
  match r.replicaNodeId with
  | none => .error (.internal s!"cell {r.id} has no replica to promote")
  | some replica => .ok { r with
      storageNodeId := some replica
      replicaNodeId := none
      generation := wrapI64 (r.generation + 1) }

def migrateDatabase (r : DatabaseRecord) (newNode : NodeId) : DatabaseRecord :=
  { r with storageNodeId := some newNode, generation := wrapI64 (r.generation + 1) }

def resetDatabase (r : DatabaseRecord) : DatabaseRecord :=
  { r with generation := wrapI64 (r.generation + 1) }

end DatabaseRecord

/-! ## Routing -/

/-- A remote client: the node it reaches, and whether a failed call drops the Cell's cached
route. -/
structure Client where
  node : NodeId
  hook : Bool
  deriving DecidableEq, Repr

/-- The routing state of one API server, for one Cell. -/
structure Provider where
  /-- The remote clients, by the node they were made for. -/
  clients : NodeId → Option Client
  /-- The cached storage node of the Cell. -/
  route : Option NodeId

structure Choice where
  /-- The call of this step (metadata, RPC, object store, SQLite) succeeds. -/
  ok : Bool := true
  /-- The cached route is younger than `ROUTE_CACHE_TTL`. -/
  fresh : Bool := true
  /-- The nodes whose address the registry gives out. -/
  healthy : NodeId → Bool := fun _ => true
  /-- The milliseconds since the epoch that are read. -/
  ms : Nat := 0
  /-- The write leaves an entry in the cache. -/
  cached : Bool := true

/-- How far the authoritative part of `client_for` has come. -/
inductive Resolved where
  | client (c : Client)
  | retry (n : NodeId)
  | failed (e : CombeeError)
  deriving DecidableEq, Repr

def noStorageNode : CombeeError :=
  .internal "database has no storage node assigned"

def unavailable (n : NodeId) : CombeeError :=
  .internal s!"data node {n} unavailable"

namespace Provider

/-- `make_client(db, node_id, addr)`: a client for the address of `target`, stored under `key`. -/
def makeClient (p : Provider) (key target : NodeId) : Client × Provider :=
  (⟨target, true⟩, { p with clients := update p.clients key (some ⟨target, true⟩) })

/-- The first part of `client_for`: a fresh cached route answers unless its node is gone. -/
def lookupRoute (p : Provider) (ch : Choice) : Option Client × Provider :=
  match p.route with
  | none => (none, p)
  | some n =>
    if ch.fresh then
      match p.clients n with
      | some c => (some c, p)
      | none =>
        if ch.healthy n then
          let (c, p) := p.makeClient n n
          (some c, p)
        else (none, { p with route := none })
    else (none, p)

/-- The authoritative part: read the record, cache the route, make a client. -/
def resolve (p : Provider) (localNode : Option NodeId) (r : DatabaseRecord) (ch : Choice) :
    Resolved × Provider :=
  match r.storageNodeId with
  | some n =>
    if ch.healthy n then
      let (c, p) := { p with route := some n }.makeClient n n
      (.client c, p)
    else (.retry n, { p with route := none })
  | none =>
    match localNode with
    | some n => (.client ⟨n, false⟩, p)
    | none => (.failed noStorageNode, p)

/-- The one retry: the client for the node read now is stored under `n`, the node read first. -/
def retry (p : Provider) (n : NodeId) (r : DatabaseRecord) (ch : Choice) : Resolved × Provider :=
  match r.storageNodeId with
  | some n₂ =>
    if ch.healthy n₂ then
      -- the source passes the first node's id together with the second node's address
      let (c, p) := { p with route := some n₂ }.makeClient n n₂
      (.client c, p)
    else (.failed (unavailable n₂), { p with route := some n₂ })
  | none => (.failed noStorageNode, p)

def clientForNode (p : Provider) (n : NodeId) (ch : Choice) :
    Result Client × Provider :=
  if ch.healthy n then
    match p.clients n with
    -- a client made here has no error hook
    | some c => (.ok c, p)
    | none => (.ok ⟨n, false⟩, { p with clients := update p.clients n (some ⟨n, false⟩) })
  else (.error (unavailable n), p)

/-- A call that did not reach its node drops the cached route, if the client has the hook. -/
def rpcFailed (p : Provider) (c : Client) : Provider :=
  if c.hook then { p with route := none } else p

end Provider

/-! ## The world -/

/-- The writes in an archived file, and (ghost) its node and the generation of the record at that
time. -/
structure Archived where
  bytes : List Nat
  node : NodeId
  generation : Int
  deriving DecidableEq, Repr

/-- One Cell across the cluster. A write is named by the index of the process that makes it. -/
structure World where
  record : DatabaseRecord
  /-- The fence generation of each node, in memory only. -/
  fences : NodeId → Option Int
  disks : NodeId → Disk Nat
  /-- The writes whose effect each node may still serve from its cache. -/
  caches : NodeId → List Nat
  apis : Nat → Provider
  store : ObjectStore Archived
  /-- The node that serves Cells without a storage node. -/
  localNode : Option NodeId

namespace World

def setRecord (w : World) (r : DatabaseRecord) : World :=
  { w with record := r }

def fenceCell (w : World) (n : NodeId) (generation : Int) : World :=
  { w with fences := update w.fences n (some generation) }

/-- `check_generation` on the node `n`. -/
def admits (w : World) (n : NodeId) (generation : Int) : Bool :=
  generation == (w.fences n).getD 0

def setDisk (w : World) (n : NodeId) (d : Disk Nat) : World :=
  { w with disks := update w.disks n d }

def setCache (w : World) (n : NodeId) (c : List Nat) : World :=
  { w with caches := update w.caches n c }

def setApi (w : World) (a : Nat) (p : Provider) : World :=
  { w with apis := update w.apis a p }

def putObject (w : World) (k : ObjKey) (o : Archived) : World :=
  { w with store := w.store.insert k o }

/-- A node restarts: the fence table, the connection and the cache are gone. -/
def restart (w : World) (n : NodeId) : World :=
  { w with
    fences := update w.fences n none
    disks := update w.disks n (w.disks n).crash
    caches := update w.caches n [] }

/-- What a reader of the node `n` can still see. -/
def readable (w : World) (n : NodeId) : List Nat :=
  (w.disks n).contents ++ w.caches n

end World

end Combee.Cluster
