import Combee.Cluster.World
import Combee.Foundation.Machine

/-!
# Processes — what runs in the cluster, step by step

Client writes, `failover_cell`, the periodic replica loop, the periodic incremental-backup loop,
`admin_migrate_cell`, `reset_database` and `restore`, each as a machine whose steps are the points
between two awaits. A step is given the choice of the outside; an error that the source ignores is
a step like any other, and one it returns ends the process.

The pool of all processes, with data-node restarts, is `step`.
-/

namespace Combee.Cluster

open Foundation Storage

/-! ## `client_for` -/

inductive Routing where
  | cached
  | resolving
  | retrying (n : NodeId)
  | done (c : Client)
  | failed
  deriving DecidableEq, Repr

def Resolved.routing : Resolved → Routing
  | client c => .done c
  | retry n => .retrying n
  | failed _ => .failed

def routeStep (w : World) (a : Nat) (r : Routing) (ch : Choice) : Option (World × Routing) :=
  match r with
  | .cached =>
    match (w.apis a).lookupRoute ch with
    | (some c, p) => some (w.setApi a p, .done c)
    | (none, p) => some (w.setApi a p, .resolving)
  | .resolving =>
    if ch.ok then
      let (res, p) := (w.apis a).resolve w.localNode w.record ch
      some (w.setApi a p, res.routing)
    else some (w, .failed)
  | .retrying n =>
    if ch.ok then
      let (res, p) := (w.apis a).retry n w.record ch
      some (w.setApi a p, res.routing)
    else some (w, .failed)
  | .done _ => none
  | .failed => none

/-! ## Client writes -/

inductive WritePc where
  | start
  /-- The record has been read; the route is being picked. -/
  | route (generation : Int) (r : Routing)
  /-- The node has passed its generation check. -/
  | admitted (generation : Int) (n : NodeId)
  /-- The node has acknowledged; the flag says whether it was the Cell's storage node then. -/
  | acked (n : NodeId) (primary : Bool)
  | failed
  deriving DecidableEq, Repr

def writeStep (w : World) (i a : Nat) (pc : WritePc) (ch : Choice) : Option (World × WritePc) :=
  match pc with
  | .start => some (w, if ch.ok then .route w.record.generation .cached else .failed)
  -- the call carries the generation read at the start, however old it is by now
  | .route g (.done c) =>
    if ch.ok then some (w, if w.admits c.node g then .admitted g c.node else .failed)
    else some (w.setApi a ((w.apis a).rpcFailed c), .failed)
  | .route _ .failed => some (w, .failed)
  | .route g r => (routeStep w a r ch).map fun (w, r) => (w, .route g r)
  | .admitted _ n =>
    if ch.ok then
      -- the closure commits and the call returns: the client has its acknowledgement
      let w' := w.setDisk n ((w.disks n).commit i)
      some (if ch.cached then w'.setCache n (i :: w.caches n) else w',
        .acked n (decide (w.record.storageNodeId = some n)))
    else some (w, .failed)
  | .acked _ _ => none
  | .failed => none

/-! ## Pulling an archive -/

inductive FilesPc where
  | list
  | getSnap (snap : ObjKey) (wal : Option ObjKey)
  | renameMain (bytes : List Nat) (wal : Option ObjKey)
  | getWal (wal : ObjKey)
  | renameWal (bytes : List Nat)
  | removeWal
  | done (applied : Bool)
  | failed
  deriving DecidableEq, Repr

def filesStep (w : World) (n : NodeId) (pc : FilesPc) (ch : Choice) : Option (World × FilesPc) :=
  match pc with
  | .list =>
    if ch.ok then
      match latestIncr w.store with
      | none => some (w, .done false)
      | some (snap, wal) => some (w, .getSnap snap wal)
    else some (w, .failed)
  | .getSnap snap wal =>
    match ch.ok, w.store.lookup snap with
    | true, some o => some (w, .renameMain o.bytes wal)
    | _, _ => some (w, .failed)
  | .renameMain bytes wal =>
    if ch.ok then
      some (w.setDisk n ((w.disks n).renameMain bytes), match wal with
        | some k => .getWal k
        | none => .removeWal)
    else some (w, .failed)
  | .getWal wal =>
    match ch.ok, w.store.lookup wal with
    | true, some o => some (w, .renameWal o.bytes)
    | _, _ => some (w, .failed)
  | .renameWal bytes =>
    if ch.ok then some (w.setDisk n ((w.disks n).renameWal bytes), .done true)
    else some (w, .failed)
  -- the error of this removal is ignored
  | .removeWal =>
    some (if ch.ok then w.setDisk n (w.disks n).removeWal else w, .done true)
  | .done _ => none
  | .failed => none

inductive PullPc where
  | close
  | files (pc : FilesPc)
  | clear
  | done (applied : Bool)
  | failed
  deriving DecidableEq, Repr

def FilesPc.pull : FilesPc → PullPc
  | .done true => .clear
  | .done false => .done false
  | .failed => .failed
  | pc => .files pc

def pullStep (w : World) (n : NodeId) (pc : PullPc) (ch : Choice) : Option (World × PullPc) :=
  match pc with
  -- the node's role and generation are not looked at
  | .close =>
    if ch.ok then some (w.setDisk n (w.disks n).close, .files .list) else some (w, .failed)
  | .files pc => (filesStep w n pc ch).map fun (w, pc) => (w, pc.pull)
  | .clear => some (w.setCache n [], .done true)
  | .done _ => none
  | .failed => none

/-- The periodic replica loop of the node `n`: query the duty list, then pull. -/
inductive ReplicaPc where
  | idle
  | pulling (pc : PullPc)
  deriving DecidableEq, Repr

def PullPc.loop : PullPc → ReplicaPc
  | .done _ => .idle
  | .failed => .idle
  | pc => .pulling pc

def replicaStep (w : World) (n : NodeId) (pc : ReplicaPc) (ch : Choice) :
    Option (World × ReplicaPc) :=
  match pc with
  | .idle =>
    some (w, if ch.ok ∧ w.record.replicaNodeId = some n then .pulling .close else .idle)
  | .pulling pc => (pullStep w n pc ch).map fun (w, pc) => (w, pc.loop)

/-! ## `failover_cell` -/

inductive FailoverPc where
  | start
  | gotRecord (old : Option NodeId) (replica : NodeId)
  | pulling (old : Option NodeId) (replica : NodeId) (c : Client) (pc : PullPc)
  | promote (old : Option NodeId) (replica : NodeId) (c : Client)
  | promoted (old : Option NodeId) (replica : NodeId) (c : Client) (generation : Int)
  | fencedNew (old : Option NodeId) (replica : NodeId) (generation : Int)
  | fenceOld (old : NodeId) (c : Client) (replica : NodeId) (generation : Int)
  | returning (old : Option NodeId) (replica : NodeId) (generation : Int)
  | returned (old : Option NodeId) (replica : NodeId) (generation : Int)
  | failed
  deriving DecidableEq, Repr

def failoverStep (w : World) (a : Nat) (pc : FailoverPc) (ch : Choice) :
    Option (World × FailoverPc) :=
  match pc with
  | .start =>
    match ch.ok, w.record.replicaNodeId with
    | true, some replica => some (w, .gotRecord w.record.storageNodeId replica)
    | _, _ => some (w, .failed)
  | .gotRecord old replica =>
    match (w.apis a).clientForNode replica ch with
    | (.ok c, p) => some (w.setApi a p, .pulling old replica c .close)
    | (.error _, p) => some (w.setApi a p, .failed)
  | .pulling old replica c pc =>
    (pullStep w c.node pc ch).map fun (w, pc) => (w, match pc with
      | .done _ => .promote old replica c
      | .failed => .failed
      | pc => .pulling old replica c pc)
  | .promote old replica c =>
    match ch.ok, w.record.promoteReplica with
    | true, .ok r => some (w.setRecord r, .promoted old replica c r.generation)
    | _, _ => some (w, .failed)
  -- the outcome of both fence calls is ignored
  | .promoted old replica c g =>
    some (if ch.ok then w.fenceCell c.node g else w.setApi a ((w.apis a).rpcFailed c),
      .fencedNew old replica g)
  -- `invalidate_route` is called on the trait object here, whose default does nothing
  | .fencedNew old replica g =>
    match old with
    | some o =>
      if o = replica then some (w, .returning old replica g)
      else
        match (w.apis a).clientForNode o ch with
        | (.ok c, p) => some (w.setApi a p, .fenceOld o c replica g)
        | (.error _, p) => some (w.setApi a p, .returning old replica g)
    | none => some (w, .returning old replica g)
  | .fenceOld o c replica g =>
    some (if ch.ok then w.fenceCell c.node i64Max else w.setApi a ((w.apis a).rpcFailed c),
      .returning (some o) replica g)
  | .returning old replica g => some (w, .returned old replica g)
  | .returned _ _ _ => none
  | .failed => none

/-! ## The incremental-backup loop -/

/-- The periodic loop over the open databases of the node `n`. -/
inductive BackupPc where
  | idle
  | due
  | copied (snap : List Nat) (wal : Option (List Nat))
  | stamped (snap : List Nat) (wal : Option (List Nat)) (rev : Nat)
  | snapped (wal : Option (List Nat)) (rev : Nat)
  deriving DecidableEq, Repr

def backupStep (w : World) (n : NodeId) (pc : BackupPc) (ch : Choice) : Option (World × BackupPc) :=
  match pc with
  -- the loop goes over the open databases, whatever the node is to the Cell
  | .idle => some (w, if (w.disks n).conn.isSome then .due else .idle)
  | .due =>
    if ch.ok then
      let d := (w.disks n).openConn
      some (w.setDisk n d, .copied d.mainFile (d.wal.map d.wals))
    else some (w, .idle)
  | .copied snap wal => some (w, .stamped snap wal ch.ms)
  | .stamped snap wal rev =>
    if ch.ok then
      some (w.putObject (.snapshot rev) ⟨snap, n, w.record.generation⟩, .snapped wal rev)
    else some (w, .idle)
  | .snapped wal rev =>
    match wal with
    | some (b :: bs) =>
      some (if ch.ok then w.putObject (.wal rev) ⟨b :: bs, n, w.record.generation⟩ else w,
        .idle)
    | _ => some (w, .idle)

/-! ## `restore` -/

inductive RestorePc where
  | close (version : Option ObjKey)
  | files (pc : FilesPc)
  | listFull
  | getFull (k : ObjKey)
  | renameFull (bytes : List Nat)
  | removeWal
  | check
  | clear
  | done
  | failed
  deriving DecidableEq, Repr

def FilesPc.restore : FilesPc → RestorePc
  | .done true => .check
  | .done false => .listFull
  | .failed => .failed
  | pc => .files pc

def restoreStep (w : World) (n : NodeId) (pc : RestorePc) (ch : Choice) :
    Option (World × RestorePc) :=
  match pc with
  | .close version =>
    if ch.ok then
      some (w.setDisk n (w.disks n).close, match version with
        | some k => .getFull k
        | none => .files .list)
    else some (w, .failed)
  | .files pc => (filesStep w n pc ch).map fun (w, pc) => (w, pc.restore)
  | .listFull =>
    match ch.ok, lastListed w.store with
    | true, some k => some (w, .getFull k)
    | _, _ => some (w, .failed)
  | .getFull k =>
    match ch.ok, w.store.lookup k with
    | true, some o => some (w, .renameFull o.bytes)
    | _, _ => some (w, .failed)
  | .renameFull bytes =>
    if ch.ok then some (w.setDisk n ((w.disks n).renameMain bytes), .removeWal)
    else some (w, .failed)
  | .removeWal => some (if ch.ok then w.setDisk n (w.disks n).removeWal else w, .check)
  -- `PRAGMA integrity_check` on the restored database
  | .check =>
    if ch.ok then some (w.setDisk n (w.disks n).openConn, .clear)
    else some (w.setDisk n (w.disks n).openConn.close, .failed)
  | .clear => some (w.setCache n [], .done)
  | .done => none
  | .failed => none

inductive RestoreReqPc where
  | start
  | route (r : Routing)
  | restoring (n : NodeId) (pc : RestorePc)
  | returned
  | failed
  deriving DecidableEq, Repr

def restoreReqStep (w : World) (a : Nat) (pc : RestoreReqPc) (ch : Choice) :
    Option (World × RestoreReqPc) :=
  match pc with
  | .start => some (w, if ch.ok then .route .cached else .failed)
  | .route (.done c) =>
    if ch.ok then some (w, .restoring c.node (.close none))
    else some (w.setApi a ((w.apis a).rpcFailed c), .failed)
  | .route .failed => some (w, .failed)
  | .route r => (routeStep w a r ch).map fun (w, r) => (w, .route r)
  | .restoring n pc => (restoreStep w n pc ch).map fun (w, pc) => (w, match pc with
      | .done => .returned
      | .failed => .failed
      | pc => .restoring n pc)
  | .returned => none
  | .failed => none

/-! ## `admin_migrate_cell` -/

inductive MigratePc where
  | start
  | checkTarget (source : Option NodeId)
  | move (source : Option NodeId)
  | route (source : Option NodeId) (generation : Int) (r : Routing)
  | snapshot (source : Option NodeId) (generation : Int) (c : Client)
  | upload (source : Option NodeId) (generation : Int) (c : Client) (bytes : List Nat)
  | target (source : Option NodeId) (generation : Int) (version : Option ObjKey)
  | restoring (source : Option NodeId) (generation : Int) (c : Client) (pc : RestorePc)
  | returned (source : Option NodeId) (generation : Int)
  | failed
  deriving DecidableEq, Repr

/-- One step of the migration `i` to `dest`; in the name of its backup, `i` stands for the UUID. -/
def migrateStep (w : World) (i a : Nat) (dest : NodeId) (pc : MigratePc) (ch : Choice) :
    Option (World × MigratePc) :=
  match pc with
  | .start =>
    some (w, if ch.ok ∧ w.record.storageNodeId ≠ some dest then
      .checkTarget w.record.storageNodeId else .failed)
  | .checkTarget source =>
    match (w.apis a).clientForNode dest ch with
    | (.ok _, p) => some (w.setApi a p, .move source)
    | (.error _, p) => some (w.setApi a p, .failed)
  | .move source =>
    if ch.ok then
      let r := w.record.migrateDatabase dest
      -- the record names the target from here on, before anything has been copied
      some (w.setRecord r, .route source r.generation .cached)
    else some (w, .failed)
  | .route source g (.done c) =>
    if ch.ok then some (w, .snapshot source g c)
    else some (w.setApi a ((w.apis a).rpcFailed c), .target source g none)
  -- a source that cannot be reached is skipped
  | .route source g .failed => some (w, .target source g none)
  | .route source g r => (routeStep w a r ch).map fun (w, r) => (w, .route source g r)
  | .snapshot source g c =>
    if ch.ok then
      let d := (w.disks c.node).openConn
      some (w.setDisk c.node d, .upload source g c d.contents)
    else some (w, .target source g none)
  | .upload source g c bytes =>
    if ch.ok then
      some (w.putObject (.full ch.ms i) ⟨bytes, c.node, w.record.generation⟩,
        .target source g (some (.full ch.ms i)))
    else some (w, .target source g none)
  | .target source g version =>
    match (w.apis a).clientForNode dest ch with
    | (.ok c, p) => some (w.setApi a p, .restoring source g c (.close version))
    | (.error _, p) => some (w.setApi a p, .failed)
  -- `invalidate_route`, at the end, is the one that does nothing
  | .restoring source g c pc => (restoreStep w c.node pc ch).map fun (w, pc) => (w, match pc with
      | .done => .returned source g
      | .failed => .failed
      | pc => .restoring source g c pc)
  | .returned _ _ => none
  | .failed => none

/-! ## `reset_database` -/

inductive ResetPc where
  | start
  | route (r : Routing)
  | clear (n : NodeId)
  | removeMain (n : NodeId)
  | removeWal (n : NodeId)
  | bump
  | returned
  | failed
  deriving DecidableEq, Repr

def resetStep (w : World) (a : Nat) (pc : ResetPc) (ch : Choice) : Option (World × ResetPc) :=
  match pc with
  | .start => some (w, if ch.ok then .route .cached else .failed)
  | .route (.done c) =>
    if ch.ok then some (w.setDisk c.node (w.disks c.node).close, .clear c.node)
    else some (w.setApi a ((w.apis a).rpcFailed c), .failed)
  | .route .failed => some (w, .failed)
  | .route r => (routeStep w a r ch).map fun (w, r) => (w, .route r)
  | .clear n => some (w.setCache n [], .removeMain n)
  | .removeMain n =>
    if ch.ok then some (w.setDisk n (w.disks n).removeMain, .removeWal n) else some (w, .failed)
  | .removeWal n =>
    if ch.ok then some (w.setDisk n (w.disks n).removeWal, .bump) else some (w, .failed)
  -- the generation goes up in the record only; no fence call follows
  | .bump =>
    if ch.ok then some (w.setRecord w.record.resetDatabase, .returned) else some (w, .failed)
  | .returned => none
  | .failed => none

/-! ## The cluster -/

/-- A process: what it is, where it runs, and how far it has come. -/
inductive Proc where
  | write (a : Nat) (pc : WritePc)
  | failover (a : Nat) (pc : FailoverPc)
  | replicaLoop (n : NodeId) (pc : ReplicaPc)
  | backupLoop (n : NodeId) (pc : BackupPc)
  | migrate (a : Nat) (dest : NodeId) (pc : MigratePc)
  | reset (a : Nat) (pc : ResetPc)
  | restore (a : Nat) (pc : RestoreReqPc)
  deriving DecidableEq, Repr

def act (w : World) (i : Nat) (p : Proc) (ch : Choice) : Option (World × Proc) :=
  match p with
  | .write a pc => (writeStep w i a pc ch).map fun (w, pc) => (w, .write a pc)
  | .failover a pc => (failoverStep w a pc ch).map fun (w, pc) => (w, .failover a pc)
  | .replicaLoop n pc => (replicaStep w n pc ch).map fun (w, pc) => (w, .replicaLoop n pc)
  | .backupLoop n pc => (backupStep w n pc ch).map fun (w, pc) => (w, .backupLoop n pc)
  | .migrate a dest pc => (migrateStep w i a dest pc ch).map fun (w, pc) => (w, .migrate a dest pc)
  | .reset a pc => (resetStep w a pc ch).map fun (w, pc) => (w, .reset a pc)
  | .restore a pc => (restoreReqStep w a pc ch).map fun (w, pc) => (w, .restore a pc)

structure Restart where
  node : NodeId
  deriving DecidableEq, Repr

/-- A restart of the node: what runs on it is lost, and a call that waits for it fails. -/
def Proc.hit (e : Restart) : Proc → Proc
  | .write a (.admitted g n) => .write a (if n = e.node then .failed else .admitted g n)
  | .failover a (.pulling old replica c pc) =>
    .failover a (if c.node = e.node then .failed else .pulling old replica c pc)
  | .replicaLoop n pc => .replicaLoop n (if n = e.node then .idle else pc)
  | .backupLoop n pc => .backupLoop n (if n = e.node then .idle else pc)
  | .migrate a dest (.snapshot source g c) =>
    .migrate a dest (if c.node = e.node then .target source g none else .snapshot source g c)
  | .migrate a dest (.upload source g c bytes) =>
    .migrate a dest (if c.node = e.node then .target source g none else .upload source g c bytes)
  | .migrate a dest (.restoring source g c pc) =>
    .migrate a dest (if c.node = e.node then .failed else .restoring source g c pc)
  | .reset a (.clear n) => .reset a (if n = e.node then .failed else .clear n)
  | .reset a (.removeMain n) => .reset a (if n = e.node then .failed else .removeMain n)
  | .reset a (.removeWal n) => .reset a (if n = e.node then .failed else .removeWal n)
  | .restore a (.restoring n pc) =>
    .restore a (if n = e.node then .failed else .restoring n pc)
  | p => p

abbrev System := Pool World Nat Proc

abbrev Label := PoolLabel Nat Choice Restart

def step (s : System) (l : Label) : Option System :=
  Pool.step act (fun w e => some (w.restart e.node)) Proc.hit s l

end Combee.Cluster
