import Combee.ApiServer.Concurrency
import Combee.Billing.Metering
import Combee.Catalogue.Handlers
import Combee.Kv.Commands

/-!
# Handlers — the public routes of the API server as programs

A handler is a program over the calls that it makes: on the metadata store, on the registry of nodes
and on data nodes (`ExtCall`), and on the usage meter (`Call`). The answers come from outside. The
handlers that never touch the meter are programs over the first kind of calls only (`Unmetered`).

A response is its status, or the error that is turned into one; its body is left out, and so are the
parts of answers that only go into it.
-/

namespace Combee.ApiServer

open Billing (TenantId UsageMetric)
open Catalogue (DatabaseRecord DatabaseState Payload validateCellName validateOptional cellQuota)
open Foundation
open ExceptT (mk lift)

/-! ## Calls -/

/-- A call on the client of a data node. The reads of a key need no generation. -/
inductive NodeCall where
  | kv (id : DatabaseId) (request : Kv.KvRequest) (generation : Option Int)
  | kvScan (id : DatabaseId) (start : String) (limit : Nat) (cursor : String)
  | executeSql (id : DatabaseId) (sql : String) (generation : Int)
  | executeTransaction (id : DatabaseId) (statements : List String) (generation : Int)
  | backup (id : DatabaseId)
  | incrementalBackup (id : DatabaseId)
  | restore (id : DatabaseId) (version : Option String)
  | ensureDatabase (id : DatabaseId)
  | deleteDatabase (id : DatabaseId)
  | resetDatabase (id : DatabaseId)
  | storageBytes (id : DatabaseId)
  | replicate (id : DatabaseId)
  | fenceCell (id : DatabaseId) (generation : Int)

/-- The calls on the metadata store, on the registry and the routes, and on data nodes; `newId`
draws a UUID. -/
inductive ExtCall where
  | getDatabase (t : TenantId) (id : DatabaseId)
  | getDatabaseById (id : DatabaseId)
  | getDatabaseByName (t : TenantId) (name : String)
  | listDatabases (t : TenantId)
  | createDatabase (t : TenantId) (id : DatabaseId) (node : Option NodeId) (name : Option String)
  | ensureDatabaseByName (t : TenantId) (name : String) (node : Option NodeId)
  | setDatabaseState (t : TenantId) (id : DatabaseId) (state : DatabaseState)
  | deleteDatabase (t : TenantId) (id : DatabaseId)
  | renameDatabase (t : TenantId) (id : DatabaseId) (name : String)
  | resetDatabase (t : TenantId) (id : DatabaseId)
  | setReplicaNode (t : TenantId) (id : DatabaseId) (replica : Option NodeId)
  | promoteReplica (t : TenantId) (id : DatabaseId)
  | saveIdempotency (key : String) (t : TenantId) (payload : Payload)
  | createApiKey (t : TenantId) (name : String)
  | listApiKeys (t : TenantId)
  | revokeApiKey (t : TenantId) (key : Nat)
  | queryUsage (t : TenantId) (cell : Option DatabaseId) (metric : Option UsageMetric)
      (start stop : Int)
  | getCreditAccount (t : TenantId)
  | listCreditTransactions (t : TenantId) (limit : Int) (cursor : Option Nat)
  | findTransactionByReference (reference : String)
  | redeemVoucher (hash : String) (t : TenantId)
  | createWaitlistEntry (email : String)
  | newId
  | pickNode
  | clientFor (id : DatabaseId)
  | clientForNode (n : NodeId)
  | invalidateRoute (id : DatabaseId)
  | node (n : NodeId) (call : NodeCall)

def ExtCall.Res : ExtCall → Type
  | .getDatabase .. => Result DatabaseRecord
  | .getDatabaseById .. => Result DatabaseRecord
  | .getDatabaseByName .. => Result DatabaseRecord
  | .listDatabases .. => Result (List DatabaseRecord)
  | .createDatabase .. => Result DatabaseRecord
  | .ensureDatabaseByName .. => Result (DatabaseRecord × Bool)
  | .renameDatabase .. => Result DatabaseRecord
  | .resetDatabase .. => Result DatabaseRecord
  | .setReplicaNode .. => Result DatabaseRecord
  | .promoteReplica .. => Result DatabaseRecord
  | .saveIdempotency .. => Result (Option Payload)
  | .findTransactionByReference .. => Result (Option Int)
  | .newId => DatabaseId
  | .pickNode => Option NodeId
  | .clientFor .. => Result NodeId
  | .clientForNode .. => Result NodeId
  | .invalidateRoute .. => Unit
  | _ => Result Unit

/-- All calls: those above, those on the meter, the question for a guard, and whether the end of a
body has been read. -/
inductive Call where
  | ext (call : ExtCall)
  | record (t : TenantId) (cell : Option DatabaseId) (metric : UsageMetric) (delta : UInt64)
  | tryEnter (key : CounterKey)
  | bodyEnd

def Call.Res : Call → Type
  | .ext call => call.Res
  | .record .. => Int
  | .tryEnter .. => Bool
  | .bodyEnd => Option UInt64

abbrev Unmetered := ExceptT CombeeError (Prog ExtCall ExtCall.Res)

abbrev Handler := ExceptT CombeeError (Prog Call Call.Res)

def ask (c : ExtCall) : Prog ExtCall ExtCall.Res c.Res :=
  .call c .ret

/-- The same calls, made by a program that could also touch the meter. -/
def quietly {α : Type} : Prog ExtCall ExtCall.Res α → Prog Call Call.Res α
  | .ret a => .ret a
  | .call c k => .call (.ext c) fun r => quietly (k r)

def Unmetered.handler {α : Type} (p : Unmetered α) : Handler α :=
  mk (quietly p.run)

/-! ## The meter -/

def record (t : TenantId) (cell : Option DatabaseId) (metric : UsageMetric) (delta : UInt64) :
    Prog Call Call.Res Unit :=
  .call (.record t cell metric delta) fun _ => .ret ()

def recordBilled (auth : AuthContext) (cell : Option DatabaseId) (metric : UsageMetric)
    (delta : UInt64) : Prog Call Call.Res Unit :=
  if auth.internal then .ret () else record auth.tenantId cell metric delta

/-! ## Cells -/

section Cells

variable (auth : AuthContext) (id : DatabaseId)

/-- An internal request finds the Cells of all tenants. -/
def requireDb : Unmetered DatabaseRecord :=
  if auth.internal then mk (ask (.getDatabaseById id))
  else mk (ask (.getDatabase auth.tenantId id))

def onNode (call : NodeCall) : Unmetered Unit := do
  let n ← mk (ask (.clientFor id))
  mk (ask (.node n call))

def checkCells (max : Nat) : Unmetered Unit := do
  if 0 < max then
    let cells ← mk (ask (.listDatabases auth.tenantId))
    mk (.ret (cellQuota max cells.length))

def createDatabase (max : Nat) (key : Option String) (name : Option String) : Unmetered Nat := do
  let id ← lift (ask .newId)
  let existing ← match key with
    | some key => mk (ask (.saveIdempotency key auth.tenantId (.json id)))
    | none => pure none
  match existing with
  | some existing =>
    let cachedId ← mk (.ret existing.cachedId)
    let _ ← mk (ask (.getDatabase auth.tenantId cachedId))
    pure 200
  | none =>
    checkCells auth max
    let storageNode ← lift (ask .pickNode)
    mk (.ret (validateOptional name))
    let _ ← mk (ask (.createDatabase auth.tenantId id storageNode name))
    -- an error is only logged
    let _ ← lift (ask (.setDatabaseState auth.tenantId id .active))
    pure 201

def listDatabases : Unmetered Nat := do
  let _ ← mk (ask (.listDatabases auth.tenantId))
  pure 200

def deleteDatabase : Unmetered Nat := do
  let _ ← mk (ask (.getDatabase auth.tenantId id))
  mk (ask (.setDatabaseState auth.tenantId id .deleting))
  onNode id (.deleteDatabase id)
  mk (ask (.deleteDatabase auth.tenantId id))
  pure 204

def ensureDatabase (max : Nat) (name : String) : Unmetered Nat := do
  mk (.ret (validateCellName name))
  checkCells auth max
  let storageNode ← lift (ask .pickNode)
  let (cell, created) ← mk (ask (.ensureDatabaseByName auth.tenantId name storageNode))
  if created then
    let made ← lift (onNode cell.id (.ensureDatabase cell.id)).run
    match made with
    | .error e =>
      let _ ← lift (ask (.deleteDatabase auth.tenantId cell.id))
      throw e
    | .ok _ =>
      let _ ← lift (ask (.setDatabaseState auth.tenantId cell.id .active))
      pure 201
  else pure 200

def getDatabaseByName (name : String) : Unmetered Nat := do
  let _ ← mk (ask (.getDatabaseByName auth.tenantId name))
  pure 200

def getDatabase : Unmetered Nat := do
  let _ ← requireDb auth id
  pure 200

def renameDatabase (name : String) : Unmetered Nat := do
  mk (.ret (validateCellName name))
  let _ ← mk (ask (.renameDatabase auth.tenantId id name))
  pure 200

/-- The record is read and changed for the tenant of the request, but looked up first for all. -/
def resetDatabase : Unmetered Nat := do
  let _ ← requireDb auth id
  let n ← mk (ask (.clientFor id))
  let reset ← lift (ask (.node n (.resetDatabase id)))
  mk (.ret (reset.mapError fun e => .cellResetFailed e.display))
  let _ ← mk (ask (.resetDatabase auth.tenantId id))
  pure 200

def deleteDatabaseByName (name : String) : Unmetered Nat := do
  let cell ← mk (ask (.getDatabaseByName auth.tenantId name))
  onNode cell.id (.deleteDatabase cell.id)
  mk (ask (.deleteDatabase auth.tenantId cell.id))
  pure 204

/-- `backup` and `incremental_backup`. -/
def backupWith (call : NodeCall) : Unmetered Nat := do
  let _ ← requireDb auth id
  onNode id call
  pure 200

def backup : Unmetered Nat :=
  backupWith auth id (.backup id)

def incrementalBackup : Unmetered Nat :=
  backupWith auth id (.incrementalBackup id)

def restore (version : Option String) : Unmetered Nat := do
  let _ ← requireDb auth id
  match version with
  | some v =>
    unless s!"backups/{id}/".toList.isPrefixOf v.toList do
      throw (.invalidRequest s!"backup version must be under 'backups/{id}/'")
  | none => pure ()
  onNode id (.restore id version)
  pure 204

def getReplica : Unmetered Nat := do
  let _ ← mk (ask (.getDatabase auth.tenantId id))
  pure 200

def setReplica (replica : NodeId) : Unmetered Nat := do
  let _ ← requireDb auth id
  let _ ← mk (ask (.setReplicaNode auth.tenantId id (some replica)))
  pure 200

def unsetReplica : Unmetered Nat := do
  let _ ← requireDb auth id
  let _ ← mk (ask (.setReplicaNode auth.tenantId id none))
  pure 204

def failover : Unmetered Nat := do
  let cell ← mk (ask (.getDatabase auth.tenantId id))
  match cell.replicaNodeId with
  | none => throw (.internal s!"cell {id} has no replica configured, cannot failover")
  | some replica =>
    let n ← mk (ask (.clientForNode replica))
    mk (ask (.node n (.replicate id)))
    let promoted ← mk (ask (.promoteReplica auth.tenantId id))
    let _ ← lift (ask (.node n (.fenceCell id promoted.generation)))
    lift (ask (.invalidateRoute id))
    -- the old node is fenced if it can be reached
    match cell.storageNodeId with
    | some old =>
      if old ≠ replica then
        match ← lift (ask (.clientForNode old)) with
        | .ok m =>
          let _ ← lift (ask (.node m (.fenceCell id i64Max)))
          pure 200
        | .error _ => pure 200
      else pure 200
    | none => pure 200

end Cells

/-! ## Keys, usage, credits and the waitlist -/

section Tenants

variable (auth : AuthContext)

def createApiKey (name : Option String) : Unmetered Nat := do
  let name := (name.filter fun n => !(trim n.toList).isEmpty).getD "default"
  mk (ask (.createApiKey auth.tenantId name))
  pure 201

def listApiKeys : Unmetered Nat := do
  mk (ask (.listApiKeys auth.tenantId))
  pure 200

def revokeApiKey (key : Nat) : Unmetered Nat := do
  mk (ask (.revokeApiKey auth.tenantId key))
  pure 204

/-- The bytes of a Cell on its node, as far as they can be had. -/
def storageBytes (id : DatabaseId) : Unmetered Unit := do
  let _ ← lift (onNode id (.storageBytes id)).run

def usageSummary (start stop : Int) : Unmetered Nat := do
  mk (ask (.queryUsage auth.tenantId none none (Billing.bucketStart start)
    (Billing.bucketStart stop)))
  let cells ← mk (ask (.listDatabases auth.tenantId))
  for cell in cells do
    storageBytes cell.id
  pure 200

def usageTimeseries (metric interval : Option String) (start stop : Int) : Unmetered Nat := do
  match metric.bind fun m => UsageMetric.all.find? (·.asStr = m) with
  | none => throw (.invalidRequest "invalid or missing metric")
  | some m =>
    mk (ask (.queryUsage auth.tenantId none (some m) (Billing.bucketStart start)
      (Billing.bucketStart stop)))
    let interval := interval.getD "minute"
    if interval ∈ ["minute", "hour", "day"] then pure 200
    else throw (.invalidRequest s!"invalid interval: {interval}")

def cellUsage (id : DatabaseId) (start stop : Int) : Unmetered Nat := do
  let _ ← mk (ask (.getDatabase auth.tenantId id))
  mk (ask (.queryUsage auth.tenantId (some id) none (Billing.bucketStart start)
    (Billing.bucketStart stop)))
  storageBytes id
  pure 200

def creditsBalance : Unmetered Nat := do
  mk (ask (.getCreditAccount auth.tenantId))
  pure 200

def creditsTransactions (limit : Option Int) (cursor : Option Nat) : Unmetered Nat := do
  let limit := max 1 (min (limit.getD 100) 1000)
  mk (ask (.listCreditTransactions auth.tenantId (limit + 1) cursor))
  pure 200

/-- Of the code, only its hash is used. -/
def creditsRedeem (hash : String) : Unmetered Nat := do
  match ← mk (ask (.findTransactionByReference s!"voucher:{hash}")) with
  | some _ => pure ()
  | none => mk (ask (.redeemVoucher hash auth.tenantId))
  mk (ask (.getCreditAccount auth.tenantId))
  pure 200

def isValidEmail (email : List Char) : Bool :=
  match email.splitOnP (· == '@') with
  | [name, domain] =>
    !name.isEmpty && domain.contains '.' && decide (3 ≤ (domain.map Char.utf8Size).sum)
  | _ => false

/-- The address is trimmed and in lower case. -/
def join (email : String) : Unmetered Nat := do
  unless isValidEmail email.toList do
    throw (.invalidRequest "invalid email address")
  mk (ask (.createWaitlistEntry email))
  pure 200

end Tenants

/-! ## SQL -/

section Data

variable (auth : AuthContext) (id : DatabaseId)

/-- `is_read_sql`: by the first word. -/
def isReadSql (sql : String) : Bool :=
  let words := sql.toList.dropWhile isWhitespace
  String.ofList ((words.takeWhile (!isWhitespace ·)).map Char.toLower) ∈
    ["select", "with", "pragma", "explain"]

def sqlMetric (sql : String) : UsageMetric :=
  if isReadSql sql then .sqlRead else .sqlWrite

def executeSql (sql : String) : Handler Nat := do
  let cell ← (requireDb auth id).handler
  let n ← Unmetered.handler (mk (ask (.clientFor id)))
  recordBilled auth (some id) (sqlMetric sql) 1
  Unmetered.handler (mk (ask (.node n (.executeSql id sql cell.generation))))
  pure 200

/-- The statements are recorded one by one, before any of them is run. -/
def recordStatements : List String → Prog Call Call.Res Unit
  | [] => .ret ()
  | sql :: statements => do
      recordBilled auth (some id) (sqlMetric sql) 1
      recordStatements statements

def executeTransaction (statements : List String) : Handler Nat := do
  let cell ← (requireDb auth id).handler
  let n ← Unmetered.handler (mk (ask (.clientFor id)))
  recordStatements auth id statements
  Unmetered.handler
    (mk (ask (.node n (.executeTransaction id statements cell.generation))))
  pure 200

/-! ## KV -/

/-- The KV handlers record the request when the Cell is found, also if it is internal. -/
def kvRequest (metric : UsageMetric) (rest : DatabaseRecord → NodeId → Unmetered Nat) :
    Handler Nat := do
  let cell ← (requireDb auth id).handler
  record auth.tenantId (some id) metric 1
  let n ← Unmetered.handler (mk (ask (.clientFor id)))
  (rest cell n).handler

/-- One call on the node; writes carry the generation of the record. -/
def kvOnce (metric : UsageMetric) (request : Kv.KvRequest) (fenced : Bool) (status : Nat) :
    Handler Nat :=
  kvRequest auth id metric fun cell n => do
    mk (ask (.node n (.kv id request (if fenced then some cell.generation else none))))
    pure status

def kvEach (n : NodeId) (request : String → Kv.KvRequest) : List String → Unmetered Nat
  | [] => pure 200
  | key :: keys => do
      mk (ask (.node n (.kv id (request key) none)))
      kvEach n request keys

def kvGet (key : String) : Handler Nat :=
  kvOnce auth id .kvRead (.get key) false 200

def kvSet (key value : String) (ttlSeconds : Option UInt64) (nx xx : Bool) : Handler Nat :=
  kvOnce auth id .kvWrite (.set key value ttlSeconds nx xx) true 200

def kvDel (key : String) : Handler Nat :=
  kvOnce auth id .kvWrite (.del key) true 200

def kvExists (keys : List String) : Handler Nat :=
  kvRequest auth id .kvRead fun _ n => kvEach id n .exists keys

def kvMget (keys : List String) : Handler Nat :=
  kvOnce auth id .kvRead (.mget keys) false 200

def kvMset (items : List Kv.KvSetItem) : Handler Nat :=
  kvOnce auth id .kvWrite (.mset items) true 204

def kvTtl (keys : List String) : Handler Nat :=
  kvRequest auth id .kvRead fun _ n => kvEach id n .ttl keys

def kvExpire (key : String) (ttlSeconds : Option UInt64) : Handler Nat :=
  kvOnce auth id .kvWrite (.expire key ttlSeconds) true 200

def kvIncr (key : String) (delta : Int) (ttlSeconds : Option UInt64) : Handler Nat :=
  kvOnce auth id .kvWrite (.incr key delta ttlSeconds) true 200

def kvList (start : Option String) (limit : Option Nat) (cursor : Option String) : Handler Nat :=
  kvRequest auth id .kvRead fun _ n => do
    mk (ask (.node n (.kvScan id (start.getD "") (limit.getD 50) (cursor.getD ""))))
    pure 200

end Data

/-! ## Routes -/

/-- A request as the router and the extractors hand it over; `rejected` has no route or cannot be
read. -/
inductive Endpoint where
  | listDatabases
  | createDatabase (key : Option String) (name : Option String)
  | ensureDatabase (name : String)
  | getDatabaseByName (name : String)
  | deleteDatabaseByName (name : String)
  | getDatabase (id : DatabaseId)
  | deleteDatabase (id : DatabaseId)
  | renameDatabase (id : DatabaseId) (name : String)
  | resetDatabase (id : DatabaseId)
  | executeSql (id : DatabaseId) (sql : String)
  | executeTransaction (id : DatabaseId) (statements : List String)
  | backup (id : DatabaseId)
  | incrementalBackup (id : DatabaseId)
  | restore (id : DatabaseId) (version : Option String)
  | kvGet (id : DatabaseId) (key : String)
  | kvSet (id : DatabaseId) (key value : String) (ttlSeconds : Option UInt64) (nx xx : Bool)
  | kvDel (id : DatabaseId) (key : String)
  | kvList (id : DatabaseId) (start : Option String) (limit : Option Nat) (cursor : Option String)
  | kvExists (id : DatabaseId) (keys : List String)
  | kvMget (id : DatabaseId) (keys : List String)
  | kvMset (id : DatabaseId) (items : List Kv.KvSetItem)
  | kvTtl (id : DatabaseId) (keys : List String)
  | kvExpire (id : DatabaseId) (key : String) (ttlSeconds : Option UInt64)
  | kvIncr (id : DatabaseId) (key : String) (delta : Int) (ttlSeconds : Option UInt64)
  | createApiKey (name : Option String)
  | listApiKeys
  | revokeApiKey (key : Nat)
  | usageSummary (start stop : Int)
  | usageTimeseries (metric interval : Option String) (start stop : Int)
  | cellUsage (id : DatabaseId) (start stop : Int)
  | join (email : String)
  | creditsBalance
  | creditsTransactions (limit : Option Int) (cursor : Option Nat)
  | creditsRedeem (hash : String)
  | getPricing
  | openapiJson
  | failover (id : DatabaseId)
  | getReplica (id : DatabaseId)
  | setReplica (id : DatabaseId) (replica : NodeId)
  | unsetReplica (id : DatabaseId)
  | rejected (status : Nat)

/-- The handler of an endpoint; `max` is the limit on the Cells of a tenant. -/
def handle (max : Nat) (auth : AuthContext) : Endpoint → Handler Nat
  | .listDatabases => (listDatabases auth).handler
  | .createDatabase key name => (createDatabase auth max key name).handler
  | .ensureDatabase name => (ensureDatabase auth max name).handler
  | .getDatabaseByName name => (getDatabaseByName auth name).handler
  | .deleteDatabaseByName name => (deleteDatabaseByName auth name).handler
  | .getDatabase id => (getDatabase auth id).handler
  | .deleteDatabase id => (deleteDatabase auth id).handler
  | .renameDatabase id name => (renameDatabase auth id name).handler
  | .resetDatabase id => (resetDatabase auth id).handler
  | .executeSql id sql => executeSql auth id sql
  | .executeTransaction id statements => executeTransaction auth id statements
  | .backup id => (backup auth id).handler
  | .incrementalBackup id => (incrementalBackup auth id).handler
  | .restore id version => (restore auth id version).handler
  | .kvGet id key => kvGet auth id key
  | .kvSet id key value ttlSeconds nx xx => kvSet auth id key value ttlSeconds nx xx
  | .kvDel id key => kvDel auth id key
  | .kvList id start limit cursor => kvList auth id start limit cursor
  | .kvExists id keys => kvExists auth id keys
  | .kvMget id keys => kvMget auth id keys
  | .kvMset id items => kvMset auth id items
  | .kvTtl id keys => kvTtl auth id keys
  | .kvExpire id key ttlSeconds => kvExpire auth id key ttlSeconds
  | .kvIncr id key delta ttlSeconds => kvIncr auth id key delta ttlSeconds
  | .createApiKey name => (createApiKey auth name).handler
  | .listApiKeys => (listApiKeys auth).handler
  | .revokeApiKey key => (revokeApiKey auth key).handler
  | .usageSummary start stop => (usageSummary auth start stop).handler
  | .usageTimeseries metric interval start stop =>
    (usageTimeseries auth metric interval start stop).handler
  | .cellUsage id start stop => (cellUsage auth id start stop).handler
  | .join email => (join email).handler
  | .creditsBalance => (creditsBalance auth).handler
  | .creditsTransactions limit cursor => (creditsTransactions auth limit cursor).handler
  | .creditsRedeem hash => (creditsRedeem auth hash).handler
  | .getPricing => pure 200
  | .openapiJson => pure 200
  | .failover id => (failover auth id).handler
  | .getReplica id => (getReplica auth id).handler
  | .setReplica id replica => (setReplica auth id replica).handler
  | .unsetReplica id => (unsetReplica auth id).handler
  | .rejected status => pure status

end Combee.ApiServer
