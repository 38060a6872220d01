import Combee.Catalogue.Lawful

/-!
# Operations — every operation on the catalogue, in both metadata stores

`Store` has the operations that create and delete Cells. This file adds those that change a record:

* in memory, a record is looked up, changed and put back (`updateRecord`), under one lock;
* in PostgreSQL, an `UPDATE` says how many rows it has changed (`updateRows`, `advanceRows`), and
  most calls read the row back with a `SELECT`.

An operation of a tenant is a value (`TenantOp`), and so is its answer (`Outcome`); `perform` runs
it on either store. The ids and clocks that an operation draws are arguments.
-/

namespace Combee.Catalogue

open Billing (TenantId)

/-! ## The in-memory store -/

namespace InMemoryStore

section Records

variable (s : InMemoryStore) (t : TenantId) (id : DatabaseId)

def getDatabaseById : Result DatabaseRecord :=
  orNotFound id (s.databases.find? (·.id = id))

/-- `databases.get_mut`: the record changes in place, or the call fails and nothing changes. -/
def updateRecord (change : DatabaseRecord → Result DatabaseRecord) :
    Result DatabaseRecord × InMemoryStore :=
  match s.databases.find? (·.IsCell t id) with
  | none => (.error (.databaseNotFound id), s)
  | some r =>
    match change r with
    | .error e => (.error e, s)
    | .ok r' => (.ok r', { s with databases := insertRecord s.databases r' })

def setReplicaNode (replica : Option NodeId) : Result DatabaseRecord × InMemoryStore :=
  s.updateRecord t id fun r => .ok { r with replicaNodeId := replica }

def promoteReplica : Result DatabaseRecord × InMemoryStore :=
  s.updateRecord t id fun r =>
    match r.replicaNodeId with
    | none => .error (.internal s!"cell {id} has no replica to promote")
    | some replica => .ok { r with
        storageNodeId := some replica
        replicaNodeId := none
        generation := wrapI64 (r.generation + 1) }

def migrateDatabase (newNode : NodeId) : Result DatabaseRecord × InMemoryStore :=
  s.updateRecord t id fun r => .ok { r with
    storageNodeId := some newNode
    generation := wrapI64 (r.generation + 1) }

def resetDatabase : Result DatabaseRecord × InMemoryStore :=
  s.updateRecord t id fun r => .ok { r with generation := wrapI64 (r.generation + 1) }

def unindexName (name : String) : InMemoryStore :=
  { s with nameIndex := Function.update s.nameIndex t (Function.update (s.nameIndex t) name none) }

/-- A name is in conflict also if it is the Cell's own. -/
def renameDatabase (newName : String) : Result DatabaseRecord × InMemoryStore :=
  match s.databases.find? (·.IsCell t id) with
  | none => (.error (.databaseNotFound id), s)
  | some r =>
    if (s.nameIndex t newName).isSome then (.error (.cellNameConflict newName), s)
    else
      let r' := { r with name := newName }
      (.ok r', { (s.unindexName t r.name).indexName t newName id with
        databases := insertRecord s.databases r' })

end Records

def listReplicasOf (s : InMemoryStore) (node : NodeId) : List DatabaseRecord :=
  (s.databases.filter (·.replicaNodeId = some node)).insertionSort fun r r' => r.id.raw ≤ r'.id.raw

end InMemoryStore

/-! ## The PostgreSQL store -/

namespace PostgresStore

/-- The error of an addition that leaves the range of the column. -/
def bigintOutOfRange : CombeeError :=
  .internal "postgres error: error returned from database: bigint out of range"

/-- The error of `row_to_record` for a row that was selected without the column. -/
def noGeneration : CombeeError :=
  .internal "postgres error: no column found for name: generation"

section Rows

variable (s : PostgresStore) (t : TenantId) (id : DatabaseId)

/-- `UPDATE databases SET … WHERE id = $1 AND tenant_id = $2 AND …`, with the number of rows. -/
def updateRows (cond : DatabaseRow → Bool) (set : DatabaseRow → DatabaseRow) :
    Nat × PostgresStore :=
  (s.databases.countP fun row => row.toRecord.IsCell t id && cond row,
    { s with databases := s.databases.map fun row =>
        if row.toRecord.IsCell t id && cond row then set row else row })

/-- The same with `generation = generation + 1`. -/
def advanceRows (cond : DatabaseRow → Bool) (set : DatabaseRow → DatabaseRow) :
    Result Nat × PostgresStore :=
  if s.databases.any fun row => row.toRecord.IsCell t id && cond row && row.generation = i64Max then
    (.error bigintOutOfRange, s)
  else
    let updated := s.updateRows t id cond fun row =>
      { set row with generation := row.generation + 1 }
    (.ok updated.1, updated.2)

/-- `UPDATE databases SET name = $1 …`: the other rows of the tenant must not have the name. -/
def updateName (name : String) : Result Nat × PostgresStore :=
  if s.databases.any (·.toRecord.IsCell t id) && s.databases.any fun row =>
      !row.toRecord.IsCell t id && row.tenantId = t && row.name = some name then
    (.error duplicateName, s)
  else
    let updated := s.updateRows t id (fun _ => true) fun row => { row with name := some name }
    (.ok updated.1, updated.2)

/-- What the calls do with the number of rows: none is an error, otherwise the row is read. -/
def readBack : Result Nat × PostgresStore →
    Result DatabaseRecord × PostgresStore
  | (.error e, s') => (.error e, s')
  | (.ok 0, s') => (.error (.databaseNotFound id), s')
  | (.ok _, s') => (s'.getDatabase t id, s')

def renameDatabase (newName : String) : Result DatabaseRecord × PostgresStore :=
  readBack t id (s.updateName t id newName)

def resetDatabase : Result DatabaseRecord × PostgresStore :=
  readBack t id (s.advanceRows t id (fun _ => true) fun row => row)

def setReplicaNode (replica : Option NodeId) : Result DatabaseRecord × PostgresStore :=
  let updated := s.updateRows t id (fun _ => true) fun row => { row with replicaNodeId := replica }
  readBack t id (.ok updated.1, updated.2)

/-- The row comes from `RETURNING`, which is what a `SELECT` would read. -/
def migrateDatabase (newNode : NodeId) : Result DatabaseRecord × PostgresStore :=
  readBack t id (s.advanceRows t id (fun _ => true) fun row =>
    { row with storageNodeId := some newNode })

/-- Where no row has changed, a lookup tells a missing Cell from one without a replica. -/
def promoteReplica : Result DatabaseRecord × PostgresStore :=
  match s.advanceRows t id (fun row => row.replicaNodeId.isSome) fun row =>
      { row with storageNodeId := row.replicaNodeId, replicaNodeId := none } with
  | (.error e, s') => (.error e, s')
  | (.ok 0, s') =>
    match s'.getDatabase t id with
    | .ok _ => (.error (.internal s!"cell {id} has no replica to promote"), s')
    | .error e => (.error e, s')
  | (.ok _, s') => (s'.getDatabase t id, s')

end Rows

/-- The columns that are selected do not include `generation`, which `row_to_record` needs. -/
def listReplicasOf (s : PostgresStore) (node : NodeId) : Result (List DatabaseRecord) :=
  if s.databases.any (·.replicaNodeId = some node) then .error noGeneration else .ok []

end PostgresStore

/-! ## Operations as values -/

inductive TenantOp where
  | create (id : DatabaseId) (node : Option NodeId) (name : Option String)
  | ensure (name : String) (node : Option NodeId) (fresh : DatabaseId)
  | get (id : DatabaseId)
  | getByName (name : String) (fresh : DatabaseId)
  | list
  | rename (id : DatabaseId) (name : String)
  | setState (id : DatabaseId) (state : DatabaseState)
  | setReplica (id : DatabaseId) (replica : Option NodeId)
  | promote (id : DatabaseId)
  | migrate (id : DatabaseId) (node : NodeId)
  | reset (id : DatabaseId)
  | delete (id : DatabaseId)
  deriving DecidableEq, Repr

def TenantOp.drawn : TenantOp → Option DatabaseId
  | .create id _ _ => some id
  | .ensure _ _ fresh => some fresh
  | _ => none

inductive Outcome where
  | done
  | record (r : DatabaseRecord)
  | ensured (r : DatabaseRecord) (created : Bool)
  | records (rs : List DatabaseRecord)
  | failed (e : CombeeError)
  deriving DecidableEq, Repr

namespace Outcome

def ofUnit : Result Unit → Outcome
  | .ok _ => .done
  | .error e => .failed e

def ofRecord : Result DatabaseRecord → Outcome
  | .ok r => .record r
  | .error e => .failed e

def ofEnsured : Result (DatabaseRecord × Bool) → Outcome
  | .ok (r, created) => .ensured r created
  | .error e => .failed e

def ofRecords : Result (List DatabaseRecord) → Outcome
  | .ok rs => .records rs
  | .error e => .failed e

end Outcome

def answered {α σ : Type} (outcome : α → Outcome) (result : α × σ) : Outcome × σ :=
  (outcome result.1, result.2)

def InMemoryStore.perform (s : InMemoryStore) (t : TenantId) (now : Nat) :
    TenantOp → Outcome × InMemoryStore
  | .create id node name => answered .ofRecord (s.createDatabase t id node name now)
  | .ensure name node fresh => answered .ofEnsured (s.ensureDatabaseByName t name node fresh now)
  | .get id => (.ofRecord (s.getDatabase t id), s)
  | .getByName name fresh => (.ofRecord (s.getDatabaseByName t name fresh), s)
  | .list => (.records (s.listDatabases t), s)
  | .rename id name => answered .ofRecord (s.renameDatabase t id name)
  | .setState id state => answered .ofUnit (s.setDatabaseState t id state)
  | .setReplica id replica => answered .ofRecord (s.setReplicaNode t id replica)
  | .promote id => answered .ofRecord (s.promoteReplica t id)
  | .migrate id node => answered .ofRecord (s.migrateDatabase t id node)
  | .reset id => answered .ofRecord (s.resetDatabase t id)
  | .delete id => answered .ofUnit (s.deleteDatabase t id)

def PostgresStore.perform (s : PostgresStore) (t : TenantId) (now : Nat) :
    TenantOp → Outcome × PostgresStore
  | .create id node name => answered .ofRecord (s.createDatabase t id node name now)
  | .ensure name node fresh => answered .ofEnsured (s.ensureDatabaseByName t name node fresh now)
  | .get id => (.ofRecord (s.getDatabase t id), s)
  | .getByName name fresh => (.ofRecord (s.getDatabaseByName t name fresh), s)
  | .list => (.records (s.listDatabases t), s)
  | .rename id name => answered .ofRecord (s.renameDatabase t id name)
  | .setState id state => answered .ofUnit (s.setDatabaseState t id state)
  | .setReplica id replica => answered .ofRecord (s.setReplicaNode t id replica)
  | .promote id => answered .ofRecord (s.promoteReplica t id)
  | .migrate id node => answered .ofRecord (s.migrateDatabase t id node)
  | .reset id => answered .ofRecord (s.resetDatabase t id)
  | .delete id => answered .ofUnit (s.deleteDatabase t id)

end Combee.Catalogue
