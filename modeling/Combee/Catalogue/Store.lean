import Combee.Billing.Ledger
import Mathlib.Data.List.Sort

/-!
# Store — the catalogue of Cells in the two metadata stores

A tenant's Cells are records in the metadata store. The in-memory store has a map of records and an
index of names; PostgreSQL has one table with a primary key on the id and a unique index on tenant
and name. Both keep the idempotency keys of `create_database`, which all tenants share.

A call of the in-memory store runs under its lock. A call of the PostgreSQL store is put together
from its statements, which are named separately. UUIDs and clocks that a call draws are arguments.
-/

namespace Combee.Catalogue

open Billing (TenantId)

/-! ## Records -/

inductive DatabaseState where
  | created
  | active
  | deleting
  deriving DecidableEq, Repr

structure DatabaseRecord where
  id : DatabaseId
  name : String
  tenantId : TenantId
  state : DatabaseState
  createdAt : Nat
  storageNodeId : Option NodeId
  replicaNodeId : Option NodeId
  generation : Int
  deriving DecidableEq, Repr

/-- The name of a Cell that is created without one. -/
def defaultName (id : DatabaseId) : String :=
  "cell-" ++ String.ofList ((uuidHex id.raw).take 8)

/-! ## Names -/

/-- `validate_cell_name`; it is the trimmed name that is looked at. -/
def validateCellName (name : String) : Result Unit :=
  let n := trim name.toList
  if !n.isEmpty && decide ((n.map Char.utf8Size).sum ≤ 63) &&
      n.all (fun c => c.isLower || c.isDigit || c == '-' || c == '_') &&
      n.head?.any fun c => c.isLower || c.isDigit then .ok ()
  else .error (.invalidCellName name)

/-! ## Idempotency payloads -/

/-- The stored JSON text: the id of a Cell, no text under `"id"`, or one that is not a UUID. -/
inductive Payload where
  | json (id : DatabaseId)
  | missingId
  | corrupt (message : String)
  deriving DecidableEq, Repr

def Payload.cachedId : Payload → Result DatabaseId
  | .json id => .ok id
  | .missingId => .error (.internal "idempotency payload missing id")
  | .corrupt message => .error (.internal ("idempotency payload corrupt: " ++ message))

/-! ## Lists of records -/

def DatabaseRecord.IsCell (t : TenantId) (id : DatabaseId) (r : DatabaseRecord) : Bool :=
  r.tenantId = t && r.id = id

def insertRecord (records : List DatabaseRecord) (r : DatabaseRecord) : List DatabaseRecord :=
  if records.any (·.IsCell r.tenantId r.id) then
    records.map fun r' => if r'.IsCell r.tenantId r.id then r else r'
  else records ++ [r]

def DatabaseRecord.Before (r r' : DatabaseRecord) : Prop :=
  r.createdAt < r'.createdAt ∨ (r.createdAt = r'.createdAt ∧ r.id.raw ≤ r'.id.raw)

instance : DecidableRel DatabaseRecord.Before := fun _ _ =>
  inferInstanceAs (Decidable (_ ∨ (_ ∧ _)))

def orNotFound (id : DatabaseId) : Option DatabaseRecord → Result DatabaseRecord
  | some r => .ok r
  | none => .error (.databaseNotFound id)

/-! ## The in-memory store -/

structure InMemoryStore where
  databases : List DatabaseRecord
  nameIndex : TenantId → String → Option DatabaseId
  idempotency : String → Option (TenantId × Payload)

namespace InMemoryStore

def indexName (s : InMemoryStore) (t : TenantId) (name : String) (id : DatabaseId) :
    InMemoryStore :=
  { s with
    nameIndex := Function.update s.nameIndex t (Function.update (s.nameIndex t) name (some id)) }

def putNew (s : InMemoryStore) (r : DatabaseRecord) : InMemoryStore :=
  { s.indexName r.tenantId r.name r.id with databases := insertRecord s.databases r }

/-- A name that is given must be free; the name that is made up is not looked for. -/
def createDatabase (s : InMemoryStore) (t : TenantId) (id : DatabaseId)
    (storageNode : Option NodeId) (name : Option String) (now : Nat) :
    Result DatabaseRecord × InMemoryStore :=
  if s.databases.any (·.IsCell t id) then (.error (.databaseAlreadyExists id), s)
  else
    match name with
    | some n =>
      if (s.nameIndex t n).isSome then (.error (.cellAlreadyExists n), s)
      else
        let r := ⟨id, n, t, .created, now, storageNode, none, 0⟩
        (.ok r, s.putNew r)
    | none =>
      let r := ⟨id, defaultName id, t, .created, now, storageNode, none, 0⟩
      (.ok r, s.putNew r)

def getDatabase (s : InMemoryStore) (t : TenantId) (id : DatabaseId) :
    Result DatabaseRecord :=
  orNotFound id (s.databases.find? (·.IsCell t id))

/-- `fresh` is the id that is drawn for the error. -/
def getDatabaseByName (s : InMemoryStore) (t : TenantId) (name : String) (fresh : DatabaseId) :
    Result DatabaseRecord :=
  match s.nameIndex t name with
  | some id => s.getDatabase t id
  | none => .error (.databaseNotFound fresh)

def ensureDatabaseByName (s : InMemoryStore) (t : TenantId) (name : String)
    (storageNode : Option NodeId) (fresh : DatabaseId) (now : Nat) :
    Result (DatabaseRecord × Bool) × InMemoryStore :=
  match s.nameIndex t name with
  | some id => ((s.getDatabase t id).map fun r => (r, false), s)
  | none =>
    let r := ⟨fresh, name, t, .created, now, storageNode, none, 0⟩
    (.ok (r, true), s.putNew r)

def listDatabases (s : InMemoryStore) (t : TenantId) : List DatabaseRecord :=
  (s.databases.filter (·.tenantId = t)).insertionSort DatabaseRecord.Before

def setDatabaseState (s : InMemoryStore) (t : TenantId) (id : DatabaseId)
    (state : DatabaseState) : Result Unit × InMemoryStore :=
  if s.databases.any (·.IsCell t id) then
    (.ok (), { s with
      databases := s.databases.map fun r => if r.IsCell t id then { r with state } else r })
  else (.error (.databaseNotFound id), s)

def deleteDatabase (s : InMemoryStore) (t : TenantId) (id : DatabaseId) :
    Result Unit × InMemoryStore :=
  if s.databases.any (·.IsCell t id) then
    (.ok (), { s with
      databases := s.databases.filter fun r => !r.IsCell t id
      nameIndex := fun t' n => (s.nameIndex t' n).filter (· ≠ id) })
  else (.error (.databaseNotFound id), s)

/-- A stored key is returned whoever has stored it. -/
def saveIdempotency (s : InMemoryStore) (key : String) (t : TenantId) (payload : Payload) :
    Option Payload × InMemoryStore :=
  match s.idempotency key with
  | some (_, existing) => (some existing, s)
  | none => (none, { s with idempotency := Function.update s.idempotency key (some (t, payload)) })

end InMemoryStore

/-! ## The PostgreSQL store -/

/-- A row of `databases`; rows from before the column `name` have none. -/
structure DatabaseRow where
  id : DatabaseId
  tenantId : TenantId
  state : DatabaseState
  createdAt : Nat
  storageNodeId : Option NodeId
  replicaNodeId : Option NodeId
  generation : Int
  name : Option String
  deriving DecidableEq, Repr

def DatabaseRow.toRecord (row : DatabaseRow) : DatabaseRecord :=
  ⟨row.id, row.name.getD (defaultName row.id), row.tenantId, row.state, row.createdAt,
    row.storageNodeId, row.replicaNodeId, row.generation⟩

/-- `idempotency_keys` has its primary key on `idem_key` alone. -/
structure PostgresStore where
  databases : List DatabaseRow
  idempotencyKeys : String → Option (TenantId × Payload)

namespace PostgresStore

/-- The error of an `INSERT` that the unique index on tenant and name refuses. -/
def duplicateName : CombeeError :=
  .internal ("postgres error: error returned from database: duplicate key value violates unique " ++
    "constraint \"uq_databases_tenant_name\"")

/-! ### Statements -/

/-- `INSERT INTO databases … ON CONFLICT (id) DO NOTHING`, with the number of rows; a conflict in
the other unique index is an error. -/
def insertDatabase (s : PostgresStore) (row : DatabaseRow) :
    Result Nat × PostgresStore :=
  if s.databases.any (·.id = row.id) then (.ok 0, s)
  else if row.name.isSome &&
      s.databases.any fun r => r.tenantId = row.tenantId && r.name = row.name then
    (.error duplicateName, s)
  else (.ok 1, { s with databases := s.databases ++ [row] })

def selectDatabase (s : PostgresStore) (t : TenantId) (id : DatabaseId) :
    Option DatabaseRecord :=
  (s.databases.map DatabaseRow.toRecord).find? (·.IsCell t id)

def selectByName (s : PostgresStore) (t : TenantId) (name : String) : Option DatabaseRecord :=
  (s.databases.find? fun row => row.tenantId = t && row.name = some name).map DatabaseRow.toRecord

/-- `INSERT INTO idempotency_keys … ON CONFLICT (idem_key) DO NOTHING RETURNING payload`. -/
def insertKey (s : PostgresStore) (key : String) (t : TenantId) (payload : Payload) :
    Option Payload × PostgresStore :=
  match s.idempotencyKeys key with
  | some _ => (none, s)
  | none => (some payload,
      { s with idempotencyKeys := Function.update s.idempotencyKeys key (some (t, payload)) })

def selectKey (s : PostgresStore) (key : String) (t : TenantId) : Option Payload :=
  (s.idempotencyKeys key).bind fun entry => if entry.1 = t then some entry.2 else none

/-! ### Calls -/

def getDatabase (s : PostgresStore) (t : TenantId) (id : DatabaseId) :
    Result DatabaseRecord :=
  orNotFound id (s.selectDatabase t id)

def getDatabaseByName (s : PostgresStore) (t : TenantId) (name : String) (fresh : DatabaseId) :
    Result DatabaseRecord :=
  orNotFound fresh (s.selectByName t name)

/-- The row that `create_database` inserts. -/
def newRow (t : TenantId) (id : DatabaseId) (storageNode : Option NodeId) (name : Option String)
    (now : Nat) : DatabaseRow :=
  ⟨id, t, .created, now, storageNode, none, 0, some (name.getD (defaultName id))⟩

def createDatabase (s : PostgresStore) (t : TenantId) (id : DatabaseId)
    (storageNode : Option NodeId) (name : Option String) (now : Nat) :
    Result DatabaseRecord × PostgresStore :=
  match s.insertDatabase (newRow t id storageNode name now) with
  | (.error e, s') => (.error e, s')
  | (.ok 0, s') => (.error (.databaseAlreadyExists id), s')
  | (.ok _, s') => (s'.getDatabase t id, s')

/-- The name is looked up again only after a conflict of ids. -/
def ensureDatabaseByName (s : PostgresStore) (t : TenantId) (name : String)
    (storageNode : Option NodeId) (fresh : DatabaseId) (now : Nat) :
    Result (DatabaseRecord × Bool) × PostgresStore :=
  match s.getDatabaseByName t name fresh with
  | .ok r => (.ok (r, false), s)
  | .error _ =>
    match s.createDatabase t fresh storageNode (some name) now with
    | (.ok r, s') => (.ok (r, true), s')
    | (.error (.databaseAlreadyExists _), s') =>
      ((s'.getDatabaseByName t name fresh).map fun r => (r, false), s')
    | (.error e, s') => (.error e, s')

def listDatabases (s : PostgresStore) (t : TenantId) : List DatabaseRecord :=
  ((s.databases.filter (·.tenantId = t)).map DatabaseRow.toRecord).insertionSort
    DatabaseRecord.Before

/-- The `UPDATE` succeeds also if there is no row. -/
def setDatabaseState (s : PostgresStore) (t : TenantId) (id : DatabaseId)
    (state : DatabaseState) : Result Unit × PostgresStore :=
  (.ok (), { s with
    databases := s.databases.map fun row =>
      if row.toRecord.IsCell t id then { row with state } else row })

def deleteDatabase (s : PostgresStore) (t : TenantId) (id : DatabaseId) :
    Result Unit × PostgresStore :=
  if s.databases.any (·.toRecord.IsCell t id) then
    (.ok (), { s with databases := s.databases.filter fun row => !row.toRecord.IsCell t id })
  else (.error (.databaseNotFound id), s)

/-- Of a key that is taken, only its tenant reads the payload. -/
def saveIdempotency (s : PostgresStore) (key : String) (t : TenantId) (payload : Payload) :
    Option Payload × PostgresStore :=
  match s.insertKey key t payload with
  | (some _, s') => (none, s')
  | (none, s') => (s'.selectKey key t, s')

end PostgresStore

/-! ## New stores -/

def emptyInMemory : InMemoryStore :=
  ⟨[], fun _ _ => none, fun _ => none⟩

def emptyPostgres : PostgresStore :=
  ⟨[], fun _ => none⟩

/-! ## The interface -/

/-- The calls of `MetadataStore` that the handlers of the catalogue make. -/
class MetadataStore (σ : Type) where
  createDatabase : σ → TenantId → DatabaseId → Option NodeId → Option String → Nat →
    Result DatabaseRecord × σ
  getDatabase : σ → TenantId → DatabaseId → Result DatabaseRecord
  getDatabaseByName : σ → TenantId → String → DatabaseId → Result DatabaseRecord
  ensureDatabaseByName : σ → TenantId → String → Option NodeId → DatabaseId → Nat →
    Result (DatabaseRecord × Bool) × σ
  listDatabases : σ → TenantId → List DatabaseRecord
  setDatabaseState : σ → TenantId → DatabaseId → DatabaseState → Result Unit × σ
  deleteDatabase : σ → TenantId → DatabaseId → Result Unit × σ
  saveIdempotency : σ → String → TenantId → Payload → Option Payload × σ

instance : MetadataStore InMemoryStore where
  createDatabase := InMemoryStore.createDatabase
  getDatabase := InMemoryStore.getDatabase
  getDatabaseByName := InMemoryStore.getDatabaseByName
  ensureDatabaseByName := InMemoryStore.ensureDatabaseByName
  listDatabases := InMemoryStore.listDatabases
  setDatabaseState := InMemoryStore.setDatabaseState
  deleteDatabase := InMemoryStore.deleteDatabase
  saveIdempotency := InMemoryStore.saveIdempotency

instance : MetadataStore PostgresStore where
  createDatabase := PostgresStore.createDatabase
  getDatabase := PostgresStore.getDatabase
  getDatabaseByName := PostgresStore.getDatabaseByName
  ensureDatabaseByName := PostgresStore.ensureDatabaseByName
  listDatabases := PostgresStore.listDatabases
  setDatabaseState := PostgresStore.setDatabaseState
  deleteDatabase := PostgresStore.deleteDatabase
  saveIdempotency := PostgresStore.saveIdempotency

end Combee.Catalogue
