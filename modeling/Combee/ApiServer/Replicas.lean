import Combee.ApiServer.Handlers
import Combee.Catalogue.NameIndex

/-!
# Replicas — requests that move a Cell or its replica, and the two node fields of its record

A record names the node that stores the Cell and, maybe, the node of its replica. Any number of
creates, `set_replica`, `failover_cell` and `admin_migrate_cell` run here at once over the in-memory
catalogue. `set_replica` takes any node, also the one that stores the Cell;
`admin_migrate_cell` refuses that one but not the node of the replica, which it leaves where it is.
So a Cell becomes its own replica by such writes alone (`own_replica_iff`).
-/

namespace Combee.ApiServer.Replicas

open Billing (TenantId)
open Catalogue (DatabaseRecord InMemoryStore emptyInMemory insertRecord mem_insertRecord
  self_mem_insertRecord)
open Foundation

/-! ## Requests -/

/-- The calls of the public routes, the migration of a record, and a backup with its key. -/
inductive RecordCall where
  | ext (call : ExtCall)
  | migrateDatabase (t : TenantId) (id : DatabaseId) (newNode : NodeId)
  | backup (n : NodeId) (id : DatabaseId)

def RecordCall.Res : RecordCall → Type
  | .ext call => call.Res
  | .migrateDatabase .. => Result DatabaseRecord
  | .backup .. => Result String

abbrev Rest := Prog RecordCall RecordCall.Res (Result Nat)

def lift {α : Type} : Prog ExtCall ExtCall.Res α → Prog RecordCall RecordCall.Res α
  | .ret a => .ret a
  | .call c k => .call (.ext c) fun r => lift (k r)

def request (c : RecordCall) : Prog RecordCall RecordCall.Res c.Res :=
  .call c .ret

/-- The record is moved first; the backup and the restore come after it. -/
def adminMigrateCell (id : DatabaseId) (toNode : NodeId) :
    ExceptT CombeeError (Prog RecordCall RecordCall.Res) Nat := do
  let cell ← ExceptT.mk (request (.ext (.getDatabaseById id)))
  if some toNode = cell.storageNodeId then
    throw (.invalidRequest "to_node_id is already the storage node")
  let _ ← ExceptT.mk (request (.ext (.clientForNode toNode)))
  let _ ← ExceptT.mk (request (.migrateDatabase cell.tenantId id toNode))
  let backup ← match ← ExceptT.lift (request (.ext (.clientFor id))) with
    | .ok source => ExceptT.lift (request (.backup source id))
    -- without a source the target restores the newest snapshot that it finds
    | .error e => pure (.error e)
  let n ← ExceptT.mk (request (.ext (.clientForNode toNode)))
  ExceptT.mk (request (.ext (.node n (.restore id backup.toOption))))
  ExceptT.lift (request (.ext (.invalidateRoute id)))
  pure 200

inductive Request where
  | create (auth : AuthContext) (max : Nat) (key name : Option String)
  | setReplica (auth : AuthContext) (id : DatabaseId) (replica : NodeId)
  | failover (auth : AuthContext) (id : DatabaseId)
  | migrate (id : DatabaseId) (toNode : NodeId)

def Request.prog : Request → Rest
  | .create auth max key name => lift (createDatabase auth max key name).run
  | .setReplica auth id replica => lift (ApiServer.setReplica auth id replica).run
  | .failover auth id => lift (ApiServer.failover auth id).run
  | .migrate id toNode => (adminMigrateCell id toNode).run

/-! ## Running them -/

structure Outside where
  now : Nat := 0
  newId : DatabaseId := ⟨0⟩
  pick : Option NodeId := none
  client : Result NodeId := .ok ⟨0⟩
  done : Result Unit := .ok ()
  backup : Result String := .ok ""

def answer (s : InMemoryStore) : (c : RecordCall) → Outside → Option (c.Res × InMemoryStore)
  | .ext .newId, o => some (o.newId, s)
  | .ext .pickNode, o => some (o.pick, s)
  | .ext (.saveIdempotency key t payload), _ =>
    some (.ok (s.saveIdempotency key t payload).1, (s.saveIdempotency key t payload).2)
  | .ext (.listDatabases t), _ => some (.ok (s.listDatabases t), s)
  | .ext (.getDatabase t id), _ => some (s.getDatabase t id, s)
  | .ext (.getDatabaseById id), _ => some (s.getDatabaseById id, s)
  | .ext (.createDatabase t id node name), o => some (s.createDatabase t id node name o.now)
  | .ext (.setDatabaseState t id state), _ => some (s.setDatabaseState t id state)
  | .ext (.setReplicaNode t id replica), _ => some (s.setReplicaNode t id replica)
  | .ext (.promoteReplica t id), _ => some (s.promoteReplica t id)
  | .migrateDatabase t id newNode, _ => some (s.migrateDatabase t id newNode)
  | .ext (.clientFor _), o => some (o.client, s)
  | .ext (.clientForNode _), o => some (o.client, s)
  | .ext (.node _ _), o => some (o.done, s)
  | .ext (.invalidateRoute _), _ => some ((), s)
  | .backup _ _, o => some (o.backup, s)
  | _, _ => none

def act (s : InMemoryStore) (_ : Nat) (p : Rest) (o : Outside) : Option (InMemoryStore × Rest) :=
  match p with
  | .ret _ => none
  | .call c k => (answer s c o).map fun (r, s') => (s', k r)

def step : Pool InMemoryStore Nat Rest → PoolLabel Nat Outside Empty →
    Option (Pool InMemoryStore Nat Rest) :=
  Pool.step act (fun _ e => e.elim) (fun _ p => p)

def begun (s : InMemoryStore) (requests : Nat → Request) : Pool InMemoryStore Nat Rest :=
  ⟨s, fun i => (requests i).prog⟩

/-! ## The two fields -/

def Separate (r : DatabaseRecord) : Prop :=
  ∀ n, r.replicaNodeId = some n → r.storageNodeId ≠ some n

def AllSeparate (s : InMemoryStore) : Prop :=
  ∀ r ∈ s.databases, Separate r

def FindsOther (s : InMemoryStore) : RecordCall → Bool
  | .ext (.setReplicaNode t id (some n)) =>
    (s.databases.find? (·.IsCell t id)).all fun r => r.storageNodeId ≠ some n
  | .migrateDatabase t id n =>
    (s.databases.find? (·.IsCell t id)).all fun r => r.replicaNodeId ≠ some n
  | _ => true

section Fields

variable {s s' : InMemoryStore} {t : TenantId} {id : DatabaseId}

lemma separate_of_none {r : DatabaseRecord} (h : r.replicaNodeId = none) : Separate r := by
  intro n hn
  rw [h] at hn
  cases hn

section

variable (h : AllSeparate s)
include h

lemma AllSeparate.congr (hs : s'.databases = s.databases) : AllSeparate s' := by
  intro r hr
  exact h r (hs ▸ hr)

lemma AllSeparate.insert {r : DatabaseRecord} (hr : Separate r) :
    ∀ x ∈ insertRecord s.databases r, Separate x := by
  intro x hx
  rcases mem_insertRecord hx with rfl | hx
  · exact hr
  · exact h x hx

lemma allSeparate_updateRecord_iff {change : DatabaseRecord → Result DatabaseRecord} :
    AllSeparate (s.updateRecord t id change).2 ↔
      ∀ r r', s.databases.find? (·.IsCell t id) = some r → change r = .ok r' → Separate r' := by
  unfold InMemoryStore.updateRecord
  cases hfind : s.databases.find? (·.IsCell t id) with
  | none =>
    refine iff_of_true h ?_
    rintro r r' ⟨⟩
  | some r =>
    cases hr' : change r with
    | error e =>
      simp only [hr']
      refine iff_of_true h ?_
      rintro _ r' ⟨⟩ hok
      rw [hr'] at hok
      cases hok
    | ok r' =>
      simp only [hr']
      constructor
      · rintro hall _ _ ⟨⟩ hok
        rw [hr'] at hok
        cases hok
        exact hall r' self_mem_insertRecord
      · intro hone
        exact h.insert (hone r r' rfl hr')

lemma AllSeparate.create {node : Option NodeId} {name : Option String}
    {now : Nat} : AllSeparate (s.createDatabase t id node name now).2 := by
  unfold InMemoryStore.createDatabase
  split_ifs with hid
  · exact h
  · cases name with
    | none => exact h.insert (separate_of_none rfl)
    | some n =>
      dsimp only
      split_ifs with hname
      · exact h
      · exact h.insert (separate_of_none rfl)

lemma AllSeparate.setState {state : Catalogue.DatabaseState} :
    AllSeparate (s.setDatabaseState t id state).2 := by
  unfold InMemoryStore.setDatabaseState
  split_ifs with hid
  · intro x hx
    rcases List.mem_map.mp hx with ⟨r, hr, rfl⟩
    split_ifs
    · exact h r hr
    · exact h r hr
  · exact h

lemma AllSeparate.promote : AllSeparate (s.promoteReplica t id).2 := by
  refine (allSeparate_updateRecord_iff h).mpr ?_
  intro r r' _ hok
  cases hreplica : r.replicaNodeId with
  | none =>
    rw [hreplica] at hok
    cases hok
  | some n =>
    rw [hreplica] at hok
    cases hok
    exact separate_of_none rfl

lemma allSeparate_setReplicaNode_iff {replica : Option NodeId} :
    AllSeparate (s.setReplicaNode t id replica).2 ↔
      FindsOther s (.ext (.setReplicaNode t id replica)) := by
  refine (allSeparate_updateRecord_iff h).trans ?_
  cases replica with
  | none =>
    refine iff_of_true ?_ rfl
    rintro r _ _ ⟨⟩
    exact separate_of_none rfl
  | some n =>
    refine Iff.trans ?_ (Option.all_eq_true _ _).symm
    constructor
    · intro hall r hr
      exact decide_eq_true (hall r _ hr rfl n rfl)
    · rintro hother r _ hr ⟨⟩ _ ⟨⟩
      exact of_decide_eq_true (hother r hr)

lemma allSeparate_migrateDatabase_iff {n : NodeId} :
    AllSeparate (s.migrateDatabase t id n).2 ↔ FindsOther s (.migrateDatabase t id n) := by
  refine (allSeparate_updateRecord_iff h).trans (Iff.trans ?_ (Option.all_eq_true _ _).symm)
  constructor
  · intro hall r hr
    refine decide_eq_true fun hreplica => ?_
    exact hall r _ hr rfl n hreplica rfl
  · rintro hother r _ hr ⟨⟩ m hm hnm
    cases hnm
    exact of_decide_eq_true (hother r hr) hm

end

end Fields

/-! ## Runs -/

section Runs

variable {s : InMemoryStore}

lemma allSeparate_answer_iff (h : AllSeparate s) {c : RecordCall} {o : Outside}
    {p : c.Res × InMemoryStore} (ha : answer s c o = some p) :
    AllSeparate p.2 ↔ FindsOther s c := by
  cases c with
  | migrateDatabase t id n =>
    cases ha
    exact allSeparate_migrateDatabase_iff h
  | backup n id =>
    cases ha
    exact iff_of_true h rfl
  | ext c =>
    cases c
    case setReplicaNode t id replica =>
      cases ha
      exact allSeparate_setReplicaNode_iff h
    case createDatabase =>
      cases ha
      exact iff_of_true h.create rfl
    case setDatabaseState =>
      cases ha
      exact iff_of_true h.setState rfl
    case promoteReplica =>
      cases ha
      exact iff_of_true h.promote rfl
    case saveIdempotency key t payload =>
      cases ha
      refine iff_of_true (h.congr ?_) rfl
      unfold InMemoryStore.saveIdempotency
      cases s.idempotency key <;> rfl
    -- the other calls of the handlers only read, and the rest have no answer
    all_goals cases ha
    all_goals exact iff_of_true h rfl

/-- The next call of the request that moves finds another node. -/
def NextFindsOther (st : Pool InMemoryStore Nat Rest) : PoolLabel Nat Outside Empty → Bool
  | .proc i _ =>
    match st.procs i with
    | .ret _ => true
    | .call c _ => FindsOther st.shared c
  | .env _ => true

lemma allSeparate_step_iff {st st' : Pool InMemoryStore Nat Rest}
    {l : PoolLabel Nat Outside Empty} (h : AllSeparate st.shared) (hstep : step st l = some st') :
    AllSeparate st'.shared ↔ NextFindsOther st l := by
  cases hstep using Pool.step_cases with
  | env e => exact e.elim
  | proc i o s' p' hact =>
    cases hp : st.procs i with
    | ret a =>
      rw [hp] at hact
      cases hact
    | call c k =>
      rw [hp] at hact
      rcases Option.map_eq_some_iff.mp hact with ⟨p, hanswer, heq⟩
      cases heq
      simp only [NextFindsOther, hp]
      exact allSeparate_answer_iff h hanswer

/-- No Cell is ever its own replica exactly if each write of a replica finds the Cell on another
node, and each migration finds its replica on another node. -/
theorem own_replica_iff (requests : Nat → Request) (h : AllSeparate s)
    (ls : List (PoolLabel Nat Outside Empty)) :
    (∀ pre st, pre <+: ls → exec step (begun s requests) pre = some st → AllSeparate st.shared) ↔
      Meets step (fun st l => NextFindsOther st l) (begun s requests) ls := by
  refine always_iff_meets (I := fun _ => True) ?_ trivial h
  intro st l st' _ hst hstep
  exact ⟨trivial, allSeparate_step_iff hst hstep⟩

end Runs

/-! ## A Cell of four requests -/

/-- A Cell is created, gets a replica, is migrated, and fails over. -/
def fourRequests (replica target : NodeId) : Nat → Request
  | 0 => .create ⟨⟨5⟩, false⟩ 0 none (some "orders")
  | 1 => .setReplica ⟨⟨5⟩, false⟩ ⟨7⟩ replica
  | 2 => .migrate ⟨7⟩ target
  | _ => .failover ⟨⟨5⟩, false⟩ ⟨7⟩

/-- The four calls of the create, which is placed on node 1, and the two of `set_replica`. -/
def replicated : List (PoolLabel Nat Outside Empty) :=
  [.proc 0 { newId := ⟨7⟩ }, .proc 0 { pick := some ⟨1⟩ }, .proc 0 {}, .proc 0 {},
    .proc 1 {}, .proc 1 {}]

def migrated : List (PoolLabel Nat Outside Empty) :=
  replicated ++ [.proc 2 {}, .proc 2 {}, .proc 2 {}]

/-- The lookup, the client of the replica, the last pull and the promotion. -/
def promoted : List (PoolLabel Nat Outside Empty) :=
  migrated ++ [.proc 3 {}, .proc 3 {}, .proc 3 {}, .proc 3 {}]

theorem own_replica_iff_three_nodes :
    AllSeparate emptyInMemory ∧
      ∀ pre st, pre <+: promoted →
        exec step (begun emptyInMemory (fourRequests ⟨2⟩ ⟨3⟩)) pre = some st →
        AllSeparate st.shared := by
  have hempty : AllSeparate emptyInMemory := by
    intro r hr
    cases hr
  refine ⟨hempty, (own_replica_iff (fourRequests ⟨2⟩ ⟨3⟩) hempty promoted).mpr ?_⟩
  exact meets_of_check (fun h => h) (by decide)

lemma not_allSeparate {s : InMemoryStore} {n : NodeId}
    (h : (s.databases.map fun r => (r.storageNodeId, r.replicaNodeId)) = [(some n, some n)]) :
    ¬ AllSeparate s := by
  intro hall
  have hmem : (some n, some n) ∈ s.databases.map fun r => (r.storageNodeId, r.replicaNodeId) := by
    rw [h]
    exact List.mem_singleton_self _
  rcases List.mem_map.mp hmem with ⟨r, hr, heq⟩
  rcases Prod.mk.inj heq with ⟨hstorage, hreplica⟩
  exact hall r hr n hreplica hstorage

/-- The node of the Cell as its replica, and the node of the replica as the target. -/
theorem own_replica :
    (∃ st, exec step (begun emptyInMemory (fourRequests ⟨1⟩ ⟨2⟩)) replicated = some st ∧
      ¬ AllSeparate st.shared) ∧
    ∃ st, exec step (begun emptyInMemory (fourRequests ⟨2⟩ ⟨2⟩)) migrated = some st ∧
      ¬ AllSeparate st.shared := by
  have hset : (exec step (begun emptyInMemory (fourRequests ⟨1⟩ ⟨2⟩)) replicated).map (fun st =>
      st.shared.databases.map fun r => (r.storageNodeId, r.replicaNodeId)) =
      some [(some ⟨1⟩, some ⟨1⟩)] := by decide
  have hmigrate : (exec step (begun emptyInMemory (fourRequests ⟨2⟩ ⟨2⟩)) migrated).map (fun st =>
      st.shared.databases.map fun r => (r.storageNodeId, r.replicaNodeId)) =
      some [(some ⟨2⟩, some ⟨2⟩)] := by decide
  rcases Option.map_eq_some_iff.mp hset with ⟨st, hst, hfields⟩
  rcases Option.map_eq_some_iff.mp hmigrate with ⟨st', hst', hfields'⟩
  exact ⟨⟨st, hst, not_allSeparate hfields⟩, st', hst', not_allSeparate hfields'⟩

end Combee.ApiServer.Replicas
