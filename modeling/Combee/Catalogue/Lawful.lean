import Combee.Catalogue.Store

/-!
# Lawful — what the handlers may rely on in either metadata store

`LawfulStore` says what the calls do to the Cells (`cells`) and to the idempotency keys (`keys`).
The stores differ in who is told of a key that is taken (`replays`): everybody in the in-memory
store, only the tenant that has saved it in PostgreSQL.

`SameFor t s s'` says that the tenant `t` sees no difference between two states. Calls for another
tenant leave the state the same for `t`, and calls for `t` have the same effect in states that are
the same for `t`, as long as the id is new in both.
-/

namespace Combee.Catalogue

open List
open Billing (TenantId)
open MetadataStore

def FreshIn (records : List DatabaseRecord) (id : DatabaseId) : Prop :=
  ∀ r ∈ records, r.id ≠ id

def withState (records : List DatabaseRecord) (t : TenantId) (id : DatabaseId)
    (state : DatabaseState) : List DatabaseRecord :=
  records.map fun r => if r.IsCell t id then { r with state } else r

class LawfulStore (σ : Type) [MetadataStore σ] where
  cells : σ → List DatabaseRecord
  keys : σ → String → Option (TenantId × Payload)
  replays : TenantId → TenantId → Bool
  SameFor : TenantId → σ → σ → Prop
  replays_self (t : TenantId) : replays t t = true
  save_fst {s : σ} {key : String} {t : TenantId} {p : Payload} :
    (saveIdempotency s key t p).1 =
      (keys s key).bind fun entry => if replays entry.1 t then some entry.2 else none
  save_keys {s : σ} {key : String} {t : TenantId} {p : Payload} :
    keys (saveIdempotency s key t p).2 =
      if (keys s key).isNone then Function.update (keys s) key (some (t, p)) else keys s
  save_cells {s : σ} {key : String} {t : TenantId} {p : Payload} :
    cells (saveIdempotency s key t p).2 = cells s
  list_perm {s : σ} {t : TenantId} :
    (listDatabases s t).Perm ((cells s).filter (·.tenantId = t))
  get_eq {s : σ} {t : TenantId} {id : DatabaseId} :
    getDatabase s t id = orNotFound id ((cells s).find? (·.IsCell t id))
  create_spec (s : σ) (t : TenantId) (id : DatabaseId) (node : Option NodeId)
      (name : Option String) (now : Nat) :
    (∃ e, createDatabase s t id node name now = (.error e, s) ∧
      ∀ id', e ≠ .databaseNotFound id') ∨
    ∃ r s', createDatabase s t id node name now = (.ok r, s') ∧ r.tenantId = t ∧ r.id = id ∧
      cells s' = cells s ++ [r] ∧ keys s' = keys s
  ensure_spec (s : σ) (t : TenantId) (name : String) (node : Option NodeId) (id : DatabaseId)
      (now : Nat) :
    (∃ e, ensureDatabaseByName s t name node id now = (.error e, s)) ∨
    (∃ r ∈ cells s, ensureDatabaseByName s t name node id now = (.ok (r, false), s)) ∨
    ∃ r s', ensureDatabaseByName s t name node id now = (.ok (r, true), s') ∧ r.tenantId = t ∧
      r.id = id ∧ r.name = name ∧ cells s' = insertRecord (cells s) r ∧ keys s' = keys s
  /-- A call that finds the name, and what the lookup by name finds after any successful call. -/
  ensure_found {s : σ} {t : TenantId} {name : String} {node : Option NodeId}
      {id fresh : DatabaseId} {now : Nat} {r : DatabaseRecord} :
    getDatabaseByName s t name fresh = .ok r →
      ensureDatabaseByName s t name node id now = (.ok (r, false), s)
  ensure_named {s s' : σ} {t : TenantId} {name : String} {node : Option NodeId}
      {id : DatabaseId} {now : Nat} {r : DatabaseRecord} {created : Bool} :
    ensureDatabaseByName s t name node id now = (.ok (r, created), s') →
      ∀ fresh, getDatabaseByName s' t name fresh = .ok r
  setState_named {s : σ} {t : TenantId} {name : String} {fresh : DatabaseId}
      {state : DatabaseState} {r : DatabaseRecord} :
    getDatabaseByName s t name fresh = .ok r →
      getDatabaseByName (setDatabaseState s t r.id state).2 t name fresh = .ok { r with state }
  setState_cells {s : σ} {t : TenantId} {id : DatabaseId} {state : DatabaseState} :
    cells (setDatabaseState s t id state).2 = withState (cells s) t id state
  setState_keys {s : σ} {t : TenantId} {id : DatabaseId} {state : DatabaseState} :
    keys (setDatabaseState s t id state).2 = keys s
  delete_cells {s : σ} {t : TenantId} {id : DatabaseId} :
    cells (deleteDatabase s t id).2 = (cells s).filter fun r => !r.IsCell t id
  same_refl {s : σ} {t : TenantId} : SameFor t s s
  same_symm {s s' : σ} {t : TenantId} : SameFor t s s' → SameFor t s' s
  same_trans {s s' s'' : σ} {t : TenantId} : SameFor t s s' → SameFor t s' s'' → SameFor t s s''
  save_same {s : σ} {key : String} {t t' : TenantId} {p : Payload} :
    SameFor t' s (saveIdempotency s key t p).2
  list_same {s s' : σ} {t : TenantId} :
    SameFor t s s' → listDatabases s t = listDatabases s' t
  get_same {s s' : σ} {t : TenantId} {id : DatabaseId} :
    SameFor t s s' → getDatabase s t id = getDatabase s' t id
  create_frame {s : σ} {t t' : TenantId} {id : DatabaseId} {node : Option NodeId}
      {name : Option String} {now : Nat} :
    t' ≠ t → SameFor t' s (createDatabase s t id node name now).2
  create_same {s s' : σ} {t : TenantId} {id : DatabaseId} {node : Option NodeId}
      {name : Option String} {now : Nat} :
    SameFor t s s' → FreshIn (cells s) id → FreshIn (cells s') id →
      (createDatabase s t id node name now).1 = (createDatabase s' t id node name now).1 ∧
      SameFor t (createDatabase s t id node name now).2 (createDatabase s' t id node name now).2
  setState_frame {s : σ} {t t' : TenantId} {id : DatabaseId} {state : DatabaseState} :
    t' ≠ t → SameFor t' s (setDatabaseState s t id state).2
  setState_same {s s' : σ} {t : TenantId} {id : DatabaseId} {state : DatabaseState} :
    SameFor t s s' →
      SameFor t (setDatabaseState s t id state).2 (setDatabaseState s' t id state).2

/-! ## Lists of records -/

section Records

variable {records records' : List DatabaseRecord} {t t' : TenantId} {id : DatabaseId}
variable {r : DatabaseRecord}

lemma DatabaseRecord.isCell_iff : r.IsCell t id = true ↔ r.tenantId = t ∧ r.id = id := by
  simp [DatabaseRecord.IsCell]

lemma FreshIn.any_eq (h : FreshIn records id) : records.any (·.IsCell t id) = false := by
  rw [any_eq_false]
  intro r hr hcell
  exact h r hr (DatabaseRecord.isCell_iff.mp hcell).2

lemma insertRecord_of_any_eq (h : records.any (·.IsCell r.tenantId r.id) = false) :
    insertRecord records r = records ++ [r] := by
  simp [insertRecord, h]

lemma find_filter :
    (records.filter (·.tenantId = t)).find? (·.IsCell t id) = records.find? (·.IsCell t id) := by
  rw [find?_filter]
  congr 1
  funext r
  by_cases h : r.tenantId = t
  · simp [h]
  · simp [h, DatabaseRecord.IsCell]

lemma any_filter :
    (records.filter (·.tenantId = t)).any (·.IsCell t id) = records.any (·.IsCell t id) := by
  rw [Bool.eq_iff_iff, any_eq_true, any_eq_true, ← find?_isSome, find_filter, find?_isSome]

lemma orNotFound_eq_ok {found : Option DatabaseRecord} :
    orNotFound id found = .ok r ↔ found = some r := by
  cases found with
  | none | some => simp [orNotFound]

lemma find_insertRecord : (insertRecord records r).find? (·.IsCell r.tenantId r.id) = some r := by
  have hself : r.IsCell r.tenantId r.id = true := DatabaseRecord.isCell_iff.mpr ⟨rfl, rfl⟩
  unfold insertRecord
  split_ifs with hany
  · -- the first record under the key has become `r`
    induction records with
    | nil => simp at hany
    | cons x records ih =>
      by_cases hx : x.IsCell r.tenantId r.id = true
      · simp [hx, hself]
      · have hrest : records.any (·.IsCell r.tenantId r.id) = true := by simpa [hx] using hany
        simpa [hx] using ih hrest
  · have hnone : records.find? (·.IsCell r.tenantId r.id) = none := by simpa using hany
    simp [find?_append, hnone, hself]

variable {state : DatabaseState}

lemma find_withState (h : records.find? (·.IsCell t id) = some r) :
    (withState records t id state).find? (·.IsCell t id) = some { r with state } := by
  have hsame : ((·.IsCell t id) ∘ fun x : DatabaseRecord =>
      if x.IsCell t id then { x with state } else x) = (·.IsCell t id) := by
    funext x
    simp only [Function.comp_apply]
    split <;> rfl
  rw [withState, find?_map, hsame, h, Option.map_some, if_pos (find?_some h)]

lemma withState_filter :
    (withState records t id state).filter (·.tenantId = t') =
      withState (records.filter (·.tenantId = t')) t id state := by
  rw [withState, filter_map, withState]
  congr 1
  refine filter_congr fun r _ => ?_
  simp only [Function.comp]
  split_ifs <;> rfl

lemma withState_of_ne (h : t' ≠ t) :
    withState (records.filter (·.tenantId = t')) t id state =
      records.filter (·.tenantId = t') := by
  refine (map_congr_left fun r hr => ?_).trans (map_id _)
  have htenant : r.tenantId = t' := by simpa using (mem_filter.mp hr).2
  have hcell : ¬ r.IsCell t id = true := by
    rw [DatabaseRecord.isCell_iff, htenant]
    exact fun hc => h hc.1
  simp [hcell]

end Records

/-! ## The in-memory store -/

namespace InMemoryStore

variable {s s' : InMemoryStore} {t t' : TenantId} {id : DatabaseId} {node : Option NodeId}
variable {name : Option String} {now : Nat} {key : String} {p : Payload} {r : DatabaseRecord}
variable {state : DatabaseState}

def SameFor (t : TenantId) (s s' : InMemoryStore) : Prop :=
  s.databases.filter (·.tenantId = t) = s'.databases.filter (·.tenantId = t) ∧
  s.nameIndex t = s'.nameIndex t

/-- Both branches of `create_database` end with the same record but for the name. -/
lemma createDatabase_cases (s : InMemoryStore) (t : TenantId) (id : DatabaseId)
    (node : Option NodeId) (name : Option String) (now : Nat) :
    (∃ e, s.createDatabase t id node name now = (.error e, s) ∧
      ∀ id', e ≠ .databaseNotFound id') ∨
    (s.databases.any (·.IsCell t id) = false ∧ ∃ n,
      s.createDatabase t id node name now =
        (.ok ⟨id, n, t, .created, now, node, none, 0⟩,
          s.putNew ⟨id, n, t, .created, now, node, none, 0⟩)) := by
  unfold createDatabase
  by_cases hid : s.databases.any (·.IsCell t id) = true
  · exact .inl ⟨.databaseAlreadyExists id, if_pos hid, by simp⟩
  · have hfresh : s.databases.any (·.IsCell t id) = false := by simpa using hid
    rw [if_neg hid]
    cases name with
    | none => exact .inr ⟨hfresh, _, rfl⟩
    | some n =>
      by_cases hn : (s.nameIndex t n).isSome = true
      · exact .inl ⟨.cellAlreadyExists n, by simp [hn], by simp⟩
      · exact .inr ⟨hfresh, n, by simp [hn]⟩

lemma putNew_databases (h : s.databases.any (·.IsCell r.tenantId r.id) = false) :
    (s.putNew r).databases = s.databases ++ [r] :=
  insertRecord_of_any_eq h

lemma SameFor.putNew_of_ne (hne : t ≠ r.tenantId)
    (h : s.databases.any (·.IsCell r.tenantId r.id) = false) : SameFor t s (s.putNew r) := by
  refine ⟨?_, ?_⟩
  · simp [putNew_databases h, hne.symm]
  · simp [putNew, indexName, hne]

lemma SameFor.putNew (hs : SameFor t s s') (ht : r.tenantId = t)
    (h : s.databases.any (·.IsCell r.tenantId r.id) = false)
    (h' : s'.databases.any (·.IsCell r.tenantId r.id) = false) :
    SameFor t (s.putNew r) (s'.putNew r) := by
  subst ht
  refine ⟨?_, ?_⟩
  · simp [putNew_databases h, putNew_databases h', hs.1]
  · simp [InMemoryStore.putNew, indexName, hs.2]

lemma createDatabase_same (hs : SameFor t s s') (h : s.databases.any (·.IsCell t id) = false)
    (h' : s'.databases.any (·.IsCell t id) = false) :
    (s.createDatabase t id node name now).1 = (s'.createDatabase t id node name now).1 ∧
    SameFor t (s.createDatabase t id node name now).2
      (s'.createDatabase t id node name now).2 := by
  unfold createDatabase
  rw [h, h', if_neg (by simp), if_neg (by simp)]
  cases name with
  | none => exact ⟨rfl, hs.putNew rfl h h'⟩
  | some n =>
    by_cases hn : (s.nameIndex t n).isSome = true
    · have hn' : (s'.nameIndex t n).isSome = true := hs.2 ▸ hn
      simpa [hn, hn'] using hs
    · have hn' : ¬ (s'.nameIndex t n).isSome = true := hs.2 ▸ hn
      simpa [hn, hn'] using hs.putNew (r := ⟨id, n, t, .created, now, node, none, 0⟩) rfl h h'

lemma createDatabase_frame (hne : t' ≠ t) :
    SameFor t' s (s.createDatabase t id node name now).2 := by
  rcases s.createDatabase_cases t id node name now
    with ⟨e, herr, _⟩ | ⟨hfresh, n, hok⟩
  · rw [herr]
    exact ⟨rfl, rfl⟩
  · rw [hok]
    exact SameFor.putNew_of_ne hne hfresh

lemma setDatabaseState_snd : (s.setDatabaseState t id state).2 =
    { s with databases := withState s.databases t id state } := by
  unfold setDatabaseState
  split_ifs with h
  · rfl
  · -- nothing to set
    have hnone : withState s.databases t id state = s.databases := by
      refine (map_congr_left fun r hr => ?_).trans (map_id _)
      have hr' : ¬ r.IsCell t id = true := fun hc => h (any_eq_true.mpr ⟨r, hr, hc⟩)
      simp [hr']
    rw [hnone]

lemma deleteDatabase_databases : (s.deleteDatabase t id).2.databases =
    s.databases.filter fun r => !r.IsCell t id := by
  unfold deleteDatabase
  split_ifs with h
  · rfl
  · refine (filter_eq_self.mpr fun r hr => ?_).symm
    have hr' : ¬ r.IsCell t id = true := fun hc => h (any_eq_true.mpr ⟨r, hr, hc⟩)
    simpa using hr'

lemma ensureDatabaseByName_spec (s : InMemoryStore) (t : TenantId) (name : String)
    (node : Option NodeId) (id : DatabaseId) (now : Nat) :
    (∃ e, s.ensureDatabaseByName t name node id now = (.error e, s)) ∨
    (∃ r ∈ s.databases, s.ensureDatabaseByName t name node id now = (.ok (r, false), s)) ∨
    ∃ r s', s.ensureDatabaseByName t name node id now = (.ok (r, true), s') ∧ r.tenantId = t ∧
      r.id = id ∧ r.name = name ∧ s'.databases = insertRecord s.databases r ∧
      s'.idempotency = s.idempotency := by
  unfold ensureDatabaseByName
  cases hindex : s.nameIndex t name with
  | none => exact .inr (.inr ⟨_, _, rfl, rfl, rfl, rfl, rfl, rfl⟩)
  | some id' =>
    cases hfind : s.databases.find? (·.IsCell t id') with
    | none =>
      exact .inl ⟨.databaseNotFound id', by simp [getDatabase, hfind, orNotFound, Except.map]⟩
    | some r =>
      exact .inr (.inl ⟨r, mem_of_find?_eq_some hfind, by
        simp [getDatabase, hfind, orNotFound, Except.map]⟩)

lemma getDatabase_same (hs : SameFor t s s') : s.getDatabase t id = s'.getDatabase t id := by
  unfold getDatabase
  rw [← find_filter, hs.1, find_filter]

variable {fresh : DatabaseId} {name : String}

lemma ensureDatabaseByName_found (h : s.getDatabaseByName t name fresh = .ok r) :
    s.ensureDatabaseByName t name node id now = (.ok (r, false), s) := by
  unfold getDatabaseByName at h
  cases hindex : s.nameIndex t name with
  | none => simp [hindex] at h
  | some id' =>
    have hget : s.getDatabase t id' = .ok r := by simpa [hindex] using h
    simp [ensureDatabaseByName, hindex, hget, Except.map]

lemma getDatabaseByName_putNew :
    (s.putNew r).getDatabaseByName r.tenantId r.name fresh = .ok r := by
  have hindex : (s.putNew r).nameIndex r.tenantId r.name = some r.id := by
    simp [putNew, indexName]
  have hfind : (insertRecord s.databases r).find? (·.IsCell r.tenantId r.id) = some r :=
    find_insertRecord
  unfold getDatabaseByName
  rw [hindex]
  exact congrArg (orNotFound r.id) hfind

lemma ensureDatabaseByName_named {created : Bool}
    (h : s.ensureDatabaseByName t name node id now = (.ok (r, created), s')) (fresh : DatabaseId) :
    s'.getDatabaseByName t name fresh = .ok r := by
  unfold ensureDatabaseByName at h
  cases hindex : s.nameIndex t name with
  | none =>
    rw [hindex] at h
    cases h
    exact getDatabaseByName_putNew
  | some id' =>
    rw [hindex] at h
    cases hget : s.getDatabase t id' with
    | error e => simp [hget, Except.map] at h
    | ok r' =>
      simp only [hget, Except.map] at h
      cases h
      simp [getDatabaseByName, hindex, hget]

lemma setDatabaseState_named (h : s.getDatabaseByName t name fresh = .ok r) :
    (s.setDatabaseState t r.id state).2.getDatabaseByName t name fresh = .ok { r with state } := by
  rw [setDatabaseState_snd]
  unfold getDatabaseByName at h ⊢
  cases hindex : s.nameIndex t name with
  | none => simp [hindex] at h
  | some id' =>
    have hget : orNotFound id' (s.databases.find? (·.IsCell t id')) = .ok r := by
      simpa [hindex, getDatabase] using h
    have hfind := orNotFound_eq_ok.mp hget
    obtain rfl : r.id = id' := (DatabaseRecord.isCell_iff.mp (find?_some hfind)).2
    simp [getDatabase, find_withState hfind, orNotFound]

instance : LawfulStore InMemoryStore where
  cells := databases
  keys := idempotency
  replays _ _ := true
  replays_self _ := rfl
  SameFor := SameFor
  save_fst := by
    intro s key t p
    simp only [MetadataStore.saveIdempotency, saveIdempotency]
    cases s.idempotency key <;> rfl
  save_keys := by
    intro s key t p
    simp only [MetadataStore.saveIdempotency, saveIdempotency]
    cases h : s.idempotency key <;> simp
  save_cells := by
    intro s key t p
    simp only [MetadataStore.saveIdempotency, saveIdempotency]
    cases s.idempotency key <;> rfl
  list_perm := perm_insertionSort _ _
  get_eq := rfl
  create_spec := by
    intro s t id node name now
    rcases s.createDatabase_cases t id node name now
      with herr | ⟨hfresh, n, hok⟩
    · exact .inl herr
    · exact .inr ⟨_, _, hok, rfl, rfl, putNew_databases hfresh, rfl⟩
  ensure_spec := ensureDatabaseByName_spec
  ensure_found := ensureDatabaseByName_found
  ensure_named := ensureDatabaseByName_named
  setState_named := setDatabaseState_named
  setState_cells := by
    intro s t id state
    simp only [MetadataStore.setDatabaseState, setDatabaseState_snd]
  setState_keys := by
    intro s t id state
    simp only [MetadataStore.setDatabaseState, setDatabaseState_snd]
  delete_cells := deleteDatabase_databases
  same_refl := ⟨rfl, rfl⟩
  same_symm h := ⟨h.1.symm, h.2.symm⟩
  same_trans h h' := ⟨h.1.trans h'.1, h.2.trans h'.2⟩
  save_same := by
    intro s key t t' p
    simp only [MetadataStore.saveIdempotency, saveIdempotency]
    cases s.idempotency key <;> exact ⟨rfl, rfl⟩
  list_same h := congrArg (insertionSort DatabaseRecord.Before) h.1
  get_same h := getDatabase_same h
  create_frame := createDatabase_frame
  create_same hs h h' := createDatabase_same hs h.any_eq h'.any_eq
  setState_frame := by
    intro s t t' id state hne
    simp only [MetadataStore.setDatabaseState, setDatabaseState_snd]
    exact ⟨by rw [withState_filter, withState_of_ne hne], rfl⟩
  setState_same := by
    intro s s' t id state hs
    simp only [MetadataStore.setDatabaseState, setDatabaseState_snd]
    exact ⟨by rw [withState_filter, withState_filter, hs.1], hs.2⟩

end InMemoryStore

/-! ## PostgreSQL -/

namespace PostgresStore

variable {s s' : PostgresStore} {t t' : TenantId} {id : DatabaseId} {node : Option NodeId}
variable {name : Option String} {now : Nat} {key : String} {p : Payload} {row : DatabaseRow}
variable {state : DatabaseState}

def records (s : PostgresStore) : List DatabaseRecord :=
  s.databases.map DatabaseRow.toRecord

def SameFor (t : TenantId) (s s' : PostgresStore) : Prop :=
  s.databases.filter (·.tenantId = t) = s'.databases.filter (·.tenantId = t)

@[simp] lemma toRecord_id : row.toRecord.id = row.id := rfl
@[simp] lemma toRecord_tenantId : row.toRecord.tenantId = row.tenantId := rfl

lemma insertDatabase_cases (s : PostgresStore) (row : DatabaseRow) :
    ((s.databases.any (·.id = row.id) = true) ∧ s.insertDatabase row = (.ok 0, s)) ∨
    s.insertDatabase row = (.error duplicateName, s) ∨
    (s.databases.any (·.id = row.id) = false ∧
      s.insertDatabase row = (.ok 1, { s with databases := s.databases ++ [row] })) := by
  unfold insertDatabase
  by_cases hid : s.databases.any (·.id = row.id) = true
  · exact .inl ⟨hid, if_pos hid⟩
  · rw [if_neg hid]
    split_ifs
    · exact .inr (.inl rfl)
    · exact .inr (.inr ⟨by simpa using hid, rfl⟩)

lemma records_filter :
    s.records.filter (·.tenantId = t) =
      (s.databases.filter (·.tenantId = t)).map DatabaseRow.toRecord := by
  rw [records, filter_map]
  rfl

lemma getDatabase_append (s : PostgresStore) (row : DatabaseRow)
    (hid : s.databases.any (·.id = row.id) = false) :
    ({ s with databases := s.databases ++ [row] } : PostgresStore).getDatabase row.tenantId row.id =
      .ok row.toRecord := by
  have hnone : s.records.find? (·.IsCell row.tenantId row.id) = none := by
    rw [find?_eq_none]
    intro r hr hcell
    rcases mem_map.mp hr with ⟨row', hrow', rfl⟩
    have hsame : row'.id = row.id := (DatabaseRecord.isCell_iff.mp hcell).2
    rw [any_eq_false] at hid
    exact hid row' hrow' (by simpa using hsame)
  have hself : row.toRecord.IsCell row.tenantId row.id = true :=
    DatabaseRecord.isCell_iff.mpr ⟨rfl, rfl⟩
  simp only [records] at hnone
  simp [getDatabase, selectDatabase, find?_append, hnone, hself, orNotFound]

lemma createDatabase_cases (s : PostgresStore) (t : TenantId) (id : DatabaseId)
    (node : Option NodeId) (name : Option String) (now : Nat) :
    (∃ e, s.createDatabase t id node name now = (.error e, s) ∧
      ∀ id', e ≠ .databaseNotFound id') ∨
    (s.databases.any (·.id = id) = false ∧ s.createDatabase t id node name now =
      (.ok (newRow t id node name now).toRecord,
        { s with databases := s.databases ++ [newRow t id node name now] })) := by
  unfold createDatabase
  rcases s.insertDatabase_cases (newRow t id node name now) with
    ⟨_, h⟩ | h | ⟨hid, h⟩
  · exact .inl ⟨.databaseAlreadyExists id, by simp [h], by simp⟩
  · exact .inl ⟨duplicateName, by simp [h], by simp [duplicateName]⟩
  · refine .inr ⟨hid, ?_⟩
    have hback := getDatabase_append s (newRow t id node name now) hid
    rw [h]
    exact Prod.ext hback rfl

def nameTaken (s : PostgresStore) (t : TenantId) (name : String) : Bool :=
  (s.databases.filter (·.tenantId = t)).any (·.name = some name)

lemma insertDatabase_of_fresh (row : DatabaseRow) (hid : s.databases.any (·.id = row.id) = false)
    {name : String} (hname : row.name = some name) :
    s.insertDatabase row = if s.nameTaken row.tenantId name then (.error duplicateName, s)
      else (.ok 1, { s with databases := s.databases ++ [row] }) := by
  unfold insertDatabase nameTaken
  rw [hid, if_neg (by simp), hname, Option.isSome_some, Bool.true_and, List.any_filter]

lemma createDatabase_of_fresh (hid : s.databases.any (·.id = id) = false) :
    s.createDatabase t id node name now =
      if s.nameTaken t (name.getD (defaultName id)) then (.error duplicateName, s)
      else (.ok (newRow t id node name now).toRecord,
        { s with databases := s.databases ++ [newRow t id node name now] }) := by
  have hinsert := insertDatabase_of_fresh (s := s) (newRow t id node name now) hid rfl
  have hback := getDatabase_append s (newRow t id node name now) hid
  by_cases htaken : s.nameTaken t (name.getD (defaultName id)) = true
  · rw [if_pos htaken]
    rw [if_pos (show s.nameTaken (newRow t id node name now).tenantId _ = true from htaken)]
      at hinsert
    simp [createDatabase, hinsert]
  · rw [if_neg htaken]
    rw [if_neg (show ¬ s.nameTaken (newRow t id node name now).tenantId _ = true from htaken)]
      at hinsert
    rw [createDatabase, hinsert]
    exact Prod.ext hback rfl

lemma createDatabase_same (hs : SameFor t s s') (h : s.databases.any (·.id = id) = false)
    (h' : s'.databases.any (·.id = id) = false) :
    (s.createDatabase t id node name now).1 = (s'.createDatabase t id node name now).1 ∧
    SameFor t (s.createDatabase t id node name now).2
      (s'.createDatabase t id node name now).2 := by
  have hfilter : s.databases.filter (·.tenantId = t) = s'.databases.filter (·.tenantId = t) := hs
  rw [createDatabase_of_fresh h, createDatabase_of_fresh h', nameTaken, nameTaken, hfilter]
  split_ifs
  · exact ⟨rfl, hs⟩
  · exact ⟨rfl, by simp [SameFor, hfilter]⟩

lemma createDatabase_frame (hne : t' ≠ t) :
    SameFor t' s (s.createDatabase t id node name now).2 := by
  rcases s.createDatabase_cases t id node name now
    with ⟨e, herr, _⟩ | ⟨_, hok⟩
  · rw [herr]
    exact rfl
  · rw [hok]
    simp [SameFor, newRow, hne.symm]

lemma any_id_of_freshIn (h : FreshIn s.records id) : s.databases.any (·.id = id) = false := by
  rw [any_eq_false]
  intro row hrow hid
  exact h row.toRecord (mem_map_of_mem hrow) (by simpa using hid)

lemma setDatabaseState_records :
    (s.setDatabaseState t id state).2.records = withState s.records t id state := by
  simp only [records, setDatabaseState, withState, map_map]
  refine map_congr_left fun row _ => ?_
  simp only [Function.comp]
  split_ifs <;> rfl

lemma setDatabaseState_filter :
    (s.setDatabaseState t id state).2.databases.filter (·.tenantId = t') =
      (s.databases.filter (·.tenantId = t')).map fun row =>
        if row.toRecord.IsCell t id then { row with state } else row := by
  simp only [setDatabaseState, filter_map]
  congr 1
  refine filter_congr fun row _ => ?_
  simp only [Function.comp]
  split_ifs <;> rfl

lemma setDatabaseState_frame (hne : t' ≠ t) : SameFor t' s (s.setDatabaseState t id state).2 := by
  unfold SameFor
  rw [setDatabaseState_filter]
  refine ((map_congr_left fun row hrow => ?_).trans (map_id _)).symm
  have htenant : row.tenantId = t' := by simpa using (mem_filter.mp hrow).2
  have hcell : ¬ row.toRecord.IsCell t id = true := by
    rw [DatabaseRecord.isCell_iff, toRecord_tenantId, htenant]
    exact fun hc => hne hc.1
  simp [hcell]

lemma deleteDatabase_records : (s.deleteDatabase t id).2.records =
    s.records.filter fun r => !r.IsCell t id := by
  unfold deleteDatabase
  split_ifs with h
  · simp only [records, filter_map]
    rfl
  · refine (filter_eq_self.mpr fun r hr => ?_).symm
    rcases mem_map.mp hr with ⟨row, hrow, rfl⟩
    have hr' : ¬ row.toRecord.IsCell t id = true :=
      fun hc => h (any_eq_true.mpr ⟨row, hrow, hc⟩)
    simpa using hr'

variable {r : DatabaseRecord}

lemma selectByName_mem {name : String} (h : s.selectByName t name = some r) : r ∈ s.records := by
  rcases Option.map_eq_some_iff.mp h with ⟨row, hrow, rfl⟩
  exact mem_map_of_mem (mem_of_find?_eq_some hrow)

lemma insertRecord_append (row : DatabaseRow) (h : s.databases.any (·.id = row.id) = false) :
    insertRecord s.records row.toRecord = s.records ++ [row.toRecord] := by
  refine insertRecord_of_any_eq ?_
  rw [any_eq_false] at h ⊢
  intro r hr hcell
  rcases mem_map.mp hr with ⟨row', hrow', rfl⟩
  exact h row' hrow' (by simpa using (DatabaseRecord.isCell_iff.mp hcell).2)

lemma ensureDatabaseByName_cases {name : String} (hname : s.selectByName t name = none)
    (node : Option NodeId) (id : DatabaseId) (now : Nat) :
    (∃ e, s.ensureDatabaseByName t name node id now = (.error e, s)) ∨
    (s.databases.any (·.id = id) = false ∧ s.ensureDatabaseByName t name node id now =
      (.ok ((newRow t id node (some name) now).toRecord, true),
        { s with databases := s.databases ++ [newRow t id node (some name) now] })) := by
  rcases s.createDatabase_cases t id node (some name) now with ⟨e, herr, _⟩ | ⟨hid, hok⟩
  · -- after a conflict of ids the name is still not there
    refine .inl ?_
    cases e <;> exact ⟨_, by
      simp only [ensureDatabaseByName, getDatabaseByName, hname, orNotFound, herr]; rfl⟩
  · refine .inr ⟨hid, ?_⟩
    simp only [ensureDatabaseByName, getDatabaseByName, hname, orNotFound, hok]

lemma ensureDatabaseByName_spec (s : PostgresStore) (t : TenantId) (name : String)
    (node : Option NodeId) (id : DatabaseId) (now : Nat) :
    (∃ e, s.ensureDatabaseByName t name node id now = (.error e, s)) ∨
    (∃ r ∈ s.records, s.ensureDatabaseByName t name node id now = (.ok (r, false), s)) ∨
    ∃ r s', s.ensureDatabaseByName t name node id now = (.ok (r, true), s') ∧ r.tenantId = t ∧
      r.id = id ∧ r.name = name ∧ s'.records = insertRecord s.records r ∧
      s'.idempotencyKeys = s.idempotencyKeys := by
  cases hname : s.selectByName t name with
  | some r =>
    refine .inr (.inl ⟨r, selectByName_mem hname, ?_⟩)
    simp [ensureDatabaseByName, getDatabaseByName, hname, orNotFound]
  | none =>
    rcases ensureDatabaseByName_cases hname node id now with
      herr | ⟨hid, hok⟩
    · exact .inl herr
    · refine .inr (.inr ⟨_, _, hok, rfl, rfl, rfl, ?_, rfl⟩)
      rw [insertRecord_append (newRow t id node (some name) now) hid]
      simp [records]

lemma ensureDatabaseByName_found {name : String} {fresh : DatabaseId}
    (h : s.getDatabaseByName t name fresh = .ok r) :
    s.ensureDatabaseByName t name node id now = (.ok (r, false), s) := by
  have hselect : s.selectByName t name = some r := orNotFound_eq_ok.mp h
  simp [ensureDatabaseByName, getDatabaseByName, hselect, orNotFound]

lemma ensureDatabaseByName_named {name : String} {created : Bool}
    (h : s.ensureDatabaseByName t name node id now = (.ok (r, created), s')) (fresh : DatabaseId) :
    s'.getDatabaseByName t name fresh = .ok r := by
  cases hname : s.selectByName t name with
  | some r' =>
    simp only [ensureDatabaseByName, getDatabaseByName, hname, orNotFound] at h
    cases h
    exact orNotFound_eq_ok.mpr hname
  | none =>
    rcases ensureDatabaseByName_cases hname node id now with
      ⟨e, herr⟩ | ⟨_, hok⟩
    · rw [herr] at h
      cases h
    · rw [hok] at h
      cases h
      have hnone : s.databases.find? (fun row => row.tenantId = t && row.name = some name) =
          none := Option.map_eq_none_iff.mp hname
      simp [getDatabaseByName, selectByName, find?_append, hnone, newRow, orNotFound]

lemma setDatabaseState_named {name : String} {fresh : DatabaseId}
    (h : s.getDatabaseByName t name fresh = .ok r) :
    (s.setDatabaseState t r.id state).2.getDatabaseByName t name fresh = .ok { r with state } := by
  rcases Option.map_eq_some_iff.mp (orNotFound_eq_ok.mp h) with ⟨row, hfind, rfl⟩
  have htenant : row.tenantId = t := by
    have hrow := find?_some hfind
    simp only [Bool.and_eq_true, decide_eq_true_eq] at hrow
    exact hrow.1
  have hcell : row.toRecord.IsCell t row.toRecord.id = true :=
    DatabaseRecord.isCell_iff.mpr ⟨htenant, rfl⟩
  -- tenant and name of a row stay as they are
  have hsame : ((fun row : DatabaseRow => decide (row.tenantId = t) &&
      decide (row.name = some name)) ∘ fun row' : DatabaseRow =>
        if row'.toRecord.IsCell t row.toRecord.id then { row' with state } else row') =
      fun row => decide (row.tenantId = t) && decide (row.name = some name) := by
    funext row'
    simp only [Function.comp]
    split_ifs <;> rfl
  refine orNotFound_eq_ok.mpr ?_
  simp only [selectByName, setDatabaseState, find?_map, hsame, hfind, Option.map_some, hcell,
    if_true]
  rfl

lemma getDatabase_same (hs : SameFor t s s') : s.getDatabase t id = s'.getDatabase t id := by
  have hrecords : s.records.filter (·.tenantId = t) = s'.records.filter (·.tenantId = t) := by
    rw [records_filter, records_filter, show s.databases.filter _ = _ from hs]
  have hselect : s.records.find? (·.IsCell t id) = s'.records.find? (·.IsCell t id) := by
    rw [← find_filter, hrecords, find_filter]
  unfold getDatabase
  exact congrArg (orNotFound id) hselect

instance : LawfulStore PostgresStore where
  cells := records
  keys := idempotencyKeys
  replays owner t := owner = t
  replays_self _ := by simp
  SameFor := SameFor
  save_fst := by
    intro s key t p
    simp only [MetadataStore.saveIdempotency, saveIdempotency, insertKey]
    cases h : s.idempotencyKeys key <;> simp [selectKey, h]
  save_keys := by
    intro s key t p
    simp only [MetadataStore.saveIdempotency, saveIdempotency, insertKey]
    cases h : s.idempotencyKeys key <;> simp
  save_cells := by
    intro s key t p
    simp only [MetadataStore.saveIdempotency, saveIdempotency, insertKey]
    cases s.idempotencyKeys key <;> rfl
  list_perm := by
    intro s t
    rw [records_filter]
    exact perm_insertionSort _ _
  get_eq := rfl
  create_spec := by
    intro s t id node name now
    rcases s.createDatabase_cases t id node name now
      with herr | ⟨_, hok⟩
    · exact .inl herr
    · exact .inr ⟨_, _, hok, rfl, rfl, by simp [records], rfl⟩
  ensure_spec := ensureDatabaseByName_spec
  ensure_found := ensureDatabaseByName_found
  ensure_named := ensureDatabaseByName_named
  setState_named := setDatabaseState_named
  setState_cells := setDatabaseState_records
  setState_keys := rfl
  delete_cells := deleteDatabase_records
  same_refl := rfl
  same_symm h := Eq.symm h
  same_trans h h' := Eq.trans h h'
  save_same := by
    intro s key t t' p
    simp only [MetadataStore.saveIdempotency, saveIdempotency, insertKey]
    cases s.idempotencyKeys key <;> exact rfl
  list_same h := congrArg
    (fun rows => (map DatabaseRow.toRecord rows).insertionSort DatabaseRecord.Before) h
  get_same h := getDatabase_same h
  create_frame := createDatabase_frame
  create_same hs h h' := createDatabase_same hs
    (any_id_of_freshIn h) (any_id_of_freshIn h')
  setState_frame := setDatabaseState_frame
  setState_same := by
    intro s s' t id state hs
    have hfilter : s.databases.filter (·.tenantId = t) = s'.databases.filter (·.tenantId = t) := hs
    simp only [MetadataStore.setDatabaseState, SameFor, setDatabaseState_filter,
      hfilter]

end PostgresStore

end Combee.Catalogue
