import Combee.Catalogue.NameIndex
import Combee.Foundation.Lockstep

/-!
# Backends — the in-memory catalogue and the PostgreSQL catalogue side by side

Both stores get the same operations, with the same ids, one after the other. Their records are
twins: equal but for the time at which they were made. As long as the stores match (`Matches`),
each operation gives the same answer in both exactly if it is `Regular`. The others are:

* a new Cell or a rename under a name that is taken (a different error, or in one store none);
* a state for a Cell that does not exist (an error in memory only);
* the replicas on a node that has some (an error in PostgreSQL, whose `SELECT` lacks a column);
* one more than the largest generation (an error in PostgreSQL only).
-/

namespace Combee.Catalogue

open List
open Billing (TenantId)
open Foundation

/-! ## Operations and answers -/

inductive StoreOp where
  | ofTenant (t : TenantId) (op : TenantOp)
  | listReplicasOf (node : NodeId)
  deriving DecidableEq, Repr

def StoreOp.drawn : StoreOp → Option DatabaseId
  | .ofTenant _ op => op.drawn
  | .listReplicasOf _ => none

def InMemoryStore.performAny (s : InMemoryStore) (now : Nat) : StoreOp → Outcome × InMemoryStore
  | .ofTenant t op => s.perform t now op
  | .listReplicasOf node => (.records (s.listReplicasOf node), s)

def PostgresStore.performAny (s : PostgresStore) (now : Nat) : StoreOp → Outcome × PostgresStore
  | .ofTenant t op => s.perform t now op
  | .listReplicasOf node => (.ofRecords (s.listReplicasOf node), s)

def DatabaseRecord.timeless (r : DatabaseRecord) : DatabaseRecord :=
  { r with createdAt := 0 }

/-- The same answer up to times. Listings are compared without their order, which goes by time. -/
def Outcome.Agrees : Outcome → Outcome → Prop
  | .done, .done => True
  | .record r, .record r' => r.timeless = r'.timeless
  | .ensured r created, .ensured r' created' => r.timeless = r'.timeless ∧ created = created'
  | .records rs, .records rs' =>
    (rs.map DatabaseRecord.timeless).Perm (rs'.map DatabaseRecord.timeless)
  | .failed e, .failed e' => e.ctorIdx = e'.ctorIdx
  | _, _ => False

/-! ## Stores that match -/

def DatabaseRecord.toRow (r : DatabaseRecord) : DatabaseRow :=
  ⟨r.id, r.tenantId, r.state, r.createdAt, r.storageNodeId, r.replicaNodeId, r.generation,
    some r.name⟩

def Twin (r : DatabaseRecord) (row : DatabaseRow) : Prop :=
  ∃ now, row = { r with createdAt := now }.toRow

/-- The rows are twins of the records, ids are unique, the index leads to the records, and
generations are `i64`s. -/
structure Matches (s : InMemoryStore) (p : PostgresStore) : Prop where
  twins : List.Forall₂ Twin s.databases p.databases
  ids : (s.databases.map (·.id)).Nodup
  index : ∀ t n id, s.nameIndex t n = some id ↔
    ∃ r ∈ s.databases, r.tenantId = t ∧ r.name = n ∧ r.id = id
  bounds : ∀ r ∈ s.databases, -(2 ^ 63) ≤ r.generation ∧ r.generation ≤ i64Max

section Twins

variable {r : DatabaseRecord} {row : DatabaseRow} {t : TenantId} {id : DatabaseId}

lemma Twin.isCell (h : Twin r row) : r.IsCell t id = row.toRecord.IsCell t id := by
  rcases h with ⟨now, rfl⟩
  rfl

lemma Twin.isNamed (h : Twin r row) (name : String) :
    (r.tenantId = t && r.name = name) = (row.tenantId = t && row.name = some name) := by
  rcases h with ⟨now, rfl⟩
  by_cases hn : r.name = name
  · simp [DatabaseRecord.toRow, hn]
  · simp [DatabaseRecord.toRow, hn]

lemma Twin.timeless (h : Twin r row) : r.timeless = row.toRecord.timeless := by
  rcases h with ⟨now, rfl⟩
  rfl

end Twins

section Matches

variable {s s' : InMemoryStore} {p p' : PostgresStore} {t : TenantId} {id : DatabaseId}
variable {r : DatabaseRecord} {name : String}

section

variable (h : Matches s p)
include h

lemma Matches.find (t : TenantId) (id : DatabaseId) :
    (s.databases.find? (·.IsCell t id) = none ∧ p.records.find? (·.IsCell t id) = none) ∨
      ∃ r row, s.databases.find? (·.IsCell t id) = some r ∧
        p.records.find? (·.IsCell t id) = some row.toRecord ∧ Twin r row := by
  unfold PostgresStore.records
  rw [find?_map]
  rcases find_related h.twins fun r row => Twin.isCell with ⟨hs, hp⟩ | ⟨r, row, hs, hp, htwin⟩
  · refine .inl ⟨hs, ?_⟩
    exact (congrArg (Option.map DatabaseRow.toRecord) hp)
  · refine .inr ⟨r, row, hs, ?_, htwin⟩
    exact (congrArg (Option.map DatabaseRow.toRecord) hp)

lemma Matches.get (t : TenantId) (id : DatabaseId) :
    (Outcome.ofRecord (s.getDatabase t id)).Agrees (.ofRecord (p.getDatabase t id)) := by
  unfold InMemoryStore.getDatabase PostgresStore.getDatabase PostgresStore.selectDatabase
  rcases h.find t id with ⟨hs, hp⟩ | ⟨r, row, hs, hp, htwin⟩
  · rw [hs, show (p.databases.map DatabaseRow.toRecord).find? _ = none from hp]
    exact rfl
  · rw [hs, show (p.databases.map DatabaseRow.toRecord).find? _ = some row.toRecord from hp]
    exact htwin.timeless

lemma Matches.any (t : TenantId) (id : DatabaseId) :
    s.databases.any (·.IsCell t id) = p.databases.any (·.toRecord.IsCell t id) :=
  any_related h.twins fun _ _ => Twin.isCell

lemma Matches.any_of_find (hfind : s.databases.find? (·.IsCell t id) = some r) :
    p.databases.any (·.toRecord.IsCell t id) = true :=
  h.any t id ▸ Catalogue.any_of_find hfind

lemma Matches.unique : IdsUnique s := h.ids

lemma Matches.exact : IndexExact s := h.index

omit h in
lemma any_of_find_none (hfind : s.databases.find? (·.IsCell t id) = none) :
    s.databases.any (·.IsCell t id) = false := by
  rw [find?_eq_none] at hfind
  exact any_eq_false.mpr hfind

lemma Matches.nameTaken (t : TenantId) (name : String) :
    p.nameTaken t name = (s.nameIndex t name).isSome := by
  have hany : p.nameTaken t name = s.databases.any fun r => r.tenantId = t && r.name = name := by
    unfold PostgresStore.nameTaken
    rw [List.any_filter]
    refine (any_related h.twins fun r row htwin => ?_).symm
    rw [htwin.isNamed, Bool.and_comm]
  rw [hany, Bool.eq_iff_iff, any_eq_true, Option.isSome_iff_exists]
  simp only [h.index, Bool.and_eq_true, decide_eq_true_eq]
  constructor
  · rintro ⟨r, hr, ht, hn⟩
    exact ⟨r.id, r, hr, ht, hn, rfl⟩
  · rintro ⟨id, r, hr, ht, hn, _⟩
    exact ⟨r, hr, ht, hn⟩

lemma Matches.fresh (hid : FreshIn s.databases id) : p.databases.any (·.id = id) = false := by
  have hany : s.databases.any (·.id = id) = p.databases.any (·.id = id) := by
    refine any_related h.twins ?_
    rintro r _ ⟨now, rfl⟩
    rfl
  rw [← hany, any_eq_false]
  intro r hr
  simpa using hid r hr

lemma Matches.selectByName (t : TenantId) (name : String) :
    (s.databases.find? (fun r => r.tenantId = t && r.name = name) = none ∧
        p.selectByName t name = none) ∨
      ∃ r row, s.databases.find? (fun r => r.tenantId = t && r.name = name) = some r ∧
        p.selectByName t name = some row.toRecord ∧ Twin r row := by
  unfold PostgresStore.selectByName
  rcases find_related h.twins fun _ _ htwin => htwin.isNamed name with
    ⟨hs, hp⟩ | ⟨r, row, hs, hp, htwin⟩
  · exact .inl ⟨hs, congrArg (Option.map DatabaseRow.toRecord) hp⟩
  · exact .inr ⟨r, row, hs, congrArg (Option.map DatabaseRow.toRecord) hp, htwin⟩

lemma Matches.index_of_find
    (hfind : s.databases.find? (fun r => r.tenantId = t && r.name = name) = some r) :
    s.nameIndex t name = some r.id := by
  have hr := find?_some hfind
  simp only [Bool.and_eq_true, decide_eq_true_eq] at hr
  exact (h.index t name r.id).mpr ⟨r, mem_of_find?_eq_some hfind, hr.1, hr.2, rfl⟩

lemma Matches.named (hindex : s.nameIndex t name = some id) :
    ∃ r row, s.getDatabase t id = .ok r ∧ p.selectByName t name = some row.toRecord ∧
      Twin r row := by
  rcases (h.index t name id).mp hindex with ⟨r, hr, ht, hn, rfl⟩
  have hget : s.databases.find? (·.IsCell t r.id) = some r := h.unique.find hr ht
  rcases h.selectByName t name with ⟨hs, _⟩ | ⟨x, row, hs, hp, htwin⟩
  · have hnot := find?_eq_none.mp hs r hr
    simp [ht, hn] at hnot
  · -- the record with the name is the one in the index
    have hxid := h.index_of_find hs
    have hxr : x = r := h.unique.eq_of_id (mem_of_find?_eq_some hs) hr
      (Option.some.inj (hxid.symm.trans hindex))
    subst hxr
    exact ⟨x, row, by simp [InMemoryStore.getDatabase, hget, orNotFound], hp, htwin⟩

lemma Matches.not_named (hindex : s.nameIndex t name = none) : p.selectByName t name = none := by
  rcases h.selectByName t name with ⟨_, hp⟩ | ⟨x, _, hs, _, _⟩
  · exact hp
  · cases hindex.symm.trans (h.index_of_find hs)

lemma Matches.twin_of_row (hfind : s.databases.find? (·.IsCell t id) = some r)
    {row : DatabaseRow} (hrow : row ∈ p.databases) (hcell : row.toRecord.IsCell t id = true) :
    Twin r row := by
  rcases mem_of_find hfind with ⟨hr, _, hrid⟩
  rcases mem_iff_getElem.mp hrow with ⟨i, hi, rfl⟩
  have hi' : i < s.databases.length := h.twins.length_eq ▸ hi
  have htwin : Twin s.databases[i] p.databases[i] := h.twins.get hi' hi
  have hcell' : s.databases[i].IsCell t id = true := htwin.isCell ▸ hcell
  have hxr : s.databases[i] = r := h.unique.eq_of_id (getElem_mem hi') hr
    ((DatabaseRecord.isCell_iff.mp hcell').2.trans hrid.symm)
  exact hxr ▸ htwin

end

/-! ### What keeps the stores matched -/

lemma Matches.putNew (h : Matches s p) {row : DatabaseRow} (htwin : Twin r row)
    (hid : FreshIn s.databases r.id) (hname : s.nameIndex r.tenantId r.name = none)
    (hgen : r.generation = 0) :
    Matches (s.putNew r) { p with databases := p.databases ++ [row] } := by
  have hput : (s.putNew r).databases = s.databases ++ [r] :=
    InMemoryStore.putNew_databases hid.any_eq
  refine ⟨?_, ?_, ?_, ?_⟩
  · rw [hput]
    exact rel_append h.twins (.cons htwin .nil)
  · exact h.unique.putNew hid
  · exact (h.exact.putNew_iff hid).mpr hname
  · rw [hput]
    refine forall_mem_append.mpr ⟨h.bounds, forall_mem_singleton.mpr ?_⟩
    rw [hgen]
    decide

variable {f : DatabaseRecord → DatabaseRecord} {g : DatabaseRow → DatabaseRow}

section

variable (h : Matches s p)
include h

lemma Matches.twins_map (hg : ∀ x ∈ s.databases, ∀ row, Twin x row → Twin (f x) (g row)) :
    List.Forall₂ Twin (s.databases.map f) (p.databases.map g) := by
  have hmem : List.Forall₂ (fun x row => x ∈ s.databases ∧ Twin x row) s.databases p.databases :=
    (forall₂_and_left _ _).mpr ⟨fun x hx => hx, h.twins⟩
  refine rel_map ?_ hmem
  rintro x row ⟨hx, htwin⟩
  exact hg x hx row htwin

lemma Matches.map (hf : ∀ x, (f x).tenantId = x.tenantId ∧ (f x).id = x.id ∧ (f x).name = x.name)
    (hgen : ∀ x ∈ s.databases, -(2 ^ 63) ≤ (f x).generation ∧ (f x).generation ≤ i64Max)
    (hg : ∀ x ∈ s.databases, ∀ row, Twin x row → Twin (f x) (g row)) :
    Matches { s with databases := s.databases.map f }
      { p with databases := p.databases.map g } := by
  refine ⟨h.twins_map hg, h.unique.map fun x _ => (hf x).2.1, h.exact.map fun x _ => hf x, ?_⟩
  intro y hy
  rcases mem_map.mp hy with ⟨x, hx, rfl⟩
  exact hgen x hx

section

variable (hfind : s.databases.find? (·.IsCell t id) = some r)
include hfind

lemma Matches.update
    (hf : ∀ x, (f x).tenantId = x.tenantId ∧ (f x).id = x.id ∧ (f x).name = x.name)
    (hgen : -(2 ^ 63) ≤ (f r).generation ∧ (f r).generation ≤ i64Max)
    (hg : ∀ row, Twin r row → Twin (f r) (g row)) :
    Matches { s with databases := insertRecord s.databases (f r) }
      { p with databases := p.databases.map fun row =>
          if row.toRecord.IsCell t id then g row else row } := by
  rcases mem_of_find hfind with ⟨hr, _, hrid⟩
  have honly : ∀ x ∈ s.databases, x.IsCell t id = true → x = r := fun x hx hcell =>
    h.unique.eq_of_id hx hr ((DatabaseRecord.isCell_iff.mp hcell).2.trans hrid.symm)
  rw [h.unique.insertRecord_eq hfind (hf r).1 (hf r).2.1]
  refine h.map ?_ ?_ ?_
  · intro x
    split_ifs
    · exact hf x
    · exact ⟨rfl, rfl, rfl⟩
  · intro x hx
    split_ifs with hcell
    · exact honly x hx hcell ▸ hgen
    · exact h.bounds x hx
  · intro x hx row htwin
    rw [htwin.isCell]
    split_ifs with hcell
    · have hxr : x = r := honly x hx (htwin.isCell ▸ hcell)
      subst hxr
      exact hg row htwin
    · exact htwin

lemma Matches.rename (hfree : s.nameIndex t name = none) :
    Matches { (s.unindexName t r.name).indexName t name id with
        databases := insertRecord s.databases { r with name } }
      { p with databases := p.databases.map fun row =>
          if row.toRecord.IsCell t id then { row with name := some name } else row } := by
  have hr := (mem_of_find hfind).1
  have hmap := h.unique.insertRecord_eq hfind (f := fun x => { x with name }) rfl rfl
  refine ⟨?_, ?_, ?_, ?_⟩
  · dsimp only
    rw [hmap]
    refine h.twins_map ?_
    intro x _ row htwin
    rw [htwin.isCell]
    rcases htwin with ⟨now, rfl⟩
    split_ifs <;> exact ⟨now, rfl⟩
  · dsimp only
    rw [hmap]
    refine h.unique.map fun x _ => ?_
    split_ifs <;> rfl
  · exact h.exact.rename h.unique hfind hfree
  · intro x hx
    rcases mem_insertRecord hx with rfl | hx
    · exact h.bounds r hr
    · exact h.bounds x hx

lemma Matches.delete : Matches { s with
        databases := s.databases.filter fun x => !x.IsCell t id
        nameIndex := fun t' n => (s.nameIndex t' n).filter (· ≠ id) }
      { p with databases := p.databases.filter fun row => !row.toRecord.IsCell t id } := by
  rcases mem_of_find hfind with ⟨hr, hrt, hrid⟩
  refine ⟨?_, ?_, ?_, ?_⟩
  · refine rel_filter ?_ h.twins
    intro x row htwin
    dsimp only
    rw [htwin.isCell]
  · exact h.ids.sublist (filter_sublist.map _)
  · exact h.exact.delete h.unique hfind
  · exact fun x hx => h.bounds x (mem_of_mem_filter hx)

end

end

end Matches

/-! ## One operation -/

/-- The operations whose answers agree. -/
def TenantOp.Regular (s : InMemoryStore) (t : TenantId) : TenantOp → Prop
  | .create id _ name => s.nameIndex t (name.getD (defaultName id)) = none
  | .rename id name => s.databases.any (·.IsCell t id) = true → s.nameIndex t name = none
  | .setState id _ => s.databases.any (·.IsCell t id) = true
  | .promote id => ∀ r, s.databases.find? (·.IsCell t id) = some r → r.replicaNodeId.isSome = true →
      r.generation ≠ i64Max
  | .migrate id _ => ∀ r, s.databases.find? (·.IsCell t id) = some r → r.generation ≠ i64Max
  | .reset id => ∀ r, s.databases.find? (·.IsCell t id) = some r → r.generation ≠ i64Max
  | _ => True

def StoreOp.Regular (s : InMemoryStore) : StoreOp → Prop
  | .ofTenant t op => op.Regular s t
  | .listReplicasOf node => ∀ r ∈ s.databases, r.replicaNodeId ≠ some node

/-- The answers agree exactly under the condition, which keeps the stores matched. -/
structure Tracks (x : Outcome × InMemoryStore) (y : Outcome × PostgresStore) (C : Prop) : Prop where
  agrees : x.1.Agrees y.1 ↔ C
  kept : C → Matches x.2 y.2

section Operations

variable {s : InMemoryStore} {p : PostgresStore} {t : TenantId} {id : DatabaseId} {C : Prop}
variable {x : Outcome × InMemoryStore} {y : Outcome × PostgresStore} (now now' : Nat)

lemma Tracks.of_agrees (hC : C) (h : x.1.Agrees y.1) (hkept : Matches x.2 y.2) : Tracks x y C :=
  ⟨⟨fun _ => hC, fun _ => h⟩, fun _ => hkept⟩

lemma Tracks.of_differs (hC : ¬ C) (h : ¬ x.1.Agrees y.1) : Tracks x y C :=
  ⟨⟨fun h' => absurd h' h, fun hC' => absurd hC' hC⟩, fun hC' => absurd hC' hC⟩

lemma create_tracks (h : Matches s p) (hid : FreshIn s.databases id) (node : Option NodeId)
    (name : Option String) :
    Tracks (s.perform t now (.create id node name)) (p.perform t now' (.create id node name))
      (s.nameIndex t (name.getD (defaultName id)) = none) := by
  have hpostgres : p.createDatabase t id node name now' = _ :=
    PostgresStore.createDatabase_of_fresh (h.fresh hid)
  rw [h.nameTaken] at hpostgres
  by_cases hfree : s.nameIndex t (name.getD (defaultName id)) = none
  · have hmemory : s.createDatabase t id node name now =
        (.ok ⟨id, name.getD (defaultName id), t, .created, now, node, none, 0⟩,
          s.putNew ⟨id, name.getD (defaultName id), t, .created, now, node, none, 0⟩) := by
      unfold InMemoryStore.createDatabase
      rw [hid.any_eq, if_neg (by simp)]
      cases name with
      | none => rfl
      | some n => simp [show s.nameIndex t n = none from hfree]
    rw [hfree] at hpostgres
    simp only [InMemoryStore.perform, PostgresStore.perform, answered, hmemory, hpostgres]
    exact .of_agrees hfree rfl (h.putNew ⟨now', rfl⟩ hid hfree rfl)
  · have htaken : (s.nameIndex t (name.getD (defaultName id))).isSome = true :=
      Option.isSome_iff_ne_none.mpr hfree
    rw [if_pos htaken] at hpostgres
    refine .of_differs hfree ?_
    simp only [InMemoryStore.perform, PostgresStore.perform, answered, hpostgres]
    unfold InMemoryStore.createDatabase
    rw [hid.any_eq, if_neg (by simp)]
    cases name with
    | none => exact fun hagrees => hagrees
    | some n =>
      have hn : (s.nameIndex t n).isSome = true := htaken
      simp only [hn, if_true]
      exact nofun

lemma ensure_tracks (h : Matches s p) (hid : FreshIn s.databases id) (name : String)
    (node : Option NodeId) :
    Tracks (s.perform t now (.ensure name node id)) (p.perform t now' (.ensure name node id))
      True := by
  cases hindex : s.nameIndex t name with
  | some id' =>
    -- the name leads to a record in memory and to its twin in PostgreSQL
    rcases h.named hindex with ⟨r, row, hget, hselect, htwin⟩
    have hmemory : s.ensureDatabaseByName t name node id now = (.ok (r, false), s) := by
      simp [InMemoryStore.ensureDatabaseByName, hindex, hget, Except.map]
    have hpostgres : p.ensureDatabaseByName t name node id now' =
        (.ok (row.toRecord, false), p) := by
      simp [PostgresStore.ensureDatabaseByName, PostgresStore.getDatabaseByName, hselect,
        orNotFound]
    simp only [InMemoryStore.perform, PostgresStore.perform, answered, hmemory, hpostgres]
    exact .of_agrees trivial ⟨htwin.timeless, rfl⟩ h
  | none =>
    have hselect : p.selectByName t name = none := h.not_named hindex
    have hcreate : p.createDatabase t id node (some name) now' = _ :=
      PostgresStore.createDatabase_of_fresh (h.fresh hid)
    rw [h.nameTaken, Option.getD_some, hindex] at hcreate
    have hpostgres : p.ensureDatabaseByName t name node id now' =
        (.ok ((PostgresStore.newRow t id node (some name) now').toRecord, true),
          { p with databases :=
              p.databases ++ [PostgresStore.newRow t id node (some name) now'] }) := by
      simp [PostgresStore.ensureDatabaseByName, PostgresStore.getDatabaseByName, hselect,
        orNotFound, hcreate]
    have hmemory : s.ensureDatabaseByName t name node id now =
        (.ok (⟨id, name, t, .created, now, node, none, 0⟩, true),
          s.putNew ⟨id, name, t, .created, now, node, none, 0⟩) := by
      simp [InMemoryStore.ensureDatabaseByName, hindex]
    simp only [InMemoryStore.perform, PostgresStore.perform, answered, hmemory, hpostgres]
    exact .of_agrees trivial ⟨rfl, rfl⟩ (h.putNew ⟨now', rfl⟩ hid hindex rfl)

/-! ### Changes of one record -/

lemma updateRows_true (g : DatabaseRow → DatabaseRow) :
    p.updateRows t id (fun _ => true) g = (p.databases.countP (·.toRecord.IsCell t id),
      { p with databases := p.databases.map fun row =>
          if row.toRecord.IsCell t id then g row else row }) := by
  simp [PostgresStore.updateRows]

variable {cond : DatabaseRow → Bool} {g : DatabaseRow → DatabaseRow}

lemma updateRows_of_cond
    (hcond : ∀ row ∈ p.databases, row.toRecord.IsCell t id = true → cond row = true) :
    p.updateRows t id cond g = p.updateRows t id (fun _ => true) g := by
  have hsame : ∀ row ∈ p.databases,
      (row.toRecord.IsCell t id && cond row) = (row.toRecord.IsCell t id && true) := by
    intro row hrow
    by_cases hcell : row.toRecord.IsCell t id = true
    · simp [hcell, hcond row hrow hcell]
    · simp [hcell]
  unfold PostgresStore.updateRows
  congr 1
  · exact countP_congr fun row hrow => by rw [hsame row hrow]
  · congr 1
    exact map_congr_left fun row hrow => by rw [hsame row hrow]

lemma updateRows_of_not_cond
    (hcond : ∀ row ∈ p.databases, row.toRecord.IsCell t id = true → cond row = false) :
    p.updateRows t id cond g = (0, p) := by
  have hnone : ∀ row ∈ p.databases, ¬ (row.toRecord.IsCell t id && cond row) = true := by
    intro row hrow h
    rw [Bool.and_eq_true] at h
    rw [hcond row hrow h.1] at h
    cases h.2
  unfold PostgresStore.updateRows
  rw [countP_eq_zero.mpr hnone]
  have hmap : (p.databases.map fun row =>
      if row.toRecord.IsCell t id && cond row then g row else row) = p.databases :=
    (map_congr_left fun row hrow => if_neg (hnone row hrow)).trans (map_id _)
  rw [hmap]

lemma readBack_of_any (h : p.databases.any (·.toRecord.IsCell t id) = true) {p' : PostgresStore} :
    PostgresStore.readBack t id (.ok (p.databases.countP (·.toRecord.IsCell t id)), p') =
      (p'.getDatabase t id, p') := by
  have hpos : 0 < p.databases.countP (·.toRecord.IsCell t id) :=
    countP_pos_iff.mpr (any_eq_true.mp h)
  cases hn : p.databases.countP (·.toRecord.IsCell t id) with
  | zero => omega
  | succ n => rfl

variable {r : DatabaseRecord}

lemma find_inserted {records : List DatabaseRecord} (ht : r.tenantId = t)
    (hid : r.id = id) : (insertRecord records r).find? (·.IsCell t id) = some r := by
  subst ht hid
  exact find_insertRecord

section

variable (h : Matches s p)
include h

variable {f : DatabaseRecord → DatabaseRecord}

lemma update_agrees (hfind : s.databases.find? (·.IsCell t id) = some r)
    (hf : ∀ x, (f x).tenantId = x.tenantId ∧ (f x).id = x.id ∧ (f x).name = x.name)
    (hgen : -(2 ^ 63) ≤ (f r).generation ∧ (f r).generation ≤ i64Max)
    (hg : ∀ row, Twin r row → Twin (f r) (g row)) (hC : C) :
    Tracks (.record (f r), { s with databases := insertRecord s.databases (f r) })
      (answered .ofRecord (PostgresStore.readBack t id
        (.ok (p.updateRows t id (fun _ => true) g).1, (p.updateRows t id (fun _ => true) g).2)))
      C := by
  rcases mem_of_find hfind with ⟨_, ht, hid⟩
  have hnew := h.update hfind hf hgen hg
  rw [updateRows_true, readBack_of_any (h.any_of_find hfind)]
  refine .of_agrees hC ?_ hnew
  -- both answers are what a lookup finds afterwards
  have hget := hnew.get t id
  have hself : (insertRecord s.databases (f r)).find? (·.IsCell t id) = some (f r) :=
    find_inserted ((hf r).1.trans ht) ((hf r).2.1.trans hid)
  have hmemory : ({ s with databases := insertRecord s.databases (f r) } :
      InMemoryStore).getDatabase t id = .ok (f r) := congrArg (orNotFound id) hself
  rw [hmemory] at hget
  exact hget

lemma Matches.no_rows (hfind : s.databases.find? (·.IsCell t id) = none) :
    ∀ row ∈ p.databases, row.toRecord.IsCell t id = true → cond row = false := by
  intro row hrow hcell
  have hany : p.databases.any (·.toRecord.IsCell t id) = false :=
    h.any t id ▸ any_of_find_none hfind
  exact absurd hcell (any_eq_false.mp hany row hrow)

lemma missing_tracks (hC : C) :
    Tracks (.failed (.databaseNotFound id), s) (.failed (.databaseNotFound id), p) C :=
  .of_agrees hC rfl h

lemma setReplica_tracks (replica : Option NodeId) :
    Tracks (s.perform t now (.setReplica id replica)) (p.perform t now' (.setReplica id replica))
      True := by
  simp only [InMemoryStore.perform, PostgresStore.perform, InMemoryStore.setReplicaNode,
    PostgresStore.setReplicaNode, InMemoryStore.updateRecord]
  cases hfind : s.databases.find? (·.IsCell t id) with
  | none =>
    rw [updateRows_of_not_cond (h.no_rows hfind)]
    exact missing_tracks h trivial
  | some r =>
    refine update_agrees h hfind (f := fun x => { x with replicaNodeId := replica })
      (fun _ => ⟨rfl, rfl, rfl⟩) (h.bounds r (mem_of_find hfind).1) ?_ trivial
    rintro _ ⟨time, rfl⟩
    exact ⟨time, rfl⟩

lemma next_generation (hr : r ∈ s.databases) (hmax : r.generation ≠ i64Max) :
    wrapI64 (r.generation + 1) = r.generation + 1 ∧ -(2 ^ 63) ≤ wrapI64 (r.generation + 1) ∧
      wrapI64 (r.generation + 1) ≤ i64Max := by
  rcases h.bounds r hr with ⟨hlo, hhi⟩
  unfold i64Max at hhi hmax ⊢
  rw [wrapI64_of_bounds (by omega) (by omega)]
  exact ⟨rfl, by omega, by omega⟩

lemma advanceRows_eq (hfind : s.databases.find? (·.IsCell t id) = some r)
    (hcond : ∀ row, Twin r row → cond row = true) :
    p.advanceRows t id cond g =
      if r.generation = i64Max then (.error PostgresStore.bigintOutOfRange, p)
      else
        let updated := p.updateRows t id (fun _ => true) fun row =>
          { g row with generation := row.generation + 1 }
        (.ok updated.1, updated.2) := by
  have hrow : ∀ row ∈ p.databases, row.toRecord.IsCell t id = true →
      cond row = true ∧ row.generation = r.generation := by
    intro row hrow hcell
    have htwin := h.twin_of_row hfind hrow hcell
    refine ⟨hcond row htwin, ?_⟩
    rcases htwin with ⟨time, rfl⟩
    rfl
  have hany : (p.databases.any fun row =>
      row.toRecord.IsCell t id && cond row && row.generation = i64Max) =
        decide (r.generation = i64Max) := by
    rw [Bool.eq_iff_iff, any_eq_true, decide_eq_true_eq]
    constructor
    · rintro ⟨row, hmem, hhit⟩
      simp only [Bool.and_eq_true, decide_eq_true_eq] at hhit
      exact (hrow row hmem hhit.1.1).2.symm.trans hhit.2
    · intro hmax
      rcases any_eq_true.mp (h.any_of_find hfind) with ⟨row, hmem, hcell⟩
      rcases hrow row hmem hcell with ⟨hc, hgen⟩
      exact ⟨row, hmem, by simp [hcell, hc, hgen, hmax]⟩
  unfold PostgresStore.advanceRows
  rw [hany, updateRows_of_cond fun row hmem hcell => (hrow row hmem hcell).1]
  simp only [decide_eq_true_eq]

omit h in
lemma advanceRows_of_not_cond
    (hcond : ∀ row ∈ p.databases, row.toRecord.IsCell t id = true → cond row = false) :
    p.advanceRows t id cond g = (.ok 0, p) := by
  have hnone : (p.databases.any fun row =>
      row.toRecord.IsCell t id && cond row && row.generation = i64Max) = false := by
    rw [any_eq_false]
    intro row hmem hhit
    simp only [Bool.and_eq_true] at hhit
    rw [hcond row hmem hhit.1.1] at hhit
    cases hhit.1.2
  unfold PostgresStore.advanceRows
  rw [hnone, updateRows_of_not_cond hcond]
  rfl

lemma advance_tracks
    (hf : ∀ x, (f x).tenantId = x.tenantId ∧ (f x).id = x.id ∧ (f x).name = x.name)
    (hg : ∀ r time, g { r with createdAt := time }.toRow = { f r with createdAt := time }.toRow) :
    Tracks
      (answered .ofRecord (s.updateRecord t id fun r =>
        .ok { f r with generation := wrapI64 (r.generation + 1) }))
      (answered .ofRecord (PostgresStore.readBack t id (p.advanceRows t id (fun _ => true) g)))
      (∀ r, s.databases.find? (·.IsCell t id) = some r → r.generation ≠ i64Max) := by
  unfold InMemoryStore.updateRecord
  cases hfind : s.databases.find? (·.IsCell t id) with
  | none =>
    rw [advanceRows_of_not_cond (h.no_rows hfind)]
    exact missing_tracks h (fun r hr => nomatch hr)
  | some r =>
    rw [advanceRows_eq h hfind fun _ _ => rfl]
    by_cases hmax : r.generation = i64Max
    · rw [if_pos hmax]
      refine .of_differs (fun hC => hC r rfl hmax) fun hagrees => hagrees
    · rw [if_neg hmax]
      rcases next_generation h (mem_of_find hfind).1 hmax with ⟨hwrap, hgen⟩
      refine update_agrees h hfind
        (f := fun x => { f x with generation := wrapI64 (x.generation + 1) }) hf hgen ?_
        fun x hx => ?_
      · rintro _ ⟨time, rfl⟩
        refine ⟨time, ?_⟩
        rw [hg, hwrap]
        rfl
      · exact Option.some.inj hx ▸ hmax

lemma reset_tracks : Tracks (s.perform t now (.reset id)) (p.perform t now' (.reset id))
      (TenantOp.Regular s t (.reset id)) :=
  advance_tracks h (f := fun r => r) (fun _ => ⟨rfl, rfl, rfl⟩) fun _ _ => rfl

lemma migrate_tracks (node : NodeId) :
    Tracks (s.perform t now (.migrate id node)) (p.perform t now' (.migrate id node))
      (TenantOp.Regular s t (.migrate id node)) :=
  advance_tracks h (f := fun r => { r with storageNodeId := some node })
    (fun _ => ⟨rfl, rfl, rfl⟩) fun _ _ => rfl

lemma Matches.get_ok (hfind : s.databases.find? (·.IsCell t id) = some r) :
    ∃ row : DatabaseRow, p.getDatabase t id = .ok row.toRecord := by
  rcases h.find t id with ⟨hs, _⟩ | ⟨_, row, _, hp, _⟩
  · rw [hfind] at hs
    cases hs
  · exact ⟨row, congrArg (orNotFound id) hp⟩

lemma Matches.get_missing (hfind : s.databases.find? (·.IsCell t id) = none) :
    p.getDatabase t id = .error (.databaseNotFound id) := by
  rcases h.find t id with ⟨_, hp⟩ | ⟨_, _, hs, _, _⟩
  · exact congrArg (orNotFound id) hp
  · rw [hfind] at hs
    cases hs

lemma promote_tracks : Tracks (s.perform t now (.promote id)) (p.perform t now' (.promote id))
      (TenantOp.Regular s t (.promote id)) := by
  simp only [InMemoryStore.perform, PostgresStore.perform, InMemoryStore.promoteReplica,
    PostgresStore.promoteReplica, InMemoryStore.updateRecord, TenantOp.Regular]
  cases hfind : s.databases.find? (·.IsCell t id) with
  | none =>
    rw [advanceRows_of_not_cond (h.no_rows hfind)]
    simp only [h.get_missing hfind]
    exact missing_tracks h (by simp)
  | some r =>
    cases hreplica : r.replicaNodeId with
    | none =>
      -- no row is changed, and the lookup finds the Cell
      have hcond : ∀ row ∈ p.databases, row.toRecord.IsCell t id = true →
          row.replicaNodeId.isSome = false := by
        intro row hrow hcell
        rcases h.twin_of_row hfind hrow hcell with ⟨time, rfl⟩
        simp [DatabaseRecord.toRow, hreplica]
      rcases h.get_ok hfind with ⟨row, hrow⟩
      rw [advanceRows_of_not_cond hcond]
      simp only [hrow, hreplica]
      refine .of_agrees (fun x hx hsome => ?_) rfl h
      rw [← Option.some.inj hx, hreplica] at hsome
      cases hsome
    | some n =>
      have hcond : ∀ row, Twin r row → row.replicaNodeId.isSome = true := by
        rintro _ ⟨time, rfl⟩
        simp [DatabaseRecord.toRow, hreplica]
      rw [advanceRows_eq h hfind hcond]
      by_cases hmax : r.generation = i64Max
      · simp only [hmax, if_true, hreplica]
        refine .of_differs (fun hC => hC r rfl (by simp [hreplica]) hmax) fun hagrees => hagrees
      · rcases next_generation h (mem_of_find hfind).1 hmax with ⟨hwrap, hgen⟩
        rcases Nat.exists_eq_succ_of_ne_zero (countP_pos_iff.mpr
          (any_eq_true.mp (h.any_of_find hfind))).ne' with ⟨n', hn'⟩
        have hboth := update_agrees h hfind
          (f := fun x => { x with
            storageNodeId := some n
            replicaNodeId := none
            generation := wrapI64 (x.generation + 1) })
          (g := fun row => { row with
            storageNodeId := row.replicaNodeId
            replicaNodeId := none
            generation := row.generation + 1 })
          (C := ∀ x, some r = some x → x.replicaNodeId.isSome = true → x.generation ≠ i64Max)
          (fun _ => ⟨rfl, rfl, rfl⟩) hgen ?_ ?_
        · simp only [if_neg hmax, hreplica, updateRows_true, hn'] at hboth ⊢
          exact hboth
        · rintro _ ⟨time, rfl⟩
          refine ⟨time, ?_⟩
          simp only [DatabaseRecord.toRow, hreplica, hwrap]
        · intro x hx _
          exact Option.some.inj hx ▸ hmax

/-! ### The other operations -/

lemma rename_tracks (name : String) :
    Tracks (s.perform t now (.rename id name)) (p.perform t now' (.rename id name))
      (TenantOp.Regular s t (.rename id name)) := by
  simp only [InMemoryStore.perform, PostgresStore.perform, InMemoryStore.renameDatabase,
    PostgresStore.renameDatabase, PostgresStore.updateName, TenantOp.Regular]
  cases hfind : s.databases.find? (·.IsCell t id) with
  | none =>
    have hany : s.databases.any (·.IsCell t id) = false := any_of_find_none hfind
    rw [← h.any t id, hany, updateRows_of_not_cond (h.no_rows hfind)]
    exact missing_tracks h (by simp)
  | some r =>
    have hany : s.databases.any (·.IsCell t id) = true := any_of_find hfind
    have hany' := h.any_of_find hfind
    rw [hany, hany', Bool.true_and, updateRows_true]
    by_cases hfree : s.nameIndex t name = none
    · -- no row of the tenant has the name
      have hother : (p.databases.any fun row =>
          !row.toRecord.IsCell t id && row.tenantId = t && row.name = some name) = false := by
        have htaken : p.nameTaken t name = false := by
          rw [h.nameTaken, hfree]
          rfl
        unfold PostgresStore.nameTaken at htaken
        rw [List.any_filter, List.any_eq_false] at htaken
        rw [any_eq_false]
        intro row hrow hhit
        simp only [Bool.and_eq_true] at hhit
        exact htaken row hrow (by simp [hhit.1.2, hhit.2])
      have hnew := h.rename hfind hfree
      have hget := hnew.get t id
      rcases mem_of_find hfind with ⟨_, ht, hid⟩
      have hself : (insertRecord s.databases { r with name }).find? (·.IsCell t id) =
          some { r with name } := find_inserted ht hid
      have hmemory : ({ (s.unindexName t r.name).indexName t name id with
          databases := insertRecord s.databases { r with name } } :
            InMemoryStore).getDatabase t id = .ok { r with name } :=
        congrArg (orNotFound id) hself
      rw [hmemory] at hget
      simp only [hother, hfree, Bool.false_eq_true, if_false, Option.isSome_none,
        readBack_of_any hany']
      exact .of_agrees (fun _ => trivial) hget hnew
    · have htaken : (s.nameIndex t name).isSome = true := Option.isSome_iff_ne_none.mpr hfree
      simp only [htaken, if_true]
      refine .of_differs (fun hC => hfree (hC trivial)) ?_
      -- PostgreSQL has another error, or none
      split_ifs
      · rintro ⟨⟩
      · rw [readBack_of_any hany']
        unfold PostgresStore.getDatabase
        cases PostgresStore.selectDatabase _ t id with
        | none => rintro ⟨⟩
        | some r' => exact fun hagrees => hagrees

lemma setState_tracks (state : DatabaseState) :
    Tracks (s.perform t now (.setState id state)) (p.perform t now' (.setState id state))
      (TenantOp.Regular s t (.setState id state)) := by
  simp only [InMemoryStore.perform, PostgresStore.perform, InMemoryStore.setDatabaseState,
    PostgresStore.setDatabaseState, TenantOp.Regular]
  by_cases hany : s.databases.any (·.IsCell t id) = true
  · rw [if_pos hany]
    refine .of_agrees hany trivial (h.map ?_ ?_ ?_)
    · intro x
      split_ifs <;> exact ⟨rfl, rfl, rfl⟩
    · intro x hx
      split_ifs <;> exact h.bounds x hx
    · intro x _ row htwin
      rw [htwin.isCell]
      rcases htwin with ⟨time, rfl⟩
      split_ifs <;> exact ⟨time, rfl⟩
  · rw [if_neg hany]
    exact .of_differs hany fun hagrees => hagrees

lemma delete_tracks :
    Tracks (s.perform t now (.delete id)) (p.perform t now' (.delete id)) True := by
  simp only [InMemoryStore.perform, PostgresStore.perform, InMemoryStore.deleteDatabase,
    PostgresStore.deleteDatabase, ← h.any t id]
  cases hfind : s.databases.find? (·.IsCell t id) with
  | none =>
    rw [any_of_find_none hfind]
    exact missing_tracks h trivial
  | some r =>
    rw [any_of_find hfind]
    exact .of_agrees trivial trivial (h.delete hfind)

lemma getByName_agrees (name : String) (fresh : DatabaseId) :
    (Outcome.ofRecord (s.getDatabaseByName t name fresh)).Agrees
      (.ofRecord (p.getDatabaseByName t name fresh)) := by
  unfold InMemoryStore.getDatabaseByName PostgresStore.getDatabaseByName
  cases hindex : s.nameIndex t name with
  | none =>
    rw [h.not_named hindex]
    exact rfl
  | some id =>
    rcases h.named hindex with ⟨r, row, hget, hselect, htwin⟩
    simp only [hget, hselect]
    exact htwin.timeless

lemma list_agrees :
    (Outcome.records (s.listDatabases t)).Agrees (.records (p.listDatabases t)) := by
  have htwins : List.Forall₂ Twin (s.databases.filter (·.tenantId = t))
      (p.databases.filter (·.tenantId = t)) := by
    refine rel_filter ?_ h.twins
    rintro r _ ⟨time, rfl⟩
    exact Iff.rfl
  have hsame : (s.databases.filter (·.tenantId = t)).map DatabaseRecord.timeless =
      ((p.databases.filter (·.tenantId = t)).map DatabaseRow.toRecord).map
        DatabaseRecord.timeless := by
    rw [map_map]
    generalize s.databases.filter _ = rs at htwins
    generalize p.databases.filter _ = rows at htwins
    induction htwins with
    | nil => rfl
    | cons htwin _ ih => exact congrArg₂ cons htwin.timeless ih
  have hleft := (perm_insertionSort DatabaseRecord.Before
    (s.databases.filter (·.tenantId = t))).map DatabaseRecord.timeless
  have hright := (perm_insertionSort DatabaseRecord.Before
    ((p.databases.filter (·.tenantId = t)).map DatabaseRow.toRecord)).map DatabaseRecord.timeless
  exact (hleft.trans (hsame ▸ List.Perm.refl _)).trans hright.symm

lemma listReplicasOf_tracks (node : NodeId) :
    Tracks (s.performAny now (.listReplicasOf node)) (p.performAny now' (.listReplicasOf node))
      (∀ r ∈ s.databases, r.replicaNodeId ≠ some node) := by
  have hany : s.databases.any (·.replicaNodeId = some node) =
      p.databases.any (·.replicaNodeId = some node) := by
    refine any_related h.twins ?_
    rintro r _ ⟨time, rfl⟩
    rfl
  simp only [InMemoryStore.performAny, PostgresStore.performAny, PostgresStore.listReplicasOf,
    InMemoryStore.listReplicasOf, ← hany]
  by_cases hsome : s.databases.any (·.replicaNodeId = some node) = true
  · rw [if_pos hsome]
    refine .of_differs (fun hnone => ?_) fun hagrees => hagrees
    rcases any_eq_true.mp hsome with ⟨r, hr, hnode⟩
    exact hnone r hr (by simpa using hnode)
  · rw [if_neg hsome]
    have hnone : ∀ r ∈ s.databases, r.replicaNodeId ≠ some node := by
      intro r hr hnode
      exact hsome (any_eq_true.mpr ⟨r, hr, by simpa using hnode⟩)
    have hempty : s.databases.filter (·.replicaNodeId = some node) = [] :=
      filter_eq_nil_iff.mpr fun r hr => by simpa using hnone r hr
    rw [hempty]
    exact .of_agrees hnone (List.Perm.refl _) h

lemma performAny_tracks (op : StoreOp)
    (hnew : ∀ id, op.drawn = some id → FreshIn s.databases id) :
    Tracks (s.performAny now op) (p.performAny now' op) (op.Regular s) := by
  cases op with
  | listReplicasOf node => exact listReplicasOf_tracks now now' h node
  | ofTenant t op =>
    cases op with
    | create id node name => exact create_tracks now now' h (hnew id rfl) node name
    | ensure name node fresh => exact ensure_tracks now now' h (hnew fresh rfl) name node
    | get id => exact .of_agrees trivial (h.get t id) h
    | getByName name fresh => exact .of_agrees trivial (getByName_agrees h name fresh) h
    | list => exact .of_agrees trivial (list_agrees h) h
    | rename id name => exact rename_tracks now now' h name
    | setState id state => exact setState_tracks now now' h state
    | setReplica id replica => exact setReplica_tracks now now' h replica
    | promote id => exact promote_tracks now now' h
    | migrate id node => exact migrate_tracks now now' h node
    | reset id => exact reset_tracks now now' h
    | delete id => exact delete_tracks now now' h

end

end Operations

/-! ## Whole runs -/

/-- An operation that both stores get, each at a time of its own. -/
structure Trial where
  op : StoreOp
  inMemoryNow : Nat
  postgresNow : Nat

def InMemoryStore.attempt (s : InMemoryStore) (c : Trial) : Outcome × InMemoryStore :=
  s.performAny c.inMemoryNow c.op

def PostgresStore.attempt (p : PostgresStore) (c : Trial) : Outcome × PostgresStore :=
  p.performAny c.postgresNow c.op

def trialIds (trials : List Trial) : List DatabaseId :=
  trials.filterMap (·.op.drawn)

structure Ready (s : InMemoryStore) (p : PostgresStore) (trials : List Trial) : Prop where
  stores : Matches s p
  ids : (trialIds trials).Nodup
  fresh : ∀ id ∈ trialIds trials, FreshIn s.databases id

section Runs

variable {s : InMemoryStore} {p : PostgresStore} {c : Trial} {trials : List Trial}

lemma freshIn_performAny {op : StoreOp} {now : Nat} {id : DatabaseId} (h : FreshIn s.databases id)
    (hid : op.drawn ≠ some id) : FreshIn (s.performAny now op).2.databases id := by
  cases op with
  | listReplicasOf node => exact h
  | ofTenant t op =>
    rintro x hx rfl
    rcases (s.perform_change t now op).record_id hx with ⟨hdrawn, _⟩ | ⟨r, hr, hrx, _⟩
    · exact hid hdrawn
    · exact h r hr hrx

lemma Ready.drawn (h : Ready s p (c :: trials)) :
    ∀ id, c.op.drawn = some id → FreshIn s.databases id :=
  fun id hid => h.fresh id (mem_filterMap.mpr ⟨c, mem_cons_self, hid⟩)

lemma Ready.next (h : Ready s p (c :: trials)) (hc : c.op.Regular s) :
    Ready (s.attempt c).2 (p.attempt c).2 trials := by
  have hkept := (performAny_tracks c.inMemoryNow c.postgresNow h.stores c.op h.drawn).kept hc
  have hlater : ∀ id ∈ trialIds trials, FreshIn s.databases id := by
    intro id hid
    rcases mem_filterMap.mp hid with ⟨c', hc', hcid⟩
    exact h.fresh id (mem_filterMap.mpr ⟨c', mem_cons_of_mem _ hc', hcid⟩)
  cases hop : c.op.drawn with
  | none =>
    refine ⟨hkept, by simpa [trialIds, hop] using h.ids, fun id hid => ?_⟩
    exact freshIn_performAny (hlater id hid) (by simp [hop])
  | some id =>
    have hcons : (id :: trialIds trials).Nodup := by simpa [trialIds, hop] using h.ids
    rcases nodup_cons.mp hcons with ⟨hnot, hnodup⟩
    refine ⟨hkept, hnodup, fun id' hid' => freshIn_performAny (hlater id' hid') ?_⟩
    rw [hop]
    rintro ⟨⟩
    exact hnot hid'

end Runs

/-- With an id of its own for every new Cell: all answers agree exactly if every operation is
regular in the state that it finds. -/
theorem backends_agree_iff (s : InMemoryStore) (p : PostgresStore) (trials : List Trial)
    (hready : Ready s p trials) :
    Agree InMemoryStore.attempt PostgresStore.attempt Outcome.Agrees s p trials ↔
      Always InMemoryStore.attempt (fun s c => c.op.Regular s) s trials := by
  refine agree_iff_always (R := Ready) ?_ ?_ hready
  · intro s p c trials h
    exact (performAny_tracks c.inMemoryNow c.postgresNow h.stores c.op h.drawn).agrees
  · intro s p c trials h hc
    exact h.next hc

lemma matches_empty : Matches emptyInMemory emptyPostgres :=
  ⟨.nil, nodup_nil, fun _ _ _ => ⟨nofun, fun ⟨_, hr, _⟩ => nomatch hr⟩, nofun⟩

def trialsOf (ops : List TenantOp) : List Trial :=
  ops.map fun op => ⟨.ofTenant ⟨5⟩ op, 60, 60⟩

def wholeLife : List Trial :=
  trialsOf [.ensure "notes" (some ⟨3⟩) ⟨1⟩, .setState ⟨1⟩ .active, .setReplica ⟨1⟩ (some ⟨4⟩),
    .promote ⟨1⟩, .rename ⟨1⟩ "tasks", .getByName "tasks" ⟨2⟩, .delete ⟨1⟩, .reset ⟨1⟩]

theorem backends_agree_iff_life :
    Agree InMemoryStore.attempt PostgresStore.attempt Outcome.Agrees emptyInMemory emptyPostgres
      wholeLife := by
  refine (backends_agree_iff emptyInMemory emptyPostgres wholeLife ⟨matches_empty, ?_, ?_⟩).mpr ?_
  · decide
  · exact fun id _ => nofun
  · refine ⟨trivial, rfl, trivial, ?_, fun _ => rfl, trivial, trivial, nofun, trivial⟩
    rintro r ⟨⟩ _
    decide

def answers (s : InMemoryStore) (p : PostgresStore) : List Trial → List (Outcome × Outcome)
  | [] => []
  | c :: trials =>
    ((s.attempt c).1, (p.attempt c).1) :: answers (s.attempt c).2 (p.attempt c).2 trials

def lastAnswers (trials : List Trial) : Option (Outcome × Outcome) :=
  (answers emptyInMemory emptyPostgres trials).getLast?

def cellNamed (id : DatabaseId) (name : String) : DatabaseRecord :=
  ⟨id, name, ⟨5⟩, .created, 60, none, none, 0⟩

/-- The last answers differ: for a name that is taken or made up twice, a rename to the own name,
the state of a missing Cell, and replicas. -/
theorem backends_differ :
    lastAnswers (trialsOf [.create ⟨1⟩ none (some "notes"),
        .create ⟨2⟩ none (some "notes")]) =
      some (.failed (.cellAlreadyExists "notes"), .failed PostgresStore.duplicateName) ∧
    lastAnswers (trialsOf [.create ⟨1⟩ none none, .create ⟨2⟩ none none]) =
      some (.record (cellNamed ⟨2⟩ "cell-00000000"), .failed PostgresStore.duplicateName) ∧
    lastAnswers (trialsOf [.create ⟨1⟩ none (some "notes"), .rename ⟨1⟩ "notes"]) =
      some (.failed (.cellNameConflict "notes"), .record (cellNamed ⟨1⟩ "notes")) ∧
    lastAnswers (trialsOf [.setState ⟨1⟩ .active]) =
      some (.failed (.databaseNotFound ⟨1⟩), .done) ∧
    lastAnswers (trialsOf [.create ⟨1⟩ none (some "notes"), .setReplica ⟨1⟩ (some ⟨4⟩)] ++
        [⟨.listReplicasOf ⟨4⟩, 60, 60⟩]) =
      some (.records [{ cellNamed ⟨1⟩ "notes" with replicaNodeId := some ⟨4⟩ }],
        .failed PostgresStore.noGeneration) := by
  decide

end Combee.Catalogue
