import Combee.Catalogue.Isolation
import Combee.Foundation.Machine

/-!
# NameIndex — the names of the in-memory catalogue and the Cells that have them

The in-memory store keeps its records in one map and the names in another. The index is exact if a
name leads to an id exactly where the tenant has a Cell with that id and that name (`IndexExact`).

All operations keep the index exact but one: a Cell that is created without a name gets one made of
the first digits of its id, and that name is put into the index without a look. If another Cell of
the tenant has it already, that Cell is lost from the index.
-/

namespace Combee.Catalogue

open List
open Billing (TenantId)
open Foundation
open InMemoryStore

/-- The index leads from the names of a tenant to the Cells that have them, and nowhere else. -/
def IndexExact (s : InMemoryStore) : Prop :=
  ∀ t n id, s.nameIndex t n = some id ↔
    ∃ r ∈ s.databases, r.tenantId = t ∧ r.name = n ∧ r.id = id

def IdsUnique (s : InMemoryStore) : Prop :=
  (s.databases.map (·.id)).Nodup

section Records

variable {s : InMemoryStore} {t : TenantId} {id : DatabaseId} {r r' : DatabaseRecord}
variable {name : String}

lemma IdsUnique.eq_of_id (h : IdsUnique s) (hr : r ∈ s.databases) (hr' : r' ∈ s.databases)
    (hid : r.id = r'.id) : r = r' :=
  inj_on_of_nodup_map h hr hr' hid

section

variable (hfind : s.databases.find? (·.IsCell t id) = some r)
include hfind

lemma mem_of_find :
    r ∈ s.databases ∧ r.tenantId = t ∧ r.id = id :=
  ⟨mem_of_find?_eq_some hfind, DatabaseRecord.isCell_iff.mp (find?_some hfind)⟩

lemma any_of_find :
    s.databases.any (·.IsCell t id) = true :=
  any_eq_true.mpr ⟨r, mem_of_find?_eq_some hfind, find?_some hfind⟩

end

lemma IdsUnique.find (h : IdsUnique s) (hr : r ∈ s.databases) (ht : r.tenantId = t) :
    s.databases.find? (·.IsCell t r.id) = some r := by
  have hcell : r.IsCell t r.id = true := DatabaseRecord.isCell_iff.mpr ⟨ht, rfl⟩
  rcases Option.isSome_iff_exists.mp (find?_isSome.mpr ⟨r, hr, hcell⟩) with ⟨x, hx⟩
  rcases mem_of_find hx with ⟨hxmem, _, hxid⟩
  rw [hx, h.eq_of_id hxmem hr hxid]

variable {f : DatabaseRecord → DatabaseRecord}

lemma IdsUnique.insertRecord_eq (h : IdsUnique s)
    (hfind : s.databases.find? (·.IsCell t id) = some r)
    (htenant : (f r).tenantId = r.tenantId) (hid : (f r).id = r.id) :
    insertRecord s.databases (f r) =
      s.databases.map fun x => if x.IsCell t id then f x else x := by
  rcases mem_of_find hfind with ⟨hr, ht, hrid⟩
  have hkey : ∀ x : DatabaseRecord, x.IsCell (f r).tenantId (f r).id = x.IsCell t id := by
    intro x
    rw [htenant, hid, ht, hrid]
  unfold insertRecord
  simp only [hkey]
  rw [if_pos (any_of_find hfind)]
  refine map_congr_left fun x hx => ?_
  by_cases hcell : x.IsCell t id = true
  · have hxr : x = r :=
      h.eq_of_id hx hr ((DatabaseRecord.isCell_iff.mp hcell).2.trans hrid.symm)
    rw [if_pos hcell, if_pos hcell, hxr]
  · rw [if_neg hcell, if_neg hcell]

lemma IdsUnique.map (h : IdsUnique s) (hf : ∀ x ∈ s.databases, (f x).id = x.id) :
    IdsUnique { s with databases := s.databases.map f } := by
  have hids : (s.databases.map f).map (·.id) = s.databases.map (·.id) := by
    rw [map_map]
    exact map_congr_left hf
  unfold IdsUnique
  rw [hids]
  exact h

/-! ## New Cells -/

lemma IdsUnique.putNew (h : IdsUnique s) (hid : FreshIn s.databases r.id) :
    IdsUnique (s.putNew r) := by
  unfold IdsUnique
  rw [putNew_databases hid.any_eq, map_append]
  refine nodup_append.mpr ⟨h, nodup_singleton _, ?_⟩
  rintro _ hx _ hy rfl
  rcases mem_map.mp hx with ⟨x, hx, hxid⟩
  exact hid x hx (hxid.trans (mem_singleton.mp hy))

attribute [local simp] indexName

lemma nameIndex_putNew (s : InMemoryStore) (r : DatabaseRecord) (t : TenantId) (n : String) :
    (s.putNew r).nameIndex t n =
      if t = r.tenantId ∧ n = r.name then some r.id else s.nameIndex t n := by
  by_cases ht : t = r.tenantId
  · subst ht
    by_cases hn : n = r.name <;> simp [putNew, hn]
  · simp [putNew, ht]

lemma IndexExact.putNew_iff (h : IndexExact s) (hid : FreshIn s.databases r.id) :
    IndexExact (s.putNew r) ↔ s.nameIndex r.tenantId r.name = none := by
  have hput := putNew_databases (r := r) hid.any_eq
  constructor
  · intro hnew
    by_contra hsome
    rcases Option.ne_none_iff_exists'.mp hsome with ⟨id, hold⟩
    rcases (h _ _ _).mp hold with ⟨x, hx, ht, hn, rfl⟩
    -- the Cell that had the name would have to be the new one
    have hboth : (s.putNew r).nameIndex r.tenantId r.name = some x.id :=
      (hnew _ _ _).mpr ⟨x, by simp [hput, hx], ht, hn, rfl⟩
    rw [nameIndex_putNew, if_pos ⟨rfl, rfl⟩] at hboth
    exact hid x hx (Option.some.inj hboth).symm
  · intro hfree t n id
    rw [nameIndex_putNew, hput]
    by_cases hkey : t = r.tenantId ∧ n = r.name
    · rcases hkey with ⟨rfl, rfl⟩
      rw [if_pos ⟨rfl, rfl⟩]
      constructor
      · rintro ⟨⟩
        exact ⟨r, by simp, rfl, rfl, rfl⟩
      · rintro ⟨x, hx, ht, hn, rfl⟩
        rcases mem_append.mp hx with hx | hx
        · have hsome := (h _ _ _).mpr ⟨x, hx, ht, hn, rfl⟩
          rw [hfree] at hsome
          cases hsome
        · rw [mem_singleton.mp hx]
    · rw [if_neg hkey, h]
      constructor
      · rintro ⟨x, hx, hx'⟩
        exact ⟨x, mem_append_left _ hx, hx'⟩
      · rintro ⟨x, hx, ht, hn, hxid⟩
        rcases mem_append.mp hx with hx | hx
        · exact ⟨x, hx, ht, hn, hxid⟩
        · rw [mem_singleton.mp hx] at ht hn
          exact absurd ⟨ht.symm, hn.symm⟩ hkey

/-! ## Changes of records -/

lemma IndexExact.map (h : IndexExact s)
    (hf : ∀ x ∈ s.databases,
      (f x).tenantId = x.tenantId ∧ (f x).id = x.id ∧ (f x).name = x.name) :
    IndexExact { s with databases := s.databases.map f } := by
  intro t n id
  rw [h]
  constructor
  · rintro ⟨x, hx, ht, hn, hid⟩
    rcases hf x hx with ⟨ht', hid', hn'⟩
    exact ⟨f x, mem_map_of_mem hx, ht'.trans ht, hn'.trans hn, hid'.trans hid⟩
  · rintro ⟨_, hy, ht, hn, hid⟩
    rcases mem_map.mp hy with ⟨x, hx, rfl⟩
    rcases hf x hx with ⟨ht', hid', hn'⟩
    exact ⟨x, hx, ht'.symm.trans ht, hn'.symm.trans hn, hid'.symm.trans hid⟩

attribute [local simp] unindexName

lemma nameIndex_rename {old : String} {t' : TenantId} {n : String} :
    ((s.unindexName t old).indexName t name id).nameIndex t' n =
      if t' = t ∧ n = name then some id
      else if t' = t ∧ n = old then none else s.nameIndex t' n := by
  by_cases ht : t' = t
  · subst ht
    by_cases hn : n = name
    · simp [hn]
    · by_cases hold : n = old
      · subst hold
        simp [hn]
      · simp [hn, hold]
  · simp [ht]

lemma IndexExact.rename (h : IndexExact s) (hids : IdsUnique s)
    (hfind : s.databases.find? (·.IsCell t id) = some r) (hfree : s.nameIndex t name = none) :
    IndexExact { (s.unindexName t r.name).indexName t name id with
      databases := insertRecord s.databases { r with name } } := by
  obtain ⟨hr, rfl, rfl⟩ := mem_of_find hfind
  have hown : s.nameIndex r.tenantId r.name = some r.id := (h _ _ _).mpr ⟨r, hr, rfl, rfl, rfl⟩
  have hcell : ∀ x ∈ s.databases, x.IsCell r.tenantId r.id = true ↔ x.id = r.id := by
    refine fun x hx => ⟨fun hc => (DatabaseRecord.isCell_iff.mp hc).2, fun hid => ?_⟩
    exact DatabaseRecord.isCell_iff.mpr ⟨congrArg _ (hids.eq_of_id hx hr hid), hid⟩
  intro t' n id'
  -- the renamed record, and those that had another id
  have hrecords : (∃ x ∈ insertRecord s.databases { r with name },
        x.tenantId = t' ∧ x.name = n ∧ x.id = id') ↔
      (r.tenantId = t' ∧ name = n ∧ r.id = id') ∨ s.nameIndex t' n = some id' ∧ id' ≠ r.id := by
    rw [hids.insertRecord_eq hfind (f := fun x => { x with name }) rfl rfl, h]
    constructor
    · rintro ⟨_, hy, hx⟩
      obtain ⟨x, hmem, rfl⟩ := mem_map.mp hy
      split_ifs at hx with hc
      · obtain rfl := hids.eq_of_id hmem hr ((hcell x hmem).mp hc)
        exact .inl hx
      · exact .inr ⟨⟨x, hmem, hx⟩, fun hid => hc ((hcell x hmem).mpr (hx.2.2.trans hid))⟩
    · rintro (hx | ⟨⟨x, hmem, hx⟩, hne⟩)
      · exact ⟨_, mem_map_of_mem hr, by rwa [if_pos ((hcell r hr).mpr rfl)]⟩
      · refine ⟨_, mem_map_of_mem hmem, ?_⟩
        rwa [if_neg fun hc => hne (hx.2.2.symm.trans ((hcell x hmem).mp hc))]
  refine Iff.trans ?_ hrecords.symm
  change ((s.unindexName r.tenantId r.name).indexName r.tenantId name r.id).nameIndex t' n =
    some id' ↔ _
  rw [nameIndex_rename]
  by_cases hnew : t' = r.tenantId ∧ n = name
  · obtain ⟨rfl, rfl⟩ := hnew
    simp [hfree]
  rw [if_neg hnew]
  by_cases hold : t' = r.tenantId ∧ n = r.name
  -- the old name leads nowhere, for no other record had it
  · obtain ⟨rfl, rfl⟩ := hold
    rw [if_pos ⟨rfl, rfl⟩, hown]
    refine ⟨nofun, ?_⟩
    rintro (⟨_, hname, _⟩ | ⟨hsome, hne⟩)
    · exact absurd ⟨rfl, hname.symm⟩ hnew
    · exact absurd (Option.some.inj hsome).symm hne
  · rw [if_neg hold]
    constructor
    · refine fun hsome => .inr ⟨hsome, ?_⟩
      rintro rfl
      obtain ⟨x, hmem, rfl, rfl, hid⟩ := (h _ _ _).mp hsome
      obtain rfl := hids.eq_of_id hmem hr hid
      exact hold ⟨rfl, rfl⟩
    · rintro (⟨rfl, rfl, _⟩ | ⟨hsome, _⟩)
      · exact absurd ⟨rfl, rfl⟩ hnew
      · exact hsome

lemma IndexExact.delete (h : IndexExact s) (hids : IdsUnique s)
    (hfind : s.databases.find? (·.IsCell t id) = some r) :
    IndexExact { s with
      databases := s.databases.filter fun x => !x.IsCell t id
      nameIndex := fun t' n => (s.nameIndex t' n).filter (· ≠ id) } := by
  rcases mem_of_find hfind with ⟨hr, hrt, hrid⟩
  intro t' n id'
  have hindex : (s.nameIndex t' n).filter (· ≠ id) = some id' ↔
      s.nameIndex t' n = some id' ∧ id' ≠ id := by
    rw [Option.filter_eq_some_iff]
    simp
  rw [hindex, h]
  constructor
  · rintro ⟨⟨x, hx, ht, hn, rfl⟩, hne⟩
    refine ⟨x, mem_filter.mpr ⟨hx, ?_⟩, ht, hn, rfl⟩
    have hcell : ¬ x.IsCell t id = true := fun hc => hne (DatabaseRecord.isCell_iff.mp hc).2
    simpa using hcell
  · rintro ⟨x, hx, ht, hn, rfl⟩
    rcases mem_filter.mp hx with ⟨hx, hcell⟩
    refine ⟨⟨x, hx, ht, hn, rfl⟩, fun hid => ?_⟩
    -- the record of the id is the one that is deleted
    have hxr : x = r := hids.eq_of_id hx hr (hid.trans hrid.symm)
    rw [hxr, find?_some hfind] at hcell
    cases hcell

end Records

/-! ## One operation -/

/-- The name of a Cell that is created without one is free. -/
def TenantOp.FindsFree (s : InMemoryStore) (t : TenantId) : TenantOp → Prop
  | .create id _ none => s.nameIndex t (defaultName id) = none
  | _ => True

section Operations

variable {s s' : InMemoryStore} {t : TenantId} {id : DatabaseId} {now : Nat}

/-- What an operation leaves of the two properties, if `C` decides about the index. -/
def Leaves (s' : InMemoryStore) (C : Prop) : Prop :=
  IdsUnique s' ∧ (IndexExact s' ↔ C)

lemma leaves_of_exact (hids : IdsUnique s') (h : IndexExact s') : Leaves s' True :=
  ⟨hids, iff_of_true h trivial⟩

section

variable (hids : IdsUnique s)
include hids

section

variable (h : IndexExact s)
include h

lemma leaves_putNew {r : DatabaseRecord}
    (hid : FreshIn s.databases r.id) : Leaves (s.putNew r) (s.nameIndex r.tenantId r.name = none) :=
  ⟨hids.putNew hid, h.putNew_iff hid⟩

lemma createDatabase_leaves
    (hid : FreshIn s.databases id) (node : Option NodeId) (name : Option String) :
    Leaves (s.createDatabase t id node name now).2
      (TenantOp.FindsFree s t (.create id node name)) := by
  unfold createDatabase
  rw [hid.any_eq, if_neg (by simp)]
  cases name with
  | none => exact leaves_putNew hids h hid
  | some n =>
    dsimp only
    split_ifs with hn
    · exact leaves_of_exact hids h
    · have hfree : s.nameIndex t n = none := by simpa using hn
      rcases leaves_putNew hids h (r := ⟨id, n, t, .created, now, node, none, 0⟩) hid with
        ⟨hids', hexact⟩
      exact leaves_of_exact hids' (hexact.mpr hfree)

lemma ensureDatabaseByName_leaves
    (hid : FreshIn s.databases id) (name : String) (node : Option NodeId) :
    Leaves (s.ensureDatabaseByName t name node id now).2 True := by
  unfold ensureDatabaseByName
  cases hname : s.nameIndex t name with
  | some id' => exact leaves_of_exact hids h
  | none =>
    rcases leaves_putNew hids h (r := ⟨id, name, t, .created, now, node, none, 0⟩) hid with
      ⟨hids', hexact⟩
    exact leaves_of_exact hids' (hexact.mpr hname)

lemma renameDatabase_leaves (name : String) : Leaves (s.renameDatabase t id name).2 True := by
  unfold renameDatabase
  cases hfind : s.databases.find? (·.IsCell t id) with
  | none => exact leaves_of_exact hids h
  | some r =>
    by_cases hn : (s.nameIndex t name).isSome = true
    · simp only [hn, if_true]
      exact leaves_of_exact hids h
    · simp only [hn]
      have hfree : s.nameIndex t name = none := by simpa using hn
      refine leaves_of_exact ?_ (h.rename hids hfind hfree)
      have hmap := hids.insertRecord_eq hfind (f := fun x => { x with name }) rfl rfl
      have hkept :
          IdsUnique { s with databases := insertRecord s.databases { r with name } } := by
        rw [hmap]
        refine hids.map fun x _ => ?_
        split_ifs <;> rfl
      exact hkept

lemma updateRecord_leaves {change : DatabaseRecord → Result DatabaseRecord}
    (hchange : ∀ r r', change r = .ok r' →
      r'.tenantId = r.tenantId ∧ r'.id = r.id ∧ r'.name = r.name) :
    Leaves (s.updateRecord t id change).2 True := by
  unfold updateRecord
  cases hfind : s.databases.find? (·.IsCell t id) with
  | none => exact leaves_of_exact hids h
  | some r =>
    cases hr' : change r with
    | error e =>
      simp only [hr']
      exact leaves_of_exact hids h
    | ok r' =>
      simp only [hr']
      rcases hchange r r' hr' with ⟨ht, hid, hn⟩
      rw [hids.insertRecord_eq hfind (f := fun _ => r') ht hid]
      have hsame : ∀ x ∈ s.databases, (if x.IsCell t id then r' else x).tenantId = x.tenantId ∧
          (if x.IsCell t id then r' else x).id = x.id ∧
          (if x.IsCell t id then r' else x).name = x.name := by
        intro x hx
        rcases mem_of_find hfind with ⟨hr, _, hrid⟩
        split_ifs with hcell
        · have hxr : x = r :=
            hids.eq_of_id hx hr ((DatabaseRecord.isCell_iff.mp hcell).2.trans hrid.symm)
          rw [hxr]
          exact ⟨ht, hid, hn⟩
        · exact ⟨rfl, rfl, rfl⟩
      exact leaves_of_exact (hids.map fun x hx => (hsame x hx).2.1) (h.map hsame)

lemma deleteDatabase_leaves : Leaves (s.deleteDatabase t id).2 True := by
  unfold deleteDatabase
  split_ifs with hany
  · rcases any_eq_true.mp hany with ⟨x, hx, hcell⟩
    rcases Option.isSome_iff_exists.mp (find?_isSome.mpr ⟨x, hx, hcell⟩) with ⟨r, hfind⟩
    refine leaves_of_exact ?_ (h.delete hids hfind)
    exact hids.sublist (filter_sublist.map _)
  · exact leaves_of_exact hids h

lemma perform_leaves (op : TenantOp) (hnew : ∀ id, op.drawn = some id → FreshIn s.databases id) :
    Leaves (s.perform t now op).2 (op.FindsFree s t) := by
  cases op with
  | create id node name => exact createDatabase_leaves hids h (hnew id rfl) node name
  | ensure name node fresh => exact ensureDatabaseByName_leaves hids h (hnew fresh rfl) name node
  | get | getByName | list => exact leaves_of_exact hids h
  | rename id name => exact renameDatabase_leaves hids h name
  | setState id state =>
    have hset : (s.perform t now (.setState id state)).2 =
        { s with databases := withState s.databases t id state } :=
      setDatabaseState_snd
    rw [hset]
    have hsame : ∀ x ∈ s.databases, (if x.IsCell t id then { x with state } else x).tenantId =
        x.tenantId ∧ (if x.IsCell t id then { x with state } else x).id = x.id ∧
        (if x.IsCell t id then { x with state } else x).name = x.name := by
      intro x _
      split_ifs <;> exact ⟨rfl, rfl, rfl⟩
    exact leaves_of_exact (hids.map fun x hx => (hsame x hx).2.1) (h.map hsame)
  | setReplica | migrate | reset =>
    refine updateRecord_leaves hids h ?_
    rintro r _ ⟨⟩
    exact ⟨rfl, rfl, rfl⟩
  | promote id =>
    refine updateRecord_leaves hids h fun r r' hr' => ?_
    cases hrep : r.replicaNodeId with
    | none => simp [hrep] at hr'
    | some n =>
      simp only [hrep, Except.ok.injEq] at hr'
      exact hr' ▸ ⟨rfl, rfl, rfl⟩
  | delete id => exact deleteDatabase_leaves hids h

end

end

end Operations

/-! ## Whole histories -/

structure CatalogueCall where
  tenant : TenantId
  op : TenantOp
  now : Nat := 0

def InMemoryStore.call (s : InMemoryStore) (c : CatalogueCall) : Option InMemoryStore :=
  if c.op.drawn.all fun id => s.databases.all (·.id ≠ id) then
    some (s.perform c.tenant c.now c.op).2
  else none

lemma call_leaves {s s' : InMemoryStore} {c : CatalogueCall} (hids : IdsUnique s)
    (h : IndexExact s) (hcall : s.call c = some s') : Leaves s' (c.op.FindsFree s c.tenant) := by
  unfold call at hcall
  split_ifs at hcall with hnew
  cases hcall
  refine perform_leaves hids h c.op fun id hid r hr => ?_
  rw [hid, Option.all_some, all_eq_true] at hnew
  simpa using hnew r hr

structure NamesLead (s : InMemoryStore) : Prop where
  unique : ∀ r ∈ s.databases, ∀ r' ∈ s.databases, r.tenantId = r'.tenantId → r.name = r'.name →
    r = r'
  found : ∀ r ∈ s.databases, ∀ fresh, s.getDatabaseByName r.tenantId r.name fresh = .ok r

lemma namesLead_of_exact {s : InMemoryStore} (hids : IdsUnique s) (h : IndexExact s) :
    NamesLead s := by
  have hindex : ∀ r ∈ s.databases, s.nameIndex r.tenantId r.name = some r.id :=
    fun r hr => (h _ _ _).mpr ⟨r, hr, rfl, rfl, rfl⟩
  constructor
  · intro r hr r' hr' ht hn
    have hsame := hindex r hr
    rw [ht, hn, hindex r' hr'] at hsame
    exact hids.eq_of_id hr hr' (Option.some.inj hsame).symm
  · intro r hr fresh
    simp [getDatabaseByName, hindex r hr, getDatabase,
      hids.find hr rfl, orNotFound]

/-- The index is exact all along exactly if every Cell that was created without a name has found its
name free; then names tell Cells apart and lead to them. -/
theorem name_index_exact_iff (s : InMemoryStore) (hids : IdsUnique s) (hexact : IndexExact s)
    (calls : List CatalogueCall) :
    ((∀ pre s', pre <+: calls → exec call s pre = some s' → IndexExact s') ↔
      Meets call (fun s c => c.op.FindsFree s c.tenant) s calls) ∧
    (Meets call (fun s c => c.op.FindsFree s c.tenant) s calls →
      ∀ s', exec call s calls = some s' → NamesLead s') := by
  constructor
  · refine always_iff_meets (I := IdsUnique) ?_ hids hexact
    intro s c s' hids h hcall
    exact call_leaves hids h hcall
  · intro hmeets s' hrun
    have hboth : IdsUnique s' ∧ IndexExact s' := by
      refine inv_of_exec (I := fun s => IdsUnique s ∧ IndexExact s) ?_ ⟨hids, hexact⟩ hmeets hrun
      intro s c s' ⟨hids, h⟩ hfree hcall
      rcases call_leaves hids h hcall with ⟨hids', hiff⟩
      exact ⟨hids', hiff.mpr hfree⟩
    exact namesLead_of_exact hboth.1 hboth.2

lemma idsUnique_empty : IdsUnique emptyInMemory := nodup_nil

lemma indexExact_empty : IndexExact emptyInMemory := by
  intro t n id
  refine ⟨fun h => (by cases h), ?_⟩
  rintro ⟨r, hr, _⟩
  cases hr

def namedCalls : List CatalogueCall :=
  [⟨⟨5⟩, .create ⟨1⟩ none (some "notes"), 60⟩, ⟨⟨5⟩, .ensure "tasks" none ⟨2⟩, 60⟩,
    ⟨⟨5⟩, .create ⟨3⟩ none none, 60⟩, ⟨⟨5⟩, .rename ⟨1⟩ "old", 61⟩, ⟨⟨5⟩, .delete ⟨2⟩, 62⟩]

theorem name_index_exact_named :
    ∃ s, exec call emptyInMemory namedCalls = some s ∧ NamesLead s := by
  have hmeets : Meets call (fun s c => c.op.FindsFree s c.tenant) emptyInMemory
      namedCalls := by
    let free : InMemoryStore → CatalogueCall → Bool := fun s c => match c.op with
      | .create id _ none => (s.nameIndex c.tenant (defaultName id)).isNone
      | _ => true
    refine meets_of_check (c := free) ?_ (by decide)
    rintro s ⟨t, op, now⟩ h
    cases op with
    | create id node name =>
      cases name with
      | none => exact Option.isNone_iff_eq_none.mp h
      | some n => trivial
    | _ => trivial
  have hsome : (exec call emptyInMemory namedCalls).isSome = true := by decide
  rcases Option.isSome_iff_exists.mp hsome with ⟨s, hrun⟩
  exact ⟨s, hrun, (name_index_exact_iff emptyInMemory idsUnique_empty indexExact_empty
    namedCalls).2 hmeets s hrun⟩

/-- Two ids that begin with the same eight digits. -/
def twinId (n : Nat) : DatabaseId := ⟨0x1a2b3c4d * 2 ^ 96 + n⟩

def unnamedCalls : List CatalogueCall :=
  [⟨⟨5⟩, .create (twinId 1) none none, 60⟩, ⟨⟨5⟩, .create (twinId 2) none none, 60⟩]

/-- Both get the name `cell-1a2b3c4d`, and only the second is found under it. -/
theorem name_index_not_exact :
    ∃ s, exec call emptyInMemory unnamedCalls = some s ∧
      s.databases.map (fun r => (r.id, r.tenantId, r.name)) =
        [(twinId 1, ⟨5⟩, "cell-1a2b3c4d"), (twinId 2, ⟨5⟩, "cell-1a2b3c4d")] ∧
      s.nameIndex ⟨5⟩ "cell-1a2b3c4d" = some (twinId 2) ∧ ¬ IndexExact s := by
  have hrun : (exec call emptyInMemory unnamedCalls).map (fun s =>
      (s.databases.map fun r => (r.id, r.tenantId, r.name), s.nameIndex ⟨5⟩ "cell-1a2b3c4d")) =
      some ([(twinId 1, ⟨5⟩, "cell-1a2b3c4d"), (twinId 2, ⟨5⟩, "cell-1a2b3c4d")],
        some (twinId 2)) := by decide
  rcases Option.map_eq_some_iff.mp hrun with ⟨s, hs, hview⟩
  rcases Prod.mk.inj hview with ⟨hrecords, hindex⟩
  refine ⟨s, hs, hrecords, hindex, fun hexact => ?_⟩
  have hfirst : (twinId 1, (⟨5⟩ : TenantId), "cell-1a2b3c4d") ∈
      s.databases.map fun r => (r.id, r.tenantId, r.name) := by
    rw [hrecords]
    exact mem_cons_self
  rcases mem_map.mp hfirst with ⟨r, hr, heq⟩
  simp only [Prod.mk.injEq] at heq
  have hled := (hexact ⟨5⟩ "cell-1a2b3c4d" (twinId 1)).mpr ⟨r, hr, heq.2.1, heq.2.2, heq.1⟩
  rw [hindex] at hled
  exact absurd hled (by decide)

end Combee.Catalogue
