import Combee.Catalogue.Operations

/-!
# Isolation — tenants do not see each other in the in-memory catalogue

What a tenant sees of the store are its records and its part of the name index (`SameFor`). An
operation of the tenant depends on this view only (`perform_same`), and one of another tenant leaves
it alone (`perform_frame`): a deletion removes the id from the name index of all tenants, but ids
are drawn once, so that no other tenant has it there (`Separate`). So the operations of other
tenants can be left out of a run (`tenants_isolated`).
-/

namespace Combee.Catalogue

open List
open Billing (TenantId)
open DatabaseRecord (isCell_iff)

/-! ## Records of one tenant -/

section Records

variable {records : List DatabaseRecord} {t : TenantId} {r : DatabaseRecord}

lemma insertRecord_filter_of_ne (h : r.tenantId ≠ t) :
    (insertRecord records r).filter (·.tenantId = t) = records.filter (·.tenantId = t) := by
  unfold insertRecord
  split_ifs with hany
  · -- a record that is replaced is not of the tenant either
    clear hany
    induction records with
    | nil => rfl
    | cons x records ih =>
      by_cases hx : x.IsCell r.tenantId r.id = true
      · have hxt : x.tenantId ≠ t := (isCell_iff.mp hx).1 ▸ h
        simpa [hx, h, hxt] using ih
      · by_cases hxt : x.tenantId = t
        · simpa [hx, hxt] using ih
        · simpa [hx, hxt] using ih
  · simp [h]

lemma insertRecord_filter :
    (insertRecord records r).filter (·.tenantId = r.tenantId) =
      insertRecord (records.filter (·.tenantId = r.tenantId)) r := by
  unfold insertRecord
  rw [any_filter]
  split_ifs with hany
  · rw [filter_map]
    congr 1
    refine filter_congr fun x _ => ?_
    by_cases hx : x.IsCell r.tenantId r.id = true
    · simp [hx, (isCell_iff.mp hx).1]
    · simp [hx]
  · simp

lemma mem_insertRecord {x : DatabaseRecord} (h : x ∈ insertRecord records r) :
    x = r ∨ x ∈ records := by
  unfold insertRecord at h
  split_ifs at h
  · rcases mem_map.mp h with ⟨y, hy, hxy⟩
    by_cases hcell : y.IsCell r.tenantId r.id = true
    · exact .inl (by simpa [hcell] using hxy.symm)
    · have hx : y = x := by simpa [hcell] using hxy
      exact .inr (hx ▸ hy)
  · rcases mem_append.mp h with hx | hx
    · exact .inr hx
    · exact .inl (mem_singleton.mp hx)

lemma self_mem_insertRecord : r ∈ insertRecord records r := by
  unfold insertRecord
  split_ifs with hany
  · rcases any_eq_true.mp hany with ⟨y, hy, hcell⟩
    exact mem_map.mpr ⟨y, hy, if_pos hcell⟩
  · exact mem_append_right _ (mem_singleton_self r)

end Records

namespace InMemoryStore

/-! ## Answers of one tenant -/

section Same

variable {s s' : InMemoryStore} {t : TenantId} {id : DatabaseId} {r : DatabaseRecord}

section

variable (h : SameFor t s s')
include h

lemma SameFor.find (id : DatabaseId) :
    s.databases.find? (·.IsCell t id) = s'.databases.find? (·.IsCell t id) := by
  rw [← find_filter, h.1, find_filter]

lemma SameFor.any (id : DatabaseId) :
    s.databases.any (·.IsCell t id) = s'.databases.any (·.IsCell t id) := by
  rw [← any_filter, h.1, any_filter]

lemma SameFor.insert (hr : r.tenantId = t) :
    (insertRecord s.databases r).filter (·.tenantId = t) =
      (insertRecord s'.databases r).filter (·.tenantId = t) := by
  subst hr
  rw [insertRecord_filter, insertRecord_filter, h.1]

lemma SameFor.putNew_same (hr : r.tenantId = t) : SameFor t (s.putNew r) (s'.putNew r) := by
  refine ⟨h.insert hr, ?_⟩
  subst hr
  simp [InMemoryStore.putNew, indexName, h.2]

lemma createDatabase_sameFor (node : Option NodeId) (name : Option String) (now : Nat) :
    (s.createDatabase t id node name now).1 = (s'.createDatabase t id node name now).1 ∧
      SameFor t (s.createDatabase t id node name now).2
        (s'.createDatabase t id node name now).2 := by
  unfold createDatabase
  rw [h.any id]
  by_cases hid : s'.databases.any (·.IsCell t id) = true
  · rw [if_pos hid, if_pos hid]
    exact ⟨rfl, h⟩
  · rw [if_neg hid, if_neg hid]
    cases name with
    | none => exact ⟨rfl, h.putNew_same rfl⟩
    | some n =>
      rw [h.2]
      by_cases hn : (s'.nameIndex t n).isSome = true
      · simpa only [hn, if_true] using ⟨trivial, h⟩
      · simp only [hn]
        exact ⟨rfl, h.putNew_same rfl⟩

lemma ensureDatabaseByName_sameFor (name : String) (node : Option NodeId)
    (fresh : DatabaseId) (now : Nat) :
    (s.ensureDatabaseByName t name node fresh now).1 =
        (s'.ensureDatabaseByName t name node fresh now).1 ∧
      SameFor t (s.ensureDatabaseByName t name node fresh now).2
        (s'.ensureDatabaseByName t name node fresh now).2 := by
  unfold ensureDatabaseByName
  rw [h.2]
  cases s'.nameIndex t name with
  | none => exact ⟨rfl, h.putNew_same rfl⟩
  | some id =>
    have hget : s.getDatabase t id = s'.getDatabase t id := getDatabase_same h
    exact ⟨congrArg (Except.map fun r => (r, false)) hget, h⟩

lemma updateRecord_sameFor {change : DatabaseRecord → Result DatabaseRecord}
    (hchange : ∀ r r', change r = .ok r' → r'.tenantId = r.tenantId) :
    (s.updateRecord t id change).1 = (s'.updateRecord t id change).1 ∧
      SameFor t (s.updateRecord t id change).2 (s'.updateRecord t id change).2 := by
  unfold updateRecord
  rw [h.find id]
  cases hfind : s'.databases.find? (·.IsCell t id) with
  | none => exact ⟨rfl, h⟩
  | some r =>
    have hr : r.tenantId = t := (isCell_iff.mp (find?_some hfind)).1
    cases hr' : change r with
    | error e => simpa only [hr'] using ⟨trivial, h⟩
    | ok r' =>
      simp only [hr']
      exact ⟨trivial, h.insert ((hchange r r' hr').trans hr), h.2⟩

lemma renameDatabase_sameFor (name : String) :
    (s.renameDatabase t id name).1 = (s'.renameDatabase t id name).1 ∧
      SameFor t (s.renameDatabase t id name).2 (s'.renameDatabase t id name).2 := by
  unfold renameDatabase
  rw [h.find id, h.2]
  cases hfind : s'.databases.find? (·.IsCell t id) with
  | none => exact ⟨rfl, h⟩
  | some r =>
    have hr : r.tenantId = t := (isCell_iff.mp (find?_some hfind)).1
    by_cases hn : (s'.nameIndex t name).isSome = true
    · simpa only [hn, if_true] using ⟨trivial, h⟩
    · simp only [hn]
      refine ⟨rfl, h.insert hr, ?_⟩
      simp [indexName, unindexName, h.2]

lemma deleteDatabase_sameFor : (s.deleteDatabase t id).1 = (s'.deleteDatabase t id).1 ∧
      SameFor t (s.deleteDatabase t id).2 (s'.deleteDatabase t id).2 := by
  unfold deleteDatabase
  rw [h.any id]
  split_ifs
  · refine ⟨rfl, ?_, ?_⟩
    · dsimp only
      rw [filter_comm, h.1, filter_comm]
    · funext n
      simp only [h.2]
  · exact ⟨rfl, h⟩

lemma setDatabaseState_sameFor (state : DatabaseState) :
    (s.setDatabaseState t id state).1 = (s'.setDatabaseState t id state).1 ∧
      SameFor t (s.setDatabaseState t id state).2 (s'.setDatabaseState t id state).2 := by
  constructor
  · unfold setDatabaseState
    rw [h.any id]
    split_ifs <;> rfl
  · rw [setDatabaseState_snd, setDatabaseState_snd]
    exact ⟨by rw [withState_filter, withState_filter, h.1], h.2⟩

/-- The answer and the new view of a tenant depend on its view only. -/
lemma perform_same (now : Nat) (op : TenantOp) :
    (s.perform t now op).1 = (s'.perform t now op).1 ∧
      SameFor t (s.perform t now op).2 (s'.perform t now op).2 := by
  have hanswer : ∀ {α : Type} (outcome : α → Outcome) (x x' : α × InMemoryStore),
      x.1 = x'.1 ∧ SameFor t x.2 x'.2 →
        (answered outcome x).1 = (answered outcome x').1 ∧
          SameFor t (answered outcome x).2 (answered outcome x').2 :=
    fun outcome x x' hx => ⟨congrArg outcome hx.1, hx.2⟩
  cases op with
  | create id node name => exact hanswer _ _ _ (createDatabase_sameFor h node name now)
  | ensure name node fresh =>
    exact hanswer _ _ _ (ensureDatabaseByName_sameFor h name node fresh now)
  | get id => exact ⟨congrArg Outcome.ofRecord (getDatabase_same h), h⟩
  | getByName name fresh =>
    refine ⟨congrArg Outcome.ofRecord ?_, h⟩
    unfold getDatabaseByName
    rw [h.2]
    cases s'.nameIndex t name with
    | none => rfl
    | some id => exact getDatabase_same h
  | list =>
    have hlist : s.listDatabases t = s'.listDatabases t :=
      congrArg (insertionSort DatabaseRecord.Before) h.1
    exact ⟨congrArg Outcome.records hlist, h⟩
  | rename id name => exact hanswer _ _ _ (renameDatabase_sameFor h name)
  | setState id state => exact hanswer _ _ _ (setDatabaseState_sameFor h state)
  | setReplica | migrate | reset =>
    refine hanswer _ _ _ (updateRecord_sameFor h ?_)
    rintro r _ ⟨⟩
    rfl
  | promote id =>
    refine hanswer _ _ _ (updateRecord_sameFor h ?_)
    intro r r' hr'
    cases hrep : r.replicaNodeId with
    | none => simp [hrep] at hr'
    | some n =>
      simp only [hrep, Except.ok.injEq] at hr'
      exact hr' ▸ rfl
  | delete id => exact hanswer _ _ _ (deleteDatabase_sameFor h)

end

end Same

/-! ## What the others see -/

structure Separate (s : InMemoryStore) : Prop where
  records : ∀ r ∈ s.databases, ∀ r' ∈ s.databases, r.id = r'.id → r.tenantId = r'.tenantId
  index : ∀ r ∈ s.databases, ∀ t n, s.nameIndex t n = some r.id → t = r.tenantId

def NewIn (s : InMemoryStore) (id : DatabaseId) : Prop :=
  (∀ r ∈ s.databases, r.id ≠ id) ∧ ∀ t n, s.nameIndex t n ≠ some id

/-- What an operation of a tenant can do to the store, if it draws the id `drawn`. -/
inductive Change (t : TenantId) (drawn : Option DatabaseId) (s : InMemoryStore) :
    InMemoryStore → Prop where
  | nothing : Change t drawn s s
  | new (r : DatabaseRecord) : r.tenantId = t → drawn = some r.id → Change t drawn s (s.putNew r)
  | state (id : DatabaseId) (state : DatabaseState) :
      Change t drawn s { s with databases := withState s.databases t id state }
  | update (r r' : DatabaseRecord) : r ∈ s.databases → r.tenantId = t → r'.tenantId = t →
      r'.id = r.id → Change t drawn s { s with databases := insertRecord s.databases r' }
  | rename (r : DatabaseRecord) (name : String) : r ∈ s.databases → r.tenantId = t →
      Change t drawn s { (s.unindexName t r.name).indexName t name r.id with
        databases := insertRecord s.databases { r with name } }
  | delete (r : DatabaseRecord) : r ∈ s.databases → r.tenantId = t →
      Change t drawn s { s with
        databases := s.databases.filter fun r' => !r'.IsCell t r.id
        nameIndex := fun t' n => (s.nameIndex t' n).filter (· ≠ r.id) }

section Changes

variable {s s' : InMemoryStore} {t : TenantId} {drawn : Option DatabaseId} {id : DatabaseId}

lemma createDatabase_change (node : Option NodeId) (name : Option String) (now : Nat) :
    Change t (some id) s (s.createDatabase t id node name now).2 := by
  rcases s.createDatabase_cases t id node name now with ⟨e, h, _⟩ | ⟨_, n, h⟩
  · rw [h]
    exact .nothing
  · rw [h]
    exact .new _ rfl rfl

lemma ensureDatabaseByName_change (name : String) (node : Option NodeId) (now : Nat) :
    Change t (some id) s (s.ensureDatabaseByName t name node id now).2 := by
  unfold ensureDatabaseByName
  cases s.nameIndex t name with
  | none => exact .new _ rfl rfl
  | some id' => exact .nothing

lemma updateRecord_change {change : DatabaseRecord → Result DatabaseRecord}
    (hchange : ∀ r r', change r = .ok r' → r'.tenantId = r.tenantId ∧ r'.id = r.id) :
    Change t drawn s (s.updateRecord t id change).2 := by
  unfold updateRecord
  cases hfind : s.databases.find? (·.IsCell t id) with
  | none => exact .nothing
  | some r =>
    have hr : r.tenantId = t := (isCell_iff.mp (find?_some hfind)).1
    cases hr' : change r with
    | error e => simpa only [hr'] using .nothing
    | ok r' =>
      rcases hchange r r' hr' with ⟨htenant, hid⟩
      simp only [hr']
      exact .update r r' (mem_of_find?_eq_some hfind) hr (htenant.trans hr) hid

lemma renameDatabase_change (name : String) :
    Change t drawn s (s.renameDatabase t id name).2 := by
  unfold renameDatabase
  cases hfind : s.databases.find? (·.IsCell t id) with
  | none => exact .nothing
  | some r =>
    rcases isCell_iff.mp (find?_some hfind) with ⟨hr, rfl⟩
    by_cases hn : (s.nameIndex t name).isSome = true
    · simpa only [hn, if_true] using .nothing
    · simp only [hn]
      exact .rename r name (mem_of_find?_eq_some hfind) hr

lemma deleteDatabase_change : Change t drawn s (s.deleteDatabase t id).2 := by
  unfold deleteDatabase
  split_ifs with hany
  · rcases any_eq_true.mp hany with ⟨r, hr, hcell⟩
    rcases isCell_iff.mp hcell with ⟨ht, rfl⟩
    exact .delete r hr ht
  · exact .nothing

lemma perform_change (s : InMemoryStore) (t : TenantId) (now : Nat) (op : TenantOp) :
    Change t op.drawn s (s.perform t now op).2 := by
  cases op with
  | create id node name => exact createDatabase_change node name now
  | ensure name node fresh => exact ensureDatabaseByName_change name node now
  | get | getByName | list => exact .nothing
  | rename id name => exact renameDatabase_change name
  | setState id state =>
    have hset : (s.perform t now (.setState id state)).2 =
        { s with databases := withState s.databases t id state } := setDatabaseState_snd
    rw [hset]
    exact .state id state
  | setReplica | migrate | reset =>
    refine updateRecord_change ?_
    rintro r _ ⟨⟩
    exact ⟨rfl, rfl⟩
  | promote id =>
    refine updateRecord_change ?_
    intro r r' hr'
    cases hrep : r.replicaNodeId with
    | none => simp [hrep] at hr'
    | some n =>
      simp only [hrep, Except.ok.injEq] at hr'
      exact hr' ▸ ⟨rfl, rfl⟩
  | delete id => exact deleteDatabase_change

section

variable (h : Change t drawn s s')
include h

lemma Change.frame (hs : Separate s) {t' : TenantId} (hne : t' ≠ t) : SameFor t' s s' := by
  cases h with
  | nothing => exact ⟨rfl, rfl⟩
  | new r hr _ =>
    subst hr
    exact ⟨(insertRecord_filter_of_ne hne.symm).symm, by simp [putNew, indexName, hne]⟩
  | state id state => exact ⟨by rw [withState_filter, withState_of_ne hne], rfl⟩
  | update r r' _ _ hr' _ =>
    exact ⟨(insertRecord_filter_of_ne (hr' ▸ hne.symm)).symm, rfl⟩
  | rename r name _ hr =>
    refine ⟨(insertRecord_filter_of_ne (hr ▸ hne.symm)).symm, ?_⟩
    simp [indexName, unindexName, hne]
  | delete r hr ht =>
    constructor
    · -- the deleted record is not of the other tenant
      dsimp only
      rw [filter_comm]
      refine (filter_eq_self.mpr fun x hx => ?_).symm
      have hxt : x.tenantId = t' := by simpa using (mem_filter.mp hx).2
      have hcell : ¬ x.IsCell t r.id = true := by
        rw [isCell_iff, hxt]
        exact fun hc => hne hc.1
      simpa using hcell
    · -- and its id is not in the other tenant's index
      funext n
      cases hindex : s.nameIndex t' n with
      | none => simp [hindex]
      | some id =>
        have hid : id ≠ r.id := by
          rintro rfl
          exact hne ((hs.index r hr t' n hindex).trans ht)
        simp [hindex, Option.filter, hid]

lemma Change.record_id {x : DatabaseRecord} (hx : x ∈ s'.databases) :
    (drawn = some x.id ∧ x.tenantId = t) ∨
      ∃ r ∈ s.databases, r.id = x.id ∧ r.tenantId = x.tenantId := by
  cases h with
  | nothing => exact .inr ⟨x, hx, rfl, rfl⟩
  | new r hr hid =>
    rcases mem_insertRecord hx with rfl | hx
    · exact .inl ⟨hid, hr⟩
    · exact .inr ⟨x, hx, rfl, rfl⟩
  | state id state =>
    rcases mem_map.mp hx with ⟨y, hy, hyx⟩
    refine .inr ⟨y, hy, ?_⟩
    by_cases hcell : y.IsCell t id = true
    · rw [if_pos hcell] at hyx
      exact hyx ▸ ⟨rfl, rfl⟩
    · rw [if_neg hcell] at hyx
      exact hyx ▸ ⟨rfl, rfl⟩
  | update r r' hr ht hr' hid =>
    rcases mem_insertRecord hx with rfl | hx
    · exact .inr ⟨r, hr, hid.symm, ht.trans hr'.symm⟩
    · exact .inr ⟨x, hx, rfl, rfl⟩
  | rename r name hr _ =>
    rcases mem_insertRecord hx with rfl | hx
    · exact .inr ⟨r, hr, rfl, rfl⟩
    · exact .inr ⟨x, hx, rfl, rfl⟩
  | delete r _ _ => exact .inr ⟨x, mem_of_mem_filter hx, rfl, rfl⟩

lemma Change.index_id {t' : TenantId} {n : String} (hn : s'.nameIndex t' n = some id) :
    (drawn = some id ∧ t' = t) ∨ s.nameIndex t' n = some id ∨
      ∃ r ∈ s.databases, r.id = id ∧ r.tenantId = t' := by
  cases h with
  | nothing | state | update => exact .inr (.inl hn)
  | new r hr hid =>
    by_cases ht : t' = r.tenantId
    · subst ht
      by_cases hname : n = r.name
      · have hrid : r.id = id := by simpa [putNew, indexName, hname] using hn
        exact .inl ⟨hrid ▸ hid, hr⟩
      · exact .inr (.inl (by simpa [putNew, indexName, hname] using hn))
    · exact .inr (.inl (by simpa [putNew, indexName, ht] using hn))
  | rename r name hr ht =>
    by_cases hne : t' = t
    · subst hne
      by_cases hname : n = name
      · have hrid : r.id = id := by simpa [indexName, hname] using hn
        exact .inr (.inr ⟨r, hr, hrid, ht⟩)
      · by_cases hold : n = r.name
        · subst hold
          simp [indexName, unindexName, hname] at hn
        · exact .inr (.inl (by simpa [indexName, unindexName, hname, hold] using hn))
    · exact .inr (.inl (by simpa [indexName, unindexName, hne] using hn))
  | delete r _ _ => exact .inr (.inl (Option.filter_eq_some_iff.mp hn).1)

lemma Change.newIn (hnew : NewIn s id) (hid : drawn ≠ some id) : NewIn s' id := by
  constructor
  · rintro x hx rfl
    rcases h.record_id hx with ⟨hdrawn, _⟩ | ⟨r, hr, hrx, _⟩
    · exact hid hdrawn
    · exact hnew.1 r hr hrx
  · intro t' n hn
    rcases h.index_id hn with ⟨hdrawn, _⟩ | hold | ⟨r, hr, hrid, _⟩
    · exact hid hdrawn
    · exact hnew.2 t' n hold
    · exact hnew.1 r hr hrid

lemma Change.separate (hs : Separate s)
    (hnew : ∀ id, drawn = some id → NewIn s id) : Separate s' := by
  constructor
  · intro x hx y hy hxy
    rcases h.record_id hx with ⟨hdx, htx⟩ | ⟨r, hr, hrx, htr⟩
    · rcases h.record_id hy with ⟨hdy, hty⟩ | ⟨r', hr', hry, _⟩
      · exact htx.trans hty.symm
      · exact absurd (hry.trans hxy.symm) ((hnew x.id hdx).1 r' hr')
    · rcases h.record_id hy with ⟨hdy, _⟩ | ⟨r', hr', hry, htr'⟩
      · exact absurd (hrx.trans hxy) ((hnew y.id hdy).1 r hr)
      · have hsame := hs.records r hr r' hr' ((hrx.trans hxy).trans hry.symm)
        exact (htr.symm.trans hsame).trans htr'
  · intro x hx t' n hn
    rcases h.record_id hx with ⟨hdx, htx⟩ | ⟨r, hr, hrx, htr⟩
    · rcases h.index_id hn with ⟨_, ht'⟩ | hold | ⟨r', hr', hr'x, _⟩
      · exact ht'.trans htx.symm
      · exact absurd hold ((hnew x.id hdx).2 t' n)
      · exact absurd hr'x ((hnew x.id hdx).1 r' hr')
    · rcases h.index_id hn with ⟨hdx, _⟩ | hold | ⟨r', hr', hr'x, ht'⟩
      · exact absurd hrx ((hnew x.id hdx).1 r hr)
      · exact (hs.index r hr t' n (hrx ▸ hold)).trans htr
      · have hsame := hs.records r' hr' r hr (hr'x.trans hrx.symm)
        exact (ht'.symm.trans hsame).trans htr

end

end Changes

end InMemoryStore

/-! ## Runs -/

structure Call where
  tenant : TenantId
  now : Nat
  op : TenantOp
  deriving DecidableEq, Repr

def drawnIds (calls : List Call) : List DatabaseId :=
  calls.filterMap (·.op.drawn)

namespace InMemoryStore

def serve (s : InMemoryStore) : List Call → List (Call × Outcome)
  | [] => []
  | c :: calls =>
    (c, (s.perform c.tenant c.now c.op).1) :: serve (s.perform c.tenant c.now c.op).2 calls

lemma serve_filter {t : TenantId} {s s' : InMemoryStore} {calls : List Call}
    (hsame : SameFor t s s') (hsep : Separate s) (hids : (drawnIds calls).Nodup)
    (hnew : ∀ id ∈ drawnIds calls, NewIn s id) :
    (s.serve calls).filter (·.1.tenant = t) = s'.serve (calls.filter (·.tenant = t)) := by
  induction calls generalizing s s' with
  | nil => rfl
  | cons c calls ih =>
    have hchange := s.perform_change c.tenant c.now c.op
    -- what this call draws is new, and the ids of the later calls stay new
    have hdrawn : ∀ id, c.op.drawn = some id → id ∈ drawnIds (c :: calls) :=
      fun id hid => mem_filterMap.mpr ⟨c, mem_cons_self, hid⟩
    have hlater : ∀ id ∈ drawnIds calls, id ∈ drawnIds (c :: calls) := by
      intro id hid
      rcases mem_filterMap.mp hid with ⟨c', hc', hcid⟩
      exact mem_filterMap.mpr ⟨c', mem_cons_of_mem _ hc', hcid⟩
    have hrest : (drawnIds calls).Nodup ∧ ∀ id ∈ drawnIds calls, c.op.drawn ≠ some id := by
      cases hop : c.op.drawn with
      | none => exact ⟨by simpa [drawnIds, hop] using hids, fun id _ => nofun⟩
      | some id =>
        have hcons : (id :: drawnIds calls).Nodup := by simpa [drawnIds, hop] using hids
        rcases nodup_cons.mp hcons with ⟨hnot, hnodup⟩
        refine ⟨hnodup, fun id' hid' h => hnot ?_⟩
        rw [Option.some.inj h]
        exact hid'
    have hsep' := hchange.separate hsep fun id hid => hnew id (hdrawn id hid)
    have hnew' : ∀ id ∈ drawnIds calls, NewIn (s.perform c.tenant c.now c.op).2 id :=
      fun id hid => hchange.newIn (hnew id (hlater id hid)) (hrest.2 id hid)
    by_cases ht : c.tenant = t
    · subst ht
      have hboth := perform_same hsame c.now c.op
      simp only [serve, filter_cons, decide_true, if_true, hboth.1]
      rw [ih hboth.2 hsep' hrest.1 hnew']
    · have hframe := hchange.frame hsep (Ne.symm ht)
      simp only [serve, filter_cons, ht, decide_false, Bool.false_eq_true, if_false]
      exact ih ⟨hframe.1.symm.trans hsame.1, hframe.2.symm.trans hsame.2⟩ hsep' hrest.1 hnew'

/-- If every new Cell gets an id of its own, the answers to a tenant are those without the calls of
the others. -/
theorem tenants_isolated (t : TenantId) (s : InMemoryStore) (calls : List Call) (hsep : Separate s)
    (hids : (drawnIds calls).Nodup) (hnew : ∀ id ∈ drawnIds calls, NewIn s id) :
    (s.serve calls).filter (·.1.tenant = t) = s.serve (calls.filter (·.tenant = t)) :=
  serve_filter ⟨rfl, rfl⟩ hsep hids hnew

end InMemoryStore

/-- Two tenants have a Cell of the same name; tenant 6 tries to delete that of tenant 5, and
deletes its own. -/
def sameNames : List Call :=
  [⟨⟨5⟩, 60, .create ⟨1⟩ none (some "notes")⟩, ⟨⟨6⟩, 61, .create ⟨2⟩ none (some "notes")⟩,
    ⟨⟨6⟩, 62, .delete ⟨1⟩⟩, ⟨⟨6⟩, 63, .delete ⟨2⟩⟩, ⟨⟨5⟩, 64, .getByName "notes" ⟨3⟩⟩]

theorem tenants_isolated_delete :
    (emptyInMemory.serve sameNames).filter (·.1.tenant = ⟨5⟩) =
        emptyInMemory.serve (sameNames.filter (·.tenant = ⟨5⟩)) ∧
      (emptyInMemory.serve sameNames).map (·.2) =
        [.record ⟨⟨1⟩, "notes", ⟨5⟩, .created, 60, none, none, 0⟩,
          .record ⟨⟨2⟩, "notes", ⟨6⟩, .created, 61, none, none, 0⟩,
          .failed (.databaseNotFound ⟨1⟩), .done,
          .record ⟨⟨1⟩, "notes", ⟨5⟩, .created, 60, none, none, 0⟩] := by
  refine ⟨InMemoryStore.tenants_isolated ⟨5⟩ emptyInMemory sameNames ?_ (by decide) ?_, by decide⟩
  · exact ⟨nofun, nofun⟩
  · exact fun id _ => ⟨nofun, nofun⟩

end Combee.Catalogue
