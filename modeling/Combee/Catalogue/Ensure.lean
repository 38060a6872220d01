import Combee.Catalogue.Handlers

/-!
# Ensure — repeating `PUT /v1/databases/by-name/{name}`

`ensure_database` counts the Cells of the tenant before it looks for the name. A tenant that has
reached its limit is refused also for a Cell that it has. Below the limit the request is
idempotent: it returns the Cell and changes nothing.
-/

namespace Combee.Catalogue

open Billing (TenantId)

/-! ## Requests for a Cell that is there -/

section Found

variable {σ : Type} [MetadataStore σ] {max : Nat} {s s' : σ} {r : EnsureRequest}
variable {record cell : DatabaseRecord} {created : Bool} {fresh : DatabaseId}

def cellCount (s : σ) (t : TenantId) : Nat :=
  (MetadataStore.listDatabases s t).length

def ensureAll (max : Nat) (s : σ) : List EnsureRequest → List Reply
  | [] => []
  | r :: rs => (Api.ensureDatabase max s r).1 :: ensureAll max (Api.ensureDatabase max s r).2 rs

def Repeated (cell : DatabaseRecord) (reply : Reply) : Prop :=
  ∃ cell', reply = .ensured cell' false ∧ cell'.id = cell.id

variable [LawfulStore σ]

lemma ensureDatabase_of_found (max : Nat) (hname : validateCellName r.name = .ok ())
    (h : MetadataStore.getDatabaseByName s r.tenant r.name fresh = .ok record) :
    Api.ensureDatabase max s r =
      match cellQuota max (cellCount s r.tenant) with
      | .error e => (.failed e, s)
      | .ok _ => (.ensured record false, s) := by
  have hensure : MetadataStore.ensureDatabaseByName s r.tenant r.name r.node r.id r.now =
      (.ok (record, false), s) := LawfulStore.ensure_found h
  unfold cellCount
  cases hquota : cellQuota max (MetadataStore.listDatabases s r.tenant).length with
  | error e => simp only [Api.ensureDatabase, hname, hquota]
  | ok _ => simp only [Api.ensureDatabase, hname, hquota, hensure]

lemma ensureDatabase_found_iff (hname : validateCellName r.name = .ok ())
    (h : MetadataStore.getDatabaseByName s r.tenant r.name fresh = .ok record) :
    Api.ensureDatabase max s r = (.ensured record false, s) ↔
      max = 0 ∨ cellCount s r.tenant < max := by
  rw [ensureDatabase_of_found max hname h, ← cellQuota_eq_ok]
  cases cellQuota max (cellCount s r.tenant) with
  | error | ok => simp

/-- After a success the name leads to the Cell of the reply, which may be active by now. -/
lemma named_of_ensured (fresh : DatabaseId)
    (h : Api.ensureDatabase max s r = (.ensured cell created, s')) :
    validateCellName r.name = .ok () ∧ ∃ record, record.id = cell.id ∧
      MetadataStore.getDatabaseByName s' r.tenant r.name fresh = .ok record := by
  unfold Api.ensureDatabase at h
  cases hname : validateCellName r.name with
  | error e => simp [hname] at h
  | ok u =>
    refine ⟨rfl, ?_⟩
    simp only [hname] at h
    split at h
    · cases h
    · split at h
      · cases h
      · rename_i hensure
        cases h
        exact ⟨cell, rfl, LawfulStore.ensure_named hensure fresh⟩
      · rename_i hensure
        split at h
        · cases h
        · cases h
          have hnamed := LawfulStore.ensure_named hensure fresh
          exact ⟨{ cell with state := .active }, rfl, LawfulStore.setState_named hnamed⟩

variable {rs : List EnsureRequest}

lemma ensureAll_of_found {t : TenantId} {name : String}
    (hname : validateCellName name = .ok ())
    (h : MetadataStore.getDatabaseByName s t name fresh = .ok record)
    (hrs : ∀ r ∈ rs, r.tenant = t ∧ r.name = name) :
    ensureAll max s rs = rs.map fun _ =>
      match cellQuota max (cellCount s t) with
      | .error e => .failed e
      | .ok _ => .ensured record false := by
  induction rs with
  | nil => rfl
  | cons r rs ih =>
    rcases hrs r List.mem_cons_self with ⟨rfl, rfl⟩
    have hfirst := ensureDatabase_of_found max hname h
    have hrest := ih (List.forall_mem_cons.mp hrs).2
    rw [ensureAll, hfirst, List.map_cons]
    cases hquota : cellQuota max (cellCount s r.tenant) with
    | error | ok => simpa [hquota] using hrest

lemma repeated_iff
    (h : Api.ensureDatabase max s r = (.ensured cell created, s'))
    (hrs : ∀ q ∈ rs, q.tenant = r.tenant ∧ q.name = r.name) :
    (∀ reply ∈ ensureAll max s' rs, Repeated cell reply) ↔
      rs = [] ∨ max = 0 ∨ cellCount s' r.tenant < max := by
  rcases named_of_ensured r.id h with ⟨hname, record, hid, hnamed⟩
  rw [ensureAll_of_found hname hnamed hrs, ← cellQuota_eq_ok]
  cases rs with
  | nil => simp
  | cons q rs =>
    cases cellQuota max (cellCount s' r.tenant) with
    | error e => simp [Repeated]
    | ok _ => simp [Repeated, hid]

end Found

/-! ## States in which names lead to Cells -/

/-- The keys of the map are different, and every record is in the index under its name. -/
structure InMemoryStore.NamesExact (s : InMemoryStore) : Prop where
  keyed : s.databases.Pairwise fun r r' => ¬ (r.tenantId = r'.tenantId ∧ r.id = r'.id)
  indexed : ∀ r ∈ s.databases, s.nameIndex r.tenantId r.name = some r.id

def PostgresStore.NamesUnique (s : PostgresStore) : Prop :=
  s.databases.Pairwise fun row row' =>
    row.tenantId = row'.tenantId → row.name = row'.name → row.name = none

lemma find_of_pairwise {α : Type} {p : α → Bool} {R : α → α → Prop} {l : List α} {a : α}
    (hl : l.Pairwise R) (hR : ∀ x y, p x = true → p y = true → ¬ R x y) (ha : a ∈ l)
    (hp : p a = true) : l.find? p = some a := by
  obtain ⟨as, bs, rfl⟩ := List.append_of_mem ha
  refine List.find?_eq_some_iff_append.mpr ⟨hp, as, bs, rfl, fun x hx => ?_⟩
  have hxa : R x a := (List.pairwise_append.mp hl).2.2 x hx a List.mem_cons_self
  simpa using fun hpx => hR x a hpx hp hxa

lemma InMemoryStore.NamesExact.getDatabaseByName {s : InMemoryStore} (h : s.NamesExact)
    {record : DatabaseRecord} (hr : record ∈ s.databases) {fresh : DatabaseId} :
    s.getDatabaseByName record.tenantId record.name fresh = .ok record := by
  have hfind : s.databases.find? (·.IsCell record.tenantId record.id) = some record := by
    refine find_of_pairwise h.keyed ?_ hr (DatabaseRecord.isCell_iff.mpr ⟨rfl, rfl⟩)
    intro x y hx hy hne
    have hx' := DatabaseRecord.isCell_iff.mp hx
    have hy' := DatabaseRecord.isCell_iff.mp hy
    exact hne ⟨hx'.1.trans hy'.1.symm, hx'.2.trans hy'.2.symm⟩
  simp [InMemoryStore.getDatabaseByName, h.indexed record hr, getDatabase, hfind, orNotFound]

lemma PostgresStore.NamesUnique.getDatabaseByName {s : PostgresStore} (h : s.NamesUnique)
    {row : DatabaseRow} (hrow : row ∈ s.databases) {name : String} (hname : row.name = some name)
    {fresh : DatabaseId} : s.getDatabaseByName row.tenantId name fresh = .ok row.toRecord := by
  have hfind : s.databases.find? (fun row' => row'.tenantId = row.tenantId &&
      row'.name = some name) = some row := by
    refine find_of_pairwise h ?_ hrow (by simp [hname])
    intro x y hx hy hnone
    simp only [Bool.and_eq_true, decide_eq_true_eq] at hx hy
    have hx' := hnone (hx.1.trans hy.1.symm) (hx.2.trans hy.2.symm)
    rw [hx.2] at hx'
    cases hx'
  simp [PostgresStore.getDatabaseByName, selectByName, hfind, orNotFound]

/-! ## Both stores -/

/-- If there is a Cell of the name, the request returns it exactly if the tenant is below its limit;
and after a success later requests return the same Cell exactly if the tenant still is. -/
theorem ensure_idempotent_iff (max : Nat) (r : EnsureRequest)
    (hname : validateCellName r.name = .ok ()) :
    (∀ (s : InMemoryStore) (record : DatabaseRecord), s.NamesExact → record ∈ s.databases →
      record.tenantId = r.tenant → record.name = r.name →
      (Api.ensureDatabase max s r = (.ensured record false, s) ↔
        max = 0 ∨ cellCount s r.tenant < max)) ∧
    (∀ (s : PostgresStore) (row : DatabaseRow), s.NamesUnique → row ∈ s.databases →
      row.tenantId = r.tenant → row.name = some r.name →
      (Api.ensureDatabase max s r = (.ensured row.toRecord false, s) ↔
        max = 0 ∨ cellCount s r.tenant < max)) ∧
    (∀ (s s' : InMemoryStore) (cell : DatabaseRecord) (created : Bool) (rs : List EnsureRequest),
      Api.ensureDatabase max s r = (.ensured cell created, s') →
      (∀ q ∈ rs, q.tenant = r.tenant ∧ q.name = r.name) →
      ((∀ reply ∈ ensureAll max s' rs, Repeated cell reply) ↔
        rs = [] ∨ max = 0 ∨ cellCount s' r.tenant < max)) ∧
    (∀ (s s' : PostgresStore) (cell : DatabaseRecord) (created : Bool) (rs : List EnsureRequest),
      Api.ensureDatabase max s r = (.ensured cell created, s') →
      (∀ q ∈ rs, q.tenant = r.tenant ∧ q.name = r.name) →
      ((∀ reply ∈ ensureAll max s' rs, Repeated cell reply) ↔
        rs = [] ∨ max = 0 ∨ cellCount s' r.tenant < max)) := by
  refine ⟨?_, ?_, ?_, ?_⟩
  · intro s record hexact hmem htenant hrname
    have hfound : s.getDatabaseByName r.tenant r.name r.id = .ok record := by
      rw [← htenant, ← hrname]
      exact hexact.getDatabaseByName hmem
    exact ensureDatabase_found_iff hname hfound
  · intro s row hunique hmem htenant hrname
    have hfound : s.getDatabaseByName r.tenant r.name r.id = .ok row.toRecord := by
      rw [← htenant]
      exact hunique.getDatabaseByName hmem hrname
    exact ensureDatabase_found_iff hname hfound
  · exact fun s s' cell created rs h hrs => repeated_iff h hrs
  · exact fun s s' cell created rs h hrs => repeated_iff h hrs

/-! ## A tenant below and at its limit -/

/-- The name `notes` for tenant 5, on a node that makes the database. -/
def ensureNotes (id : DatabaseId) : EnsureRequest :=
  ⟨⟨5⟩, "notes", id, none, 60, .ok ()⟩

/-- With a limit of two Cells, tenant 5 makes one and asks again. -/
theorem ensure_idempotent_iff_notes :
    (∃ cell s', Api.ensureDatabase 2 emptyInMemory (ensureNotes ⟨1⟩) = (.ensured cell true, s') ∧
      (∀ reply ∈ ensureAll 2 s' [ensureNotes ⟨2⟩, ensureNotes ⟨3⟩], Repeated cell reply)) ∧
    (∃ cell s', Api.ensureDatabase 2 emptyPostgres (ensureNotes ⟨1⟩) = (.ensured cell true, s') ∧
      (∀ reply ∈ ensureAll 2 s' [ensureNotes ⟨2⟩, ensureNotes ⟨3⟩], Repeated cell reply)) := by
  have hname : validateCellName "notes" = .ok () := by decide
  constructor
  · refine ⟨_, _, rfl, ?_⟩
    exact ((ensure_idempotent_iff 2 (ensureNotes ⟨1⟩) hname).2.2.1 emptyInMemory _ _ true _ rfl
      (by simp [ensureNotes])).mpr (.inr (.inr (by decide)))
  · refine ⟨_, _, rfl, ?_⟩
    exact ((ensure_idempotent_iff 2 (ensureNotes ⟨1⟩) hname).2.2.2 emptyPostgres _ _ true _ rfl
      (by simp [ensureNotes])).mpr (.inr (.inr (by decide)))

/-- With a limit of one Cell, the same request is refused the second time. -/
theorem ensure_refused_at_limit :
    (∃ cell s', Api.ensureDatabase 1 emptyInMemory (ensureNotes ⟨1⟩) = (.ensured cell true, s') ∧
      (Api.ensureDatabase 1 s' (ensureNotes ⟨2⟩)).1 =
        .failed (.quotaExceeded "cell limit reached: 1 (max 1)")) ∧
    (∃ cell s', Api.ensureDatabase 1 emptyPostgres (ensureNotes ⟨1⟩) = (.ensured cell true, s') ∧
      (Api.ensureDatabase 1 s' (ensureNotes ⟨2⟩)).1 =
        .failed (.quotaExceeded "cell limit reached: 1 (max 1)")) :=
  ⟨⟨_, _, rfl, by decide⟩, ⟨_, _, rfl, by decide⟩⟩

end Combee.Catalogue
