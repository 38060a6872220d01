import Combee.Catalogue.Handlers
import Combee.Catalogue.Isolation

/-!
# CellNames — the names of Cells as they are stored

The handlers that create, ensure and rename Cells check a name with `validate_cell_name`, which
looks at the name without the white space around it. What the stores get is the name as it was
given. So a stored name is well formed up to white space around it.
-/

namespace Combee.Catalogue

open List
open Billing (TenantId)
open Foundation
open LawfulStore

/-! ## Names -/

def isAlnum (c : Char) : Bool := c.isLower || c.isDigit

def isNameChar (c : Char) : Bool := isAlnum c || c == '-' || c == '_'

/-- `^[a-z0-9][a-z0-9_-]{0,62}$`. -/
def CellName : List Char → Prop
  | [] => False
  | c :: cs => isAlnum c = true ∧ cs.length ≤ 62 ∧ ∀ d ∈ cs, isNameChar d = true

lemma ascii_of_isNameChar {c : Char} (h : isNameChar c = true) :
    c.utf8Size = 1 ∧ isWhitespace c = false := by
  have hrange : 45 ≤ c.toNat ∧ c.toNat ≤ 122 := by
    have hlower : c.isLower = (decide ('a'.val ≤ c.val) && decide (c.val ≤ 'z'.val)) := rfl
    simp only [isNameChar, isAlnum, hlower, Char.isDigit, Bool.or_eq_true, Bool.and_eq_true,
      decide_eq_true_eq, beq_iff_eq, ge_iff_le, UInt32.le_iff_toNat_le] at h
    rcases h with ((h | h) | rfl) | rfl
    · exact ⟨Nat.le_trans (by decide : 45 ≤ 97) h.1, h.2⟩
    · exact ⟨Nat.le_trans (by decide) h.1, Nat.le_trans h.2 (by decide)⟩
    · decide
    · decide
  refine ⟨Char.utf8Size_eq_one_iff.mpr ?_, ?_⟩
  · exact UInt32.le_iff_toNat_le.mpr (Nat.le_trans hrange.2 (by decide))
  · simp [isWhitespace]
    omega

variable {cs : List Char}

lemma trim_of_forall (h : ∀ c ∈ cs, isWhitespace c = false) : trim cs = cs := by
  have hdrop : ∀ l : List Char, (∀ c ∈ l, isWhitespace c = false) →
      l.dropWhile isWhitespace = l := by
    intro l hl
    cases l with
    | nil => rfl
    | cons c l => exact dropWhile_cons_of_neg (by simp [hl c])
  rw [trim, hdrop cs h, hdrop cs.reverse fun c hc => h c (mem_reverse.mp hc), reverse_reverse]

lemma CellName.forall_mem (h : CellName cs) : ∀ c ∈ cs, isNameChar c = true := by
  cases cs with
  | nil => exact h.elim
  | cons c cs =>
    exact forall_mem_cons.mpr ⟨by simp [isNameChar, h.1], h.2.2⟩

lemma CellName.trim_eq (h : CellName cs) : trim cs = cs :=
  trim_of_forall fun c hc => (ascii_of_isNameChar (h.forall_mem c hc)).2

lemma validateCellName_eq_ok_iff {name : String} :
    validateCellName name = .ok () ↔ CellName (trim name.toList) := by
  have hsize : ∀ cs : List Char, (∀ c ∈ cs, isNameChar c = true) →
      (cs.map Char.utf8Size).sum = cs.length := by
    intro cs hcs
    rw [map_congr_left fun c hc => (ascii_of_isNameChar (hcs c hc)).1, map_const',
      sum_replicate_nat, Nat.mul_one]
  have hiff : validateCellName name = .ok () ↔ trim name.toList ≠ [] ∧
      ((trim name.toList).map Char.utf8Size).sum ≤ 63 ∧
      (∀ c ∈ trim name.toList, isNameChar c = true) ∧
      (trim name.toList).head?.any (fun c => c.isLower || c.isDigit) = true := by
    simp only [validateCellName, ite_eq_left_iff, reduceCtorEq]
    simp [isNameChar, isAlnum, and_assoc]
  rw [hiff]
  cases trim name.toList with
  | nil => simp [CellName]
  | cons c cs =>
    constructor
    · rintro ⟨-, hlen, hall, hhead⟩
      rw [hsize _ hall] at hlen
      exact ⟨by simpa [isAlnum] using hhead, Nat.le_of_succ_le_succ hlen,
        fun d hd => hall d (by simp [hd])⟩
    · intro h
      refine ⟨by simp, ?_, h.forall_mem, by simpa [isAlnum] using h.1⟩
      rw [hsize _ h.forall_mem]
      exact Nat.succ_le_succ h.2.1

lemma cellName_defaultName (id : DatabaseId) : CellName (defaultName id).toList := by
  have hdigits : ∀ c ∈ uuidHex id.raw, isAlnum c = true := forall_mem_uuidHex (by decide)
  have hname : (defaultName id).toList = 'c' :: ("ell-".toList ++ (uuidHex id.raw).take 8) := by
    simp [defaultName]
  rw [hname]
  have hlen : ("ell-".toList ++ (uuidHex id.raw).take 8).length ≤ 4 + 8 := by
    rw [length_append]
    exact Nat.add_le_add_left (length_take_le 8 _) _
  refine ⟨by decide, hlen.trans (by decide), forall_mem_append.mpr ⟨?_, fun c hc => ?_⟩⟩
  · exact all_eq_true.mp (by decide : "ell-".toList.all isNameChar = true)
  · simp [isNameChar, hdigits c (mem_of_mem_take hc)]

/-! ## Stores -/

class NamedStore (σ : Type) [MetadataStore σ] [LawfulStore σ] where
  renameDatabase : σ → TenantId → DatabaseId → String → Result DatabaseRecord × σ
  create_name {s s' : σ} {t : TenantId} {id : DatabaseId} {node : Option NodeId}
      {name : Option String} {now : Nat} {r : DatabaseRecord} :
    MetadataStore.createDatabase s t id node name now = (.ok r, s') →
      r.name = name.getD (defaultName id)
  rename_cells {s : σ} {t : TenantId} {id : DatabaseId} {name : String} {x : DatabaseRecord} :
    x ∈ cells (renameDatabase s t id name).2 →
      x.name = name ∨ ∃ y ∈ cells s, y.name = x.name

instance : NamedStore InMemoryStore where
  renameDatabase := InMemoryStore.renameDatabase
  create_name := by
    intro s s' t id node name now r h
    simp only [MetadataStore.createDatabase, InMemoryStore.createDatabase] at h
    split at h
    · cases h
    · cases name with
      | none =>
        cases h
        rfl
      | some n =>
        dsimp only at h
        split at h <;> cases h
        rfl
  rename_cells := by
    intro s t id name x hx
    simp only [cells, InMemoryStore.renameDatabase] at hx ⊢
    split at hx
    · exact .inr ⟨x, hx, rfl⟩
    · split_ifs at hx
      · exact .inr ⟨x, hx, rfl⟩
      · rcases mem_insertRecord hx with rfl | hx
        · exact .inl rfl
        · exact .inr ⟨x, hx, rfl⟩

instance : NamedStore PostgresStore where
  renameDatabase := PostgresStore.renameDatabase
  create_name := by
    intro s s' t id node name now r h
    rcases s.createDatabase_cases t id node name now with ⟨e, herr, _⟩ | ⟨_, hok⟩
    · cases herr.symm.trans h
    · cases hok.symm.trans h
      rfl
  rename_cells := by
    intro s t id name x hx
    have hrows : (s.renameDatabase t id name).2 = (s.updateName t id name).2 := by
      unfold PostgresStore.renameDatabase PostgresStore.readBack
      split <;> simp [*]
    simp only [hrows, PostgresStore.updateName] at hx
    split_ifs at hx
    · exact .inr ⟨x, hx, rfl⟩
    · obtain ⟨row', hrow', rfl⟩ := mem_map.mp hx
      obtain ⟨row, hrow, rfl⟩ := mem_map.mp hrow'
      split_ifs
      · exact .inl rfl
      · exact .inr ⟨_, mem_map.mpr ⟨row, hrow, rfl⟩, rfl⟩

/-! ## Handlers -/

structure RenameRequest where
  tenant : TenantId
  id : DatabaseId
  name : String

section Handlers

variable {σ : Type} [MetadataStore σ] [LawfulStore σ] [NamedStore σ] {ι : Type} [DecidableEq ι]

def Api.renameDatabase (s : σ) (r : RenameRequest) (c : Choice) :
    Result DatabaseRecord × σ :=
  match validateCellName r.name with
  | .error e => (.error e, s)
  | .ok _ => c.call s (NamedStore.renameDatabase s r.tenant r.id r.name)

/-- Requests that create or ensure Cells, interleaved call by call, and renames. -/
def namesStep (max : Nat) :
    Pool σ ι Pc → PoolLabel ι Choice (RenameRequest × Choice) → Option (Pool σ ι Pc) :=
  Pool.step (fun s _ pc c => act max s pc c)
    (fun s e => some (Api.renameDatabase s e.1 e.2).2) (fun _ pc => pc)

def Request.Gives (A : String → Prop) : Request → Prop
  | .create r => ∀ name, r.name = some name → A name
  | .ensure r => A r.name

/-- A name that has passed the check and that satisfies `A`. -/
def Passed (A : String → Prop) (name : String) : Prop :=
  validateCellName name = .ok () ∧ A name

def NamesPassed (A : String → Prop) (s : σ) : Prop :=
  ∀ x ∈ cells s, Passed A x.name

def Pc.Gives (A : String → Prop) : Pc → Prop
  | .save r | .replay r _ | .insert r | .count (.create r) => (Request.create r).Gives A
  | .validate r => A r.name
  | .count (.ensure r) | .ensure r => Passed A r.name
  | _ => True

variable {A : String → Prop} {s s' : σ} {max : Nat}

lemma afterCount_gives {q : Request} {result : Result Nat}
    (h : (Pc.count q).Gives A) : (afterCount max q result).Gives A := by
  unfold afterCount
  split
  · trivial
  · split
    · trivial
    · cases q <;> exact h

lemma NamesPassed.create (hdefault : ∀ id, Passed A (defaultName id)) (hs : NamesPassed A s)
    {r : CreateRequest} (hname : ∀ name, r.name = some name → Passed A name) :
    NamesPassed A (MetadataStore.createDatabase s r.tenant r.id r.node r.name r.now).2 := by
  rcases create_spec s r.tenant r.id r.node r.name r.now with
    ⟨e, he, -⟩ | ⟨record, s', hok, -, -, hcells, -⟩
  · rw [he]
    exact hs
  · rw [NamesPassed, hok, hcells]
    refine forall_mem_append.mpr ⟨hs, forall_mem_singleton.mpr ?_⟩
    rw [NamedStore.create_name hok]
    cases hr : r.name with
    | none => exact hdefault r.id
    | some name => exact hname name hr

omit [NamedStore σ] in
lemma NamesPassed.ensure (hs : NamesPassed A s) {r : EnsureRequest} (hname : Passed A r.name) :
    NamesPassed A (MetadataStore.ensureDatabaseByName s r.tenant r.name r.node r.id r.now).2 := by
  rcases ensure_spec s r.tenant r.name r.node r.id r.now with
    ⟨e, he⟩ | ⟨record, -, hok⟩ | ⟨record, s', hok, -, -, hrecord, hcells, -⟩
  · rw [he]
    exact hs
  · rw [hok]
    exact hs
  · intro x hx
    rw [hok, hcells] at hx
    rcases mem_insertRecord hx with rfl | hx
    · rwa [hrecord]
    · exact hs x hx

lemma NamesPassed.rename (hs : NamesPassed A s) {r : RenameRequest} (hname : A r.name)
    (c : Choice) : NamesPassed A (Api.renameDatabase s r c).2 := by
  unfold Api.renameDatabase
  split
  · exact hs
  · rename_i hvalid
    refine Choice.call_snd (P := NamesPassed A) hs fun x hx => ?_
    rcases NamedStore.rename_cells hx with hx | ⟨y, hy, hname⟩
    · rw [hx]
      exact ⟨hvalid, hname⟩
    · rw [← hname]
      exact hs y hy

lemma act_names (hdefault : ∀ id, Passed A (defaultName id)) {pc pc' : Pc}
    {c : Choice} (hs : NamesPassed A s) (hpc : pc.Gives A)
    (h : act max s pc c = some (s', pc')) : NamesPassed A s' ∧ pc'.Gives A := by
  have hcall : ∀ {α : Type} {result : Result α × σ}, NamesPassed A result.2 →
      NamesPassed A (c.call s result).2 := Choice.call_snd (P := NamesPassed A) hs
  cases pc with
  | save r =>
    simp only [act] at h
    split at h
    · cases h
      exact ⟨hs, hpc⟩
    · cases h
      refine ⟨hcall ?_, ?_⟩
      · simpa [NamesPassed, save_cells] using hs
      · unfold afterSave
        split <;> trivial
  | validate r =>
    simp only [act] at h
    split at h <;> cases h
    · exact ⟨hs, trivial⟩
    · exact ⟨hs, ‹_›, hpc⟩
  | replay r existing =>
    simp only [act] at h
    split at h <;> cases h
    · exact ⟨hs, trivial⟩
    · refine ⟨hcall hs, ?_⟩
      unfold afterGet
      split <;> trivial
  | count q =>
    simp only [act] at h
    split at h <;> cases h
    · exact ⟨hs, afterCount_gives hpc⟩
    · exact ⟨hcall hs, afterCount_gives hpc⟩
  | insert r =>
    simp only [act] at h
    split at h <;> cases h
    · exact ⟨hs, trivial⟩
    · rename_i hvalid
      refine ⟨hcall (hs.create hdefault fun name hname => ⟨?_, hpc name hname⟩), ?_⟩
      · simpa [validateOptional, hname] using hvalid
      · unfold afterCreate
        split <;> trivial
  | ensure r =>
    cases h
    refine ⟨hcall (hs.ensure hpc), ?_⟩
    unfold afterEnsure
    split <;> trivial
  | initialise r record =>
    simp only [act] at h
    split at h <;> cases h
    · exact ⟨hs, trivial⟩
    · exact ⟨hs, trivial⟩
  | rollback t id e =>
    cases h
    refine ⟨hcall fun x hx => ?_, trivial⟩
    rw [delete_cells] at hx
    exact hs x (mem_of_mem_filter hx)
  | activate t id reply =>
    cases h
    refine ⟨hcall fun x hx => ?_, trivial⟩
    rw [setState_cells] at hx
    obtain ⟨y, hy, rfl⟩ := mem_map.mp hx
    split <;> exact hs y hy
  | answered reply => cases h

lemma names_of_exec (hdefault : ∀ id, Passed A (defaultName id))
    {ls : List (PoolLabel ι Choice (RenameRequest × Choice))} {p p' : Pool σ ι Pc}
    (hp : NamesPassed A p.shared) (hprocs : ∀ i, (p.procs i).Gives A)
    (hrename : ∀ r c, .env (r, c) ∈ ls → A r.name)
    (h : exec (namesStep max) p ls = some p') : NamesPassed A p'.shared := by
  have hmeets : Meets (namesStep max) (fun _ l => ∀ r c, l = .env (r, c) → A r.name) p ls :=
    meets_of_forall fun _ l hl r c hlabel => hrename r c (hlabel ▸ hl)
  refine (inv_of_exec (I := Pool.Inv (NamesPassed A) fun _ _ pc => pc.Gives A) ?_ ⟨hp, hprocs⟩
    hmeets h).shared
  intro q l q' hq hl hstep
  refine Pool.step_inv (fun {i _ _ _} _ hact => ?_) (fun _ _ _ _ hj => hj) ?_ hq hstep
  · exact act_names hdefault hq.shared (hq.procs i) hact
  · rintro ⟨r, c⟩ g hlabel henv
    obtain rfl := Option.some.inj henv
    exact ⟨hq.shared.rename (hl r c hlabel) c, fun _ hj => hj⟩

/-- No white space around the name. -/
def Trimmed (name : String) : Prop := trim name.toList = name.toList

/-- In every state that the handlers can reach, whatever is interleaved and fails, a stored name is
well formed up to white space around it; and if no request gives a name with white space around it,
the names are well formed as they are. -/
theorem cell_name_iff_trimmed (max : Nat) (store : σ) (hempty : cells store = [])
    (reqs : ι → Request) (ls : List (PoolLabel ι Choice (RenameRequest × Choice)))
    (p : Pool σ ι Pc)
    (hrun : exec (namesStep max) ⟨store, fun i => (reqs i).start⟩ ls = some p) :
    (∀ x ∈ cells p.shared, CellName (trim x.name.toList) ∧
      (CellName x.name.toList ↔ Trimmed x.name)) ∧
    ((∀ i, (reqs i).Gives Trimmed) → (∀ r c, .env (r, c) ∈ ls → Trimmed r.name) →
      (∀ x ∈ cells p.shared, CellName x.name.toList) ∧
      ∀ x ∈ cells p.shared, ∀ y ∈ cells p.shared,
        trim x.name.toList = trim y.name.toList → x.name = y.name) := by
  have hdefault : ∀ id, Passed Trimmed (defaultName id) := fun id =>
    have h := (cellName_defaultName id).trim_eq
    ⟨validateCellName_eq_ok_iff.mpr (h.symm ▸ cellName_defaultName id), h⟩
  have hpassed : ∀ {A : String → Prop}, (∀ id, Passed A (defaultName id)) →
      (∀ i, (reqs i).Gives A) → (∀ r c, .env (r, c) ∈ ls → A r.name) →
      ∀ x ∈ cells p.shared, CellName (trim x.name.toList) ∧ A x.name := by
    intro A hA hreqs hrename x hx
    have hstart : NamesPassed A store := by simp [NamesPassed, hempty]
    have hprocs : ∀ i, (reqs i).start.Gives A := by
      intro i
      have hi := hreqs i
      cases hreq : reqs i <;> rw [hreq] at hi <;> exact hi
    have hx := names_of_exec hA hstart hprocs hrename hrun x hx
    exact ⟨validateCellName_eq_ok_iff.mp hx.1, hx.2⟩
  refine ⟨fun x hx => ?_, fun hreqs hrename => ⟨fun x hx => ?_, fun x hx y hy hxy => ?_⟩⟩
  · have hname := (hpassed (A := fun _ => True) (fun id => ⟨(hdefault id).1, trivial⟩)
      (fun i => ?_) (fun _ _ _ => trivial) x hx).1
    · exact ⟨hname, CellName.trim_eq, fun h => h ▸ hname⟩
    · cases reqs i <;> simp [Request.Gives]
  · obtain ⟨hname, htrim⟩ := hpassed hdefault hreqs hrename x hx
    exact htrim ▸ hname
  · have hx := (hpassed hdefault hreqs hrename x hx).2
    have hy := (hpassed hdefault hreqs hrename y hy).2
    exact String.toList_inj.mp (hx.symm.trans (hxy.trans hy))

end Handlers

/-- A request for a Cell of tenant 5 with the name `name`. -/
def named (id : Nat) (name : String) : Request :=
  .create ⟨⟨5⟩, none, ⟨id⟩, some name, none, 0⟩

theorem cell_name_iff_trimmed_notes :
    ∃ p : Pool InMemoryStore Unit Pc,
      exec (namesStep 0) ⟨emptyInMemory, fun _ => (named 1 "notes").start⟩
        (replicate 4 (.proc () {})) = some p ∧
      p.shared.databases.length = 1 ∧ ∀ x ∈ p.shared.databases, CellName x.name.toList := by
  refine ⟨_, rfl, rfl, ((cell_name_iff_trimmed 0 emptyInMemory rfl (fun _ => named 1 "notes")
    (replicate 4 (.proc () {})) _ rfl).2 ?_ ?_).1⟩
  · rintro _ _ ⟨⟩
    rfl
  · simp

/-- ` notes` passes the check as `notes` does, and both are stored. -/
theorem cell_name_untrimmed : ∃ p : Pool InMemoryStore Caller Pc,
    exec (namesStep 0)
      ⟨emptyInMemory, fun | .first => (named 1 "notes").start | .second => (named 2 " notes").start⟩
      (replicate 4 (.proc .first {}) ++ replicate 4 (.proc .second {})) = some p ∧
    p.shared.databases.map (·.name) = ["notes", " notes"] ∧ ¬ CellName " notes".toList :=
  ⟨_, rfl, rfl, fun h => absurd h.1 (by decide)⟩

end Combee.Catalogue
