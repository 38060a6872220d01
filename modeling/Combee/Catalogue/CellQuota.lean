import Combee.Catalogue.Ensure
import Combee.Foundation.Counting

/-!
# CellQuota — the limit on the Cells of a tenant under concurrent requests

The Cells are counted in one call of the store and the new record is made in another. A request
between the two has passed the check and not used it yet (`inWindow`). The Cells of the tenant and
the requests in the window together never exceed what the last check allowed, so with at most `k`
requests in the window at a time the tenant has at most `max - 1 + k` Cells: the limit is kept if
the requests of the tenant take turns.
-/

namespace Combee.Catalogue

open Billing (TenantId)
open Foundation
open LawfulStore

section Owned

variable {σ : Type} [MetadataStore σ] [LawfulStore σ] {s s' : σ} {t t₀ : TenantId}

def owned (s : σ) (t : TenantId) : Nat :=
  ((cells s).filter (·.tenantId = t)).length

lemma cellCount_eq_owned : cellCount s t = owned s t :=
  list_perm.length_eq

def GrowsFor (t₀ : TenantId) (s s' : σ) : Prop :=
  ∀ t, owned s' t ≤ owned s t + if t = t₀ then 1 else 0

def NoMore (s s' : σ) : Prop :=
  ∀ t, owned s' t ≤ owned s t

lemma NoMore.refl : NoMore s s := fun _ => le_refl _

lemma NoMore.growsFor (h : NoMore s s') : GrowsFor t₀ s s' :=
  fun t => (h t).trans (Nat.le_add_right _ _)

lemma noMore_of_cells_eq (h : cells s' = cells s) : NoMore s s' := by
  intro t
  rw [owned, owned, h]

lemma growsFor_of_append {r : DatabaseRecord} (hr : r.tenantId = t₀)
    (h : cells s' = cells s ++ [r]) : GrowsFor t₀ s s' := by
  intro t
  subst hr
  by_cases ht : t = r.tenantId
  · simp [owned, h, ht]
  · simp [owned, h, ht, Ne.symm ht]

lemma growsFor_of_insertRecord {r : DatabaseRecord} (hr : r.tenantId = t₀)
    (h : cells s' = insertRecord (cells s) r) : GrowsFor t₀ s s' := by
  unfold insertRecord at h
  split_ifs at h with hany
  · refine NoMore.growsFor fun t => ?_
    -- a record and the one that takes its place have the same tenant
    have htenant : ∀ r' : DatabaseRecord,
        (if r'.IsCell r.tenantId r.id then r else r').tenantId = r'.tenantId := by
      intro r'
      split_ifs with hcell
      · exact (DatabaseRecord.isCell_iff.mp hcell).1.symm
      · rfl
    rw [owned, owned, h, List.filter_map, List.length_map]
    exact le_of_eq (congrArg List.length (List.filter_congr fun r' _ => by simp [htenant r']))
  · exact growsFor_of_append hr h

variable {id : DatabaseId} {node : Option NodeId}

lemma growsFor_create (s : σ) (t₀ : TenantId) {name : Option String}
    {now : Nat} : GrowsFor t₀ s (MetadataStore.createDatabase s t₀ id node name now).2 := by
  rcases create_spec s t₀ id node name now with
    ⟨e, herr, _⟩ | ⟨r, s', hok, hr, _, hcells, _⟩
  · rw [herr]
    exact NoMore.refl.growsFor
  · rw [hok]
    exact growsFor_of_append hr hcells

lemma growsFor_ensure (s : σ) (t₀ : TenantId) {name : String} {now : Nat} :
    GrowsFor t₀ s (MetadataStore.ensureDatabaseByName s t₀ name node id now).2 := by
  rcases ensure_spec s t₀ name node id now with
    ⟨e, herr⟩ | ⟨r, _, hfound⟩ | ⟨r, s', hok, hr, _, _, hcells, _⟩
  · rw [herr]
    exact NoMore.refl.growsFor
  · rw [hfound]
    exact NoMore.refl.growsFor
  · rw [hok]
    exact growsFor_of_insertRecord hr hcells

lemma noMore_setState {state : DatabaseState} :
    NoMore s (MetadataStore.setDatabaseState s t₀ id state).2 := by
  intro t
  rw [owned, owned, setState_cells, withState_filter, withState, List.length_map]

lemma noMore_delete : NoMore s (MetadataStore.deleteDatabase s t₀ id).2 := by
  intro t
  rw [owned, owned, delete_cells, List.filter_comm]
  exact List.length_filter_le _ _

end Owned

/-! ## The window -/

/-- The request has passed the check for the tenant and has not made its record yet. -/
def inWindow (t : TenantId) : Pc → Nat
  | .insert r => if r.tenant = t then 1 else 0
  | .ensure r => if r.tenant = t then 1 else 0
  | _ => 0

section Steps

variable {σ : Type} [MetadataStore σ] [LawfulStore σ] {s s' : σ} {pc pc' : Pc} {c : Choice}
variable {max : Nat} {t : TenantId}

lemma inWindow_afterSave {r : CreateRequest}
    {result : Result (Option Payload)} : inWindow t (afterSave r result) = 0 := by
  rcases result with e | (_ | existing) <;> rfl

variable {result : Result DatabaseRecord}

lemma inWindow_afterGet : inWindow t (afterGet result) = 0 := by
  cases result <;> rfl

lemma inWindow_afterCreate {r : CreateRequest} : inWindow t (afterCreate r result) = 0 := by
  cases result <;> rfl

lemma inWindow_afterEnsure {r : EnsureRequest}
    {result : Result (DatabaseRecord × Bool)} :
    inWindow t (afterEnsure r result) = 0 := by
  rcases result with e | ⟨record, _ | _⟩ <;> rfl

/-- Only a count that leaves room brings a request into the window. -/
lemma inWindow_afterCount (max : Nat) (t : TenantId) (q : Request) (count : Nat) :
    inWindow t (afterCount max q (.ok count)) = 0 ∨
      (q.tenant = t ∧ (max = 0 ∨ count < max)) := by
  by_cases hquota : cellQuota max count = .ok ()
  · by_cases ht : q.tenant = t
    · exact .inr ⟨ht, cellQuota_eq_ok.mp hquota⟩
    · left
      cases q with
      | create | ensure => simpa [afterCount, hquota, inWindow, Request.tenant] using ht
  · left
    cases herr : cellQuota max count with
    | error e => simp [afterCount, herr, inWindow]
    | ok u => exact absurd herr hquota

/-- A request that makes a record leaves the window; a request that enters it has found room. -/
lemma act_owned (h : act max s pc c = some (s', pc')) (t : TenantId) :
    owned s' t + inWindow t pc' ≤ owned s t + inWindow t pc ∨
      (s' = s ∧ (max = 0 ∨ owned s t < max)) := by
  cases pc with
  | save r =>
    left
    simp only [act] at h
    split at h
    · cases h
      exact le_refl _
    · cases h
      rw [inWindow_afterSave]
      exact Choice.call_snd (P := fun g => owned g t + 0 ≤ owned s t + 0) (le_refl _)
        (noMore_of_cells_eq save_cells t)
  | validate | initialise =>
    left
    simp only [act] at h
    split at h
    · cases h
      exact le_refl _
    · cases h
      exact le_refl _
  | replay r existing =>
    left
    simp only [act] at h
    split at h
    · cases h
      exact le_refl _
    · cases h
      rw [inWindow_afterGet]
      exact Choice.call_snd (P := fun g => owned g t + 0 ≤ owned s t + 0) (le_refl _) (le_refl _)
  | count q =>
    simp only [act] at h
    split_ifs at h with hmax
    · cases h
      exact .inr ⟨rfl, .inl hmax⟩
    · cases hfault : c.fault with
      | some message =>
        simp only [Choice.call, hfault, ite_self] at h
        cases h
        exact .inl (le_refl _)
      | none =>
        simp only [Choice.call, hfault] at h
        cases h
        rcases inWindow_afterCount max t q (MetadataStore.listDatabases s q.tenant).length with
          hout | ⟨ht, hroom⟩
        · exact .inl (by simp [hout])
        · subst ht
          rw [show (MetadataStore.listDatabases s q.tenant).length = owned s q.tenant from
            cellCount_eq_owned] at hroom
          exact .inr ⟨rfl, hroom⟩
  | insert r =>
    left
    simp only [act] at h
    split at h
    · cases h
      exact Nat.add_le_add_left (Nat.zero_le _) _
    · cases h
      rw [inWindow_afterCreate]
      refine Choice.call_snd (P := fun g => owned g t + 0 ≤ owned s t + inWindow t (.insert r))
        (Nat.le_add_right _ _) ?_
      simpa [inWindow, eq_comm] using growsFor_create s r.tenant t
  | ensure r =>
    left
    simp only [act] at h
    cases h
    rw [inWindow_afterEnsure]
    refine Choice.call_snd (P := fun g => owned g t + 0 ≤ owned s t + inWindow t (.ensure r))
      (Nat.le_add_right _ _) ?_
    simpa [inWindow, eq_comm] using growsFor_ensure s r.tenant t
  | rollback t₀ id e =>
    left
    cases h
    exact Choice.call_snd (P := fun g => owned g t + 0 ≤ owned s t + 0) (le_refl _)
      (noMore_delete t)
  | activate t₀ id reply =>
    left
    cases h
    exact Choice.call_snd (P := fun g => owned g t + 0 ≤ owned s t + 0) (le_refl _)
      (noMore_setState t)
  | answered reply => simp [act] at h

end Steps

/-! ## Runs -/

section Runs

variable {σ ι : Type} [MetadataStore σ] [LawfulStore σ] [Fintype ι] [DecidableEq ι]
variable {max k : Nat} {s s' : Pool σ ι Pc} {t : TenantId}

def windowSize (t : TenantId) (s : Pool σ ι Pc) : Nat :=
  ∑ i, inWindow t (s.procs i)

variable {l : PoolLabel ι Choice Empty}

lemma potential_step (hmax : 0 < max) (hs : owned s.shared t + windowSize t s + 1 ≤ max + k)
    (hk : ∀ s', step max s l = some s' → windowSize t s' ≤ k)
    (h : step max s l = some s') : owned s'.shared t + windowSize t s' + 1 ≤ max + k := by
  have hwindow := hk s' h
  cases h using Pool.step_cases with
  | env e => exact e.elim
  | proc i c g pc hact =>
    have hsum := Pool.sum_update (fun _ => inWindow t) s.procs i pc
    unfold windowSize at hs hwindow ⊢
    rcases act_owned hact t with hle | ⟨rfl, hroom⟩
    · dsimp only at hwindow ⊢
      omega
    · dsimp only at hwindow ⊢
      omega

/-- With at most `k` requests in the window at a time, the tenant never has more than `max - 1 + k`
Cells; if its requests take turns, it keeps to the limit. -/
theorem cell_quota_bound (max k : Nat) (t : TenantId) (s₀ : Pool σ ι Pc)
    (ls : List (PoolLabel ι Choice Empty)) (hmax : 0 < max) (hk : 1 ≤ k)
    (hstart : ∀ i, ∃ q : Request, s₀.procs i = q.start) (h₀ : owned s₀.shared t ≤ max)
    (hall : ∀ pre s, pre <+: ls → exec (step max) s₀ pre = some s → windowSize t s ≤ k) :
    ∀ pre s, pre <+: ls → exec (step max) s₀ pre = some s → owned s.shared t ≤ max - 1 + k := by
  intro pre s hpre hs
  have hwindow : windowSize t s₀ = 0 := by
    refine Finset.sum_eq_zero fun i _ => ?_
    rcases hstart i with ⟨q, hq⟩
    rw [hq]
    cases q <;> rfl
  have hmeets := (always_iff_meets_next (P := fun s => windowSize t s ≤ k)
    (by omega)).mp fun pre' u hpre' => hall pre' u (hpre'.trans hpre)
  have hpotential := inv_of_exec (I := fun s => owned s.shared t + windowSize t s + 1 ≤ max + k)
    (fun hs hnext h => potential_step hmax hs hnext h) (by omega) hmeets hs
  omega

end Runs

def twoCells : Caller → Request
  | .first => .create ⟨⟨5⟩, none, ⟨1⟩, some "notes", none, 60⟩
  | .second => .create ⟨⟨5⟩, none, ⟨2⟩, some "tasks", none, 60⟩

instance : Fintype Caller :=
  ⟨{.first, .second}, fun i => by cases i <;> decide⟩

def takingTurns : List (PoolLabel Caller Choice Empty) :=
  List.replicate 4 (.proc .first {}) ++ List.replicate 2 (.proc .second {})

/-- Both count before either of them makes its record. -/
def overlapping : List (PoolLabel Caller Choice Empty) :=
  [.proc .first {}, .proc .second {}, .proc .first {}, .proc .second {}, .proc .first {},
    .proc .second {}]

def oneInWindow {σ : Type} [MetadataStore σ] (s : Pool σ Caller Pc)
    (l : PoolLabel Caller Choice Empty) : Bool :=
  ((step 1 s l).map fun s' => decide (windowSize ⟨5⟩ s' ≤ 1)).getD true

lemma windowSize_le_of_check {σ : Type} [MetadataStore σ] {s₀ : Pool σ Caller Pc}
    {ls : List (PoolLabel Caller Choice Empty)} (h₀ : windowSize ⟨5⟩ s₀ ≤ 1)
    (h : check (step 1) oneInWindow s₀ ls = true) :
    ∀ pre s, pre <+: ls → exec (step 1) s₀ pre = some s → windowSize ⟨5⟩ s ≤ 1 := by
  have hmeets : Meets (step 1)
      (fun s l => ∀ s', step 1 s l = some s' → windowSize ⟨5⟩ s' ≤ 1) s₀ ls := by
    refine meets_of_check (c := oneInWindow) ?_ h
    intro s l hl s' hs'
    simpa [oneInWindow, hs'] using hl
  exact (always_iff_meets_next (P := fun s => windowSize ⟨5⟩ s ≤ 1) h₀).mpr hmeets

theorem cell_quota_bound_turns :
    (∃ s, exec (step 1) ⟨emptyInMemory, fun i => (twoCells i).start⟩ takingTurns = some s ∧
      s.procs .second = .answered (.failed (.quotaExceeded "cell limit reached: 1 (max 1)")) ∧
      owned s.shared ⟨5⟩ ≤ 1) ∧
    (∃ s, exec (step 1) ⟨emptyPostgres, fun i => (twoCells i).start⟩ takingTurns = some s ∧
      s.procs .second = .answered (.failed (.quotaExceeded "cell limit reached: 1 (max 1)")) ∧
      owned s.shared ⟨5⟩ ≤ 1) := by
  constructor
  · refine ⟨_, rfl, rfl, cell_quota_bound 1 1 ⟨5⟩ ⟨emptyInMemory, fun i => (twoCells i).start⟩
      takingTurns (by decide) (le_refl 1) (fun i => ⟨twoCells i, rfl⟩) (by decide) ?_ _ _
      List.prefix_rfl rfl⟩
    exact windowSize_le_of_check (by decide) (by decide)
  · refine ⟨_, rfl, rfl, cell_quota_bound 1 1 ⟨5⟩ ⟨emptyPostgres, fun i => (twoCells i).start⟩
      takingTurns (by decide) (le_refl 1) (fun i => ⟨twoCells i, rfl⟩) (by decide) ?_ _ _
      List.prefix_rfl rfl⟩
    exact windowSize_le_of_check (by decide) (by decide)

/-- With a limit of one Cell, two requests at once end with two Cells. -/
theorem cell_quota_exceeded :
    (∃ s, exec (step 1) ⟨emptyInMemory, fun i => (twoCells i).start⟩ overlapping = some s ∧
      owned s.shared ⟨5⟩ = 2) ∧
    (∃ s, exec (step 1) ⟨emptyPostgres, fun i => (twoCells i).start⟩ overlapping = some s ∧
      owned s.shared ⟨5⟩ = 2) :=
  ⟨⟨_, rfl, by decide⟩, ⟨_, rfl, by decide⟩⟩

end Combee.Catalogue
