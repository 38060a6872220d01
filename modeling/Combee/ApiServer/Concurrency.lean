import Combee.ApiServer.Request
import Combee.Foundation.Counting
import Mathlib.Algebra.Order.BigOperators.Group.Finset

/-!
# Concurrency — the limits on the requests of a tenant and of a Cell at a time

`concurrency_quota` counts a request in before it calls the inner handler, and a guard counts it out
when it is dropped. The two guards are moved into a tuple that is bound to `_`, and are dropped at
the end of that statement, before the inner handler is called.

So the counters are exact, and the requests that have a guard are within the limits; but a request
in the inner handler has none, and the limits say nothing about how many are there. Requests that
come one after the other are all let in, so the limit of a key holds in every interleaving only if
there are no more requests of it than that (`concurrency_quota_iff`).
-/

namespace Combee.ApiServer

open Billing (TenantId)
open Foundation
open Function (update update_of_ne update_self)

/-! ## Counters -/

structure ConcurrencyCounters (K : Type) where
  inflight : K → Option Nat

namespace ConcurrencyCounters

variable {K : Type} [DecidableEq K] {c : ConcurrencyCounters K} {key k : K} {max : Nat}

/-- The guard is granted or not. The entry is made also if there was none. -/
def tryEnter (c : ConcurrencyCounters K) (key : K) (max : Nat) : Bool × ConcurrencyCounters K :=
  let cur := (c.inflight key).getD 0
  if 0 < max ∧ max ≤ cur then (false, ⟨update c.inflight key (some cur)⟩)
  else (true, ⟨update c.inflight key (some (cur + 1))⟩)

/-- `drop` of a guard. -/
def release (c : ConcurrencyCounters K) (key : K) : ConcurrencyCounters K :=
  match c.inflight key with
  | none => c
  | some v =>
    if v - 1 = 0 then ⟨update c.inflight key none⟩
    else ⟨update c.inflight key (some (v - 1))⟩

def count (c : ConcurrencyCounters K) (key : K) : Nat :=
  (c.inflight key).getD 0

lemma tryEnter_cases (c : ConcurrencyCounters K) (key : K) (max : Nat) :
    (∃ c', c.tryEnter key max = (true, c') ∧ (max = 0 ∨ c.count key < max) ∧
      ∀ k, c'.count k = c.count k + if k = key then 1 else 0) ∨
    ∃ c', c.tryEnter key max = (false, c') ∧ 0 < max ∧ max ≤ c.count key ∧
      ∀ k, c'.count k = c.count k := by
  by_cases h : 0 < max ∧ max ≤ c.count key
  · refine .inr ⟨⟨update c.inflight key (some (c.count key))⟩, if_pos h, h.1, h.2, ?_⟩
    intro k
    by_cases hk : k = key
    · subst hk
      simp [count]
    · simp [count, hk]
  · refine .inl
      ⟨⟨update c.inflight key (some (c.count key + 1))⟩, if_neg h, by omega, ?_⟩
    intro k
    by_cases hk : k = key
    · subst hk
      simp [count]
    · simp [count, hk]

lemma count_release : (c.release key).count k = c.count k - if k = key then 1 else 0 := by
  unfold release count
  cases hkey : c.inflight key with
  | none =>
    by_cases hk : k = key
    · subst hk
      simp [hkey]
    · simp [hk]
  | some v =>
    dsimp only
    by_cases hv : v - 1 = 0
    · rw [if_pos hv]
      by_cases hk : k = key
      · subst hk
        simp [hkey, hv]
      · simp [hk]
    · rw [if_neg hv]
      by_cases hk : k = key
      · subst hk
        simp [hkey]
      · simp [hk]

/-! ### Guards -/

/-- The counters, and the keys of the guards that are alive. -/
structure Guarded (K : Type) where
  counters : ConcurrencyCounters K := ⟨fun _ => none⟩
  live : List K := []

inductive GuardOp (K : Type) where
  | tryEnter (key : K) (max : Nat)
  | drop (key : K)

/-- Two guards of one key are alike; only a guard that is alive is dropped. -/
def Guarded.step (s : Guarded K) : GuardOp K → Option (Guarded K)
  | .tryEnter key max =>
    match s.counters.tryEnter key max with
    | (true, c) => some ⟨c, key :: s.live⟩
    | (false, c) => some ⟨c, s.live⟩
  | .drop key =>
    if key ∈ s.live then some ⟨s.counters.release key, s.live.erase key⟩ else none

/-- The entry of a key says how many guards it has; a key without one has no entry. -/
def Guarded.Exact (s : Guarded K) : Prop :=
  ∀ k, s.counters.inflight k = if s.live.count k = 0 then none else some (s.live.count k)

lemma Guarded.Exact.count {s : Guarded K} (h : s.Exact) (k : K) :
    s.counters.count k = s.live.count k := by
  unfold ConcurrencyCounters.count
  rw [h k]
  split_ifs with hk
  · exact hk.symm
  · rfl

lemma Guarded.Exact.step {s s' : Guarded K} {op : GuardOp K} (h : s.Exact)
    (hstep : s.step op = some s') : s'.Exact := by
  intro k
  cases op with
  | tryEnter key max =>
    have hcur : (s.counters.inflight key).getD 0 = s.live.count key := h.count key
    simp only [Guarded.step, ConcurrencyCounters.tryEnter, hcur] at hstep
    by_cases hfull : 0 < max ∧ max ≤ s.live.count key
    · -- the limit is positive, so the entry that `or_insert` finds was there
      obtain rfl := by simpa [hfull] using hstep
      by_cases hk : k = key
      · subst hk
        have hpos : s.live.count k ≠ 0 := by omega
        simp [hpos]
      · simpa [hk] using h k
    · obtain rfl := by simpa [hfull] using hstep
      by_cases hk : k = key
      · subst hk
        simp
      · simpa [hk, List.count_cons_of_ne (Ne.symm hk)] using h k
  | drop key =>
    simp only [Guarded.step] at hstep
    split_ifs at hstep with hlive
    obtain rfl := Option.some.inj hstep
    have hpos : s.live.count key ≠ 0 := (List.count_pos_iff.mpr hlive).ne'
    have hentry : s.counters.inflight key = some (s.live.count key) := by rw [h key, if_neg hpos]
    simp only [release, hentry]
    by_cases hk : k = key
    · subst hk
      rw [List.count_erase_self]
      split_ifs <;> simp
    · rw [List.count_erase_of_ne hk, ← h k]
      split_ifs <;> simp [hk]

/-- Whatever is entered and dropped, and in whichever order. -/
theorem counters_exact (ops : List (GuardOp K)) {s : Guarded K}
    (hrun : exec Guarded.step {} ops = some s) :
    s.Exact ∧ ∀ key max, 0 < max →
      ((s.counters.tryEnter key max).1 = true ↔ s.live.count key < max) := by
  have h : s.Exact := inv_of_exec_all (fun h hstep => h.step hstep) (fun _ => rfl) hrun
  refine ⟨h, ?_⟩
  intro key max hmax
  rcases s.counters.tryEnter_cases key max with ⟨c, henter, hroom, -⟩ | ⟨c, henter, -, hfull, -⟩
  · rw [henter, ← h.count key]
    exact iff_of_true rfl (hroom.resolve_left hmax.ne')
  · rw [henter, ← h.count key]
    exact iff_of_false Bool.false_ne_true hfull.not_gt

/-- Two guards of one key under a limit of two: the third is refused, and is let in once the first
has gone. -/
theorem counters_exact_two : ∃ s : Guarded String,
    exec Guarded.step {} [.tryEnter "c:1" 2, .tryEnter "c:1" 2, .tryEnter "c:1" 2, .drop "c:1"] =
      some s ∧
    s.counters.inflight "c:1" = some 1 ∧ (s.counters.tryEnter "c:1" 2).1 = true := by
  refine ⟨_, rfl, ?_⟩
  have h := counters_exact (K := String)
    [.tryEnter "c:1" 2, .tryEnter "c:1" 2, .tryEnter "c:1" 2, .drop "c:1"] rfl
  exact ⟨h.1 "c:1", (h.2 "c:1" 2 (by decide)).mpr (by decide)⟩

end ConcurrencyCounters

/-! ## The middleware -/

/-- The keys `"t:{tenant}"` and `"c:{cell}"` of the counters. -/
inductive CounterKey where
  | tenant (t : TenantId)
  | cell (c : DatabaseId)
  deriving DecidableEq, Repr

structure ConcurrencyQuota where
  maxPerTenantConcurrency : Nat
  maxPerCellConcurrency : Nat

def ConcurrencyQuota.limit (q : ConcurrencyQuota) : CounterKey → Nat
  | .tenant _ => q.maxPerTenantConcurrency
  | .cell _ => q.maxPerCellConcurrency

def Request.IsFor (r : Request) : CounterKey → Prop
  | .tenant t => r.tenant = t
  | .cell c => r.cell = some c

instance (r : Request) (k : CounterKey) : Decidable (r.IsFor k) := by
  cases k <;> exact inferInstanceAs (Decidable (_ = _))

inductive Outcome where
  | answered
  | tooManyRequests
  | cancelled
  deriving DecidableEq, Repr

/-- Where a request is; it holds the guard of its tenant until `releasing`, and that of its Cell
from `guarded` on. -/
inductive QuotaPc where
  | arrived
  | entered
  | refused
  | guarded (cellGuard : Option DatabaseId)
  | releasing (cellGuard : Option DatabaseId)
  | inside
  | done (outcome : Outcome)
  deriving DecidableEq, Repr

abbrev Counters := ConcurrencyCounters CounterKey

/-- One section of `concurrency_quota` under the lock of the counters, or the end of the inner
handler, where alone the request can be cancelled. -/
def quotaAct (q : ConcurrencyQuota) (c : Counters) (r : Request) (pc : QuotaPc) (cancel : Bool) :
    Option (Counters × QuotaPc) :=
  match pc with
  | .arrived =>
    match c.tryEnter (.tenant r.tenant) q.maxPerTenantConcurrency with
    | (true, c') => some (c', .entered)
    | (false, c') => some (c', .done .tooManyRequests)
  | .entered =>
    match r.cell with
    | some cell =>
      if 0 < q.maxPerCellConcurrency then
        match c.tryEnter (.cell cell) q.maxPerCellConcurrency with
        | (true, c') => some (c', .guarded (some cell))
        | (false, c') => some (c', .refused)
      else some (c, .guarded none)
    | none => some (c, .guarded none)
  | .refused => some (c.release (.tenant r.tenant), .done .tooManyRequests)
  -- `let _ = (tenant_guard, cell_guard)` drops the fields of the tuple in their order
  | .guarded cellGuard => some (c.release (.tenant r.tenant), .releasing cellGuard)
  | .releasing (some cell) => some (c.release (.cell cell), .inside)
  | .releasing none => some (c, .inside)
  | .inside => some (c, .done (if cancel then .cancelled else .answered))
  | .done _ => none

def quotaStep {ι : Type} [DecidableEq ι] (q : ConcurrencyQuota) (req : ι → Request) :
    Pool Counters ι QuotaPc → PoolLabel ι Bool Empty → Option (Pool Counters ι QuotaPc) :=
  Pool.step (fun c i pc cancel => quotaAct q c (req i) pc cancel) (fun _ e => e.elim)
    (fun _ pc => pc)

/-! ## Guards -/

section Guards

variable {q : ConcurrencyQuota} {c c' : Counters} {r : Request} {pc pc' : QuotaPc} {cancel : Bool}
variable {k : CounterKey}

def guards (r : Request) (k : CounterKey) : QuotaPc → Nat
  | .entered => if k = .tenant r.tenant then 1 else 0
  | .refused => if k = .tenant r.tenant then 1 else 0
  | .guarded cellGuard =>
    (if k = .tenant r.tenant then 1 else 0) + if cellGuard.map .cell = some k then 1 else 0
  | .releasing cellGuard => if cellGuard.map .cell = some k then 1 else 0
  | _ => 0

def inHandler (r : Request) (k : CounterKey) (pc : QuotaPc) : Nat :=
  if pc = .inside ∧ r.IsFor k then 1 else 0

/-- The count of a key changes by the change in the request's guards; one is gained only where there
is room. -/
lemma quotaAct_guards (h : quotaAct q c r pc cancel = some (c', pc'))
    (hheld : guards r k pc ≤ c.count k) :
    c'.count k + guards r k pc = c.count k + guards r k pc' ∧
      (c'.count k ≤ c.count k ∨ q.limit k = 0 ∨ c'.count k ≤ q.limit k) := by
  cases pc with
  | arrived =>
    rcases c.tryEnter_cases (.tenant r.tenant) q.maxPerTenantConcurrency with
      ⟨c1, henter, hroom, hcount⟩ | ⟨c1, henter, -, -, hcount⟩
    · simp only [quotaAct, henter] at h
      cases h
      by_cases hk : k = .tenant r.tenant
      · subst hk
        have hone := hcount (.tenant r.tenant)
        rw [if_pos rfl] at hone
        simp only [guards, if_true, ConcurrencyQuota.limit]
        omega
      · simp [guards, hcount, hk]
    · simp only [quotaAct, henter] at h
      cases h
      simp [guards, hcount k]
  | entered =>
    cases hcell : r.cell with
    | none =>
      simp only [quotaAct, hcell] at h
      cases h
      simp [guards]
    | some cell =>
      by_cases hmax : 0 < q.maxPerCellConcurrency
      · rcases c.tryEnter_cases (.cell cell) q.maxPerCellConcurrency with
          ⟨c1, henter, hroom, hcount⟩ | ⟨c1, henter, -, -, hcount⟩
        · simp only [quotaAct, hcell, hmax, if_true, henter] at h
          cases h
          by_cases hk : k = .cell cell
          · subst hk
            simp only [guards, hcount, if_true, ConcurrencyQuota.limit, Option.map_some]
            omega
          · simp [guards, hcount, hk, Ne.symm hk]
        · simp only [quotaAct, hcell, hmax, if_true, henter] at h
          cases h
          simp [guards, hcount]
      · simp only [quotaAct, hcell, hmax, if_false] at h
        cases h
        simp [guards]
  | refused | guarded =>
    cases h
    simp only [guards, ConcurrencyCounters.count_release] at hheld ⊢
    omega
  | releasing cellGuard =>
    cases cellGuard with
    | none =>
      cases h
      simp [guards]
    | some cell =>
      cases h
      simp only [guards, ConcurrencyCounters.count_release, Option.map_some,
        Option.some.injEq, eq_comm] at hheld ⊢
      omega
  | inside =>
    cases h
    simp [guards]
  | done outcome => cases h

/-- With counters at zero, the request gets to the inner handler, and leaves them at zero. -/
lemma quotaAct_alone (q : ConcurrencyQuota) (r : Request) (hzero : ∀ k, c.count k = 0) :
    ∃ c', exec (fun (x : Counters × QuotaPc) cancel => quotaAct q x.1 r x.2 cancel) (c, .arrived)
        (List.replicate 4 false) = some (c', .inside) ∧ ∀ k, c'.count k = 0 := by
  rcases c.tryEnter_cases (.tenant r.tenant) q.maxPerTenantConcurrency with
    ⟨c1, henter, -, hcount⟩ | ⟨c1, -, hpos, hfull, -⟩
  · have harrived : quotaAct q c r .arrived false = some (c1, .entered) := by
      simp [quotaAct, henter]
    have hone : ∀ k, c1.count k = if k = .tenant r.tenant then 1 else 0 := by
      intro k
      rw [hcount, hzero, zero_add]
    by_cases hcell : ∃ cell, r.cell = some cell ∧ 0 < q.maxPerCellConcurrency
    · rcases hcell with ⟨cell, hcell, hmax⟩
      rcases c1.tryEnter_cases (.cell cell) q.maxPerCellConcurrency with
        ⟨c2, henter2, -, hcount2⟩ | ⟨c2, -, -, hfull, -⟩
      · have hentered : quotaAct q c1 r .entered false = some (c2, .guarded (some cell)) := by
          simp [quotaAct, hcell, hmax, henter2]
        refine ⟨(c2.release (.tenant r.tenant)).release (.cell cell), ?_, fun k => ?_⟩
        · refine exec_cons harrived (exec_cons hentered ?_)
          rfl
        · rw [ConcurrencyCounters.count_release, ConcurrencyCounters.count_release, hcount2, hone]
          omega
      · rw [hone, if_neg (by simp)] at hfull
        omega
    · have hentered : quotaAct q c1 r .entered false = some (c1, .guarded none) := by
        cases hpath : r.cell with
        | none => simp [quotaAct, hpath]
        | some cell =>
          have hmax : ¬ 0 < q.maxPerCellConcurrency := fun h => hcell ⟨cell, hpath, h⟩
          simp [quotaAct, hpath, hmax]
      refine ⟨c1.release (.tenant r.tenant), ?_, fun k => ?_⟩
      · refine exec_cons harrived (exec_cons hentered ?_)
        rfl
      · rw [ConcurrencyCounters.count_release, hone]
        omega
  · rw [hzero] at hfull
    omega

end Guards

/-! ## Runs -/

section Runs

variable {ι : Type} [Fintype ι] [DecidableEq ι] {q : ConcurrencyQuota} {req : ι → Request}
variable {s s' : Pool Counters ι QuotaPc} {k : CounterKey}

def held (req : ι → Request) (k : CounterKey) (s : Pool Counters ι QuotaPc) : Nat :=
  ∑ i, guards (req i) k (s.procs i)

def inFlight (req : ι → Request) (k : CounterKey) (s : Pool Counters ι QuotaPc) : Nat :=
  ∑ i, inHandler (req i) k (s.procs i)

structure Counted (q : ConcurrencyQuota) (req : ι → Request) (s : Pool Counters ι QuotaPc) :
    Prop where
  exact : ∀ k, s.shared.count k = held req k s
  within : ∀ k, 0 < q.limit k → s.shared.count k ≤ q.limit k

omit [DecidableEq ι] in
lemma guards_le_held (i : ι) : guards (req i) k (s.procs i) ≤ held req k s :=
  Finset.single_le_sum (f := fun i => guards (req i) k (s.procs i)) (fun _ _ => Nat.zero_le _)
    (Finset.mem_univ i)

lemma counted_step {l : PoolLabel ι Bool Empty} (hs : Counted q req s)
    (h : quotaStep q req s l = some s') : Counted q req s' := by
  cases h using Pool.step_cases with
  | env e => exact e.elim
  | proc i c g pc hact =>
    have hguards : ∀ k, _ := fun k => quotaAct_guards (k := k) hact
      ((hs.exact k).symm ▸ guards_le_held i)
    constructor
    · intro k
      have hsum := Pool.sum_update (fun j => guards (req j) k) s.procs i pc
      have hexact := hs.exact k
      have hown := (hguards k).1
      unfold held at hexact ⊢
      dsimp only
      omega
    · intro k hk
      have hle := hs.within k hk
      have hroom := (hguards k).2
      dsimp only
      omega

/-- The requests that count against the limit of `k`. -/
def requestsFor (req : ι → Request) (k : CounterKey) : Finset ι :=
  {i | (req i).IsFor k}

omit [DecidableEq ι] in
lemma inFlight_le (s : Pool Counters ι QuotaPc) :
    inFlight req k s ≤ (requestsFor req k).card := by
  rw [inFlight, requestsFor, Finset.card_filter]
  refine Finset.sum_le_sum fun i _ => ?_
  unfold inHandler
  split_ifs with hin hfor
  · exact le_rfl
  · exact absurd hin.2 hfor
  · exact Nat.zero_le _
  · exact le_rfl

omit [DecidableEq ι] in
lemma inFlight_eq (h : ∀ i, s.procs i = .inside) :
    inFlight req k s = (requestsFor req k).card := by
  rw [inFlight, requestsFor, Finset.card_filter]
  exact Finset.sum_congr rfl fun i _ => by simp [inHandler, h i]

/-! ## One request after the other -/

omit [Fintype ι] in
/-- With counters at zero, a request alone gets to the inner handler, and leaves them at zero. -/
lemma enters_alone (q : ConcurrencyQuota) (req : ι → Request) (i : ι)
    (hi : s.procs i = .arrived) (hzero : ∀ k, s.shared.count k = 0) :
    ∃ c, exec (quotaStep q req) s ((List.replicate 4 false).map (.proc i)) =
        some ⟨c, update s.procs i .inside⟩ ∧ ∀ k, c.count k = 0 := by
  rcases quotaAct_alone q (req i) hzero with ⟨c, hrun, hc⟩
  rw [← hi] at hrun
  exact ⟨c, Pool.exec_of_act hrun, hc⟩

omit [Fintype ι] in
lemma enter_all (q : ConcurrencyQuota) (req : ι → Request) (is : List ι) (his : is.Nodup)
    (hzero : ∀ k, s.shared.count k = 0) (harrived : ∀ i ∈ is, s.procs i = .arrived) :
    ∃ ls s', exec (quotaStep q req) s ls = some s' ∧ (∀ k, s'.shared.count k = 0) ∧
      (∀ i ∈ is, s'.procs i = .inside) ∧ ∀ i ∉ is, s'.procs i = s.procs i := by
  induction is generalizing s with
  | nil => exact ⟨[], s, rfl, hzero, by simp, fun _ _ => rfl⟩
  | cons i is ih =>
    rcases enters_alone q req i (harrived i List.mem_cons_self) hzero with ⟨c, hfirst, hc⟩
    rcases List.nodup_cons.mp his with ⟨hi, hrest⟩
    have harrived' : ∀ j ∈ is, update s.procs i .inside j = .arrived := by
      intro j hj
      have hji : j ≠ i := fun heq => hi (heq ▸ hj)
      rw [update_of_ne hji]
      exact harrived j (List.mem_cons_of_mem _ hj)
    rcases ih hrest (s := ⟨c, update s.procs i .inside⟩) hc harrived' with
      ⟨ls, s', hls, hs', hin, hout⟩
    refine ⟨_, s', exec_append_eq_some.mpr ⟨_, hfirst, hls⟩, hs', ?_, ?_⟩
    · exact List.forall_mem_cons.mpr ⟨(hout i hi).trans (update_self _ _ _), hin⟩
    · intro j hj
      rcases not_or.mp (fun h => hj (List.mem_cons.mpr h)) with ⟨hji, hj⟩
      exact (hout j hj).trans (update_of_ne hji _ _)

/-- The count of each key is the number of its guards, within its limit. The requests in the inner
handler keep to the limit in every interleaving exactly if there are no more requests of the key:
the guards hold none of them back. -/
theorem concurrency_quota_iff (q : ConcurrencyQuota) (req : ι → Request) (k : CounterKey)
    (s₀ : Pool Counters ι QuotaPc) (hk : 0 < q.limit k) (hstart : ∀ i, s₀.procs i = .arrived)
    (hzero : ∀ k, s₀.shared.count k = 0) :
    (∀ ls s, exec (quotaStep q req) s₀ ls = some s →
      s.shared.count k = held req k s ∧ s.shared.count k ≤ q.limit k) ∧
    ((∀ ls s, exec (quotaStep q req) s₀ ls = some s → inFlight req k s ≤ q.limit k) ↔
      (requestsFor req k).card ≤ q.limit k) := by
  refine ⟨fun ls s hs => ?_, fun hall => ?_, fun hfew ls s _ => (inFlight_le s).trans hfew⟩
  · have hcounted : Counted q req s₀ := by
      refine ⟨fun k => ?_, fun k _ => ?_⟩
      · rw [hzero, held, Finset.sum_eq_zero fun i _ => by simp [hstart i, guards]]
      · rw [hzero]
        exact Nat.zero_le _
    have hend := inv_of_exec_all counted_step hcounted hs
    exact ⟨hend.exact k, hend.within k hk⟩
  · -- one after the other, all of them get to the inner handler
    rcases enter_all q req Finset.univ.toList (Finset.nodup_toList _) hzero
      (fun i _ => hstart i) with ⟨ls, s, hrun, -, hin, -⟩
    have hinside : ∀ i, s.procs i = .inside := fun i => hin i (by simp)
    rw [← inFlight_eq hinside]
    exact hall ls s hrun

end Runs

def twoRequests (_ : Fin 2) : Request :=
  ⟨some ⟨⟨5⟩, false⟩, "/v1/databases/00000000-0000-0000-0000-00000000001a/sql"⟩

def idle : Pool Counters (Fin 2) QuotaPc :=
  ⟨⟨fun _ => none⟩, fun _ => .arrived⟩

/-- With limits of two requests, two requests are within them. -/
theorem concurrency_quota_iff_two :
    (requestsFor twoRequests (.tenant ⟨5⟩)).card = 2 ∧
      ∀ ls s, exec (quotaStep ⟨2, 2⟩ twoRequests) idle ls = some s →
        inFlight twoRequests (.tenant ⟨5⟩) s ≤ 2 := by
  refine ⟨by decide, ?_⟩
  exact (concurrency_quota_iff ⟨2, 2⟩ twoRequests (.tenant ⟨5⟩) idle (by decide) (fun _ => rfl)
    fun _ => rfl).2.mpr (by decide)

/-- With limits of one request, both are in the inner handler at the same time. -/
theorem concurrency_quota_exceeded :
    ∃ s, exec (quotaStep ⟨1, 1⟩ twoRequests) idle
        (List.replicate 4 (.proc 0 false) ++ List.replicate 4 (.proc 1 false)) = some s ∧
      inFlight twoRequests (.tenant ⟨5⟩) s = 2 ∧ inFlight twoRequests (.cell ⟨26⟩) s = 2 :=
  ⟨_, rfl, by decide, by decide⟩

end Combee.ApiServer
