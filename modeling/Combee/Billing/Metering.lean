import Combee.Billing.Usage
import Combee.Foundation.Counting

/-!
# Metering — the usage meter of the API server

`record` adds to counters in memory. `flush_once` takes all counters away, writes them to the
metadata store one by one, and puts back what the store refuses. Flushes can overlap with each
other and with `record`, so what has been recorded is at every moment spread over the store, the
counters and the flushes that are under way.

The three places together hold what has been recorded, for every key and in all states of a run,
exactly if no addition of the run overflows (`metering_conserves_iff`). The PostgreSQL table keeps
usage without a Cell under the nil UUID, so there a key of that Cell and the key without a Cell are
counted together.
-/

namespace Combee.Billing

open Foundation Journal List
open Function (update)

/-! ## Counters -/

def usageOf (usage : List UsageBucket) (key : UsageKey) : Int :=
  total UsageBucket.toUsageKey (fun b => (b.value : Int)) usage key

/-- A `HashMap` has one entry for each key. -/
def OneEach (usage : List UsageBucket) : Prop :=
  (usage.map UsageBucket.toUsageKey).Nodup

/-- Adding `delta` to the entry of `key`, if there is one, does not wrap around. -/
def CounterFits (usage : List UsageBucket) (key : UsageKey) (delta : Nat) : Prop :=
  ∀ b ∈ usage, b.toUsageKey = key → b.value + delta < 2 ^ 64

/-- The usage of all keys that are in one row of the store with `key`. -/
def rowUsage (row : UsageKey → UsageKey) (usage : List UsageBucket) (key : UsageKey) : Int :=
  total (fun b => row b.toUsageKey) (fun b => (b.value : Int)) usage (row key)

section Counters

variable {usage : List UsageBucket} {b : UsageBucket} {key : UsageKey} {delta : Nat}
  {row : UsageKey → UsageKey}

@[simp] lemma rowUsage_nil : rowUsage row [] key = 0 := rfl

@[simp] lemma rowUsage_cons : rowUsage row (b :: usage) key =
    (if row key = row b.toUsageKey then (b.value : Int) else 0) + rowUsage row usage key := by
  simp only [rowUsage, total_cons, eq_comm]

@[simp] lemma rowUsage_append {usage' : List UsageBucket} :
    rowUsage row (usage ++ usage') key = rowUsage row usage key + rowUsage row usage' key :=
  total_append

variable (h : OneEach usage)
include h

/-- The one entry of the key is changed in its place, or there is none and one is appended. -/
lemma usageAdd_cases (key : UsageKey) (delta : Nat) :
    (∃ b before after, b.toUsageKey = key ∧ usage = before ++ b :: after ∧
      usageAdd usage key delta =
        before ++ { b with value := (b.value + delta) % 2 ^ 64 } :: after) ∨
    (∀ b ∈ usage, b.toUsageKey ≠ key) ∧
      usageAdd usage key delta = usage ++ [{ key with value := delta }] := by
  by_cases hkey : ∃ b ∈ usage, b.toUsageKey = key
  · rcases hkey with ⟨b, hb, rfl⟩
    rcases append_of_mem hb with ⟨before, after, rfl⟩
    refine .inl ⟨b, before, after, rfl, rfl, ?_⟩
    have hother : ∀ c ∈ before ++ after, c.toUsageKey ≠ b.toUsageKey := by
      rw [OneEach, map_append, map_cons, nodup_middle, ← map_append,
        nodup_cons] at h
      exact fun c hc heq => h.1 (heq ▸ mem_map_of_mem hc)
    have hkept : ∀ l ⊆ before ++ after, (l.map fun c => if c.toUsageKey = b.toUsageKey then
        { c with value := (c.value + delta) % 2 ^ 64 } else c) = l := fun l hl =>
      (map_congr_left fun c hc => if_neg (hother c (hl hc))).trans (map_id' l)
    rw [usageAdd, if_pos (any_eq_true.mpr ⟨b, hb, by simp⟩), map_append, map_cons,
      hkept before (subset_append_left ..), hkept after (subset_append_right ..),
      if_pos rfl]
  · have hnone : ∀ b ∈ usage, b.toUsageKey ≠ key := fun b hb heq => hkey ⟨b, hb, heq⟩
    exact .inr ⟨hnone, if_neg (by simpa using hnone)⟩

lemma OneEach.usageAdd : OneEach (usageAdd usage key delta) := by
  rcases usageAdd_cases h key delta with ⟨b, before, after, -, rfl, hadd⟩ | ⟨hnone, hadd⟩
  · rw [hadd]
    simpa [OneEach] using h
  · rw [hadd, OneEach, map_append]
    exact nodup_append.mpr ⟨h, by simp, by simpa using hnone⟩

/-- What an addition adds is the delta exactly if the counter does not wrap around. -/
lemma rowUsage_usageAdd (key : UsageKey) (delta : Nat) :
    ∃ added : Int, (added = delta ↔ CounterFits usage key delta) ∧ (delta = 1 → added ≠ 0) ∧
      ∀ row k, rowUsage row (usageAdd usage key delta) k =
        rowUsage row usage k + if row k = row key then added else 0 := by
  rcases usageAdd_cases h key delta with ⟨b, before, after, rfl, husage, hadd⟩ | ⟨hnone, hadd⟩
  · have hb : b ∈ usage := by simp [husage]
    refine ⟨((b.value + delta) % 2 ^ 64 : Nat) - b.value,
      ⟨fun heq c hc hkey => ?_, fun hfits => ?_⟩, fun hone => by omega, fun row k => ?_⟩
    · obtain rfl : c = b := inj_on_of_nodup_map h hc hb hkey
      omega
    · have := hfits b hb rfl
      omega
    · rw [hadd, husage]
      simp only [rowUsage_append, rowUsage_cons]
      split_ifs <;> omega
  · refine ⟨delta, ⟨fun _ b hb heq => absurd heq (hnone b hb), fun _ => rfl⟩, by omega,
      fun row k => ?_⟩
    rw [hadd]
    simp

/-- One more is never the same, also where the counter wraps around. -/
lemma usageOf_usageAdd_one_ne :
    usageOf (usageAdd usage key 1) key ≠ usageOf usage key := by
  rcases rowUsage_usageAdd h key 1 with ⟨added, -, hone, hadd⟩
  have hself : usageOf (usageAdd usage key 1) key = usageOf usage key + added :=
    (hadd id key).trans (by rw [if_pos rfl]; rfl)
  have := hone rfl
  omega

/-- An addition is seen as it should be exactly if it does not wrap around. -/
lemma usageAdd_exact_iff (key : UsageKey) (delta : Nat)
    (row : UsageKey → UsageKey) :
    (∀ k, rowUsage row (usageAdd usage key delta) k =
      rowUsage row usage k + if row k = row key then (delta : Int) else 0) ↔
      CounterFits usage key delta := by
  rcases rowUsage_usageAdd h key delta with ⟨added, hfits, -, hadd⟩
  rw [← hfits]
  constructor
  · intro hall
    have hself := hall key
    rw [hadd, if_pos rfl, if_pos rfl] at hself
    exact add_left_cancel hself
  · rintro rfl k
    exact hadd row k

end Counters

/-! ## The two stores -/

/-- What the meter needs of a metadata store: `usage_add`, the row of a key, and the additions that
the rows show as they should. -/
class UsageStore (σ : Type) where
  empty : σ
  usageAdd : σ → UsageKey → Nat → Option σ
  row : UsageKey → UsageKey
  stored : σ → UsageKey → Int
  Sound : σ → Prop
  Fits : σ → UsageKey → Nat → Prop
  sound_empty : Sound empty
  stored_empty (key : UsageKey) : stored empty key = 0
  sound_usageAdd {s s' : σ} {key : UsageKey} {delta : Nat} :
    Sound s → usageAdd s key delta = some s' → Sound s'
  usageAdd_exact {s s' : σ} {key : UsageKey} {delta : Nat} :
    Sound s → usageAdd s key delta = some s' →
      ((∀ k, stored s' k = stored s k + if row k = row key then (delta : Int) else 0) ↔
        Fits s key delta)

/-- The in-memory store adds under its lock and never refuses. -/
instance : UsageStore (List UsageBucket) where
  empty := []
  usageAdd usage key delta := some (usageAdd usage key delta)
  row := id
  stored := usageOf
  Sound := OneEach
  Fits := CounterFits
  sound_empty := nodup_nil
  stored_empty _ := rfl
  sound_usageAdd := by
    intro s s' key delta hs h
    cases h
    exact hs.usageAdd
  usageAdd_exact := by
    intro s s' key delta hs h
    cases h
    exact usageAdd_exact_iff hs key delta id

/-- The rows of `usage_buckets`, by primary key; the column `cell_id` is not null. -/
structure UsageTable where
  value : UsageKey → Option Int

namespace UsageTable

def nil : DatabaseId := ⟨0⟩

def rowOf (key : UsageKey) : UsageKey :=
  { key with cellId := some (key.cellId.getD nil) }

def stored (table : UsageTable) (key : UsageKey) : Int :=
  (table.value (rowOf key)).getD 0

/-- `INSERT … ON CONFLICT … DO UPDATE …`, with the delta cast to `i64`; the sum must be a `BIGINT`.
-/
def usageAdd (table : UsageTable) (key : UsageKey) (delta : Nat) : Option UsageTable :=
  let excluded := wrapI64 delta
  match table.value (rowOf key) with
  | none => some ⟨update table.value (rowOf key) (some excluded)⟩
  | some value =>
    if -(2 ^ 63) ≤ value + excluded ∧ value + excluded < 2 ^ 63 then
      some ⟨update table.value (rowOf key) (some (value + excluded))⟩
    else none

/-- The cast to `i64` keeps the delta. -/
def Fits (delta : Nat) : Prop :=
  delta < 2 ^ 63

variable {table table' : UsageTable} {key key' : UsageKey} {delta : Nat}

lemma usageAdd_eq (h : table.usageAdd key delta = some table') :
    table'.value = update table.value (rowOf key)
      (some (table.stored key + wrapI64 delta)) := by
  unfold usageAdd at h
  cases hrow : table.value (rowOf key) with
  | none =>
    rw [hrow] at h
    rw [← Option.some.inj h, stored, hrow, Option.getD_none, zero_add]
  | some value =>
    rw [hrow] at h
    have hfits := (Option.ite_none_right_eq_some.mp h).2
    rw [← Option.some.inj hfits, stored, hrow, Option.getD_some]

lemma stored_usageAdd (h : table.usageAdd key delta = some table') :
    table'.stored key' =
      table.stored key' + if rowOf key' = rowOf key then wrapI64 delta else 0 := by
  rw [stored, usageAdd_eq h]
  by_cases hrow : rowOf key' = rowOf key
  · simp [stored, hrow]
  · simp [stored, hrow]

lemma wrapI64_eq_self_iff : wrapI64 delta = delta ↔ delta < 2 ^ 63 := by
  constructor
  · intro h
    have hlt : wrapI64 delta < 2 ^ 63 := by
      have := Int.bmod_lt (x := delta) (m := 2 ^ 64) (by decide)
      unfold wrapI64
      omega
    omega
  · intro h
    exact wrapI64_of_bounds (by omega) (by omega)

lemma usageAdd_exact (h : table.usageAdd key delta = some table') :
    (∀ k, table'.stored k =
      table.stored k + if rowOf k = rowOf key then (delta : Int) else 0) ↔ Fits delta := by
  rw [Fits, ← wrapI64_eq_self_iff]
  constructor
  · intro hall
    have hself := hall key
    rw [stored_usageAdd h, if_pos rfl, if_pos rfl] at hself
    exact add_left_cancel hself
  · intro hcast k
    rw [stored_usageAdd h, hcast]

end UsageTable

instance : UsageStore UsageTable where
  empty := ⟨fun _ => none⟩
  usageAdd := UsageTable.usageAdd
  row := UsageTable.rowOf
  stored := UsageTable.stored
  Sound _ := True
  Fits _ _ := UsageTable.Fits
  sound_empty := trivial
  stored_empty _ := rfl
  sound_usageAdd _ _ := trivial
  usageAdd_exact _ h := UsageTable.usageAdd_exact h

/-! ## The meter -/

/-- A call of `record`, with the clock that it reads. -/
structure RecordCall where
  tenant : TenantId
  cell : Option DatabaseId
  metric : UsageMetric
  delta : UInt64
  now : Int

def RecordCall.key (call : RecordCall) : UsageKey :=
  ⟨call.tenant, call.cell, call.metric, Billing.bucketStart call.now⟩

/-- `record`, under the lock of the counters. -/
def record (counters : List UsageBucket) (call : RecordCall) : List UsageBucket :=
  if call.delta = 0 then counters else usageAdd counters call.key call.delta.toNat

/-- The counters and the metadata store; `recorded` lists the calls of `record` and is read by no
one. -/
structure UsageMeter (σ : Type) where
  counters : List UsageBucket
  metadata : σ
  recorded : List UsageBucket

/-- Where a call of `flush_once` is: `adding` calls `usage_add` next; `returning` has an entry to
put back. -/
inductive FlushPc where
  | idle
  | adding (batch : List UsageBucket) (flushed : Nat)
  | returning (entry : UsageBucket) (batch : List UsageBucket) (flushed : Nat)
  | done (flushed : Nat)

/-- The order in which the map is drained, and whether the call of the store fails without effect.
-/
structure FlushChoice where
  order : List UsageBucket := []
  fails : Bool := false

namespace UsageMeter

section Model

variable {σ : Type} [UsageStore σ]

/-- The map is drained under the lock. -/
def drain (meter : UsageMeter σ) (c : FlushChoice) : Option (UsageMeter σ × FlushPc) :=
  if meter.counters = [] then some (meter, .done 0)
  else if c.order.Perm meter.counters then some ({ meter with counters := [] }, .adding c.order 0)
  else none

/-- One step of `flush_once`; a caller can begin again when it has returned. -/
def flushOnce (meter : UsageMeter σ) (pc : FlushPc) (c : FlushChoice) :
    Option (UsageMeter σ × FlushPc) :=
  match pc with
  | .idle => meter.drain c
  | .done _ => meter.drain c
  | .adding [] flushed => some (meter, .done flushed)
  | .adding (entry :: batch) flushed =>
    if c.fails then some (meter, .returning entry batch flushed)
    else
      match UsageStore.usageAdd meter.metadata entry.toUsageKey entry.value with
      | some metadata => some ({ meter with metadata }, .adding batch (flushed + 1))
      | none => some (meter, .returning entry batch flushed)
  | .returning entry batch flushed =>
    some ({ meter with counters := usageAdd meter.counters entry.toUsageKey entry.value },
      .adding batch flushed)

def call (meter : UsageMeter σ) (call : RecordCall) : Option (UsageMeter σ) :=
  some { meter with
    counters := record meter.counters call
    recorded := meter.recorded ++ [{ call.key with value := call.delta.toNat }] }

/-- Any number of flushes, with calls of `record` between their steps. -/
def step {ι : Type} [DecidableEq ι] : Pool (UsageMeter σ) ι FlushPc →
    PoolLabel ι FlushChoice RecordCall → Option (Pool (UsageMeter σ) ι FlushPc) :=
  Pool.step (fun meter _ pc c => meter.flushOnce pc c) call (fun _ pc => pc)

def start (ι : Type) : Pool (UsageMeter σ) ι FlushPc :=
  ⟨⟨[], UsageStore.empty, []⟩, fun _ => .idle⟩

end Model

end UsageMeter

/-- The entries that a flush has taken and not written. -/
def FlushPc.held : FlushPc → List UsageBucket
  | .adding batch _ => batch
  | .returning entry batch _ => entry :: batch
  | _ => []

namespace UsageMeter

variable {σ ι : Type} [UsageStore σ] [Fintype ι] [DecidableEq ι]

/-- What has been recorded is in the store, in the counters or with a flush. -/
def Conserved (s : Pool (UsageMeter σ) ι FlushPc) : Prop :=
  ∀ key, rowUsage (UsageStore.row σ) s.shared.recorded key =
    UsageStore.stored s.shared.metadata key +
      rowUsage (UsageStore.row σ) s.shared.counters key +
      ∑ i, rowUsage (UsageStore.row σ) (s.procs i).held key

def AdditionFits (s : Pool (UsageMeter σ) ι FlushPc) : PoolLabel ι FlushChoice RecordCall → Prop
  | .env call => call.delta ≠ 0 → CounterFits s.shared.counters call.key call.delta.toNat
  | .proc i c =>
    match s.procs i with
    | .adding (entry :: _) _ => c.fails = false →
        UsageStore.usageAdd s.shared.metadata entry.toUsageKey entry.value ≠ none →
        UsageStore.Fits s.shared.metadata entry.toUsageKey entry.value
    | .returning entry _ _ => CounterFits s.shared.counters entry.toUsageKey entry.value
    | _ => True

def Tidy (s : Pool (UsageMeter σ) ι FlushPc) : Prop :=
  OneEach s.shared.counters ∧ UsageStore.Sound s.shared.metadata

variable {s s' : Pool (UsageMeter σ) ι FlushPc} {meter : UsageMeter σ} {pc : FlushPc} {i : ι}

/-- A step of a flush conserves exactly if what it moves leaves one place and reaches another. -/
lemma Conserved.update_iff (meter : UsageMeter σ) (i : ι) (pc : FlushPc) (hs : Conserved s)
    (hrec : meter.recorded = s.shared.recorded) :
    Conserved (⟨meter, update s.procs i pc⟩ : Pool (UsageMeter σ) ι FlushPc) ↔
      ∀ key, UsageStore.stored meter.metadata key +
          rowUsage (UsageStore.row σ) meter.counters key +
          rowUsage (UsageStore.row σ) pc.held key =
        UsageStore.stored s.shared.metadata key +
          rowUsage (UsageStore.row σ) s.shared.counters key +
          rowUsage (UsageStore.row σ) (s.procs i).held key := by
  refine forall_congr' fun key => ?_
  have hbefore := hs key
  have hsum := Pool.sum_update
    (fun _ pc => rowUsage (UsageStore.row σ) (FlushPc.held pc) key) s.procs i pc
  simp only [hrec]
  constructor
  · intro hafter
    linarith
  · intro hmove
    linarith

lemma drain_conserves {c : FlushChoice} {m' : UsageMeter σ} (hs : Conserved s) (ht : Tidy s)
    (hheld : (s.procs i).held = []) (h : s.shared.drain c = some (m', pc)) :
    Tidy (⟨m', update s.procs i pc⟩ : Pool (UsageMeter σ) ι FlushPc) ∧
      Conserved (⟨m', update s.procs i pc⟩ : Pool (UsageMeter σ) ι FlushPc) := by
  unfold drain at h
  split_ifs at h with hempty hperm
  · cases h
    refine ⟨ht, (hs.update_iff _ i _ rfl).mpr fun key => ?_⟩
    rw [hheld]
    rfl
  · cases h
    refine ⟨⟨nodup_nil, ht.2⟩,
      (hs.update_iff { s.shared with counters := [] } i _ rfl).mpr fun key => ?_⟩
    -- the batch is what the counters were
    have hbatch : rowUsage (UsageStore.row σ) c.order key =
        rowUsage (UsageStore.row σ) s.shared.counters key := total_perm hperm
    rw [hheld]
    simp [FlushPc.held, hbatch]

variable {entry : UsageBucket} {batch : List UsageBucket} {flushed flushed' : Nat}

lemma Conserved.written_iff {metadata : σ} (hs : Conserved s) (ht : Tidy s)
    (hpc : s.procs i = .adding (entry :: batch) flushed)
    (h : UsageStore.usageAdd s.shared.metadata entry.toUsageKey entry.value = some metadata) :
    Conserved (⟨{ s.shared with metadata }, update s.procs i (.adding batch flushed')⟩ :
        Pool (UsageMeter σ) ι FlushPc) ↔
      UsageStore.Fits s.shared.metadata entry.toUsageKey entry.value := by
  rw [← UsageStore.usageAdd_exact ht.2 h, hs.update_iff { s.shared with metadata } i _ rfl]
  refine forall_congr' fun key => ?_
  simp only [hpc, FlushPc.held, rowUsage_cons]
  constructor
  · intro hmove
    linarith
  · intro hexact
    linarith

lemma Conserved.returned_iff (hs : Conserved s) (ht : Tidy s)
    (hpc : s.procs i = .returning entry batch flushed) :
    Conserved (⟨{ s.shared with
          counters := usageAdd s.shared.counters entry.toUsageKey entry.value },
        update s.procs i (.adding batch flushed)⟩ : Pool (UsageMeter σ) ι FlushPc) ↔
      CounterFits s.shared.counters entry.toUsageKey entry.value := by
  rw [← usageAdd_exact_iff ht.1 entry.toUsageKey entry.value (UsageStore.row σ), hs.update_iff
    { s.shared with counters := usageAdd s.shared.counters entry.toUsageKey entry.value } i _ rfl]
  refine forall_congr' fun key => ?_
  simp only [hpc, FlushPc.held, rowUsage_cons]
  constructor
  · intro hmove
    linarith
  · intro hexact
    linarith

omit [DecidableEq ι] in
lemma Conserved.recorded_iff {call : RecordCall} {meter : UsageMeter σ} (hs : Conserved s)
    (ht : Tidy s) (h : s.shared.call call = some meter) :
    Conserved (⟨meter, s.procs⟩ : Pool (UsageMeter σ) ι FlushPc) ↔
      (call.delta ≠ 0 → CounterFits s.shared.counters call.key call.delta.toNat) := by
  cases h
  by_cases hzero : call.delta = 0
  · -- nothing is added, and nothing has been recorded
    simp only [hzero, ne_eq, not_true_eq_false, false_implies, iff_true]
    intro key
    simpa [record, hzero] using hs key
  · have hexact := usageAdd_exact_iff ht.1 call.key call.delta.toNat (UsageStore.row σ)
    simp only [ne_eq, hzero, not_false_eq_true, forall_const]
    rw [← hexact]
    refine forall_congr' fun key => ?_
    have hbefore := hs key
    simp only [record, if_neg hzero, rowUsage_append, rowUsage_cons, rowUsage_nil, add_zero]
    constructor
    · intro hafter
      linarith
    · intro hadd
      linarith

lemma step_conserves_iff {l : PoolLabel ι FlushChoice RecordCall} (ht : Tidy s) (hs : Conserved s)
    (h : step s l = some s') : Tidy s' ∧ (Conserved s' ↔ AdditionFits s l) := by
  cases h using Pool.step_cases with
  | env call meter hcall =>
    refine ⟨?_, hs.recorded_iff ht hcall⟩
    cases hcall
    by_cases hzero : call.delta = 0
    · simpa [Tidy, record, hzero] using ht
    · simpa [Tidy, record, hzero] using And.intro ht.1.usageAdd ht.2
  | proc i c meter pc hact =>
    cases hpc : s.procs i with
    | idle | done =>
      rw [hpc] at hact
      rcases drain_conserves hs ht (i := i) (by rw [hpc]; rfl) hact with ⟨ht', hs'⟩
      exact ⟨ht', by simp [AdditionFits, hpc, hs']⟩
    | adding batch flushed =>
      rw [hpc] at hact
      cases batch with
      | nil =>
        cases hact
        have hs' := (hs.update_iff s.shared i (.done flushed) rfl).mpr fun key => by
          simp [hpc, FlushPc.held]
        exact ⟨ht, by simp [AdditionFits, hpc, hs']⟩
      | cons entry batch =>
        have hkept := (hs.update_iff s.shared i (.returning entry batch flushed) rfl).mpr
          fun key => by simp [hpc, FlushPc.held]
        simp only [flushOnce] at hact
        split_ifs at hact with hfails
        · cases hact
          exact ⟨ht, by simp [AdditionFits, hpc, hfails, hkept]⟩
        · split at hact
          · rename_i metadata hadd
            cases hact
            refine ⟨⟨ht.1, UsageStore.sound_usageAdd ht.2 hadd⟩, ?_⟩
            simp [AdditionFits, hpc, hfails, hadd, hs.written_iff ht hpc hadd]
          · rename_i hrefused
            cases hact
            exact ⟨ht, by simp [AdditionFits, hpc, hrefused, hkept]⟩
    | returning entry batch flushed =>
      rw [hpc] at hact
      cases hact
      refine ⟨⟨ht.1.usageAdd, ht.2⟩, ?_⟩
      simp only [AdditionFits, hpc]
      exact hs.returned_iff ht hpc

omit [Fintype ι] [DecidableEq ι] in
lemma tidy_start : Tidy (start ι : Pool (UsageMeter σ) ι FlushPc) :=
  ⟨nodup_nil, UsageStore.sound_empty⟩

omit [DecidableEq ι] in
lemma conserved_start : Conserved (start ι : Pool (UsageMeter σ) ι FlushPc) := by
  intro key
  simp [start, UsageStore.stored_empty, FlushPc.held]

/-- For any interleaving of `record` and overlapping flushes, whatever the store refuses. -/
lemma conserved_iff_meets (ls : List (PoolLabel ι FlushChoice RecordCall)) :
    (∀ pre s, pre <+: ls → exec step (start ι : Pool (UsageMeter σ) ι FlushPc) pre = some s →
        Conserved s) ↔
      Meets step AdditionFits (start ι : Pool (UsageMeter σ) ι FlushPc) ls :=
  always_iff_meets (fun ht hs h => step_conserves_iff ht hs h) tidy_start conserved_start

/-- What has been recorded for a key is at every moment what is stored, counted or held by a flush,
exactly if no addition overflows; with PostgreSQL the nil Cell and no Cell have one row. -/
theorem metering_conserves_iff (ls : List (PoolLabel ι FlushChoice RecordCall)) :
    ((∀ pre s, pre <+: ls →
        exec step (start ι : Pool (UsageMeter (List UsageBucket)) ι FlushPc) pre = some s →
        Conserved s) ↔
      Meets step AdditionFits (start ι : Pool (UsageMeter (List UsageBucket)) ι FlushPc) ls) ∧
    ((∀ pre s, pre <+: ls →
        exec step (start ι : Pool (UsageMeter UsageTable) ι FlushPc) pre = some s →
        Conserved s) ↔
      Meets step AdditionFits (start ι : Pool (UsageMeter UsageTable) ι FlushPc) ls) :=
  ⟨conserved_iff_meets ls, conserved_iff_meets ls⟩

/-- Half of the range of the counters, recorded in the minute `60` for no Cell. -/
def halfRange : RecordCall :=
  ⟨⟨5⟩, none, .bytesIn, 2 ^ 63, 60⟩

/-- Two such calls leave a counter of zero; on PostgreSQL a request that names the nil Cell is
stored as usage without a Cell. -/
theorem metering_loses :
    (∃ s, exec step (start Unit : Pool (UsageMeter (List UsageBucket)) Unit FlushPc)
        [.env halfRange, .env halfRange] = some s ∧
      usageOf s.shared.recorded halfRange.key = 2 ^ 64 ∧
      usageOf s.shared.counters halfRange.key = 0 ∧
      UsageStore.stored s.shared.metadata halfRange.key = 0 ∧
      (s.procs ()).held = []) ∧
    ∃ s, exec step (start Unit : Pool (UsageMeter UsageTable) Unit FlushPc)
        [.env ⟨⟨5⟩, some UsageTable.nil, .requests, 1, 60⟩,
          .proc () { order := [⟨⟨⟨5⟩, some UsageTable.nil, .requests, 60⟩, 1⟩] },
          .proc () {}, .proc () {}] = some s ∧
      usageOf s.shared.recorded ⟨⟨5⟩, none, .requests, 60⟩ = 0 ∧
      UsageStore.stored s.shared.metadata ⟨⟨5⟩, none, .requests, 60⟩ = 1 := by
  refine ⟨⟨_, rfl, ?_, ?_, rfl, rfl⟩, ⟨_, rfl, rfl, rfl⟩⟩
  · decide +kernel
  · decide +kernel

end UsageMeter

end Combee.Billing
