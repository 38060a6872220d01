import Combee.Billing.Ledger
import Mathlib

/-!
# Usage — metering buckets, prices and the references of usage entries

Usage is counted in one-minute buckets. Settlement reads the buckets of a tenant in a range, adds
them up for each metric, and prices each total by the active pricing version. The reference of the
resulting ledger entry names the tenant, the metric, the start of the range and the version, and it
can be read back (`usageReference_injective`).
-/

namespace Combee.Billing

open Foundation Journal

/-! ## Buckets -/

inductive UsageMetric where
  | kvRead
  | kvWrite
  | sqlRead
  | sqlWrite
  | requests
  | bytesIn
  | bytesOut
  | storageBytes
  | storageByteSecs
  deriving DecidableEq, Repr

namespace UsageMetric

def asStr : UsageMetric → String
  | kvRead => "kv_read"
  | kvWrite => "kv_write"
  | sqlRead => "sql_read"
  | sqlWrite => "sql_write"
  | requests => "requests"
  | bytesIn => "bytes_in"
  | bytesOut => "bytes_out"
  | storageBytes => "storage_bytes"
  | storageByteSecs => "storage_byte_secs"

def all : List UsageMetric :=
  [kvRead, kvWrite, sqlRead, sqlWrite, requests, bytesIn, bytesOut, storageBytes, storageByteSecs]

lemma mem_all (m : UsageMetric) : m ∈ all := by
  cases m <;> decide

lemma nodup_all : all.Nodup := by decide

end UsageMetric

def bucketStart (unixSecs : Int) : Int :=
  unixSecs / 60 * 60

structure UsageKey where
  tenantId : TenantId
  cellId : Option DatabaseId
  metric : UsageMetric
  bucketStart : Int
  deriving DecidableEq, Repr

structure UsageBucket extends UsageKey where
  value : Nat
  deriving DecidableEq, Repr

/-- `usage_add`: the table has one bucket for each key, whose `u64` value wraps around. -/
def usageAdd (usage : List UsageBucket) (key : UsageKey) (delta : Nat) : List UsageBucket :=
  if usage.any fun b => b.toUsageKey = key then
    usage.map fun b =>
      if b.toUsageKey = key then { b with value := (b.value + delta) % 2 ^ 64 } else b
  else usage ++ [{ key with value := delta }]

lemma filter_usageAdd {usage : List UsageBucket} {key : UsageKey} {delta : Nat}
    {q : UsageKey → Bool} (hq : q key = false) :
    (usageAdd usage key delta).filter (fun b => q b.toUsageKey) =
      usage.filter fun b => q b.toUsageKey := by
  unfold usageAdd
  split_ifs
  · rw [List.filter_map]
    have hsame : ((fun b : UsageBucket => q b.toUsageKey) ∘ fun b : UsageBucket =>
        if b.toUsageKey = key then { b with value := (b.value + delta) % 2 ^ 64 } else b) =
        fun b => q b.toUsageKey := by
      funext b
      simp only [Function.comp]
      split_ifs <;> rfl
    rw [hsame]
    -- the buckets that are left have other keys
    refine (List.map_congr_left fun b hb => ?_).trans (List.map_id _)
    have hb' : q b.toUsageKey = true := (List.mem_filter.mp hb).2
    have hne : b.toUsageKey ≠ key := by
      rintro rfl
      rw [hq] at hb'
      cases hb'
    simp [hne]
  · simp [hq]

/-- Both ends of the range belong to it; the order is left out, as the callers add the values up. -/
def queryUsage (usage : List UsageBucket) (tenant : TenantId) (cell : Option DatabaseId)
    (metric : Option UsageMetric) (fromBucket toBucket : Int) : List UsageBucket :=
  usage.filter fun b => b.tenantId = tenant &&
    (cell.map fun c => decide (b.cellId = some c)).getD true &&
    (metric.map fun m => decide (b.metric = m)).getD true &&
    decide (fromBucket ≤ b.bucketStart) && decide (b.bucketStart ≤ toBucket)

def metricTotal (buckets : List UsageBucket) (metric : UsageMetric) : Nat :=
  ((buckets.filter fun b => b.metric = metric).map (·.value)).sum

/-- The `HashMap` of totals as it is iterated over: `order` is the order of its keys. -/
def byMetric (order : List UsageMetric) (buckets : List UsageBucket) :
    List (UsageMetric × Nat) :=
  (order.filter fun m => buckets.any fun b => b.metric = m).map fun m =>
    (m, metricTotal buckets m % 2 ^ 64)

/-! ## Prices -/

/-- A pricing version; a rule is a pair of `unit_size` and `price_units`. -/
structure PricingConfig where
  version : Int
  rules : UsageMetric → Option (Int × Int)

/-- Microcredits for a number of units, rounded down. -/
def PricingConfig.rate (pricing : PricingConfig) (metric : UsageMetric) (units : Nat) : Int :=
  match pricing.rules metric with
  | none => 0
  | some (unitSize, priceUnits) =>
    if unitSize ≤ 0 ∨ priceUnits ≤ 0 ∨ units = 0 then 0
    else min (units * priceUnits / unitSize) i64Max

variable {pricing : PricingConfig} {metric : UsageMetric}

lemma PricingConfig.rate_nonneg {units : Nat} :
    0 ≤ pricing.rate metric units := by
  unfold rate
  split
  · exact le_refl 0
  · rename_i unitSize priceUnits _
    split_ifs with hzero
    · exact le_refl 0
    · have hprice : 0 ≤ priceUnits := by omega
      have hsize : 0 ≤ unitSize := by omega
      have hmicro : 0 ≤ units * priceUnits / unitSize :=
        Int.ediv_nonneg (mul_nonneg (Int.natCast_nonneg units) hprice) hsize
      exact le_min hmicro (by decide)

lemma PricingConfig.rate_zero :
    pricing.rate metric 0 = 0 := by
  unfold rate
  split
  · rfl
  · simp

/-! ## References -/

def usageReference (tenant : TenantId) (metric : UsageMetric) (last version : Int) : String :=
  "usage:" ++ toString tenant.raw ++ ":" ++ metric.asStr ++ ":" ++ toString last ++ ":" ++
    toString version

/-- A text up to the first separator can be read back. -/
lemma eq_of_append_cons_eq {α : Type*} {c : α} {l l' r r' : List α} (hl : c ∉ l) (hl' : c ∉ l')
    (h : l ++ c :: r = l' ++ c :: r') : l = l' ∧ r = r' := by
  rcases List.append_eq_append_iff.mp h with ⟨as, rfl, has⟩ | ⟨as, rfl, has⟩
  all_goals
    cases as with
    | nil => simp_all
    | cons x as =>
      obtain rfl : c = x := by simp_all
      simp at hl hl'

lemma colon_notMem_nat (n : Nat) : ':' ∉ n.repr.toList := by
  intro h
  have hdigit : ':' ∈ Nat.toDigits 10 n := by simpa [Nat.repr] using h
  simpa using Nat.isDigit_of_mem_toDigits (by decide) (by decide) hdigit

lemma colon_notMem_int (n : Int) : ':' ∉ n.repr.toList := by
  rw [Int.repr_eq_if]
  split_ifs
  · exact colon_notMem_nat n.toNat
  · have hneg := colon_notMem_nat (-n).toNat
    simpa using hneg

lemma colon_notMem_asStr (m : UsageMetric) : ':' ∉ m.asStr.toList := by
  cases m <;> decide

lemma asStr_injective {m m' : UsageMetric} (h : m.asStr = m'.asStr) : m = m' := by
  cases m <;> cases m' <;> first | rfl | exact absurd h (by decide)

/-- The four parts stand between colons, and none of them has a colon. -/
lemma usageReference_injective {t t' : TenantId} {m m' : UsageMetric} {l l' v v' : Int}
    (h : usageReference t m l v = usageReference t' m' l' v') :
    t = t' ∧ m = m' ∧ l = l' ∧ v = v' := by
  have hlist : t.raw.repr.toList ++ ':' :: (m.asStr.toList ++ ':' :: (l.repr.toList ++ ':' ::
      v.repr.toList)) = t'.raw.repr.toList ++ ':' :: (m'.asStr.toList ++ ':' ::
      (l'.repr.toList ++ ':' :: v'.repr.toList)) := by
    simpa [usageReference] using congrArg String.toList h
  rcases eq_of_append_cons_eq (colon_notMem_nat _) (colon_notMem_nat _) hlist with ⟨ht, hlist⟩
  rcases eq_of_append_cons_eq (colon_notMem_asStr _) (colon_notMem_asStr _) hlist with ⟨hm, hlist⟩
  rcases eq_of_append_cons_eq (colon_notMem_int _) (colon_notMem_int _) hlist with ⟨hl, hv⟩
  refine ⟨?_, asStr_injective (String.toList_injective hm),
    Int.repr_injective (String.toList_injective hl),
    Int.repr_injective (String.toList_injective hv)⟩
  have hraw : t.raw = t'.raw := Nat.repr_injective (String.toList_injective ht)
  cases t
  cases t'
  exact congrArg TenantId.mk hraw

end Combee.Billing
