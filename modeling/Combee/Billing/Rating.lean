import Combee.Billing.Usage

/-!
# Rating — what splitting usage does to a charge

`rate` rounds down, so usage that is settled in several windows costs no more than the same usage in
one, and less by at most one microcredit for each cut (`split_charges_le`).
-/

namespace Combee.Billing

section Quotients

variable {a b k : Int}

lemma ediv_add_bounds (hk : 0 < k) :
    a / k + b / k ≤ (a + b) / k ∧ (a + b) / k ≤ a / k + b / k + 1 := by
  have hloA := Int.ediv_mul_le a hk.ne'
  have hloB := Int.ediv_mul_le b hk.ne'
  have hhiA := Int.lt_ediv_add_one_mul_self a hk
  have hhiB := Int.lt_ediv_add_one_mul_self b hk
  constructor
  · exact Int.le_ediv_of_mul_le hk (by linarith)
  · exact Int.le_of_lt_add_one (Int.ediv_lt_of_lt_mul hk (by linarith))

/-- Rounding down part by part loses less than one for each part but one. -/
lemma sum_ediv_bounds (hk : 0 < k) (p : Int) (parts : List Nat) :
    (parts.map fun u : Nat => (u : Int) * p / k).sum ≤ parts.sum * p / k ∧
      (parts ≠ [] → parts.sum * p / k ≤
        (parts.map fun u : Nat => (u : Int) * p / k).sum + (parts.length - 1)) := by
  induction parts with
  | nil => simp
  | cons u parts ih =>
    have hstep := ediv_add_bounds (a := u * p) (b := parts.sum * p) hk
    have hsum : ((u :: parts).sum : Int) * p = u * p + parts.sum * p := by
      push_cast [List.sum_cons]
      ring
    rw [hsum, List.map_cons, List.sum_cons]
    refine ⟨by linarith [ih.1], fun _ => ?_⟩
    by_cases hparts : parts = []
    · simp [hparts]
    · have hrest := ih.2 hparts
      rw [List.length_cons, Nat.cast_succ]
      linarith

end Quotients

/-- A rule with a positive unit size and a positive price, which is an `i64`. -/
structure PricingConfig.Priced (pricing : PricingConfig) (metric : UsageMetric)
    (unitSize priceUnits : Int) : Prop where
  rule : pricing.rules metric = some (unitSize, priceUnits)
  size_pos : 0 < unitSize
  price_pos : 0 < priceUnits
  price_le : priceUnits ≤ i64Max

namespace PricingConfig.Priced

variable {pricing : PricingConfig} {metric : UsageMetric} {unitSize priceUnits : Int}

variable (h : pricing.Priced metric unitSize priceUnits)
include h

lemma rate_eq (units : Nat) :
    pricing.rate metric units = min (units * priceUnits / unitSize) i64Max := by
  unfold PricingConfig.rate
  rw [h.rule]
  dsimp only
  by_cases hunits : units = 0
  · simp [hunits, i64Max]
  · rw [if_neg (by have := h.size_pos; have := h.price_pos; omega)]

lemma quotient_mono {units more : Nat}
    (hle : units ≤ more) : units * priceUnits / unitSize ≤ more * priceUnits / unitSize :=
  Int.ediv_le_ediv h.size_pos
    (mul_le_mul_of_nonneg_right (by exact_mod_cast hle) h.price_pos.le)

end PricingConfig.Priced

/-- Usage in parts costs at most as much as in one, and less by at most one for each cut; the result
is clamped only if it is not an `i64`. -/
theorem split_charges_le (pricing : PricingConfig) (metric : UsageMetric)
    (unitSize priceUnits : Int) (h : pricing.Priced metric unitSize priceUnits) :
    (∀ parts : List Nat, parts ≠ [] → parts.sum < 2 ^ 64 →
      parts.sum * priceUnits / unitSize ≤ i64Max →
      (parts.map (pricing.rate metric)).sum ≤ pricing.rate metric parts.sum ∧
      pricing.rate metric parts.sum ≤
        (parts.map (pricing.rate metric)).sum + (parts.length - 1)) ∧
    (∀ units more, units ≤ more → pricing.rate metric units ≤ pricing.rate metric more) ∧
    (∀ units : Nat, units < 2 ^ 64 → units * priceUnits < 2 ^ 128) ∧
    ∀ units : Nat, pricing.rate metric units ≠ units * priceUnits / unitSize ↔
      i64Max < units * priceUnits / unitSize := by
  refine ⟨fun parts hparts _ hcharge => ?_, fun units more hle => ?_, fun units hunits => ?_,
    fun units => ?_⟩
  · have hexact : ∀ u ∈ parts, pricing.rate metric u = u * priceUnits / unitSize := by
      intro u hu
      rw [h.rate_eq]
      exact min_eq_left ((h.quotient_mono (List.single_le_sum (by simp) u hu)).trans hcharge)
    rw [List.map_congr_left hexact, h.rate_eq, min_eq_left hcharge]
    have hbounds := sum_ediv_bounds h.size_pos priceUnits parts
    exact ⟨hbounds.1, hbounds.2 hparts⟩
  · rw [h.rate_eq, h.rate_eq]
    exact min_le_min_right _ (h.quotient_mono hle)
  · have hprice : priceUnits < 2 ^ 63 := by
      have := h.price_le
      unfold i64Max at this
      omega
    have hcast : (units : Int) < 2 ^ 64 := by exact_mod_cast hunits
    have hpos := h.price_pos
    nlinarith
  · rw [h.rate_eq]
    constructor
    · intro hne
      by_contra hle
      exact hne (min_eq_left (not_lt.mp hle))
    · intro hlt
      rw [min_eq_right hlt.le]
      exact hlt.ne

/-- Ten microcredits for a thousand reads. -/
def tenPerThousand : PricingConfig := ⟨1, fun _ => some (1000, 10)⟩

/-- Two windows with 150 reads each cost one microcredit each; 300 reads at once cost three. -/
theorem split_charges_le_two :
    tenPerThousand.rate .kvRead 150 + tenPerThousand.rate .kvRead 150 = 2 ∧
      tenPerThousand.rate .kvRead 300 ≤ 2 + 1 :=
  ⟨by decide, ((split_charges_le tenPerThousand .kvRead 1000 10
    ⟨rfl, by decide, by decide, by decide⟩).1 [150, 150] (by simp) (by decide) (by decide)).2⟩

end Combee.Billing
