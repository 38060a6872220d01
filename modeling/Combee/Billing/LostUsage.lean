import Combee.Billing.Windows

/-!
# LostUsage — usage that settlement passes over

The watermark moves to the end of the window even if an append has failed, so that total is never
charged (`charge_lost`). A round that fails between two tenants is retried with a longer window
under the same references, so the tenants charged before are not charged for the rest of it; and
usage that is flushed after its minute has been read is in no total. Where none of this happens,
every bucket is charged once (`usage_not_lost`).
-/

namespace Combee.Billing

open Foundation Journal

variable {s s₀ : Metadata} {b : UsageBucket} {mayFail : Prop}

lemma RunsOrderly.noFault {c : SettleCall} (h : RunsOrderly mayFail s c)
    (hc : ∀ n, (c.outside n).fault = none) : RunsOrderly False s c := by
  refine ⟨h.1, (h.2.and_forall (P := fun o => o.fault = none) hc).mono ?_⟩
  rintro u op o ⟨ho, hfault⟩
  refine ⟨ho.1, ?_⟩
  cases op with
  | load | store => trivial
  | listTenants | queryUsage | append => exact .inl hfault

lemma Reading.Current.mem_buckets {x : Reading} {usage : List UsageBucket} (h : x.Current usage)
    (hb : b ∈ usage) : b ∈ x.buckets ↔ x.tenant = b.tenantId ∧ x.window.Covers b.bucketStart := by
  rw [h, queryUsage, List.mem_filter, eq_comm (a := x.tenant)]
  simp [hb, Window.Covers, and_assoc]

lemma Settles.exists_reading (h : Settles s₀ s) (hb : b ∈ s.usage)
    (ht : b.tenantId ∈ withDefault s₀.tenants) {w : Window}
    (hw : s.settled.filter (fun w => decide (w.Covers b.bucketStart)) = [w]) :
    ∃ x, s.readings.filter (fun x => decide (b ∈ x.buckets)) = [x] ∧
      x.window = w ∧ x.tenant = b.tenantId := by
  -- the readings that have the bucket are those of its tenant whose window covers its minute
  have hfilter : s.readings.filter (fun x => decide (b ∈ x.buckets)) =
      (s.readings.filter fun x => x.tenant = b.tenantId).filter
        fun x => decide (x.window.Covers b.bucketStart) := by
    rw [List.filter_filter]
    apply List.filter_congr
    intro x hx
    rw [Bool.eq_iff_iff, decide_eq_true_iff, (h.current x hx).mem_buckets hb]
    simp [and_comm]
  have hmap : (s.readings.filter (fun x => decide (b ∈ x.buckets))).map Reading.window = [w] := by
    rw [← h.listed b.tenantId ht, List.filter_map] at hw
    rw [hfilter]
    exact hw
  rcases List.map_eq_singleton_iff.mp hmap with ⟨x, hx, hwindow⟩
  refine ⟨x, hx, hwindow, ?_⟩
  have hmem : x ∈ s.readings.filter (fun x => decide (b ∈ x.buckets)) := by simp [hx]
  rw [hfilter] at hmem
  simpa using (List.mem_filter.mp (List.mem_filter.mp hmem).1).2

/-- If only the rounds write the ledger, appends are applied, other calls fail only before a round
has entered anything, and no bucket changes after it is read: after a round without failures, a
bucket of a listed tenant is in exactly one reading, and its charge is in the ledger. -/
theorem usage_not_lost {calls : List SettleCall} (h₀ : Started s₀)
    (hcalls : Meets settleNext (RunsOrderly True) s₀ calls)
    (hrun : exec settleNext s₀ calls = some s) (hb : b ∈ s.usage) (hminute : 60 ∣ b.bucketStart)
    (ht : b.tenantId ∈ withDefault s₀.tenants)
    (hfirst : ∀ w ∈ s.settled.head?, w.start ≤ b.bucketStart)
    (hlater : ∃ c ∈ calls, (∀ n, (c.outside n).fault = none) ∧
      b.bucketStart < bucketStart c.round.now) :
    ∃ x, s.readings.filter (fun x => decide (b ∈ x.buckets)) = [x] ∧ x.window ∈ s.settled ∧
      x.tenant = b.tenantId ∧
      (x.charge b.metric ≠ 0 → ∃ row ∈ s.store.creditTransactions,
        row.tenantId = b.tenantId ∧ row.amountUnits = -x.charge b.metric ∧
        row.referenceId = some (usageReference b.tenantId b.metric x.window.start
          x.window.pricing.version)) := by
  have hsettles : Settles s₀ s := settles_exec h₀.settles hcalls hrun
  rcases hlater with ⟨c, hc, hok, hlt⟩
  rcases watermark_exec h₀.settles hcalls hrun hc fun u hu => hu.noFault hok with ⟨hpos, hmark⟩
  cases hsettles.marks with
  | start _ hzero _ => omega
  | settled first hgrid hne _ htiles _ =>
    -- the bucket lies between the first window and the watermark
    have hle : first ≤ b.bucketStart := by
      have hhead := List.head_mem_head? hne
      rw [← htiles.head hhead]
      exact hfirst _ hhead
    rcases filter_covers htiles hgrid hminute hle (hlt.trans_le hmark) with ⟨w, hw⟩
    rcases hsettles.exists_reading hb ht hw with ⟨x, hx, hwindow, htenant⟩
    have hmem : x ∈ s.readings := by
      have hfiltered : x ∈ s.readings.filter (fun x => decide (b ∈ x.buckets)) := by simp [hx]
      exact (List.mem_filter.mp hfiltered).1
    have hsettled : w ∈ s.settled := by
      have hfiltered : w ∈ s.settled.filter (fun w => decide (w.Covers b.bucketStart)) := by
        simp [hw]
      exact (List.mem_filter.mp hfiltered).1
    refine ⟨x, hx, hwindow ▸ hsettled, htenant, fun hcharge => ?_⟩
    rw [← htenant]
    exact hsettles.rows x hmem b.metric hcharge

def failingAt (now : Int) (n : Nat) : SettleCall :=
  ⟨roundAt now, fun k => if k = n then { fault := some "timeout" } else {}⟩

lemma failingAt_runsOrderly {now : Int} (h : 60 ≤ now) :
    RunsOrderly True s (failingAt now 2) := by
  have hcalm : ∀ (n : Nat) (reads : List Reading), ∀ e ∈ ((failingAt now 2).outside n).before,
      e.Harmless reads := by
    intro n reads e he
    simp only [failingAt] at he
    split_ifs at he <;> simp at he
  refine ⟨h, ⟨hcalm 0 _, trivial⟩, ?_⟩
  generalize (s.begin.answer 0 .load ((failingAt now 2).outside 0)).1 = last
  cases hw : (failingAt now 2).round.window last with
  | none =>
    simp only [hw]
    trivial
  | some w =>
    simp only [hw]
    refine ⟨⟨hcalm 1 _, .inl rfl⟩, ?_⟩
    change Prog.Permits _ _ _ _ (settleTenants _ w (withDefault s.tenants) 0)
    cases withDefault s.tenants with
    | nil => exact ⟨⟨hcalm 2 _, trivial⟩, trivial⟩
    | cons t rest => exact ⟨⟨hcalm 2 _, .inr ⟨trivial, rfl⟩⟩, trivial⟩

/-- The query of the second round fails, and the third settles both its minutes. -/
theorem usage_not_lost_retry :
    ∃ s, exec settleNext twoMinutes [callAt 665, failingAt 725 2, callAt 785] = some s ∧
      s.settled.map (fun w => (w.start, w.finish)) = [(600, 660), (660, 780)] ∧
      ∃ x, s.readings.filter
          (fun x => decide (⟨⟨⟨5⟩, none, .kvRead, 660⟩, 1000⟩ ∈ x.buckets)) = [x] ∧
        (x.charge .kvRead ≠ 0 → ∃ row ∈ s.store.creditTransactions, row.tenantId = ⟨5⟩ ∧
          row.amountUnits = -x.charge .kvRead) := by
  have hreach : ∃ s, exec settleNext twoMinutes [callAt 665, failingAt 725 2, callAt 785] =
        some s ∧
      s.settled = [⟨600, 660, perRead 1⟩, ⟨660, 780, perRead 1⟩] ∧ s.usage = twoMinutes.usage :=
    ⟨_, rfl, rfl, rfl⟩
  rcases hreach with ⟨s, hrun, hsettled, husage⟩
  have hcalls : Meets settleNext (RunsOrderly True) twoMinutes
      [callAt 665, failingAt 725 2, callAt 785] := by
    apply meets_of_forall
    intro s c hc
    simp only [List.mem_cons, List.not_mem_nil, or_false] at hc
    rcases hc with rfl | rfl | rfl
    · exact (callAt_succeeds (by decide)).runsOrderly
    · exact failingAt_runsOrderly (by decide)
    · exact (callAt_succeeds (by decide)).runsOrderly
  have hkept := usage_not_lost (b := ⟨⟨⟨5⟩, none, .kvRead, 660⟩, 1000⟩) twoMinutes_started hcalls
    hrun (by rw [husage]; decide) (by decide) (by decide) (by simp [hsettled])
    ⟨callAt 785, by simp, fun _ => rfl, by decide⟩
  rcases hkept with ⟨x, hx, _, _, hrow⟩
  refine ⟨s, hrun, by rw [hsettled]; rfl, x, hx, fun hcharge => ?_⟩
  rcases hrow hcharge with ⟨row, hmem, htenant, hamount, _⟩
  exact ⟨row, hmem, htenant, hamount⟩

/-- The append of the first round fails, and its thousand reads of the minute `660` are never
charged. -/
theorem charge_lost :
    ∃ s, exec settleNext twoMinutes [failingAt 725 3, callAt 785, callAt 845] = some s ∧
      s.settled.map (fun w => (w.start, w.finish)) = [(660, 720), (720, 780), (780, 840)] ∧
      s.usage = twoMinutes.usage ∧
      (s.readings.filter fun x =>
        decide (⟨⟨⟨5⟩, none, .kvRead, 660⟩, 1000⟩ ∈ x.buckets)).map (fun x =>
          (x.window.start, x.charge .kvRead)) = [(660, 1000)] ∧
      s.store.creditTransactions = [] :=
  ⟨_, rfl, rfl, rfl, by decide, rfl⟩

end Combee.Billing
