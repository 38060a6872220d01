import Combee.Billing.Rounds
import Combee.Foundation.Tiling

/-!
# Windows — the rounds of one instance

The rounds of a single instance are run one after the other, from a ledger without usage entries.
Each round that gets to its end moves the watermark from the start to the end of its window, so the
settled windows follow each other without gaps (`Marks`), whatever the clock does. A round that
fails before it has entered anything leaves no trace. `Settles` is what holds after every round:
each listed tenant has been read once in each window, its charges are in the ledger, and its balance
has gone down by what they cost.
-/

namespace Combee.Billing

open Foundation Journal List

/-! ## Runs of one instance -/

/-- A call of `settle_once`, with what comes from outside at each of its own calls. -/
structure SettleCall where
  round : Round
  outside : Nat → Outside

/-- A new round has read nothing yet. -/
def Metadata.begin (s : Metadata) : Metadata :=
  { s with pending := Function.update s.pending 0 [] }

def settleNext (s : Metadata) (c : SettleCall) : Option Metadata :=
  some (Prog.run (Metadata.answer 0) c.outside s.begin (settleOnce c.round)).2

/-- The round is orderly, and the clock is at least a minute after the epoch. -/
def RunsOrderly (mayFail : Prop) (s : Metadata) (c : SettleCall) : Prop :=
  60 ≤ c.round.now ∧
    Prog.Permits (Metadata.answer 0) (Orderly mayFail s.begin) c.outside s.begin
      (settleOnce c.round)

/-- Nothing has been settled, and no row of the ledger has the reference of a usage entry. -/
structure Started (s : Metadata) : Prop where
  indexed : s.store.Indexed
  fits : ∀ t, FitsI64 (s.store.balance t)
  rows : ∀ row ∈ s.store.creditTransactions, ∀ t m l v,
    row.referenceId ≠ some (usageReference t m l v)
  watermark : s.lastSettledBucket 0 = 0
  settled : s.settled = []
  readings : s.readings = []

/-! ## The watermark -/

/-- The settled windows follow each other up to the watermark, and all usage entries are for windows
before it. -/
inductive Marks (s : Metadata) : Prop
  | start (hsettled : s.settled = []) (hmark : s.lastSettledBucket 0 = 0)
      (hrows : ∀ row ∈ s.store.creditTransactions, ∀ t m l v,
        row.referenceId ≠ some (usageReference t m l v))
  | settled (first : Int) (hfirst : 60 ∣ first) (hne : s.settled ≠ [])
      (hmark : 60 ≤ s.lastSettledBucket 0)
      (htiles : Tiles Window.start Window.finish 60 first (s.lastSettledBucket 0) s.settled)
      (hrows : ∀ row ∈ s.store.creditTransactions, ∀ t m l v,
        row.referenceId = some (usageReference t m l v) → l < s.lastSettledBucket 0)

variable {s s' s₀ : Metadata} {r : Round} {w : Window} {new : List Reading} {mayFail : Prop}

lemma dvd_bucketStart (now : Int) : 60 ∣ bucketStart now :=
  Int.dvd_mul_left _ _

lemma bucketStart_ge {now : Int} (h : 60 ≤ now) : 60 ≤ bucketStart now := by
  unfold bucketStart
  omega

variable {last : Int}

lemma window_eq_some (h : r.window last = some w) :
    w.finish = bucketStart r.now ∧ w.start < w.finish ∧
      w.start = if last = 0 then bucketStart r.now - 60 else last := by
  simp only [Round.window, Option.ite_none_left_eq_some, Option.some.injEq] at h
  rcases h with ⟨hlt, rfl⟩
  exact ⟨rfl, not_le.mp hlt, rfl⟩

lemma window_eq_none (h : r.window last = none) : bucketStart r.now ≤ last := by
  simp only [Round.window, ite_eq_left_iff, reduceCtorEq, imp_false, not_not] at h
  split_ifs at h with hzero
  · omega
  · exact h

lemma Marks.newStart (h : Marks s) (hw : r.window (s.lastSettledBucket 0) = some w) :
    NewStart w s.store := by
  intro row hrow t m v href
  cases h with
  | start _ _ hrows => exact hrows row hrow t m w.start v href
  | settled _ _ _ hmark _ hrows =>
    -- the window would start before the watermark, which is its start
    have hlt := hrows row hrow t m w.start v href
    rw [(window_eq_some hw).2.2, if_neg (by omega)] at hlt
    exact lt_irrefl _ hlt

lemma Marks.idle (h : Marks s) (hidle : Idle s s') : Marks s' := by
  cases h with
  | start hsettled hmark hrows =>
    refine .start (hidle.settled.trans hsettled) ?_ ?_
    · rw [hidle.watermark]
      exact hmark
    · rw [hidle.store]
      exact hrows
  | settled first hfirst hne hmark htiles hrows =>
    refine .settled first hfirst ?_ ?_ ?_ ?_
    · rw [hidle.settled]
      exact hne
    · rw [hidle.watermark]
      exact hmark
    · rw [hidle.watermark, hidle.settled]
      exact htiles
    · rw [hidle.watermark, hidle.store]
      exact hrows

variable {t : TenantId}

lemma Closed.start_lt (h : Closed r w s s' new) {row : CreditTransaction}
    (hrow : row ∈ s'.store.creditTransactions) {m : UsageMetric} {l v : Int}
    (href : row.referenceId = some (usageReference t m l v)) :
    row ∈ s.store.creditTransactions ∨ l = w.start := by
  rcases h.entered.rows with ⟨rows, hrows, hnew, _⟩
  rw [hrows] at hrow
  rcases mem_append.mp hrow with hold | hrow
  · exact .inl hold
  · rcases hnew row hrow with ⟨d, _, hd⟩
    have heq : usageReference t m l v = d.reference w := Option.some.inj (href.symm.trans hd)
    exact .inr (usageReference_injective heq).2.2.1

lemma Marks.closed (h : Marks s) (hnow : 60 ≤ r.now)
    (hw : r.window (s.lastSettledBucket 0) = some w) (hclosed : Closed r w s s' new) :
    Marks s' := by
  rcases window_eq_some hw with ⟨hfinish, hlt, hstart⟩
  have hdvd : 60 ∣ w.finish := hfinish ▸ dvd_bucketStart r.now
  -- the window begins at the watermark, or it is the first one
  have htiles : ∃ first, 60 ∣ first ∧ Tiles Window.start Window.finish 60 first w.start s.settled ∧
      ∀ row ∈ s.store.creditTransactions, ∀ t m l v,
        row.referenceId = some (usageReference t m l v) → l < w.start := by
    cases h with
    | start hsettled hmark hrows =>
      rw [if_pos hmark, ← hfinish] at hstart
      refine ⟨w.start, by omega, hsettled ▸ Tiles.nil, ?_⟩
      intro row hrow t m l v href
      exact absurd href (hrows row hrow t m l v)
    | settled first hfirst _ hmark htiles hrows =>
      rw [if_neg (by omega)] at hstart
      rw [hstart]
      exact ⟨first, hfirst, htiles, hrows⟩
  rcases htiles with ⟨first, hfirst, htiles, hrows⟩
  have hlen : 60 ∣ w.finish - w.start := by
    have hgrid := htiles.dvd
    omega
  refine .settled first hfirst ?_ ?_ ?_ ?_
  · simp [hclosed.settled]
  · rw [hclosed.watermark, hfinish]
    exact bucketStart_ge hnow
  · rw [hclosed.watermark, hclosed.settled]
    exact htiles.concat hlt hlen
  · intro row hrow t m l v href
    rw [hclosed.watermark]
    rcases hclosed.start_lt hrow href with hold | rfl
    · exact (hrows row hold t m l v href).trans hlt
    · exact hlt

/-! ## Every round -/

/-- What the rounds since `s₀` have come to. -/
structure Settles (s₀ s : Metadata) : Prop where
  indexed : s.store.Indexed
  marks : Marks s
  current : ∀ x ∈ s.readings, x.Current s.usage
  tenants : s₀.tenants ⊆ s.tenants
  listed : ∀ t ∈ withDefault s₀.tenants,
    (s.readings.filter fun x => x.tenant = t).map Reading.window = s.settled
  rows : ∀ x ∈ s.readings, ∀ m, x.charge m ≠ 0 →
    ∃ row ∈ s.store.creditTransactions, row.tenantId = x.tenant ∧
      row.amountUnits = -x.charge m ∧
      row.referenceId =
        some (usageReference x.tenant m x.window.start x.window.pricing.version)
  fits : ∀ t, FitsI64 (s.store.balance t)
  balance : ∀ t, s.store.balance t = max (-(2 ^ 63)) (s₀.store.balance t -
    ((s.readings.filter fun x => x.tenant = t).map Reading.cost).sum)

lemma Started.settles (h : Started s) : Settles s s := by
  refine ⟨h.indexed, .start h.settled h.watermark h.rows, ?_, List.Subset.refl _, ?_, ?_, h.fits,
    ?_⟩
  · simp [h.readings]
  · simp [h.readings, h.settled]
  · simp [h.readings]
  · intro t
    simpa [h.readings] using (h.fits t).1

lemma Settles.idle (h : Settles s₀ s) (hidle : Idle s s') : Settles s₀ s' := by
  refine ⟨?_, h.marks.idle hidle, hidle.current, List.Subset.trans h.tenants hidle.tenants, ?_, ?_,
    ?_, ?_⟩
  · rw [hidle.store]
    exact h.indexed
  · rw [hidle.readings, hidle.settled]
    exact h.listed
  · rw [hidle.readings, hidle.store]
    exact h.rows
  · rw [hidle.store]
    exact h.fits
  · rw [hidle.readings, hidle.store]
    exact h.balance

lemma Closed.filter_tenant (h : Closed r w s s' new) (hlisted : Listed s new)
    (ht : t ∈ withDefault s.tenants) :
    (new.filter fun x => x.tenant = t).map Reading.window = [w] := by
  have hlen : (new.filter fun x => x.tenant = t).length = 1 := by
    have hcount := count_eq_one_of_mem hlisted.nodup (hlisted.all t ht)
    rw [count, countP_map, countP_eq_length_filter] at hcount
    have hsame : ((fun t' => t' == t) ∘ Reading.tenant) = fun x => decide (x.tenant = t) := rfl
    rwa [hsame] at hcount
  have hall : (new.filter fun x => x.tenant = t).map Reading.window = replicate 1 w := by
    rw [eq_replicate_iff, length_map]
    refine ⟨hlen, ?_⟩
    intro w' hw'
    rcases mem_map.mp hw' with ⟨x, hx, rfl⟩
    exact h.window x (mem_filter.mp hx).1
  exact hall

lemma Settles.closed (h : Settles s₀ s) (hnow : 60 ≤ r.now)
    (hw : r.window (s.lastSettledBucket 0) = some w) (hlisted : Listed s new)
    (hclosed : Closed r w s s' new) : Settles s₀ s' := by
  have hbalance : ∀ t, s'.store.balance t = max (-(2 ^ 63)) (s.store.balance t -
      ((new.filter fun x => x.tenant = t).map Reading.cost).sum) :=
    fun t => hclosed.balance (h.fits t)
  have hcost : ∀ t, 0 ≤ ((new.filter fun x => x.tenant = t).map Reading.cost).sum := by
    intro t
    apply sum_nonneg
    intro cost hmem
    rcases mem_map.mp hmem with ⟨_, _, rfl⟩
    exact Reading.cost_nonneg
  refine ⟨hclosed.entered.indexed, h.marks.closed hnow hw hclosed, hclosed.current,
    List.Subset.trans h.tenants hclosed.tenants, ?_, ?_, ?_, ?_⟩
  · intro t ht
    -- a tenant that was listed once is listed in every later round
    have ht' : t ∈ withDefault s.tenants :=
      mem_withDefault.mpr ((mem_withDefault.mp ht).imp_left fun hmem => h.tenants hmem)
    rw [hclosed.readings, hclosed.settled, filter_append, map_append, h.listed t ht,
      hclosed.filter_tenant hlisted ht']
  · intro x hx m hm
    rw [hclosed.readings] at hx
    -- rows of earlier windows stay, and the new window has entered its own
    rcases mem_append.mp hx with hx | hx
    · rcases h.rows x hx m hm with ⟨row, hrow, hrest⟩
      rcases hclosed.entered.rows with ⟨rows, hrows, _, _⟩
      refine ⟨row, ?_, hrest⟩
      rw [hrows]
      exact mem_append_left _ hrow
    · rw [hclosed.window x hx]
      exact hclosed.row hx hm
  · intro t
    have hfits := h.fits t
    have hle := hcost t
    rw [hbalance t]
    unfold FitsI64 at hfits ⊢
    omega
  · intro t
    have hle := hcost t
    rw [hbalance t, h.balance t, hclosed.readings, filter_append, map_append, sum_append]
    omega

variable {c : SettleCall}

lemma outcome_of_settleNext (h : Settles s₀ s) (hc : RunsOrderly mayFail s c)
    (hstep : settleNext s c = some s') : ∃ res, Outcome mayFail c.round s.begin res s' := by
  have hdoes : Does mayFail s.begin (Outcome mayFail c.round s.begin) (settleOnce c.round)
      s.begin :=
    does_settleOnce h.indexed h.current (by simp [Metadata.begin])
      fun w hw => h.marks.newStart hw
  cases hstep
  exact ⟨_, hdoes.run (fun _ => rfl) hc.2⟩

lemma Settles.step (h : Settles s₀ s) (hc : RunsOrderly mayFail s c)
    (hstep : settleNext s c = some s') : Settles s₀ s' := by
  -- what is pending plays no part in the invariant
  have hbegin : Settles s₀ s.begin :=
    ⟨h.indexed, h.marks.idle ⟨rfl, List.Subset.refl _, rfl, rfl, rfl, h.current⟩, h.current,
      h.tenants, h.listed, h.rows, h.fits, h.balance⟩
  rcases outcome_of_settleNext h hc hstep with ⟨res, ⟨_, hidle⟩ | ⟨w, new, hw, hlisted, hclosed⟩⟩
  · exact hbegin.idle hidle
  · exact hbegin.closed hc.1 hw hlisted hclosed

variable {calls : List SettleCall}

lemma settles_exec (h₀ : Settles s₀ s) (hcalls : Meets settleNext (RunsOrderly mayFail) s calls)
    (hrun : exec settleNext s calls = some s') : Settles s₀ s' :=
  inv_of_exec (fun h hc hstep => h.step hc hstep) h₀ hcalls hrun

/-! ## The watermark moves on -/

/-- The watermark never goes back, and a round that cannot fail moves it to the current minute. -/
lemma watermark_step (h : Settles s₀ s) (hc : RunsOrderly mayFail s c)
    (hstep : settleNext s c = some s') :
    s.lastSettledBucket 0 ≤ s'.lastSettledBucket 0 ∧
      (¬ mayFail → bucketStart c.round.now ≤ s'.lastSettledBucket 0) := by
  rcases outcome_of_settleNext h hc hstep with
    ⟨res, ⟨hwhy, hidle⟩ | ⟨w, new, hw, hlisted, hclosed⟩⟩
  · have hmark : s'.lastSettledBucket 0 = s.lastSettledBucket 0 := congrFun hidle.watermark 0
    rw [hmark]
    refine ⟨le_refl _, fun hfail => ?_⟩
    rcases hwhy with hnone | hwhy
    · exact window_eq_none hnone
    · exact absurd hwhy.1 hfail
  · rcases window_eq_some hw with ⟨hfinish, hlt, hstart⟩
    rw [hclosed.watermark]
    refine ⟨?_, fun _ => hfinish.ge⟩
    -- the watermark `0` of a new instance lies before every window
    have hpos := bucketStart_ge hc.1
    change w.start = if s.lastSettledBucket 0 = 0 then _ else s.lastSettledBucket 0 at hstart
    split_ifs at hstart
    · omega
    · omega

lemma watermark_exec (h : Settles s₀ s) (hcalls : Meets settleNext (RunsOrderly mayFail) s calls)
    (hrun : exec settleNext s calls = some s') (hc : c ∈ calls)
    (hok : ∀ u, RunsOrderly mayFail u c → RunsOrderly False u c) :
    60 ≤ bucketStart c.round.now ∧ bucketStart c.round.now ≤ s'.lastSettledBucket 0 := by
  induction calls generalizing s with
  | nil => simp at hc
  | cons c' calls ih =>
    rcases exec_cons_eq_some.mp hrun with ⟨u, hu, hrest⟩
    rcases (meets_cons hu).mp hcalls with ⟨hc', hcalls'⟩
    have hnext : Settles s₀ u := h.step hc' hu
    rcases mem_cons.mp hc with rfl | hc
    · have hmark := (watermark_step h (hok s hc') hu).2 not_false
      -- the later rounds keep the bound
      have hkept : Settles s₀ s' ∧ bucketStart c.round.now ≤ s'.lastSettledBucket 0 := by
        refine inv_of_exec (I := fun u => Settles s₀ u ∧
          bucketStart c.round.now ≤ u.lastSettledBucket 0) ?_ ⟨hnext, hmark⟩ hcalls' hrest
        rintro v c'' v' ⟨hv, hle⟩ hc'' hstep
        exact ⟨hv.step hc'' hstep, hle.trans (watermark_step hv hc'' hstep).1⟩
      exact ⟨bucketStart_ge hc'.1, hkept.2⟩
    · exact ih hnext hcalls' hrest hc

/-! ## The windows and the balances -/

def Window.usageTotal (w : Window) (usage : List UsageBucket) (t : TenantId) (m : UsageMetric) :
    Nat :=
  ((usage.filter fun b => b.tenantId = t ∧ b.metric = m ∧ w.Covers b.bucketStart).map (·.value)).sum

def Window.cost (w : Window) (usage : List UsageBucket) (t : TenantId) : Int :=
  ((UsageMetric.all.filter (· ≠ .storageBytes)).map fun m =>
    w.pricing.rate m (w.usageTotal usage t m)).sum

variable {usage : List UsageBucket}

lemma Reading.Current.metricTotal_eq {x : Reading} (h : x.Current usage) (m : UsageMetric) :
    metricTotal x.buckets m = x.window.usageTotal usage x.tenant m := by
  unfold metricTotal Window.usageTotal
  rw [h, queryUsage, filter_filter]
  congr 2
  apply filter_congr
  intro b _
  rw [Bool.eq_iff_iff, decide_eq_true_iff]
  simp [Window.Covers, and_assoc, and_left_comm]

lemma Reading.Current.cost_eq {x : Reading} (h : x.Current usage)
    (hfits : ∀ m, x.window.usageTotal usage x.tenant m < 2 ^ 64) :
    x.cost = x.window.cost usage x.tenant := by
  have hcharge : ∀ m, m ≠ .storageBytes →
      x.charge m = x.window.pricing.rate m (x.window.usageTotal usage x.tenant m) := by
    intro m hm
    simp only [Reading.charge, Reading.total, Window.charge, hm, if_false, h.metricTotal_eq,
      Nat.mod_eq_of_lt (hfits m)]
  calc x.cost
      = ((UsageMetric.all.filter (· ≠ .storageBytes)).map x.charge).sum := by
        refine (sum_map_filter fun m _ hm => ?_).symm
        have hgauge : m = .storageBytes := by simpa using hm
        simp [Reading.charge, Window.charge, hgauge]
    _ = x.window.cost usage x.tenant := by
        refine congrArg sum (map_congr_left fun m hm => ?_)
        exact hcharge m (by simpa using (mem_filter.mp hm).2)

lemma Settles.cost_eq (h : Settles s₀ s) (ht : t ∈ withDefault s₀.tenants)
    (hfits : ∀ w ∈ s.settled, ∀ m, w.usageTotal s.usage t m < 2 ^ 64) :
    ((s.readings.filter fun x => x.tenant = t).map Reading.cost).sum =
      (s.settled.map fun w => w.cost s.usage t).sum := by
  rw [← h.listed t ht, map_map]
  refine congrArg sum (map_congr_left fun x hx => ?_)
  rcases mem_filter.mp hx with ⟨hmem, htenant⟩
  obtain rfl : x.tenant = t := by simpa using htenant
  refine (h.current x hmem).cost_eq fun m => hfits x.window ?_ m
  rw [← h.listed x.tenant ht]
  exact mem_map_of_mem hx

lemma covers_iff {first bucket : Int} {ws : List Window}
    (h : Tiles Window.start Window.finish 60 first last ws) (hfirst : 60 ∣ first)
    (hbucket : 60 ∣ bucket) (hw : w ∈ ws) :
    w.Covers bucket ↔ w.start ≤ bucket ∧ bucket < w.finish := by
  rw [h.lt_iff_le_sub hw (by decide) (Int.dvd_sub hbucket hfirst)]
  exact Iff.rfl

/-- A minute from the first window up to the watermark is covered by exactly one window. -/
lemma filter_covers {first bucket : Int} {ws : List Window}
    (h : Tiles Window.start Window.finish 60 first last ws) (hfirst : 60 ∣ first)
    (hbucket : 60 ∣ bucket) (hle : first ≤ bucket) (hlt : bucket < last) :
    ∃ w, ws.filter (fun w => decide (w.Covers bucket)) = [w] := by
  rcases h.filter_eq_singleton hle hlt with ⟨w, hw⟩
  refine ⟨w, Eq.trans (filter_congr fun v hv => ?_) hw⟩
  simp only [covers_iff h hfirst hbucket hv]

def Succeeds (s : Metadata) (c : SettleCall) : Prop :=
  60 ≤ c.round.now ∧
    Prog.Permits (Metadata.answer 0) (fun s _ o => o.fault = none ∧
      ∀ e ∈ o.before, e.Harmless (s.readings ++ s.pending 0)) c.outside s.begin
      (settleOnce c.round)

lemma Succeeds.runsOrderly (h : Succeeds s c) : RunsOrderly mayFail s c := by
  refine ⟨h.1, h.2.mono fun {u op o} ho => ⟨ho.2, ?_⟩⟩
  cases op with
  | load | store => trivial
  | listTenants | queryUsage | append => exact .inl ho.1

/-- If all calls succeed and each bucket is fixed before it is read, the windows follow each other
without gaps up to the last clock reading, every minute is in exactly one, and each balance has gone
down by the price of the usage in them. -/
theorem windows_partition_time {calls : List SettleCall} (h₀ : Started s₀)
    (hcalls : Meets settleNext Succeeds s₀ calls) (hrun : exec settleNext s₀ calls = some s) :
    (∀ w ∈ s.settled, 60 ∣ w.start ∧ 60 ∣ w.finish ∧ w.start < w.finish) ∧
      s.settled.IsChain (fun w w' => w.finish = w'.start) ∧
      s.settled.Pairwise (fun w w' => ∀ bucket, ¬ (w.Covers bucket ∧ w'.Covers bucket)) ∧
      (∀ c ∈ calls, bucketStart c.round.now ≤ s.lastSettledBucket 0) ∧
      (∀ first ∈ s.settled.head?, ∀ bucket, 60 ∣ bucket → first.start ≤ bucket →
        bucket < s.lastSettledBucket 0 → ∃! w, w ∈ s.settled ∧ w.Covers bucket) ∧
      ∀ t ∈ withDefault s₀.tenants,
        (∀ w ∈ s.settled, ∀ m, w.usageTotal s.usage t m < 2 ^ 64) →
        -(2 ^ 63) ≤ s₀.store.balance t - (s.settled.map fun w => w.cost s.usage t).sum →
        s.store.balance t =
          s₀.store.balance t - (s.settled.map fun w => w.cost s.usage t).sum := by
  have horderly : Meets settleNext (RunsOrderly False) s₀ calls :=
    hcalls.mono fun h => h.runsOrderly
  have hsettles : Settles s₀ s := settles_exec h₀.settles horderly hrun
  have hbalance : ∀ t ∈ withDefault s₀.tenants,
      (∀ w ∈ s.settled, ∀ m, w.usageTotal s.usage t m < 2 ^ 64) →
      -(2 ^ 63) ≤ s₀.store.balance t - (s.settled.map fun w => w.cost s.usage t).sum →
      s.store.balance t =
        s₀.store.balance t - (s.settled.map fun w => w.cost s.usage t).sum := by
    intro t ht hfits hmin
    rw [hsettles.balance t, hsettles.cost_eq ht hfits]
    exact max_eq_right hmin
  have hmark : ∀ c ∈ calls, bucketStart c.round.now ≤ s.lastSettledBucket 0 :=
    fun c hc => (watermark_exec h₀.settles horderly hrun hc fun _ h => h).2
  cases hsettles.marks with
  | start hsettled _ _ =>
    rw [hsettled] at hbalance ⊢
    exact ⟨by simp, List.IsChain.nil, List.Pairwise.nil, hmark, by simp, hbalance⟩
  | settled first hfirst _ _ htiles _ =>
    refine ⟨?_, htiles.isChain, ?_, hmark, ?_, hbalance⟩
    · intro w hw
      rcases htiles.grid hw with ⟨hstart, hfinish⟩
      exact ⟨(Int.dvd_iff_dvd_of_dvd_sub hstart).mpr hfirst,
        (Int.dvd_iff_dvd_of_dvd_sub hfinish).mpr hfirst, (htiles.bounds hw).2.1⟩
    · refine htiles.pairwise.imp ?_
      rintro w w' hle bucket ⟨hcovers, hcovers'⟩
      have hend := hcovers.2
      have hbegin := hcovers'.1
      omega
    · intro w hw bucket hbucket hle hlt
      rw [htiles.head hw] at hle
      rcases filter_covers htiles hfirst hbucket hle hlt with ⟨v, hv⟩
      have hmem : ∀ u, u ∈ s.settled ∧ u.Covers bucket ↔ u = v := by
        intro u
        have hiff : u ∈ s.settled.filter (fun w => decide (w.Covers bucket)) ↔ u ∈ [v] := by
          rw [hv]
        simpa using hiff
      exact ⟨v, (hmem v).mpr rfl, fun u hu => (hmem u).mp hu⟩

/-- A call at the given time in which nothing else happens. -/
def callAt (now : Int) : SettleCall :=
  ⟨roundAt now, fun _ => {}⟩

lemma twoMinutes_started : Started twoMinutes := by
  refine ⟨InMemoryStore.LedgerEmpty.indexed ⟨rfl, fun _ => rfl⟩, ?_, ?_, rfl, rfl, rfl⟩
  · intro t
    have hzero : twoMinutes.store.balance t = 0 := rfl
    rw [hzero]
    decide
  · intro row hrow
    simp [twoMinutes, InMemoryStore.oneVoucher] at hrow

lemma callAt_succeeds {now : Int} (h : 60 ≤ now) : Succeeds s (callAt now) := by
  refine ⟨h, Prog.permits_of_forall ?_ _ _⟩
  intro n s op
  exact ⟨rfl, by simp [callAt]⟩

/-- Three rounds, the second with the clock set back and without effect. -/
theorem windows_partition_time_backwards :
    ∃ s, exec settleNext twoMinutes [callAt 725, callAt 700, callAt 845] = some s ∧
      s.settled.map (fun w => (w.start, w.finish)) = [(660, 720), (720, 840)] ∧
      (∃! w, w ∈ s.settled ∧ w.Covers 660) ∧
      s.store.balance ⟨5⟩ = twoMinutes.store.balance ⟨5⟩ - 1000 := by
  have hreach : ∃ s, exec settleNext twoMinutes [callAt 725, callAt 700, callAt 845] = some s ∧
      s.settled = [⟨660, 720, perRead 1⟩, ⟨720, 840, perRead 1⟩] ∧
      s.lastSettledBucket 0 = 840 ∧ s.usage = twoMinutes.usage :=
    ⟨_, rfl, rfl, rfl, rfl⟩
  rcases hreach with ⟨s, hrun, hsettled, hmark, husage⟩
  have hcalls : Meets settleNext Succeeds twoMinutes [callAt 725, callAt 700, callAt 845] := by
    apply meets_of_forall
    intro s c hc
    simp only [mem_cons, not_mem_nil, or_false] at hc
    rcases hc with rfl | rfl | rfl
    · exact callAt_succeeds (by decide)
    · exact callAt_succeeds (by decide)
    · exact callAt_succeeds (by decide)
  rcases windows_partition_time twoMinutes_started hcalls hrun with
    ⟨_, _, _, _, hcover, hbalance⟩
  refine ⟨s, hrun, by rw [hsettled]; rfl, ?_, ?_⟩
  · exact hcover ⟨660, 720, perRead 1⟩ (by simp [hsettled]) 660 (by decide) (by decide)
      (by rw [hmark]; decide)
  · have hcost : (s.settled.map fun w => w.cost s.usage ⟨5⟩).sum = 1000 := by
      rw [hsettled, husage]
      decide
    have hpaid := hbalance ⟨5⟩ (by decide) ?_ ?_
    · rwa [hcost] at hpaid
    · rw [hsettled, husage]
      intro w hw m
      simp only [mem_cons, not_mem_nil, or_false] at hw
      rcases hw with rfl | rfl
      · cases m <;> decide
      · cases m <;> decide
    · rw [hcost]
      decide

end Combee.Billing
