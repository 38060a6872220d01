import Combee.Billing.Settlement

/-!
# Rounds — what one round of settlement does

A round that opens a window and gets to its end has read every listed tenant once, has entered one
row for every tenant and metric of the window that has a price, and has moved the watermark to the
end of the window (`Closed`). A round that ends before has left the watermark where it was
(`Idle`).

`Due` is one total of a round, and `Entered` says which dues are in the ledger, and that nothing
else has been entered since the round began.
-/

namespace Combee.Billing

open Foundation Journal List
open Metadata (answer)

/-! ## Readings that stay current -/

/-- The same query gives the same buckets now. -/
def Reading.Current (x : Reading) (usage : List UsageBucket) : Prop :=
  x.buckets = queryUsage usage x.tenant none none x.window.start (x.window.finish - 60)

def Reading.Covers (x : Reading) (key : UsageKey) : Prop :=
  x.tenant = key.tenantId ∧ x.window.Covers key.bucketStart

variable {x : Reading}

lemma Reading.Current.usageAdd {usage : List UsageBucket} {key : UsageKey}
    {delta : Nat} (h : x.Current usage) (hkey : ¬ x.Covers key) :
    x.Current (usageAdd usage key delta) := by
  have hout : (decide (key.tenantId = x.tenant) && true && true &&
      decide (x.window.start ≤ key.bucketStart) &&
      decide (key.bucketStart ≤ x.window.finish - 60)) = false := by
    by_contra hin
    simp only [Bool.not_eq_false, Bool.and_eq_true, decide_eq_true_eq] at hin
    exact hkey ⟨hin.1.1.1.1.symm, hin.1.2, hin.2⟩
  exact h.trans (filter_usageAdd (q := fun k => decide (k.tenantId = x.tenant) && true && true &&
    decide (x.window.start ≤ k.bucketStart) &&
    decide (k.bucketStart ≤ x.window.finish - 60)) hout).symm

/-- The event leaves the ledger alone, and the buckets that have been read. -/
def Event.Harmless (reads : List Reading) : Event → Prop
  | .flush key _ => ∀ x ∈ reads, ¬ x.Covers key
  | .ledger _ => False
  | .createTenant _ => True

/-- Since `s₁` the round has read `reads`; only the ledger has changed, and no bucket that has been
read. -/
structure Reads (s₁ s : Metadata) (reads : List Reading) : Prop where
  tenants : s₁.tenants ⊆ s.tenants
  watermark : s.lastSettledBucket = s₁.lastSettledBucket
  settled : s.settled = s₁.settled
  readings : s.readings = s₁.readings
  pending : s.pending 0 = reads
  current : ∀ x ∈ s.readings ++ s.pending 0, x.Current s.usage

variable {s₁ s s' : Metadata} {reads : List Reading}

lemma Reads.event (h : Reads s₁ s reads) {e : Event} (he : e.Harmless (s.readings ++ s.pending 0))
    : Reads s₁ (s.event e) reads ∧ (s.event e).store = s.store := by
  cases e with
  | ledger call => exact he.elim
  | flush key delta =>
    refine ⟨⟨h.tenants, h.watermark, h.settled, h.readings, h.pending, ?_⟩, rfl⟩
    -- the bucket is in the range of no reading
    intro x hx
    exact (h.current x hx).usageAdd (he x hx)
  | createTenant t =>
    simp only [Metadata.event]
    split_ifs
    · exact ⟨h, rfl⟩
    · refine ⟨⟨?_, h.watermark, h.settled, h.readings, h.pending, h.current⟩, rfl⟩
      intro t' ht'
      simp [h.tenants ht']

lemma Reads.events (h : Reads s₁ s reads) {es : List Event}
    (hes : ∀ e ∈ es, e.Harmless (s.readings ++ s.pending 0)) :
    Reads s₁ (es.foldl Metadata.event s) reads ∧ (es.foldl Metadata.event s).store = s.store := by
  induction es generalizing s with
  | nil => exact ⟨h, rfl⟩
  | cons e es ih =>
    rcases h.event (hes e (by simp)) with ⟨hnext, hstore⟩
    have hsame : (s.event e).readings ++ (s.event e).pending 0 = s.readings ++ s.pending 0 := by
      rw [hnext.readings, hnext.pending, h.readings, h.pending]
    rcases ih hnext fun e' he' => hsame ▸ hes e' (by simp [he']) with ⟨hall, hstore'⟩
    exact ⟨hall, hstore'.trans hstore⟩

lemma Reads.append {txn : CreditTransaction} {charge : Charge} {clock : Int}
    (h : Reads s₁ s reads) : Reads s₁ (s.append txn charge clock).2 reads :=
  ⟨h.tenants, h.watermark, h.settled, h.readings, h.pending, h.current⟩

/-! ## Dues -/

structure Due where
  tenant : TenantId
  metric : UsageMetric
  total : Nat

/-- What is charged for a total; the storage gauge is free. -/
def Window.charge (w : Window) (metric : UsageMetric) (total : Nat) : Int :=
  if metric = .storageBytes then 0 else w.pricing.rate metric total

lemma Window.charge_nonneg {w : Window} {metric : UsageMetric} {total : Nat} :
    0 ≤ w.charge metric total := by
  unfold Window.charge
  split_ifs
  · exact le_refl 0
  · exact PricingConfig.rate_nonneg

namespace Due

def credits (w : Window) (d : Due) : Int :=
  w.charge d.metric d.total

def reference (w : Window) (d : Due) : String :=
  usageReference d.tenant d.metric w.start w.pricing.version

def key (d : Due) : TenantId × UsageMetric :=
  (d.tenant, d.metric)

def spend (w : Window) (balance : Int) (d : Due) : Int :=
  if d.credits w = 0 then balance else saturatingAdd balance (-d.credits w)

def of (t : TenantId) (p : UsageMetric × Nat) : Due :=
  ⟨t, p.1, p.2⟩

end Due

def Round.dues (r : Round) (x : Reading) : List Due :=
  (byMetric (r.order x.tenant) x.buckets).map (Due.of x.tenant)

/-! ## Entering dues -/

namespace InMemoryStore

lemma fresh_newUuid (s : InMemoryStore) : s.Fresh s.newUuid := by
  intro row hrow heq
  have hle : row.id ≤ (s.creditTransactions.map (·.id)).sum :=
    le_sum_of_mem (mem_map_of_mem hrow)
  rw [heq, newUuid] at hle
  omega

end InMemoryStore

/-- Since `c₁` the dues `done` have been entered and nothing else. -/
structure Entered (w : Window) (c₁ c : InMemoryStore) (done : List Due) : Prop where
  indexed : c.Indexed
  rows : ∃ new, c.creditTransactions = c₁.creditTransactions ++ new ∧
    (∀ row ∈ new, ∃ d ∈ done, row.referenceId = some (d.reference w)) ∧
    ∀ d ∈ done, d.credits w ≠ 0 → ∃ row ∈ new, row.tenantId = d.tenant ∧
      row.amountUnits = -d.credits w ∧ row.referenceId = some (d.reference w)
  balance : ∀ t, c.balance t =
    (done.filter fun d => d.tenant = t).foldl (Due.spend w) (c₁.balance t)

variable {w : Window} {c₁ c : InMemoryStore} {done : List Due} {d : Due}

def NewStart (w : Window) (c : InMemoryStore) : Prop :=
  ∀ row ∈ c.creditTransactions, ∀ t m v, row.referenceId ≠ some (usageReference t m w.start v)

namespace Entered

lemma refl (h : c.Indexed) : Entered w c c [] := by
  refine ⟨h, ⟨[], ?_, ?_, ?_⟩, ?_⟩
  · simp
  · simp
  · simp
  · intro t
    rfl

section

variable (h : Entered w c₁ c done)
include h

lemma skip (hd : d.credits w = 0) : Entered w c₁ c (done ++ [d]) := by
  rcases h.rows with ⟨new, hrows, hnew, hdone⟩
  refine ⟨h.indexed, ⟨new, hrows, ?_, ?_⟩, ?_⟩
  · intro row hrow
    rcases hnew row hrow with ⟨d', hd', href⟩
    exact ⟨d', mem_append_left _ hd', href⟩
  · exact forall_mem_append.mpr ⟨hdone, forall_mem_singleton.mpr (absurd hd)⟩
  · intro t
    rw [h.balance t]
    by_cases ht : d.tenant = t
    · simp [ht, Due.spend, hd]
    · simp [ht]

variable {txn : CreditTransaction}

lemma unposted (hstart : NewStart w c₁)
    (hkey : d.key ∉ done.map Due.key) (htxn : txn.referenceId = some (d.reference w)) :
    Unposted CreditTransaction.referenceId c.creditTransactions txn := by
  rcases h.rows with ⟨new, hrows, hnew, _⟩
  intro ref href row hrow hrowref
  have hrow' : row.referenceId = some (d.reference w) := hrowref.trans (href.symm.trans htxn)
  rw [hrows] at hrow
  -- rows from before the round have another start, rows of the round another tenant or metric
  rcases mem_append.mp hrow with hold | hrow
  · exact hstart row hold _ _ _ hrow'
  · rcases hnew row hrow with ⟨d', hd', href'⟩
    have heq : d'.reference w = d.reference w := Option.some.inj (href'.symm.trans hrow')
    rcases usageReference_injective heq with ⟨ht, hm, _, _⟩
    have hkey' : d'.key = d.key := by simp [Due.key, ht, hm]
    exact hkey (hkey' ▸ mem_map_of_mem hd')

lemma append {clock : Int}
    (hstart : NewStart w c₁) (hkey : d.key ∉ done.map Due.key) (hd : d.credits w ≠ 0)
    (htenant : txn.tenantId = d.tenant) (hamount : txn.amountUnits = -d.credits w)
    (href : txn.referenceId = some (d.reference w)) (hfresh : c.Fresh txn.id) :
    Entered w c₁ (c.appendCreditTransaction txn clock).2 (done ++ [d]) := by
  have hnew : Unposted CreditTransaction.referenceId c.creditTransactions txn :=
    h.unposted hstart hkey href
  have hstore : (c.appendCreditTransaction txn clock).2 = (c.book txn clock).2 := by
    have hnone := h.indexed.find_eq_none_iff.mpr hnew
    simp only [InMemoryStore.appendCreditTransaction, hnone]
  rw [hstore]
  rcases h.rows with ⟨new, hrows, hnewrows, hdone⟩
  refine ⟨h.indexed.book hfresh hnew, ⟨new ++ [(c.book txn clock).1], ?_, ?_, ?_⟩, ?_⟩
  · rw [hfresh.book_transactions, hrows, append_assoc]
  · refine forall_mem_append.mpr ⟨fun row hrow => ?_, forall_mem_singleton.mpr ?_⟩
    · rcases hnewrows row hrow with ⟨d', hd', href'⟩
      exact ⟨d', mem_append_left _ hd', href'⟩
    · exact ⟨d, by simp, href⟩
  · refine forall_mem_append.mpr
      ⟨fun d' hd' hcredits => ?_, forall_mem_singleton.mpr fun _ => ?_⟩
    · rcases hdone d' hd' hcredits with ⟨row, hrow, hrest⟩
      exact ⟨row, mem_append_left _ hrow, hrest⟩
    · exact ⟨_, mem_append_right _ (mem_singleton.mpr rfl), htenant, hamount, href⟩
  · intro t
    rw [InMemoryStore.book_balance, h.balance t]
    by_cases ht : d.tenant = t
    · simp [ht, htenant, hamount, Due.spend, hd]
    · have ht' : ¬ t = txn.tenantId := fun heq => ht (htenant ▸ heq.symm)
      simp [ht, ht']

end

lemma usageTransaction {tenant : TenantId} {metric : UsageMetric} {total : Nat} {now clock : Int}
    {charge : Charge} (h : Entered w c₁ s.store done) (hstart : NewStart w c₁)
    (hkey : (Due.mk tenant metric total).key ∉ done.map Due.key) (hgauge : metric ≠ .storageBytes)
    (hprice : w.pricing.rate metric total ≠ 0) :
    Entered w c₁ (s.append (Billing.usageTransaction tenant metric total
      (w.pricing.rate metric total) w now) charge clock).2.store
      (done ++ [Due.mk tenant metric total]) := by
  have hcredits : (Due.mk tenant metric total).credits w = w.pricing.rate metric total := by
    simp [Due.credits, Window.charge, hgauge]
  refine h.append hstart hkey ?_ rfl ?_ rfl (InMemoryStore.fresh_newUuid _)
  · rw [hcredits]
    exact hprice
  · rw [hcredits]
    rfl

end Entered

/-! ## Running a round -/

/-- Others leave alone what has been read, appends are applied, and other calls fail only before
anything is entered. -/
def Orderly (mayFail : Prop) (s₁ s : Metadata) (op : MetaOp) (o : Outside) : Prop :=
  (∀ e ∈ o.before, e.Harmless (s.readings ++ s.pending 0)) ∧
    match op with
    | .append _ _ => o.fault = none ∨ o.applied = true
    | .listTenants _ => o.fault = none ∨ mayFail ∧ s.store = s₁.store
    | .queryUsage _ _ _ _ => o.fault = none ∨ mayFail ∧ s.store = s₁.store
    | _ => True

/-- The program, run alone in an orderly way, ends with `Q`. -/
abbrev Does {α : Type} (mayFail : Prop) (s₁ : Metadata) (Q : α → Metadata → Prop)
    (p : SettleProg α) (s : Metadata) : Prop :=
  Prog.Secure (answer 0) Eq (Orderly mayFail s₁) (fun _ => True) Q p s

variable {mayFail : Prop}

lemma does_call {α : Type} {Q : α → Metadata → Prop} {op : MetaOp} {k : op.Res → SettleProg α}
    (h : ∀ o, Orderly mayFail s₁ s op o →
      Does mayFail s₁ Q (k (s.answer 0 op o).1) (s.answer 0 op o).2) :
    Does mayFail s₁ Q (.call op k) s := by
  intro s' hs o ho
  subst hs
  exact ⟨trivial, h o ho⟩

lemma does_settleMetrics {now : Int} {tenant : TenantId} {buckets : List UsageBucket}
    (hstart : NewStart w s₁.store) (totals : List (UsageMetric × Nat)) (written : Nat)
    (hreads : Reads s₁ s reads) (hentered : Entered w s₁.store s.store done)
    (hkeys : ((done ++ totals.map (Due.of tenant)).map Due.key).Nodup) :
    Does mayFail s₁
      (fun _ s => Reads s₁ s reads ∧
        Entered w s₁.store s.store (done ++ totals.map (Due.of tenant)))
      (settleMetrics now w tenant buckets totals written) s := by
  induction totals generalizing s done written with
  | nil => simpa using ⟨hreads, hentered⟩
  | cons entry rest ih =>
    rcases entry with ⟨metric, total⟩
    have hassoc : done ++ ((metric, total) :: rest).map (Due.of tenant) =
        (done ++ [Due.mk tenant metric total]) ++ rest.map (Due.of tenant) := by
      simp [Due.of]
    rw [hassoc] at hkeys ⊢
    unfold settleMetrics
    split_ifs with hgauge hfree
    · have hzero : (Due.mk tenant metric total).credits w = 0 := by
        simp [Due.credits, Window.charge, hgauge]
      exact ih written hreads (hentered.skip hzero) hkeys
    · have hzero : (Due.mk tenant metric total).credits w = 0 := by
        simp [Due.credits, Window.charge, hfree]
      exact ih written hreads (hentered.skip hzero) hkeys
    · apply does_call
      intro o ho
      rcases hreads.events ho.1 with ⟨hreads', hstore⟩
      have hkey : (Due.mk tenant metric total).key ∉ done.map Due.key := by
        rw [map_append, map_append, map_singleton] at hkeys
        exact disjoint_right.mp (disjoint_of_nodup_append hkeys.of_append_left)
          (mem_singleton_self _)
      have hentered' := hstore ▸ hentered
      -- the entry is made, whether the answer arrives or not
      cases hfault : o.fault with
      | none =>
        simp only [answer, hfault]
        exact ih _ hreads'.append (hentered'.usageTransaction hstart hkey hgauge hfree) hkeys
      | some message =>
        have happlied : o.applied = true := by simpa [hfault] using ho.2
        simp only [answer, hfault, happlied, if_true]
        exact ih _ hreads'.append (hentered'.usageTransaction hstart hkey hgauge hfree) hkeys

variable {r : Round}

lemma nodup_dues {new : List Reading} (h : (new.map Reading.tenant).Nodup) :
    ((new.flatMap r.dues).map Due.key).Nodup := by
  have hkeys : ∀ x, (r.dues x).map Due.key = ((r.order x.tenant).filter fun m =>
      x.buckets.any fun b => b.metric = m).map fun m => (x.tenant, m) := by
    intro x
    simp [Round.dues, byMetric, Due.of, Due.key, Function.comp_def]
  rw [map_flatMap, nodup_flatMap]
  constructor
  · intro x _
    rw [hkeys x]
    apply List.Nodup.map
    · intro m m' heq
      exact (Prod.mk.inj heq).2
    · exact ((r.order_perm x.tenant).nodup_iff.mpr UsageMetric.nodup_all).filter _
  · refine (pairwise_map.mp h).imp ?_
    intro x y hne key hx hy
    simp only [hkeys] at hx hy
    rcases mem_map.mp hx with ⟨_, _, rfl⟩
    rcases mem_map.mp hy with ⟨_, _, heq⟩
    exact hne (Prod.mk.inj heq).1.symm

structure Idle (s s' : Metadata) : Prop where
  store : s'.store = s.store
  tenants : s.tenants ⊆ s'.tenants
  watermark : s'.lastSettledBucket = s.lastSettledBucket
  settled : s'.settled = s.settled
  readings : s'.readings = s.readings
  current : ∀ x ∈ s'.readings, x.Current s'.usage

lemma Reads.idle (h : Reads s₁ s reads) (hstore : s.store = s₁.store) : Idle s₁ s :=
  ⟨hstore, h.tenants, h.watermark, h.settled, h.readings, fun x hx =>
    h.current x (mem_append_left _ hx)⟩

/-- The window is settled: the round has read `new`, and the dues of these readings are entered. -/
structure Closed (r : Round) (w : Window) (s s' : Metadata) (new : List Reading) : Prop where
  tenants : s.tenants ⊆ s'.tenants
  watermark : s'.lastSettledBucket 0 = w.finish
  settled : s'.settled = s.settled ++ [w]
  readings : s'.readings = s.readings ++ new
  window : ∀ x ∈ new, x.window = w
  current : ∀ x ∈ s'.readings, x.Current s'.usage
  entered : Entered w s.store s'.store (new.flatMap r.dues)

lemma Reads.query (h : Reads s₁ s reads) (w : Window) (tenant : TenantId) :
    Reads s₁ { s with
      pending := Function.update s.pending 0 (s.pending 0 ++
        [⟨w, tenant, queryUsage s.usage tenant none none w.start (w.finish - 60)⟩]) }
      (reads ++ [⟨w, tenant, queryUsage s.usage tenant none none w.start (w.finish - 60)⟩]) := by
  refine ⟨h.tenants, h.watermark, h.settled, h.readings, ?_, ?_⟩
  · simp [h.pending]
  · simp only [Function.update_self, ← append_assoc]
    exact forall_mem_append.mpr ⟨h.current, forall_mem_singleton.mpr rfl⟩

lemma does_settleTenants (hstart : NewStart w s₁.store) (tenants : List TenantId)
    (written : Nat) (hreads : Reads s₁ s reads) (hwindow : ∀ x ∈ reads, x.window = w)
    (hentered : Entered w s₁.store s.store (reads.flatMap r.dues))
    (hnodup : (reads.map Reading.tenant ++ tenants).Nodup) :
    Does mayFail s₁
      (fun res s' => (∃ new, new.map Reading.tenant = reads.map Reading.tenant ++ tenants ∧
          Closed r w s₁ s' new) ∨
        mayFail ∧ (∃ e, res = .error e) ∧ Idle s₁ s')
      (settleTenants r w tenants written) s := by
  induction tenants generalizing s reads written with
  | nil =>
    apply does_call
    intro o ho
    rcases hreads.events ho.1 with ⟨hreads', hstore⟩
    -- what was pending becomes a part of the finished readings
    refine .inl ⟨reads, by simp, ?_⟩
    refine ⟨hreads'.tenants, ?_, ?_, ?_, hwindow, hreads'.current, ?_⟩
    · simp [answer]
    · exact congrArg (· ++ [w]) hreads'.settled
    · exact congrArg₂ (· ++ ·) hreads'.readings hreads'.pending
    · exact hstore ▸ hentered
  | cons tenant rest ih =>
    apply does_call
    intro o ho
    rcases hreads.events ho.1 with ⟨hreads', hstore⟩
    cases hfault : o.fault with
    | some message =>
      -- the query fails, which it may only do while nothing has been entered
      have hfail : mayFail ∧ s.store = s₁.store := by simpa [hfault] using ho.2
      simp only [answer, hfault]
      exact .inr ⟨hfail.1, ⟨_, rfl⟩, hreads'.idle (hstore.trans hfail.2)⟩
    | none =>
      simp only [answer, hfault]
      have hquery := hreads'.query w tenant
      generalize queryUsage (o.before.foldl Metadata.event s).usage tenant none none w.start
        (w.finish - 60) = buckets at hquery ⊢
      have htenants : (reads ++ [Reading.mk w tenant buckets]).map Reading.tenant ++ rest =
          reads.map Reading.tenant ++ tenant :: rest := by
        simp
      have hdues : (reads ++ [Reading.mk w tenant buckets]).flatMap r.dues =
          reads.flatMap r.dues ++
            (byMetric (r.order tenant) buckets).map (Due.of tenant) := by
        simp [Round.dues]
      have hnodup' := htenants ▸ hnodup
      -- the totals of this tenant, then the other tenants
      apply Prog.secure_bind
      refine Prog.Secure.mono (fun {written s} hs => ?_)
        (does_settleMetrics hstart _ written hquery (hstore ▸ hentered) ?_)
      · rw [← htenants]
        refine ih written hs.1 ?_ (hdues ▸ hs.2) hnodup'
        exact forall_mem_append.mpr ⟨hwindow, forall_mem_singleton.mpr rfl⟩
      · rw [← hdues]
        exact nodup_dues hnodup'.of_append_left

/-! ## Whole rounds -/

variable {tenants : List TenantId}

lemma mem_withDefault {t : TenantId} :
    t ∈ withDefault tenants ↔ t ∈ tenants ∨ t = defaultTenant := by
  unfold withDefault
  split_ifs with h
  · constructor
    · exact .inl
    · rintro (ht | rfl)
      · exact ht
      · exact h
  · simp

lemma nodup_withDefault (h : tenants.Nodup) : (withDefault tenants).Nodup := by
  unfold withDefault
  split_ifs with hmem
  · exact h
  · rw [← concat_eq_append]
    exact h.concat hmem

/-- The tenants that are read: each once, among them those listed when the round began. -/
structure Listed (s : Metadata) (new : List Reading) : Prop where
  nodup : (new.map Reading.tenant).Nodup
  all : ∀ t ∈ withDefault s.tenants, t ∈ new.map Reading.tenant

def Outcome (mayFail : Prop) (r : Round) (s : Metadata) (res : Result Nat)
    (s' : Metadata) : Prop :=
  (r.window (s.lastSettledBucket 0) = none ∨ mayFail ∧ ∃ e, res = .error e) ∧ Idle s s' ∨
    ∃ w new, r.window (s.lastSettledBucket 0) = some w ∧ Listed s new ∧ Closed r w s s' new

lemma does_settleOnce (hindexed : s.store.Indexed)
    (hcurrent : ∀ x ∈ s.readings, x.Current s.usage) (hpending : s.pending 0 = [])
    (hstart : ∀ w, r.window (s.lastSettledBucket 0) = some w → NewStart w s.store) :
    Does mayFail s (Outcome mayFail r s) (settleOnce r) s := by
  have hreads : Reads s s [] := by
    refine ⟨List.Subset.refl _, rfl, rfl, rfl, hpending, ?_⟩
    simpa [hpending] using hcurrent
  apply does_call
  intro o ho
  rcases hreads.events ho.1 with ⟨hreads', hstore⟩
  have hload : (s.answer 0 .load o).1 = s.lastSettledBucket 0 := congrFun hreads'.watermark 0
  rw [hload]
  change Does mayFail s (Outcome mayFail r s) _ (o.before.foldl Metadata.event s)
  generalize o.before.foldl Metadata.event s = s' at hreads' hstore ⊢
  cases hwindow : r.window (s.lastSettledBucket 0) with
  | none => exact .inl ⟨.inl hwindow, hreads'.idle hstore⟩
  | some w =>
    apply does_call
    intro o' ho'
    rcases hreads'.events ho'.1 with ⟨hreads'', hstore'⟩
    cases hfault : o'.fault with
    | some message =>
      have hfail : mayFail ∧ s'.store = s.store := by simpa [hfault] using ho'.2
      simp only [answer, hfault]
      refine .inl ⟨.inr ⟨hfail.1, _, rfl⟩, ?_⟩
      have hidle := hreads''.idle (hstore'.trans hfail.2)
      exact ⟨hidle.store, hidle.tenants, hidle.watermark, hidle.settled, hidle.readings,
        hidle.current⟩
    | none =>
      simp only [answer, hfault]
      generalize o'.before.foldl Metadata.event s' = s'' at hreads'' hstore' ⊢
      have hopened : Reads s { s'' with opened := s''.opened ++ [w] } [] :=
        ⟨hreads''.tenants, hreads''.watermark, hreads''.settled, hreads''.readings,
          hreads''.pending, hreads''.current⟩
      refine Prog.Secure.mono ?_
        (does_settleTenants (hstart w hwindow) _ 0 hopened (by simp) ?_ ?_)
      · rintro res t (⟨new, hnew, hclosed⟩ | ⟨hfail, herr, hidle⟩)
        · refine .inr ⟨w, new, hwindow, ?_, hclosed⟩
          have hnew' : new.map Reading.tenant = withDefault s''.tenants := hnew
          constructor
          · rw [hnew']
            exact nodup_withDefault s''.nodup_tenants
          · intro t ht
            rw [hnew', mem_withDefault]
            exact (mem_withDefault.mp ht).imp_left fun hmem => hreads''.tenants hmem
        · exact .inl ⟨.inr ⟨hfail, herr⟩, hidle⟩
      · have hsame : s''.store = s.store := hstore'.trans hstore
        simpa [hsame] using Entered.refl hindexed
      · simpa using nodup_withDefault s''.nodup_tenants

/-! ## What a settled window has charged -/

namespace Reading

def total (x : Reading) (m : UsageMetric) : Nat :=
  metricTotal x.buckets m % 2 ^ 64

def charge (x : Reading) (m : UsageMetric) : Int :=
  x.window.charge m (x.total m)

def cost (x : Reading) : Int :=
  (UsageMetric.all.map x.charge).sum

variable {x : Reading} {m : UsageMetric}

lemma charge_eq_zero (h : (x.buckets.any fun b => b.metric = m) = false) : x.charge m = 0 := by
  have hnone : x.buckets.filter (fun b => b.metric = m) = [] := by
    rw [filter_eq_nil_iff]
    exact any_eq_false.mp h
  simp [charge, total, metricTotal, hnone, Window.charge, PricingConfig.rate_zero]

lemma cost_nonneg : 0 ≤ x.cost := by
  apply sum_nonneg
  intro credits hcredits
  rcases mem_map.mp hcredits with ⟨m, _, rfl⟩
  exact Window.charge_nonneg

end Reading

variable {r : Round}

lemma mem_dues {m : UsageMetric} (h : x.charge m ≠ 0) :
    Due.mk x.tenant m (x.total m) ∈ r.dues x := by
  have hm : m ∈ r.order x.tenant := (r.order_perm x.tenant).mem_iff.mpr m.mem_all
  have hbucket : (x.buckets.any fun b => b.metric = m) = true := by
    by_contra hnone
    exact h (Reading.charge_eq_zero (by simpa using hnone))
  refine mem_map.mpr ⟨(m, x.total m), ?_, rfl⟩
  exact mem_map.mpr ⟨m, mem_filter.mpr ⟨hm, hbucket⟩, rfl⟩

lemma sum_map_filter {α : Type*} {l : List α} {p : α → Bool} {f : α → Int}
    (h : ∀ a ∈ l, p a = false → f a = 0) : ((l.filter p).map f).sum = (l.map f).sum := by
  induction l with
  | nil => rfl
  | cons a l ih =>
    have hrest := ih fun a' ha' => h a' (by simp [ha'])
    cases hp : p a with
    | true => simp [hp, hrest]
    | false => simp [hp, hrest, h a (by simp) hp]

lemma sum_dues (hw : x.window = w) :
    ((r.dues x).map (Due.credits w)).sum = x.cost := by
  have hcredits : (r.dues x).map (Due.credits w) = ((r.order x.tenant).filter fun m =>
      x.buckets.any fun b => b.metric = m).map x.charge := by
    subst hw
    unfold Round.dues byMetric
    rw [map_map, map_map]
    rfl
  calc ((r.dues x).map (Due.credits w)).sum
      = ((r.order x.tenant).map x.charge).sum := by
        rw [hcredits]
        exact sum_map_filter fun m _ hm => Reading.charge_eq_zero hm
    _ = x.cost := ((r.order_perm x.tenant).map x.charge).sum_eq

/-- A balance that only goes down is exact until it reaches the bottom. -/
lemma foldl_spend {b : Int} (hb : FitsI64 b) (ds : List Due) :
    ds.foldl (Due.spend w) b = max (-(2 ^ 63)) (b - (ds.map (Due.credits w)).sum) := by
  induction ds generalizing b with
  | nil =>
    simpa using hb.1
  | cons d ds ih =>
    have hcredits : 0 ≤ d.credits w := Window.charge_nonneg
    have hsum : 0 ≤ (ds.map (Due.credits w)).sum := by
      apply sum_nonneg
      intro credits hmem
      rcases mem_map.mp hmem with ⟨_, _, rfl⟩
      exact Window.charge_nonneg
    -- one charge moves the balance down by its credits, or to the bottom
    have hspend : d.spend w b = max (-(2 ^ 63)) (b - d.credits w) := by
      rcases hb with ⟨hmin, hmax⟩
      unfold Due.spend saturatingAdd
      split_ifs with hzero
      · omega
      · have hle : b + -d.credits w ≤ i64Max := by omega
        rw [min_eq_right hle, ← sub_eq_add_neg]
    have hfits : FitsI64 (d.spend w b) := by
      rcases hb with ⟨hmin, hmax⟩
      rw [hspend]
      unfold FitsI64
      omega
    rw [foldl_cons, ih hfits, hspend, map_cons, sum_cons]
    omega

lemma filter_dues (new : List Reading) (t : TenantId) :
    (new.flatMap r.dues).filter (fun d => d.tenant = t) =
      (new.filter fun x => x.tenant = t).flatMap r.dues := by
  have htenant : ∀ x, ∀ d ∈ r.dues x, d.tenant = x.tenant := by
    intro x d hd
    rcases mem_map.mp hd with ⟨p, _, rfl⟩
    rfl
  have hdues : ∀ x, (r.dues x).filter (fun d => d.tenant = t) =
      if x.tenant = t then r.dues x else [] := by
    intro x
    split_ifs with hx
    · exact filter_eq_self.mpr fun d hd => by simp [htenant x d hd, hx]
    · exact filter_eq_nil_iff.mpr fun d hd => by simp [htenant x d hd, hx]
  induction new with
  | nil => rfl
  | cons x new ih => by_cases hx : x.tenant = t <;> simp [hx, hdues, ih]

namespace Closed

variable {r : Round} {new : List Reading}

lemma row (h : Closed r w s s' new) {x : Reading} (hx : x ∈ new) {m : UsageMetric}
    (hm : x.charge m ≠ 0) :
    ∃ row ∈ s'.store.creditTransactions, row.tenantId = x.tenant ∧
      row.amountUnits = -x.charge m ∧
      row.referenceId = some (usageReference x.tenant m w.start w.pricing.version) := by
  rcases h.entered.rows with ⟨rows, hrows, _, hdone⟩
  have hcredits : (Due.mk x.tenant m (x.total m)).credits w = x.charge m := by
    simp [Due.credits, Reading.charge, h.window x hx]
  have hdue : Due.mk x.tenant m (x.total m) ∈ new.flatMap r.dues :=
    mem_flatMap.mpr ⟨x, hx, mem_dues hm⟩
  rcases hdone _ hdue (hcredits ▸ hm) with ⟨row, hrow, htenant, hamount, href⟩
  refine ⟨row, ?_, htenant, hcredits ▸ hamount, href⟩
  rw [hrows]
  exact mem_append_right _ hrow

lemma balance (h : Closed r w s s' new) {t : TenantId} (hfits : FitsI64 (s.store.balance t)) :
    s'.store.balance t = max (-(2 ^ 63)) (s.store.balance t -
      ((new.filter fun x => x.tenant = t).map Reading.cost).sum) := by
  have hsum : ∀ l : List Reading, (∀ x ∈ l, x.window = w) →
      ((l.flatMap r.dues).map (Due.credits w)).sum = (l.map Reading.cost).sum := by
    intro l hl
    induction l with
    | nil => rfl
    | cons x l ih =>
      have hrest := ih fun y hy => hl y (by simp [hy])
      simp [hrest, sum_dues (hl x (by simp))]
  rw [h.entered.balance t, foldl_spend hfits, filter_dues, hsum]
  intro x hx
  exact h.window x (mem_filter.mp hx).1

end Closed

end Combee.Billing
