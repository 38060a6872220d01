import Combee.Billing.Settlement

/-!
# DoubleCharge — how often a usage bucket is charged

The ledger takes each reference once, and the reference of a usage entry names the tenant, the
metric, the start of the window and the pricing version. Two rounds with the same start and version
therefore charge only once. The watermark is kept in memory, one for each instance, so windows of
different instances can share minutes and start differently: then the shared minutes are charged
twice (`bucket_charged_twice`). Where windows that share a minute always have the same start and
version, every bucket is in at most one entry (`usage_charged_once`).
-/

namespace Combee.Billing

open Foundation Journal
open Metadata (answer)

/-! ## Any number of rounds -/

/-- A round of `settle_once` of the instance `inst`, at some call. -/
structure Settling where
  inst : Nat
  rest : SettleProg (Result Nat)

def Settling.act (s : Metadata) (_ : Nat) (p : Settling) (o : Outside) :
    Option (Metadata × Settling) :=
  match p.rest with
  | .ret _ => none
  | .call op k => some ((s.answer p.inst op o).2, ⟨p.inst, k (s.answer p.inst op o).1⟩)

/-- One call of one of the rounds; what others do comes before it. -/
def settleStep : Pool Metadata Nat Settling → PoolLabel Nat Outside Empty →
    Option (Pool Metadata Nat Settling) :=
  Pool.step Settling.act (fun _ e => e.elim) (fun _ p => p)

/-! ## What the entries are made of -/

/-- The charge is for buckets of its tenant and metric in its window, and the window was opened. -/
structure Charge.Formed (c : Charge) (opened : List Window) : Prop where
  window : c.window ∈ opened
  buckets : ∀ b ∈ c.buckets, b.tenantId = c.tenant ∧ b.metric = c.metric ∧
    c.window.Covers b.bucketStart

/-- Every charge is in the ledger under its own reference. -/
structure Recorded (s : Metadata) : Prop where
  distinct : Distinct (fun c => some c.reference) s.charges
  posted : ∀ c ∈ s.charges, (s.store.findTransactionByReference c.reference).isSome = true
  formed : ∀ c ∈ s.charges, c.Formed s.opened

variable {s s' : Metadata} {o : Outside} {inst : Nat} {w : Window} {charge : Charge}

lemma Recorded.event (h : Recorded s) (e : Event) : Recorded (s.event e) := by
  cases e with
  | flush key delta => exact ⟨h.distinct, h.posted, h.formed⟩
  | createTenant t =>
    simp only [Metadata.event]
    split_ifs
    · exact h
    · exact ⟨h.distinct, h.posted, h.formed⟩
  | ledger call =>
    refine ⟨h.distinct, ?_, h.formed⟩
    intro c hc
    exact InMemoryStore.perform_find_isSome (h.posted c hc)

lemma event_opened (s : Metadata) (e : Event) : (s.event e).opened = s.opened := by
  cases e with
  | flush | ledger => rfl
  | createTenant t =>
    simp only [Metadata.event]
    split_ifs
    · rfl
    · rfl

lemma Recorded.events (h : Recorded s) (es : List Event) :
    Recorded (es.foldl Metadata.event s) ∧ (es.foldl Metadata.event s).opened = s.opened := by
  induction es generalizing s with
  | nil => exact ⟨h, rfl⟩
  | cons e es ih =>
    rcases ih (h.event e) with ⟨hrec, hopened⟩
    exact ⟨hrec, hopened.trans (event_opened s e)⟩

variable {txn : CreditTransaction}

/-- An entry is new only if its reference is not in use, so its charge is the first under it. -/
lemma Recorded.append {clock : Int} (h : Recorded s)
    (href : txn.referenceId = some charge.reference) (hformed : charge.Formed s.opened) :
    Recorded (s.append txn charge clock).2 := by
  cases hfind : s.store.findTransactionByReference charge.reference with
  | some existing =>
    have hsame : (s.append txn charge clock).2 = s := by
      simp [Metadata.append, InMemoryStore.appendCreditTransaction, href, hfind]
    rw [hsame]
    exact h
  | none =>
    have hstore : (s.append txn charge clock).2.store =
        (s.store.book { txn with id := s.store.newUuid } clock).2 := by
      simp [Metadata.append, InMemoryStore.appendCreditTransaction, href, hfind]
    have hcharges : (s.append txn charge clock).2.charges = s.charges ++ [charge] := by
      simp [Metadata.append, href, hfind]
    constructor
    · rw [hcharges]
      refine distinct_concat.mpr ⟨h.distinct, ?_⟩
      intro ref hcharge c hc hcref
      have hposted := h.posted c hc
      have heq : c.reference = charge.reference := by simpa using hcref.trans hcharge.symm
      rw [heq, hfind] at hposted
      simp at hposted
    · rw [hcharges, hstore]
      exact List.forall_mem_append.mpr
        ⟨fun c hc => InMemoryStore.book_find_isSome (h.posted c hc),
          List.forall_mem_singleton.mpr (InMemoryStore.book_find_self href)⟩
    · rw [hcharges]
      exact List.forall_mem_append.mpr ⟨h.formed, List.forall_mem_singleton.mpr hformed⟩

/-! ## What a call does to the records -/

lemma Recorded.answer_append (h : Recorded s)
    (href : txn.referenceId = some charge.reference) (hformed : charge.Formed s.opened)
    (inst : Nat) (o : Outside) :
    Recorded (s.answer inst (.append txn charge) o).2 ∧
      (s.answer inst (.append txn charge) o).2.opened = s.opened := by
  rcases h.events o.before with ⟨hrec, hopened⟩
  have hafter : ∀ clock, Recorded ((o.before.foldl Metadata.event s).append txn charge clock).2 :=
    fun clock => hrec.append href (hopened ▸ hformed)
  simp only [answer]
  split
  · split_ifs
    · exact ⟨hafter _, hopened⟩
    · exact ⟨hrec, hopened⟩
  · exact ⟨hafter _, hopened⟩

lemma Recorded.answer_listTenants (h : Recorded s) (w : Window) (inst : Nat) (o : Outside) :
    Recorded (s.answer inst (.listTenants w) o).2 ∧
      (s.answer inst (.listTenants w) o).2.opened = s.opened ++ [w] := by
  rcases h.events o.before with ⟨hrec, hopened⟩
  have hafter : Recorded { o.before.foldl Metadata.event s with
      opened := (o.before.foldl Metadata.event s).opened ++ [w] } := by
    refine ⟨hrec.distinct, hrec.posted, ?_⟩
    intro c hc
    have hformed := hrec.formed c hc
    exact ⟨List.mem_append_left _ hformed.window, hformed.buckets⟩
  rw [← hopened]
  simp only [answer]
  split
  · exact ⟨hafter, rfl⟩
  · exact ⟨hafter, rfl⟩

lemma Recorded.answer_queryUsage (h : Recorded s) (w : Window) (tenant : TenantId)
    (fromBucket toBucket : Int) (inst : Nat) (o : Outside) :
    Recorded (s.answer inst (.queryUsage w tenant fromBucket toBucket) o).2 ∧
      (s.answer inst (.queryUsage w tenant fromBucket toBucket) o).2.opened = s.opened := by
  rcases h.events o.before with ⟨hrec, hopened⟩
  simp only [answer]
  split
  · exact ⟨hrec, hopened⟩
  · exact ⟨⟨hrec.distinct, hrec.posted, hrec.formed⟩, hopened⟩

variable {tenant : TenantId} {fromBucket toBucket : Int}

lemma mem_queryUsage {usage : List UsageBucket}
    {b : UsageBucket} (h : b ∈ queryUsage usage tenant none none fromBucket toBucket) :
    b.tenantId = tenant ∧ fromBucket ≤ b.bucketStart ∧ b.bucketStart ≤ toBucket := by
  simpa [queryUsage, and_assoc] using (List.mem_filter.mp h).2

variable {buckets : List UsageBucket}

lemma answer_queryUsage_ok
    (h : (s.answer inst (.queryUsage w tenant fromBucket toBucket) o).1 = .ok buckets) :
    ∀ b ∈ buckets, b.tenantId = tenant ∧ fromBucket ≤ b.bucketStart ∧
      b.bucketStart ≤ toBucket := by
  simp only [answer] at h
  split at h
  · cases h
  · cases h
    exact fun b hb => mem_queryUsage hb

/-! ## Between the calls of a round -/

/-- What a round can rely on while others act. -/
def Extends (s s' : Metadata) : Prop :=
  Recorded s' ∧ ∀ w ∈ s.opened, w ∈ s'.opened

lemma Extends.trans {s s' s'' : Metadata} (h : Extends s s') (h' : Extends s' s'') :
    Extends s s'' :=
  ⟨h'.1, fun w hw => h'.2 w (h.2 w hw)⟩

/-- The rest of a round keeps the records straight, whatever others do between its calls. -/
abbrev Careful {α : Type} (inst : Nat) (Q : α → Metadata → Prop) (p : SettleProg α)
    (s : Metadata) : Prop :=
  Prog.Secure (answer inst) Extends (fun _ _ _ => True) Recorded Q p s

lemma careful_settleMetrics {now : Int}
    (hbuckets : ∀ b ∈ buckets, b.tenantId = tenant ∧ w.Covers b.bucketStart)
    (totals : List (UsageMetric × Nat)) (written : Nat) (hw : w ∈ s.opened) :
    Careful inst (fun _ s => w ∈ s.opened)
      (settleMetrics now w tenant buckets totals written) s := by
  induction totals generalizing s written with
  | nil => exact hw
  | cons entry rest ih =>
    rcases entry with ⟨metric, total⟩
    unfold settleMetrics
    split_ifs
    · exact ih written hw
    · exact ih written hw
    · intro s' hs o _
      have hw' : w ∈ s'.opened := hs.2 w hw
      have hformed : Charge.Formed ⟨w, tenant, metric, buckets.filter fun b => b.metric = metric⟩
          s'.opened := by
        refine ⟨hw', ?_⟩
        intro b hb
        rcases List.mem_filter.mp hb with ⟨hmem, hmetric⟩
        exact ⟨(hbuckets b hmem).1, by simpa using hmetric, (hbuckets b hmem).2⟩
      have href : (usageTransaction tenant metric total (w.pricing.rate metric total) w
          now).referenceId = some (Charge.reference ⟨w, tenant, metric, buckets.filter fun b =>
          b.metric = metric⟩) := rfl
      rcases hs.1.answer_append href hformed inst o with ⟨hrec, hopened⟩
      refine ⟨hrec, ?_⟩
      -- the loop goes on, whether the append has failed or not
      generalize (s'.answer inst (.append _ _) o).1 = res
      cases res with
      | ok | error => exact ih _ (hopened ▸ hw')

lemma careful_settleTenants {r : Round} (tenants : List TenantId) (written : Nat)
    (hw : w ∈ s.opened) : Careful inst (fun _ _ => True) (settleTenants r w tenants written) s := by
  induction tenants generalizing s written with
  | nil =>
    intro s' hs o _
    rcases hs.1.events o.before with ⟨hrec, _⟩
    exact ⟨⟨hrec.distinct, hrec.posted, hrec.formed⟩, trivial⟩
  | cons tenant rest ih =>
    intro s' hs o _
    have hw' : w ∈ s'.opened := hs.2 w hw
    rcases hs.1.answer_queryUsage w tenant w.start (w.finish - 60) inst o with ⟨hrec, hopened⟩
    refine ⟨hrec, ?_⟩
    cases hres : (s'.answer inst (.queryUsage w tenant w.start (w.finish - 60)) o).1 with
    | error e => trivial
    | ok buckets =>
      apply Prog.secure_bind
      refine Prog.Secure.mono (fun {written s} hs => ih written hs) ?_
      refine careful_settleMetrics ?_ _ written (hopened ▸ hw')
      intro b hb
      exact answer_queryUsage_ok hres b hb

lemma careful_settleOnce (r : Round) (s : Metadata) :
    Careful inst (fun _ _ => True) (settleOnce r) s := by
  intro s' hs o _
  rcases hs.1.events o.before with ⟨hrec, _⟩
  refine ⟨hrec, ?_⟩
  generalize (s'.answer inst .load o).1 = last
  cases hwindow : r.window last with
  | none =>
    simp only [hwindow]
    trivial
  | some w =>
    simp only [hwindow]
    intro s'' hs' o' _
    rcases hs'.1.answer_listTenants w inst o' with ⟨hrec', hopened⟩
    refine ⟨hrec', ?_⟩
    generalize (s''.answer inst (.listTenants w) o').1 = res
    cases res with
    | error e => trivial
    | ok tenants => exact careful_settleTenants _ 0 (by rw [hopened]; simp)

/-! ## All rounds together -/

lemma extends_of_recorded (hs : Recorded s) (op : MetaOp) (o : Outside)
    (hrec : Recorded (s.answer inst op o).2) : Extends s (s.answer inst op o).2 := by
  refine ⟨hrec, ?_⟩
  intro w hw
  have hopened := (hs.events o.before).2
  cases op with
  | load | store => exact hopened ▸ hw
  | listTenants w' =>
    rw [(hs.answer_listTenants w' inst o).2]
    exact List.mem_append_left _ hw
  | queryUsage w' tenant fromBucket toBucket =>
    rw [(hs.answer_queryUsage w' tenant fromBucket toBucket inst o).2]
    exact hw
  | append txn charge =>
    have hsame : (s.answer inst (.append txn charge) o).2.opened =
        (o.before.foldl Metadata.event s).opened := by
      simp only [answer]
      split
      · split_ifs <;> rfl
      · rfl
    rw [hsame, hopened]
    exact hw

lemma recorded_step {s s' : Pool Metadata Nat Settling} {l : PoolLabel Nat Outside Empty}
    (hs : Pool.Inv Recorded (fun g _ p => Careful p.inst (fun _ _ => True) p.rest g) s)
    (h : settleStep s l = some s') :
    Pool.Inv Recorded (fun g _ p => Careful p.inst (fun _ _ => True) p.rest g) s' := by
  have hcall : ∀ {i o g p}, Settling.act s.shared i (s.procs i) o = some (g, p) →
      Recorded g ∧ Careful p.inst (fun _ _ => True) p.rest g ∧ Extends s.shared g := by
    intro i o g p hact
    have hcareful := hs.procs i
    unfold Settling.act at hact
    split at hact
    · cases hact
    · rename_i op k hrest
      cases hact
      rw [hrest] at hcareful
      rcases Prog.Secure.call (o := o) hcareful ⟨hs.shared, fun _ hw => hw⟩ trivial with
        ⟨hrec, hnext⟩
      exact ⟨hrec, hnext, extends_of_recorded hs.shared op o hrec⟩
  refine Pool.step_inv ?_ ?_ (fun {e} => e.elim) hs h
  · intro i o g p _ hact
    exact ⟨(hcall hact).1, (hcall hact).2.1⟩
  · intro i o g p _ hact j _ hj
    have hext : Extends s.shared g := (hcall hact).2.2
    refine Prog.Secure.rely ?_ ?_ hj hext
    · exact fun h h' => h.trans h'
    · exact fun _ _ => trivial

def Aligned (opened : List Window) : Prop :=
  ∀ w ∈ opened, ∀ w' ∈ opened, ∀ bucket, w.Covers bucket → w'.Covers bucket →
    w.start = w'.start ∧ w.pricing.version = w'.pricing.version

/-- If windows that share a minute start together and have the same prices, no bucket is in the
totals of two usage entries. -/
theorem usage_charged_once {s₀ s : Pool Metadata Nat Settling}
    {ls : List (PoolLabel Nat Outside Empty)} (h₀ : s₀.shared.charges = [])
    (hstart : ∀ i, ∃ inst r, s₀.procs i = ⟨inst, settleOnce r⟩)
    (hrun : exec settleStep s₀ ls = some s) (haligned : Aligned s.shared.opened) :
    s.shared.charges.Pairwise fun c c' => ∀ b ∈ c.buckets, ∀ b' ∈ c'.buckets,
      b.toUsageKey ≠ b'.toUsageKey := by
  have hinv₀ : Pool.Inv Recorded (fun g _ p => Careful p.inst (fun _ _ => True) p.rest g) s₀ := by
    constructor
    · constructor
      · rw [h₀]
        exact distinct_nil
      · simp [h₀]
      · simp [h₀]
    · intro i
      rcases hstart i with ⟨inst, r, hi⟩
      rw [hi]
      exact careful_settleOnce r s₀.shared
  have hrec : Recorded s.shared :=
    (inv_of_exec_all (fun hs h => recorded_step hs h) hinv₀ hrun).shared
  apply List.Pairwise.imp_of_mem _ hrec.distinct
  intro c c' hc hc' hdistinct b hb b' hb' hkey
  rcases (hrec.formed c hc).buckets b hb with ⟨htenant, hmetric, hcovers⟩
  rcases (hrec.formed c' hc').buckets b' hb' with ⟨htenant', hmetric', hcovers'⟩
  rw [hkey] at htenant hmetric hcovers
  -- the two windows share the minute of the bucket, so the references are the same
  rcases haligned c.window (hrec.formed c hc).window c'.window (hrec.formed c' hc').window
    b'.bucketStart hcovers hcovers' with ⟨hwindow, hversion⟩
  have href : c'.reference = c.reference := by
    unfold Charge.reference
    rw [← htenant, ← hmetric, ← htenant', ← hmetric', hwindow, hversion]
  exact hdistinct c.reference rfl (congrArg some href)

def roundsAt (rounds : List (Nat × Int)) (i : Nat) : Settling :=
  ⟨(rounds.getD i (0, 0)).1, settleOnce (roundAt (rounds.getD i (0, 0)).2)⟩

/-- Two instances settle the minute `660` at the same time; one entry is written. -/
theorem usage_charged_once_overlap :
    ∃ s, exec settleStep ⟨twoMinutes, roundsAt [(0, 725), (1, 730)]⟩
        [.proc 0 {}, .proc 1 {}, .proc 0 {}, .proc 1 {}, .proc 0 {}, .proc 1 {}, .proc 0 {},
          .proc 1 {}, .proc 0 {}, .proc 1 {}, .proc 0 {}, .proc 1 {}] = some s ∧
      s.shared.store.balance ⟨5⟩ = -1000 ∧ s.shared.charges.length = 1 ∧
      s.shared.opened.length = 2 ∧
      s.shared.charges.Pairwise fun c c' => ∀ b ∈ c.buckets, ∀ b' ∈ c'.buckets,
        b.toUsageKey ≠ b'.toUsageKey := by
  have hreach : ∃ s, exec settleStep ⟨twoMinutes, roundsAt [(0, 725), (1, 730)]⟩
        [.proc 0 {}, .proc 1 {}, .proc 0 {}, .proc 1 {}, .proc 0 {}, .proc 1 {}, .proc 0 {},
          .proc 1 {}, .proc 0 {}, .proc 1 {}, .proc 0 {}, .proc 1 {}] = some s ∧
      s.shared.store.balance ⟨5⟩ = -1000 ∧ s.shared.charges.length = 1 ∧
      s.shared.opened = [⟨660, 720, perRead 1⟩, ⟨660, 720, perRead 1⟩] :=
    ⟨_, rfl, by decide, rfl, rfl⟩
  rcases hreach with ⟨s, hs, hbalance, hcharges, hopened⟩
  refine ⟨s, hs, hbalance, hcharges, by rw [hopened]; rfl, usage_charged_once rfl ?_ hs ?_⟩
  · exact fun i => ⟨_, _, rfl⟩
  · rw [hopened]
    intro w hw w' hw' bucket _ _
    simp only [List.mem_cons, List.not_mem_nil, or_false, or_self] at hw hw'
    rw [hw, hw']
    exact ⟨rfl, rfl⟩

/-- Instance `0` settles two minutes together, and instance `1` settles the second of them: the
tenant pays for 3000 reads. -/
theorem bucket_charged_twice :
    ∃ s, exec settleStep ⟨twoMinutes, roundsAt [(0, 600), (0, 725), (1, 730)]⟩
        [.proc 0 {}, .proc 0 {}, .proc 0 {}, .proc 0 {}, .proc 0 {},
          .proc 1 {}, .proc 1 {}, .proc 1 {}, .proc 1 {}, .proc 1 {}, .proc 1 {},
          .proc 2 {}, .proc 2 {}, .proc 2 {}, .proc 2 {}, .proc 2 {}, .proc 2 {}] = some s ∧
      s.shared.charges.map (fun c => (c.reference, c.buckets.map (·.bucketStart))) =
        [("usage:5:kv_read:600:1", [600, 660]), ("usage:5:kv_read:660:1", [660])] ∧
      s.shared.store.creditTransactions.map (fun row => (row.referenceId, row.amountUnits)) =
        [(some "usage:5:kv_read:600:1", -2000), (some "usage:5:kv_read:660:1", -1000)] ∧
      s.shared.store.balance ⟨5⟩ = -3000 :=
  ⟨_, rfl, rfl, rfl, by decide⟩

end Combee.Billing
