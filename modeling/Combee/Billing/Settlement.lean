import Combee.Billing.InMemory
import Combee.Billing.Usage
import Combee.Foundation.Program

/-!
# Settlement — from usage buckets to ledger entries

`settle_once` is a program of calls to the metadata store and to the watermark of its instance: it
reads the watermark, lists the tenants, and for each tenant queries the window, adds the buckets up
for each metric and appends one entry for each total with a price. A failing query ends the round;
a failing append, which may have been applied, does not. Before each call other users of the
metadata store may act.

The state keeps records that the program only writes: the windows (`opened`, `settled`), what the
rounds had read (`readings`, `pending`), and what each usage entry was made of (`charges`).
-/

namespace Combee.Billing

open Foundation Journal

/-! ## The metadata store as settlement sees it -/

/-- The minutes from `start` to before `finish`, and the prices that are used for them. -/
structure Window where
  start : Int
  finish : Int
  pricing : PricingConfig

def Window.Covers (w : Window) (bucket : Int) : Prop :=
  w.start ≤ bucket ∧ bucket ≤ w.finish - 60

instance (w : Window) (bucket : Int) : Decidable (w.Covers bucket) :=
  inferInstanceAs (Decidable (_ ∧ _))

structure Charge where
  window : Window
  tenant : TenantId
  metric : UsageMetric
  buckets : List UsageBucket

def Charge.reference (c : Charge) : String :=
  usageReference c.tenant c.metric c.window.start c.window.pricing.version

structure Reading where
  window : Window
  tenant : TenantId
  buckets : List UsageBucket

structure Metadata where
  store : InMemoryStore
  usage : List UsageBucket
  tenants : List TenantId
  nodup_tenants : tenants.Nodup
  /-- `last_settled_bucket` of each instance. -/
  lastSettledBucket : Nat → Int
  opened : List Window
  settled : List Window
  /-- What the round under way of each instance has read. -/
  pending : Nat → List Reading
  /-- What the rounds that got to the end have read. -/
  readings : List Reading
  charges : List Charge

inductive Event where
  | flush (key : UsageKey) (delta : Nat)
  | ledger (call : InMemoryStore.LedgerCall)
  | createTenant (t : TenantId)

def Metadata.event (s : Metadata) : Event → Metadata
  | .flush key delta => { s with usage := usageAdd s.usage key delta }
  | .ledger call => { s with store := s.store.perform call }
  | .createTenant t =>
    if h : t ∈ s.tenants then s
    else { s with
      tenants := s.tenants.concat t
      nodup_tenants := List.Nodup.concat h s.nodup_tenants }

def InMemoryStore.newUuid (s : InMemoryStore) : Nat :=
  (s.creditTransactions.map (·.id)).sum + 1

def Metadata.append (s : Metadata) (txn : CreditTransaction) (charge : Charge) (clock : Int) :
    CreditTransaction × Metadata :=
  let r := s.store.appendCreditTransaction { txn with id := s.store.newUuid } clock
  let new := (txn.referenceId.bind s.store.findTransactionByReference).isNone
  (r.1, { s with store := r.2, charges := if new then s.charges ++ [charge] else s.charges })

/-! ## Calls -/

/-- The calls of `settle_once`; the windows and the charge are there for the records only. -/
inductive MetaOp where
  | load
  | listTenants (w : Window)
  | queryUsage (w : Window) (tenant : TenantId) (fromBucket toBucket : Int)
  | append (txn : CreditTransaction) (charge : Charge)
  | store (bucket : Int) (w : Window)

def MetaOp.Res : MetaOp → Type
  | .load => Int
  | .listTenants _ => Result (List TenantId)
  | .queryUsage _ _ _ _ => Result (List UsageBucket)
  | .append _ _ => Result CreditTransaction
  | .store _ _ => Unit

/-- What others do before a call, whether the call fails, and what the clock says then. -/
structure Outside where
  before : List Event := []
  fault : Option String := none
  applied : Bool := false
  clock : Int := 0

/-- One call of the instance `inst`. -/
def Metadata.answer (inst : Nat) (s₀ : Metadata) (op : MetaOp) (o : Outside) :
    op.Res × Metadata :=
  let s := o.before.foldl Metadata.event s₀
  match op with
  | .load => (s.lastSettledBucket inst, s)
  | .listTenants w =>
    let s := { s with opened := s.opened ++ [w] }
    match o.fault with
    | some message => (.error (.internal message), s)
    | none => (.ok s.tenants, s)
  | .queryUsage w tenant fromBucket toBucket =>
    match o.fault with
    | some message => (.error (.internal message), s)
    | none =>
      let buckets := Billing.queryUsage s.usage tenant none none fromBucket toBucket
      (.ok buckets, { s with
        pending := Function.update s.pending inst (s.pending inst ++ [⟨w, tenant, buckets⟩]) })
  | .append txn charge =>
    match o.fault with
    -- the answer is lost, the entry may have been made
    | some message =>
      (.error (.internal message), if o.applied then (s.append txn charge o.clock).2 else s)
    | none => (.ok (s.append txn charge o.clock).1, (s.append txn charge o.clock).2)
  | .store bucket w =>
    ((), { s with
      lastSettledBucket := Function.update s.lastSettledBucket inst bucket
      settled := s.settled ++ [w]
      pending := Function.update s.pending inst []
      readings := s.readings ++ s.pending inst })

/-! ## The program -/

/-- What a round reads: the clock, the active prices, and the order in which each tenant's totals
come out of their `HashMap`. -/
structure Round where
  now : Int
  pricing : PricingConfig
  order : TenantId → List UsageMetric
  order_perm : ∀ t, (order t).Perm UsageMetric.all

def usageTransaction (tenant : TenantId) (metric : UsageMetric) (total : Nat) (credits : Int)
    (w : Window) (now : Int) : CreditTransaction where
  id := 0
  tenantId := tenant
  txnType := .usage
  amountUnits := -credits
  pricingVersion := some w.pricing.version
  referenceId := some (usageReference tenant metric w.start w.pricing.version)
  description := some ("usage " ++ metric.asStr ++ "(" ++ toString total ++ ")")
  createdAt := now
  balanceAfter := none

abbrev SettleProg := Prog MetaOp MetaOp.Res

/-- The loop over the totals of a tenant; an append that fails is only logged. -/
def settleMetrics (now : Int) (w : Window) (tenant : TenantId) (buckets : List UsageBucket) :
    List (UsageMetric × Nat) → Nat → SettleProg Nat
  | [], written => .ret written
  | (metric, total) :: rest, written =>
    -- snapshots are not charged
    if metric = .storageBytes then settleMetrics now w tenant buckets rest written
    else if w.pricing.rate metric total = 0 then settleMetrics now w tenant buckets rest written
    else
      .call (.append
        (usageTransaction tenant metric total (w.pricing.rate metric total) w now)
        ⟨w, tenant, metric, buckets.filter fun b => b.metric = metric⟩) fun
      | .ok _ => settleMetrics now w tenant buckets rest (written + 1)
      | .error _ => settleMetrics now w tenant buckets rest written

/-- The loop over the tenants, and the store of the watermark behind it. -/
def settleTenants (r : Round) (w : Window) :
    List TenantId → Nat → SettleProg (Result Nat)
  -- the watermark moves on whatever has become of the appends
  | [], written => .call (.store w.finish w) fun _ => .ret (.ok written)
  | tenant :: rest, written =>
    .call (.queryUsage w tenant w.start (w.finish - 60)) fun
    -- the `?` at the query leaves the loop before the watermark is stored
    | .error e => .ret (.error e)
    | .ok buckets =>
      (settleMetrics r.now w tenant buckets (byMetric (r.order tenant) buckets) written).bind
        (settleTenants r w rest)

/-- The default tenant takes part also if it was never created. -/
def withDefault (tenants : List TenantId) : List TenantId :=
  if defaultTenant ∈ tenants then tenants else tenants ++ [defaultTenant]

/-- The window of a round that reads the watermark `last`, if there is anything to settle. -/
def Round.window (r : Round) (last : Int) : Option Window :=
  let current := bucketStart r.now
  -- the first round settles the minute before
  let start := if last = 0 then current - 60 else last
  if current ≤ start then none else some ⟨start, current, r.pricing⟩

def settleOnce (r : Round) : SettleProg (Result Nat) :=
  .call .load fun last =>
    match r.window last with
    | none => .ret (.ok 0)
    | some w => .call (.listTenants w) fun
      | .error e => .ret (.error e)
      | .ok tenants => settleTenants r w (withDefault tenants) 0

/-! ## An example -/

/-- One microcredit for each read, in version `version`. -/
def perRead (version : Int) : PricingConfig where
  version := version
  rules m := if m = .kvRead then some (1, 1) else none

/-- A thousand reads of tenant `5` in each of the minutes `600` and `660`, and nothing settled. -/
def twoMinutes : Metadata where
  store := InMemoryStore.oneVoucher
  usage := [⟨⟨⟨5⟩, none, .kvRead, 600⟩, 1000⟩, ⟨⟨⟨5⟩, none, .kvRead, 660⟩, 1000⟩]
  tenants := [⟨5⟩]
  nodup_tenants := by decide
  lastSettledBucket _ := 0
  opened := []
  settled := []
  pending _ := []
  readings := []
  charges := []

def roundAt (now : Int) : Round where
  now := now
  pricing := perRead 1
  order _ := UsageMetric.all
  order_perm _ := .refl _

end Combee.Billing
