import Combee.Billing.InMemory
import Combee.Billing.Linearizable

/-!
# Vouchers — paying out once, on both metadata stores

`credits_redeem` looks for the ledger row of the voucher, redeems the voucher if there is none, and
reads the balance of the caller, in separate calls. `PaidOnce` compares two moments: nothing has
happened to the voucher and the balances, or the voucher is now marked for one tenant, whose balance
alone has grown, by its amount. PostgreSQL keeps to it under every interleaving, and the in-memory
store until an addition saturates (`voucher_swallowed`).
-/

namespace Combee.Billing

open Foundation Journal
open InMemoryStore

/-- Nothing has changed, or the voucher is marked for a tenant who has got its amount, and nobody
else has got anything. -/
def PaidOnce (v₀ v : Option CreditVoucher) (b₀ b : TenantId → Int) : Prop :=
  (v = v₀ ∧ b = b₀) ∨
  ∃ voucher t now, v₀ = some voucher ∧ voucher.status = .active ∧
    v = some (voucher.redeemed t now) ∧ b = Function.update b₀ t (b₀ t + voucher.amountUnits)

lemma PaidOnce.unpaid {v₀ v : Option CreditVoucher} {b₀ b : TenantId → Int}
    {voucher : CreditVoucher} (h : PaidOnce v₀ v b₀ b) (hv : v = some voucher)
    (hactive : voucher.status = .active) : v₀ = some voucher ∧ b = b₀ := by
  rcases h with ⟨hsame, hb⟩ | ⟨voucher', t, now, _, _, hmarked, _⟩
  · exact ⟨hsame ▸ hv, hb⟩
  · have heq : voucher'.redeemed t now = voucher := Option.some.inj (hmarked.symm.trans hv)
    simp [← heq, CreditVoucher.redeemed] at hactive

/-! ## PostgreSQL -/

namespace Postgres

variable {g g' : Server} {i : Nat} {pc pc' : Pc} {c : Choice} {hash : String}

/-- The session serves a request for the voucher `hash`. -/
def ForVoucher (hash : String) : Pc → Prop
  | .check r => r.codeHash = hash
  | .beginRedeem r _ => r.codeHash = hash
  | .mark r _ => r.codeHash = hash
  | .insert (.redeem r _ _) _ => r.codeHash = hash
  | .upsert (.redeem r _ _) _ => r.codeHash = hash
  | .commit (.redeem r _ _) _ _ => r.codeHash = hash
  | .account _ _ _ => True
  | .openAccount _ _ _ => True
  | .drop _ => True
  | .answered _ => True
  | _ => False

lemma ForVoucher.act (hpc : ForVoucher hash pc) (h : act g i pc c = some (g', pc')) :
    ForVoucher hash pc' := by
  cases act_move h with
  | lookup | begin | conflict | rollback => exact hpc.elim
  | @insert w | @upsert w =>
    cases w with
    | append => exact hpc.elim
    | redeem r marked handler => exact hpc
  | @commit w =>
    cases w with
    | append => trivial
    | redeem r marked handler => cases handler <;> trivial
  | check | beginRedeem | mark => exact hpc
  | _ => trivial

/-- What the requests have done to the voucher and the balances since the tables `db`. -/
def Paid (hash : String) (db : Tables) (g : Server) : Prop :=
  PaidOnce (db.creditVouchers hash) (g.tables.creditVouchers hash) db.balance g.tables.balance

lemma Paid.commit {db : Tables} {r : Redeem} {marked : CreditVoucher} {handler : Bool}
    {row : CreditTransaction} {account : CreditAccount} (hpaid : Paid r.codeHash db g)
    (hpc : Holds g i (.commit (.redeem r marked handler) row account)) :
    Paid r.codeHash db (g.commit i (.redeem r marked handler) row account) := by
  rcases hpc with ⟨⟨_, voucher, id, hvoucher, hactive, rfl, rfl⟩, _, hacc⟩
  rcases hpaid.unpaid hvoucher hactive with ⟨hv0, hb⟩
  have hbalance := hacc.balance
  refine .inr ⟨voucher, r.tenant, r.now, hv0, hactive, Function.update_self _ _ _, ?_⟩
  funext t
  rw [commit_tables, commit_balance, ← hb]
  by_cases ht : t = r.tenant
  · subst ht
    simpa [voucherTransaction] using hbalance
  · simp [voucherTransaction, ht]

lemma paid_step {db : Tables} {s s' : Pool Server Nat Pc} {l : PoolLabel Nat Choice Empty}
    (hs : Pool.Inv (Paid hash db) (fun g i pc => Holds g i pc ∧ ForVoucher hash pc) s)
    (h : step s l = some s') :
    Pool.Inv (Paid hash db) (fun g i pc => Holds g i pc ∧ ForVoucher hash pc) s' := by
  refine Pool.step_inv ?_ ?_ (fun {e} => e.elim) hs h
  · intro i c g' pc' _ hact
    have hfor := (hs.procs i).2.act hact
    rcases act_cases hact with hquiet | ⟨w, row, account, hpc, rfl, hafter⟩ |
      ⟨r, credits, already, now, reply, hpc, _, hnone, rfl, rfl, _⟩
    · refine ⟨?_, hquiet.holds (hs.procs i).1, hfor⟩
      rw [Paid, hquiet.silent.tables]
      exact hs.shared
    · have hholds := hpc ▸ (hs.procs i).1
      have hmine := hpc ▸ (hs.procs i).2
      cases w with
      | append => exact hmine.elim
      | redeem r marked handler =>
        have hcode : r.codeHash = hash := hmine
        subst hcode
        refine ⟨hs.shared.commit hholds, ?_, hfor⟩
        rcases hafter with rfl | ⟨e, rfl⟩
        · cases handler <;> trivial
        · trivial
    · refine ⟨?_, trivial, hfor⟩
      have hbalance : (s.shared.tables.openAccount r.tenant now).balance =
          s.shared.tables.balance := by
        funext t
        exact openAccount_balance hnone
      rw [Paid]
      exact hbalance ▸ hs.shared
  · intro i c g' pc' _ hact j hji hj
    exact ⟨(act_spares (hs.procs i).1 hact hji).holds hj.1, hj.2⟩

end Postgres

/-! ## The in-memory store -/

namespace InMemoryStore

inductive HandlerPc where
  | check (r : Redeem)
  | redeem (r : Redeem)
  | account (r : Redeem) (creditsAdded : Int) (alreadyRedeemed : Bool)
  | answered (reply : Reply)

structure Reading where
  uuid : Nat := 0
  clock : Int := 0

def creditsRedeem (s : InMemoryStore) (_ : Nat) (pc : HandlerPc) (c : Reading) :
    Option (InMemoryStore × HandlerPc) :=
  match pc with
  | .check r =>
    match s.findTransactionByReference (voucherRef r.codeHash) with
    | some txn => some (s, .account r txn.amountUnits true)
    | none => some (s, .redeem r)
  | .redeem r =>
    match s.redeemVoucher r.codeHash r.tenant r.now c.uuid with
    | (.ok amount, s') => some (s', .account r amount false)
    | (.error e, s') => some (s', .answered (.failed e))
  | .account r credits already =>
    let (account, s') := s.getCreditAccount r.tenant c.clock
    some (s', .answered (.response credits account.balanceUnits already))
  | .answered _ => none

def serve : Pool InMemoryStore Nat HandlerPc → PoolLabel Nat Reading Empty →
    Option (Pool InMemoryStore Nat HandlerPc) :=
  Pool.step creditsRedeem (fun _ e => e.elim) (fun _ pc => pc)

def voucherOf (s : InMemoryStore) (hash : String) : Option CreditVoucher :=
  (s.voucherByHash hash).bind s.vouchers

def HandlerPc.ForVoucher (hash : String) : HandlerPc → Prop
  | .check r => r.codeHash = hash
  | .redeem r => r.codeHash = hash
  | _ => True

/-- The step is no redemption, or the balance that it leaves is an `i64`. -/
def RedeemFits (s : Pool InMemoryStore Nat HandlerPc) : PoolLabel Nat Reading Empty → Prop
  | .proc i c =>
    match s.procs i with
    | .redeem r => ∀ amount,
        (s.shared.redeemVoucher r.codeHash r.tenant r.now c.uuid).1 = .ok amount →
        FitsI64 (s.shared.balance r.tenant + amount)
    | _ => True
  | .env e => e.elim

variable {s s' : InMemoryStore} {hash : String} {pc pc' : HandlerPc} {c : Reading}

lemma HandlerPc.ForVoucher.creditsRedeem {i : Nat} (hpc : pc.ForVoucher hash)
    (h : s.creditsRedeem i pc c = some (s', pc')) : pc'.ForVoucher hash := by
  cases pc with
  | check r =>
    simp only [creditsRedeem] at h
    split at h
    · cases h
      trivial
    · cases h
      exact hpc
  | redeem r =>
    simp only [creditsRedeem] at h
    split at h
    · cases h
      trivial
    · cases h
      trivial
  | account r credits already =>
    cases h
    trivial
  | answered reply => simp [creditsRedeem] at h

/-- What the requests have done to the voucher and the balances since the store `s₀`. -/
def Paid (hash : String) (s₀ s : InMemoryStore) : Prop :=
  PaidOnce (s₀.voucherOf hash) (s.voucherOf hash) s₀.balance s.balance

variable {s₀ : InMemoryStore}

lemma Paid.redeem_iff {r : Redeem} {vid id : Nat} {voucher : CreditVoucher}
    (hpaid : Paid r.codeHash s₀ s) (hvid : s.voucherByHash r.codeHash = some vid)
    (hv : s.vouchers vid = some voucher) (hactive : voucher.status = .active) :
    Paid r.codeHash s₀ ((s.markUsed vid voucher r.tenant r.now).book
        (voucherTransaction id r.codeHash r.tenant voucher.amountUnits r.now) r.now).2 ↔
      FitsI64 (s.balance r.tenant + voucher.amountUnits) := by
  have hvoucher : s.voucherOf r.codeHash = some voucher := by simp [voucherOf, hvid, hv]
  rcases hpaid.unpaid hvoucher hactive with ⟨hv0, hb⟩
  have hmarked : ((s.markUsed vid voucher r.tenant r.now).book
      (voucherTransaction id r.codeHash r.tenant voucher.amountUnits r.now) r.now).2.voucherOf
      r.codeHash = some (voucher.redeemed r.tenant r.now) := by
    simp [voucherOf, book, markUsed, hvid]
  have hbalance : ∀ t, ((s.markUsed vid voucher r.tenant r.now).book
      (voucherTransaction id r.codeHash r.tenant voucher.amountUnits r.now) r.now).2.balance t =
      if t = r.tenant then saturatingAdd (s₀.balance t) voucher.amountUnits
      else s₀.balance t := by
    intro t
    rw [book_balance, markUsed_balance, hb]
    rfl
  rw [← saturatingAdd_eq_add_iff, hb, Paid, hmarked, hv0]
  constructor
  · intro hafter
    rcases hafter with ⟨hsame, _⟩ | ⟨voucher', t, now, hv', _, hmarked', hb'⟩
    · -- the voucher was active
      have heq : voucher.redeemed r.tenant r.now = voucher := Option.some.inj hsame
      rw [← heq] at hactive
      cases hactive
    · have hvoucher' : voucher = voucher' := Option.some.inj hv'
      subst hvoucher'
      have ht : r.tenant = t := by
        have heq := congrArg CreditVoucher.redeemedBy (Option.some.inj hmarked')
        exact Option.some.inj heq
      subst ht
      have hat := congrFun hb' r.tenant
      rw [hbalance] at hat
      simpa using hat
  · intro hadd
    refine .inr ⟨voucher, r.tenant, r.now, rfl, hactive, rfl, ?_⟩
    funext t
    rw [hbalance]
    by_cases ht : t = r.tenant
    · subst ht
      simpa using hadd
    · simp [ht]

lemma paid_step {s s' : Pool InMemoryStore Nat HandlerPc}
    {l : PoolLabel Nat Reading Empty} (hfor : ∀ i, (s.procs i).ForVoucher hash)
    (hpaid : Paid hash s₀ s.shared) (h : serve s l = some s') :
    (∀ i, (s'.procs i).ForVoucher hash) ∧ (Paid hash s₀ s'.shared ↔ RedeemFits s l) := by
  cases h using Pool.step_cases with
  | env e => exact e.elim
  | proc i c g pc' hact =>
    constructor
    · intro j
      by_cases hij : j = i
      · subst hij
        simpa using (hfor j).creditsRedeem hact
      · simpa [Function.update_of_ne hij] using hfor j
    · cases hpc : s.procs i with
      | check r =>
        rw [hpc] at hact
        have hsame : g = s.shared := by
          simp only [creditsRedeem] at hact
          split at hact
          · cases hact
            rfl
          · cases hact
            rfl
        simp [RedeemFits, hpc, hsame, hpaid]
      | redeem r =>
        have hcode : r.codeHash = hash := by
          have hmine := hfor i
          rw [hpc] at hmine
          exact hmine
        subst hcode
        rw [hpc] at hact
        simp only [creditsRedeem] at hact
        rcases redeemVoucher_cases s.shared r.codeHash r.tenant r.now c.uuid with
          ⟨e, herr⟩ | ⟨vid, voucher, hvid, hv, hactive, hok⟩
        · rw [herr] at hact
          cases hact
          simp [RedeemFits, hpc, hpaid, herr]
        · rw [hok] at hact
          cases hact
          rw [hpaid.redeem_iff hvid hv hactive]
          simp [RedeemFits, hpc, hok]
      | account r credits already =>
        rw [hpc] at hact
        cases hact
        have hbalance : (s.shared.getCreditAccount r.tenant c.clock).2.balance =
            s.shared.balance := by
          funext t
          exact getCreditAccount_balance
        have hsame : Paid hash s₀ (s.shared.getCreditAccount r.tenant c.clock).2 := by
          rw [Paid, hbalance]
          exact hpaid
        have hfits : RedeemFits s (.proc i c) := by simp [RedeemFits, hpc]
        exact ⟨fun _ => hfits, fun _ => hsame⟩
      | answered reply =>
        rw [hpc] at hact
        simp [creditsRedeem] at hact

end InMemoryStore

/-! ## Both stores -/

/-- On PostgreSQL a voucher is paid at most once, to the tenant it is marked for, and marked if and
only if it is paid; in memory this is so all along if and only if no redemption saturates a balance.
-/
theorem voucher_pays_once (hash : String) :
    (∀ (s₀ s : Pool Postgres.Server Nat Postgres.Pc)
      (ls : List (PoolLabel Nat Postgres.Choice Empty)),
      (∀ i, ∃ r : Redeem, r.codeHash = hash ∧ s₀.procs i = .check r) →
      exec Postgres.step s₀ ls = some s →
      PaidOnce (s₀.shared.tables.creditVouchers hash) (s.shared.tables.creditVouchers hash)
        s₀.shared.tables.balance s.shared.tables.balance) ∧
    (∀ (s₀ : Pool InMemoryStore Nat HandlerPc)
      (ls : List (PoolLabel Nat Reading Empty)),
      (∀ i, ∃ r : Redeem, r.codeHash = hash ∧ s₀.procs i = .check r) →
      ((∀ pre s, pre <+: ls → exec serve s₀ pre = some s →
          PaidOnce (s₀.shared.voucherOf hash) (s.shared.voucherOf hash)
            s₀.shared.balance s.shared.balance) ↔
        Meets serve RedeemFits s₀ ls)) := by
  constructor
  · intro s₀ s ls hstart hrun
    have h₀ : Pool.Inv (Postgres.Paid hash s₀.shared.tables)
        (fun g i pc => Postgres.Holds g i pc ∧ Postgres.ForVoucher hash pc) s₀ := by
      refine ⟨.inl ⟨rfl, rfl⟩, ?_⟩
      intro i
      rcases hstart i with ⟨r, hr, hpc⟩
      rw [hpc]
      exact ⟨trivial, hr⟩
    exact (inv_of_exec_all (fun hs h => Postgres.paid_step hs h) h₀ hrun).shared
  · intro s₀ ls hstart
    have h₀ : ∀ i, (s₀.procs i).ForVoucher hash := by
      intro i
      rcases hstart i with ⟨r, hr, hpc⟩
      rw [hpc]
      exact hr
    exact always_iff_meets (I := fun s => ∀ i, (s.procs i).ForVoucher hash)
      (P := fun s => Paid hash s₀.shared s.shared)
      (fun hfor hpaid h => paid_step hfor hpaid h) h₀ (.inl ⟨rfl, rfl⟩)

/-- The second request waits for the first and finds the voucher used; the third finds the row. -/
theorem voucher_pays_once_race :
    (∃ s, exec Postgres.step ⟨Postgres.freshServer, fun i => .check ⟨"c0de", ⟨i⟩, 60⟩⟩
        [.proc 0 {}, .proc 1 {}, .proc 0 {}, .proc 1 {}, .proc 0 { uuid := 1 }, .proc 0 {},
          .proc 0 {}, .proc 0 {}, .proc 1 { uuid := 2 }, .proc 1 {}, .proc 2 {}] = some s ∧
      s.shared.tables.balance ⟨0⟩ = 500 ∧ s.shared.tables.balance ⟨1⟩ = 0 ∧
      PaidOnce (Postgres.freshServer.tables.creditVouchers "c0de")
        (s.shared.tables.creditVouchers "c0de") Postgres.freshServer.tables.balance
        s.shared.tables.balance) ∧
    ∃ s, exec serve ⟨oneVoucher, fun i => .check ⟨"c0de", ⟨i⟩, 60⟩⟩
        [.proc 0 {}, .proc 1 {}, .proc 0 { uuid := 1 }, .proc 1 { uuid := 2 }, .proc 2 {}] =
          some s ∧
      s.shared.balance ⟨0⟩ = 500 ∧ s.shared.balance ⟨1⟩ = 0 ∧
      PaidOnce (oneVoucher.voucherOf "c0de") (s.shared.voucherOf "c0de")
        oneVoucher.balance s.shared.balance := by
  constructor
  · refine ⟨_, rfl, rfl, rfl, ?_⟩
    exact (voucher_pays_once "c0de").1 ⟨Postgres.freshServer, fun i => .check ⟨"c0de", ⟨i⟩, 60⟩⟩ _
      [.proc 0 {}, .proc 1 {}, .proc 0 {}, .proc 1 {}, .proc 0 { uuid := 1 }, .proc 0 {},
        .proc 0 {}, .proc 0 {}, .proc 1 { uuid := 2 }, .proc 1 {}, .proc 2 {}]
      (fun i => ⟨⟨"c0de", ⟨i⟩, 60⟩, rfl, rfl⟩) rfl
  · refine ⟨_, rfl, rfl, rfl, ?_⟩
    refine ((voucher_pays_once "c0de").2
      ⟨oneVoucher, fun i => .check ⟨"c0de", ⟨i⟩, 60⟩⟩
      [.proc 0 {}, .proc 1 {}, .proc 0 { uuid := 1 }, .proc 1 { uuid := 2 }, .proc 2 {}]
      fun i => ⟨⟨"c0de", ⟨i⟩, 60⟩, rfl, rfl⟩).mpr ?_ _ _ List.prefix_rfl rfl
    refine (meets_cons rfl).mpr ⟨?_, (meets_cons rfl).mpr ⟨?_, (meets_cons rfl).mpr ⟨?_,
      (meets_cons rfl).mpr ⟨?_, (meets_cons rfl).mpr ⟨?_, trivial⟩⟩⟩⟩⟩
    · trivial
    · trivial
    · intro amount hok
      rcases (Except.ok.inj hok : 500 = amount) with rfl
      decide
    · intro amount hok
      cases hok
    · trivial

/-- A tenant with the largest balance is told of 500 credits added; the voucher is marked, and the
balance is as before. -/
theorem voucher_swallowed :
    ∃ u s, exec step oneVoucher
        [.append (grant 1 ⟨5⟩ i64Max "grant:5:a") 60] = some u ∧
      u.balance ⟨5⟩ = i64Max ∧
      exec serve ⟨u, fun _ => .check ⟨"c0de", ⟨5⟩, 61⟩⟩
        [.proc 0 {}, .proc 0 { uuid := 2 }, .proc 0 {}] = some s ∧
      s.procs 0 = .answered (.response 500 i64Max false) ∧
      (s.shared.voucherOf "c0de").bind (·.redeemedBy) = some ⟨5⟩ ∧
      s.shared.balance ⟨5⟩ = i64Max :=
  ⟨_, _, rfl, by decide, rfl, rfl, rfl, by decide⟩

end Combee.Billing
