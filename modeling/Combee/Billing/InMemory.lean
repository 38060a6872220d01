import Combee.Billing.Ledger
import Combee.Foundation.Machine

/-!
# InMemory — the ledger of the in-memory metadata store

Two operations write the ledger: `append_credit_transaction`, which is idempotent by its reference,
and `redeem_voucher`, which is idempotent by the status of the voucher. Both update the account,
the reference index and the table of transactions under one lock, so each call is one step of a
machine (`InMemoryStore.step`); a call draws a fresh UUID, which is its enabling condition.

A `HashMap` is a function to `Option`; the table of transactions, whose sums are of interest, is the
list of its entries in the order in which they were inserted.
-/

namespace Combee.Billing

open Foundation Journal

/-! ## The store -/

structure InMemoryStore where
  creditAccounts : TenantId → Option CreditAccount
  creditTransactions : List CreditTransaction
  creditTxnByRef : String → Option Nat
  vouchers : Nat → Option CreditVoucher
  voucherByHash : String → Option Nat

namespace InMemoryStore

def balance (s : InMemoryStore) (t : TenantId) : Int :=
  ((s.creditAccounts t).map (·.balanceUnits)).getD 0

/-- The entry of the tenant, made with the time `now` if there is none. -/
def accountEntry (s : InMemoryStore) (t : TenantId) (now : Int) : CreditAccount :=
  (s.creditAccounts t).getD ⟨t, 0, 0, now⟩

def getTransaction (s : InMemoryStore) (id : Nat) : Option CreditTransaction :=
  lookup (fun row => some row.id) s.creditTransactions id

def findTransactionByReference (s : InMemoryStore) (ref : String) : Option CreditTransaction :=
  (s.creditTxnByRef ref).bind s.getTransaction

def getCreditAccount (s : InMemoryStore) (t : TenantId) (now : Int) :
    CreditAccount × InMemoryStore :=
  (s.accountEntry t now,
    { s with creditAccounts := Function.update s.creditAccounts t (some (s.accountEntry t now)) })

def book (s : InMemoryStore) (txn : CreditTransaction) (now : Int) :
    CreditTransaction × InMemoryStore :=
  let account := s.accountEntry txn.tenantId now
  let balance := saturatingAdd account.balanceUnits txn.amountUnits
  let row := { txn with balanceAfter := some balance }
  (row,
    { s with
      creditAccounts := Function.update s.creditAccounts txn.tenantId
        (some { account with balanceUnits := balance, updatedAt := now })
      creditTxnByRef := match txn.referenceId with
        | some ref => Function.update s.creditTxnByRef ref (some txn.id)
        | none => s.creditTxnByRef
      creditTransactions := s.creditTransactions.filter (fun r => r.id ≠ txn.id) ++ [row] })

def appendCreditTransaction (s : InMemoryStore) (txn : CreditTransaction) (now : Int) :
    CreditTransaction × InMemoryStore :=
  match txn.referenceId.bind s.findTransactionByReference with
  | some existing => (existing, s)
  | none => s.book txn now

/-- Marks the voucher `vid` as used. -/
def markUsed (s : InMemoryStore) (vid : Nat) (voucher : CreditVoucher) (tenant : TenantId)
    (now : Int) : InMemoryStore :=
  { s with vouchers := Function.update s.vouchers vid (some (voucher.redeemed tenant now)) }

/-- `id` is the UUID that the call draws for the ledger row. -/
def redeemVoucher (s : InMemoryStore) (codeHash : String) (tenant : TenantId) (now : Int)
    (id : Nat) : Result Int × InMemoryStore :=
  match s.voucherByHash codeHash with
  | none => (.error (.invalidRequest "voucher not found"), s)
  | some vid =>
    match s.vouchers vid with
    | none => (.error (.invalidRequest "voucher not found"), s)
    | some voucher =>
      if voucher.status ≠ .active then
        (.error (.invalidRequest "voucher already used or revoked"), s)
      else if (voucher.expiresAt.map fun e => decide (e < now)).getD false then
        (.error (.invalidRequest "voucher expired"), s)
      else
        (.ok voucher.amountUnits,
          ((s.markUsed vid voucher tenant now).book
            (voucherTransaction id codeHash tenant voucher.amountUnits now) now).2)

/-! ## Calls -/

/-- A call of one of the two operations, with the UUID and the clock that it sees. -/
inductive LedgerCall where
  | append (txn : CreditTransaction) (now : Int)
  | redeem (codeHash : String) (tenant : TenantId) (now : Int) (id : Nat)

namespace LedgerCall

def id : LedgerCall → Nat
  | append txn _ => txn.id
  | redeem _ _ _ id => id

end LedgerCall

def Fresh (s : InMemoryStore) (id : Nat) : Prop :=
  ∀ row ∈ s.creditTransactions, row.id ≠ id

instance (s : InMemoryStore) (id : Nat) : Decidable (s.Fresh id) :=
  inferInstanceAs (Decidable (∀ row ∈ s.creditTransactions, row.id ≠ id))

def perform (s : InMemoryStore) : LedgerCall → InMemoryStore
  | .append txn now => (s.appendCreditTransaction txn now).2
  | .redeem codeHash tenant now id => (s.redeemVoucher codeHash tenant now id).2

def step (s : InMemoryStore) (c : LedgerCall) : Option InMemoryStore :=
  if s.Fresh c.id then some (s.perform c) else none

variable {s s' : InMemoryStore} {c : LedgerCall} {txn row : CreditTransaction} {ref hash : String}
variable {tenant : TenantId} {now : Int} {id : Nat}

/-- The error returns of `redeem_voucher` come before anything is written. -/
lemma redeemVoucher_cases (s : InMemoryStore) (hash : String) (tenant : TenantId) (now : Int)
    (id : Nat) :
    (∃ e, s.redeemVoucher hash tenant now id = (.error e, s)) ∨
    ∃ vid voucher, s.voucherByHash hash = some vid ∧ s.vouchers vid = some voucher ∧
      voucher.status = .active ∧
      s.redeemVoucher hash tenant now id = (.ok voucher.amountUnits,
        ((s.markUsed vid voucher tenant now).book
          (voucherTransaction id hash tenant voucher.amountUnits now) now).2) := by
  unfold redeemVoucher
  cases hvid : s.voucherByHash hash with
  | none => exact .inl ⟨_, rfl⟩
  | some vid =>
    cases hv : s.vouchers vid with
    | none =>
      simp only [hv]
      exact .inl ⟨_, rfl⟩
    | some voucher =>
      simp only [hv]
      split_ifs with hstatus hexpired
      · exact .inl ⟨_, rfl⟩
      · exact .inl ⟨_, rfl⟩
      · exact .inr ⟨vid, voucher, rfl, hv, by simpa using hstatus, rfl⟩

/-- Everything that a call can do. -/
lemma step_cases (h : s.step c = some s') :
    s.Fresh c.id ∧
    ((∃ txn now existing, c = .append txn now ∧
        txn.referenceId.bind s.findTransactionByReference = some existing ∧ s' = s) ∨
      (∃ txn now, c = .append txn now ∧
        txn.referenceId.bind s.findTransactionByReference = none ∧ s' = (s.book txn now).2) ∨
      (∃ hash tenant now id e, c = .redeem hash tenant now id ∧
        (s.redeemVoucher hash tenant now id).1 = .error e ∧ s' = s) ∨
      ∃ hash tenant now id vid voucher, c = .redeem hash tenant now id ∧
        s.voucherByHash hash = some vid ∧ s.vouchers vid = some voucher ∧
        voucher.status = .active ∧
        (s.redeemVoucher hash tenant now id).1 = .ok voucher.amountUnits ∧
        s' = ((s.markUsed vid voucher tenant now).book
          (voucherTransaction id hash tenant voucher.amountUnits now) now).2) := by
  have hfresh : s.Fresh c.id := by
    by_contra hc
    simp [step, hc] at h
  have hs' : s' = s.perform c := by simpa [step, hfresh] using h.symm
  refine ⟨hfresh, ?_⟩
  cases c with
  | append txn now =>
    cases hfind : txn.referenceId.bind s.findTransactionByReference with
    | some existing =>
      have heq : s' = s := by simp [hs', perform, appendCreditTransaction, hfind]
      exact .inl ⟨txn, now, existing, rfl, hfind, heq⟩
    | none =>
      have heq : s' = (s.book txn now).2 := by
        simp [hs', perform, appendCreditTransaction, hfind]
      exact .inr (.inl ⟨txn, now, rfl, hfind, heq⟩)
  | redeem hash tenant now id =>
    have hcases := redeemVoucher_cases s hash tenant now id
    rcases hcases with ⟨e, he⟩ | ⟨vid, voucher, hvid, hv, hactive, hok⟩
    · exact .inr (.inr (.inl ⟨hash, tenant, now, id, e, rfl, by rw [he],
        by rw [hs', perform, he]⟩))
    · exact .inr (.inr (.inr ⟨hash, tenant, now, id, vid, voucher, rfl, hvid, hv, hactive,
        by rw [hok], by rw [hs', perform, hok]⟩))

/-! ## Booking a row -/

lemma Fresh.book_transactions (h : s.Fresh txn.id) :
    (s.book txn now).2.creditTransactions = s.creditTransactions ++ [(s.book txn now).1] := by
  have hfilter : s.creditTransactions.filter (fun r => r.id ≠ txn.id) = s.creditTransactions := by
    apply List.filter_eq_self.mpr
    intro row hrow
    simpa using h row hrow
  simp only [book, hfilter]

variable {vid : Nat}

lemma Fresh.voucher {voucher : CreditVoucher} {amount : Int} (h : s.Fresh id) :
    (s.markUsed vid voucher tenant now).Fresh
      (voucherTransaction id hash tenant amount now).id := h

@[simp] lemma book_referenceId : (s.book txn now).1.referenceId = txn.referenceId := rfl

lemma book_creditTxnByRef :
    (s.book txn now).2.creditTxnByRef ref =
      if txn.referenceId = some ref then some txn.id else s.creditTxnByRef ref := by
  cases href : txn.referenceId with
  | none => simp [book, href]
  | some r => simp [book, href, Function.update_apply, eq_comm]

lemma find_isSome_iff :
    (s.findTransactionByReference ref).isSome = true ↔
      ∃ row ∈ s.creditTransactions, s.creditTxnByRef ref = some row.id := by
  unfold findTransactionByReference
  cases hid : s.creditTxnByRef ref with
  | none => simp
  | some id =>
    simp only [Option.bind_some, getTransaction, lookup, List.find?_isSome, decide_eq_true_eq,
      Option.some.injEq]
    simp only [eq_comm]

lemma book_mem : (s.book txn now).1 ∈ (s.book txn now).2.creditTransactions := by
  simp [book]

lemma book_find_self (h : txn.referenceId = some ref) :
    ((s.book txn now).2.findTransactionByReference ref).isSome = true := by
  refine find_isSome_iff.mpr ⟨(s.book txn now).1, book_mem, ?_⟩
  rw [book_creditTxnByRef, if_pos h]
  rfl

lemma book_find_isSome (h : (s.findTransactionByReference ref).isSome = true) :
    ((s.book txn now).2.findTransactionByReference ref).isSome = true := by
  by_cases href : txn.referenceId = some ref
  · exact book_find_self href
  · rcases find_isSome_iff.mp h with ⟨row, hrow, hid⟩
    -- a row with the same id takes the place of the old one
    by_cases hsame : row.id = txn.id
    · refine find_isSome_iff.mpr ⟨(s.book txn now).1, book_mem, ?_⟩
      rw [book_creditTxnByRef, if_neg href, hid, hsame]
      rfl
    · refine find_isSome_iff.mpr ⟨row, by simp [book, hrow, hsame], ?_⟩
      rw [book_creditTxnByRef, if_neg href, hid]

variable {t : TenantId}

lemma book_balance :
    (s.book txn now).2.balance t =
      if t = txn.tenantId then saturatingAdd (s.balance t) txn.amountUnits else s.balance t := by
  by_cases ht : t = txn.tenantId
  · subst ht
    cases hacc : s.creditAccounts txn.tenantId with
    | none | some => simp [balance, book, accountEntry, hacc]
  · simp [balance, book, ht]

@[simp] lemma getCreditAccount_balance :
    (s.getCreditAccount tenant now).2.balance t = s.balance t := by
  by_cases ht : t = tenant
  · subst ht
    cases hacc : s.creditAccounts t with
    | none | some => simp [balance, getCreditAccount, accountEntry, hacc]
  · simp [balance, getCreditAccount, ht]

@[simp] lemma markUsed_balance {voucher : CreditVoucher} :
    (s.markUsed vid voucher tenant now).balance t = s.balance t := rfl

lemma perform_find_isSome (h : (s.findTransactionByReference ref).isSome = true) :
    ((s.perform c).findTransactionByReference ref).isSome = true := by
  cases c with
  | append txn now =>
    simp only [perform, appendCreditTransaction]
    split
    · exact h
    · exact book_find_isSome h
  | redeem hash tenant now id =>
    simp only [perform]
    rcases redeemVoucher_cases s hash tenant now id with ⟨e, he⟩ | ⟨vid, voucher, _, _, _, hok⟩
    · rw [he]
      exact h
    · rw [hok]
      exact book_find_isSome (s := s.markUsed vid voucher tenant now) h

/-! ## Append-only and idempotent -/

/-- The reference index points exactly at the rows with a reference. -/
structure Indexed (s : InMemoryStore) : Prop where
  ids : Distinct (fun row => some row.id) s.creditTransactions
  index : ∀ ref id, s.creditTxnByRef ref = some id ↔
    ∃ row ∈ s.creditTransactions, row.id = id ∧ row.referenceId = some ref

def PaidOut (s : InMemoryStore) : Prop :=
  ∀ hash, (∃ row ∈ s.creditTransactions, row.referenceId = some (voucherRef hash)) →
    ∀ vid voucher, s.voucherByHash hash = some vid → s.vouchers vid = some voucher →
      voucher.status ≠ .active

section

variable (h : s.Indexed)
include h

lemma Indexed.markUsed {vid : Nat} {voucher : CreditVoucher} :
    (s.markUsed vid voucher tenant now).Indexed :=
  ⟨h.ids, h.index⟩

/-- Two rows with one reference would have one id. -/
lemma Indexed.refs : Distinct CreditTransaction.referenceId s.creditTransactions := by
  apply List.Pairwise.imp_of_mem _ h.ids
  intro a b ha hb hid ref hra hrb
  have hia : s.creditTxnByRef ref = some a.id := (h.index ref a.id).mpr ⟨a, ha, rfl, hra⟩
  have hib : s.creditTxnByRef ref = some b.id := (h.index ref b.id).mpr ⟨b, hb, rfl, hrb⟩
  have heq : a.id = b.id := by simpa using hia.symm.trans hib
  exact hid a.id rfl (by rw [heq])

lemma Indexed.find_eq_lookup : s.findTransactionByReference ref =
      lookup CreditTransaction.referenceId s.creditTransactions ref := by
  apply Option.ext
  intro row
  rw [h.refs.lookup_eq_some]
  simp only [findTransactionByReference, getTransaction, Option.bind_eq_some_iff,
    h.ids.lookup_eq_some, h.index]
  constructor
  · rintro ⟨id, ⟨row', hrow', hid', href⟩, hrow, hid⟩
    have heq : row = row' := h.ids.eq hrow hrow' hid (by rw [hid'])
    exact ⟨hrow, heq ▸ href⟩
  · rintro ⟨hrow, href⟩
    exact ⟨row.id, ⟨row, hrow, rfl, href⟩, hrow, rfl⟩

lemma Indexed.find_eq_none_iff : txn.referenceId.bind s.findTransactionByReference = none ↔
      Unposted CreditTransaction.referenceId s.creditTransactions txn := by
  rw [unposted_iff]
  have hfun : s.findTransactionByReference =
      lookup CreditTransaction.referenceId s.creditTransactions := by
    funext ref
    exact h.find_eq_lookup
  rw [hfun]

lemma Indexed.book (hfresh : s.Fresh txn.id)
    (hnew : Unposted CreditTransaction.referenceId s.creditTransactions txn) :
    (s.book txn now).2.Indexed := by
  constructor
  · rw [hfresh.book_transactions]
    refine distinct_concat.mpr ⟨h.ids, ?_⟩
    intro id hid row hrow hrid
    exact hfresh row hrow (by simpa [InMemoryStore.book] using hrid.trans hid.symm)
  · intro ref id
    rw [book_creditTxnByRef, hfresh.book_transactions]
    by_cases href : txn.referenceId = some ref
    · -- the reference was unused, so the new row is the only one
      simp only [href, if_true, Option.some.injEq, List.mem_append, List.mem_singleton]
      constructor
      · rintro rfl
        exact ⟨_, .inr rfl, rfl, href⟩
      · rintro ⟨row, hrow | rfl, hid, hrow'⟩
        · exact absurd hrow' (hnew ref href row hrow)
        · exact hid
    · simp only [href, if_false, h.index, List.mem_append, List.mem_singleton]
      constructor
      · rintro ⟨row, hrow, hid, hrow'⟩
        exact ⟨row, .inl hrow, hid, hrow'⟩
      · rintro ⟨row, hrow | rfl, hid, hrow'⟩
        · exact ⟨row, hrow, hid, hrow'⟩
        · exact absurd hrow' href

end

def Namespaced : LedgerCall → Prop
  | .append txn _ => ∀ hash, txn.referenceId ≠ some (voucherRef hash)
  | .redeem _ _ _ _ => True

lemma PaidOut.book (h : s.PaidOut) (hfresh : s.Fresh txn.id)
    (hns : ∀ hash, txn.referenceId ≠ some (voucherRef hash)) : (s.book txn now).2.PaidOut := by
  intro hash hpaid vid voucher hvid hv
  have hold : ∃ row ∈ s.creditTransactions, row.referenceId = some (voucherRef hash) := by
    rw [hfresh.book_transactions] at hpaid
    rcases hpaid with ⟨row, hrow, href⟩
    rcases List.mem_append.mp hrow with hrow | hrow
    · exact ⟨row, hrow, href⟩
    · have hrow' : row = (s.book txn now).1 := List.mem_singleton.mp hrow
      rw [hrow', book_referenceId] at href
      exact absurd href (hns hash)
  exact h hash hold vid voucher hvid hv

lemma PaidOut.redeem {voucher : CreditVoucher} (h : s.PaidOut)
    (hfresh : s.Fresh id) (hvid : s.voucherByHash hash = some vid) :
    ((s.markUsed vid voucher tenant now).book
      (voucherTransaction id hash tenant voucher.amountUnits now) now).2.PaidOut := by
  intro hash' hpaid vid' voucher' hvid' hv'
  rw [hfresh.voucher.book_transactions] at hpaid
  have hvouchers : Function.update s.vouchers vid (some (voucher.redeemed tenant now)) vid' =
      some voucher' := hv'
  by_cases hsame : vid' = vid
  · -- whatever code leads to it, this voucher is used now
    subst hsame
    have heq : voucher.redeemed tenant now = voucher' := by simpa using hvouchers
    simp [← heq, CreditVoucher.redeemed]
  · rw [Function.update_of_ne hsame] at hvouchers
    rcases hpaid with ⟨row, hrow, href⟩
    rcases List.mem_append.mp hrow with hrow | hrow
    · exact h hash' ⟨row, hrow, href⟩ vid' voucher' hvid' hvouchers
    · -- the new row belongs to this code, which leads to this voucher
      have hrow' : row = ((s.markUsed vid voucher tenant now).book
          (voucherTransaction id hash tenant voucher.amountUnits now) now).1 :=
        List.mem_singleton.mp hrow
      have hcode : voucherRef hash = voucherRef hash' := by
        simpa [hrow', voucherTransaction] using href
      have hhash : hash = hash' := voucherRef_injective hcode
      have hvids : some vid' = some vid := by rw [← hvid, hhash]; exact hvid'.symm
      exact absurd (Option.some.inj hvids) hsame

lemma sound_step (hidx : s.Indexed) (hpaid : s.PaidOut) (hc : Namespaced c)
    (h : s.step c = some s') :
    s'.Indexed ∧ s'.PaidOut ∧ s.creditTransactions <+: s'.creditTransactions := by
  rcases step_cases h with ⟨hfresh, hcases⟩
  rcases hcases with ⟨txn, now, existing, rfl, hfind, rfl⟩ | ⟨txn, now, rfl, hfind, rfl⟩ |
    ⟨hash, tenant, now, id, e, rfl, herr, rfl⟩ |
    ⟨hash, tenant, now, id, vid, voucher, rfl, hvid, hv, hactive, hok, rfl⟩
  · exact ⟨hidx, hpaid, List.prefix_rfl⟩
  · refine ⟨hidx.book hfresh (hidx.find_eq_none_iff.mp hfind), hpaid.book hfresh hc, ?_⟩
    rw [Fresh.book_transactions hfresh]
    exact List.prefix_append _ _
  · exact ⟨hidx, hpaid, List.prefix_rfl⟩
  · -- an active voucher has not been paid out, so its reference is unused
    have hnew : Unposted CreditTransaction.referenceId s.creditTransactions
        (voucherTransaction id hash tenant voucher.amountUnits now) := by
      intro ref href row hrow hrow'
      have hcode : row.referenceId = some (voucherRef hash) := hrow'.trans href.symm
      exact hpaid hash ⟨row, hrow, hcode⟩ vid voucher hvid hv hactive
    have hid : s.Fresh id := hfresh
    refine ⟨hidx.markUsed.book hid.voucher hnew, hpaid.redeem hid hvid, ?_⟩
    rw [hid.voucher.book_transactions]
    exact List.prefix_append _ _

def LedgerEmpty (s : InMemoryStore) : Prop :=
  s.creditTransactions = [] ∧ ∀ ref, s.creditTxnByRef ref = none

lemma LedgerEmpty.indexed (h : s.LedgerEmpty) : s.Indexed := by
  constructor
  · rw [h.1]
    exact distinct_nil
  · intro ref id
    simp [h.1, h.2 ref]

lemma LedgerEmpty.paidOut (h : s.LedgerEmpty) : s.PaidOut := by
  intro hash hpaid
  simp [h.1] at hpaid

lemma sound_exec {ls : List LedgerCall} (hidx : s.Indexed) (hpaid : s.PaidOut)
    (hns : Meets step (fun _ c => Namespaced c) s ls) (h : exec step s ls = some s') :
    s'.Indexed ∧ s'.PaidOut ∧ s.creditTransactions <+: s'.creditTransactions := by
  have hinv : ∀ {u v : InMemoryStore} {c : LedgerCall},
      (u.Indexed ∧ u.PaidOut ∧ s.creditTransactions <+: u.creditTransactions) → Namespaced c →
      u.step c = some v →
      v.Indexed ∧ v.PaidOut ∧ s.creditTransactions <+: v.creditTransactions := by
    intro u v c ⟨hu, hpu, hrows⟩ hc hstep
    rcases sound_step hu hpu hc hstep with ⟨hv, hpv, hrows'⟩
    exact ⟨hv, hpv, hrows.trans hrows'⟩
  exact inv_of_exec (I := fun u => u.Indexed ∧ u.PaidOut ∧
    s.creditTransactions <+: u.creditTransactions) hinv ⟨hidx, hpaid, List.prefix_rfl⟩ hns h

/-- The rows of every earlier state are still in place, a reference is carried by at most one row,
the index points exactly at these, and a second append with a reference returns its row. -/
theorem ledger_append_only {s₀ u s : InMemoryStore} {ls ms : List LedgerCall}
    (h₀ : s₀.LedgerEmpty) (hns : Meets step (fun _ c => Namespaced c) s₀ (ls ++ ms))
    (hu : exec step s₀ ls = some u) (hs : exec step u ms = some s) :
    u.creditTransactions <+: s.creditTransactions ∧
    Distinct CreditTransaction.referenceId s.creditTransactions ∧
    (∀ ref id, s.creditTxnByRef ref = some id ↔
      ∃ row ∈ s.creditTransactions, row.id = id ∧ row.referenceId = some ref) ∧
    ∀ txn now ref, ∀ row ∈ s.creditTransactions, txn.referenceId = some ref →
      row.referenceId = some ref → s.appendCreditTransaction txn now = (row, s) := by
  rcases (meets_append hu).mp hns with ⟨hnsu, hnss⟩
  rcases sound_exec h₀.indexed h₀.paidOut hnsu hu with ⟨hidxu, hpaidu, _⟩
  rcases sound_exec hidxu hpaidu hnss hs with ⟨hidx, _, hrows⟩
  refine ⟨hrows, hidx.refs, hidx.index, ?_⟩
  intro txn now ref row hrow htxn href
  have hfind : s.findTransactionByReference ref = some row := by
    rw [hidx.find_eq_lookup]
    exact hidx.refs.lookup_eq_some.mpr ⟨hrow, href⟩
  simp [appendCreditTransaction, htxn, hfind]

/-- A store with one voucher of 500 units under the code `c0de`. -/
def oneVoucher : InMemoryStore where
  creditAccounts _ := none
  creditTransactions := []
  creditTxnByRef _ := none
  vouchers vid := if vid = 7 then some ⟨7, "c0de", 500, .active, none, none, none⟩ else none
  voucherByHash hash := if hash = "c0de" then some 7 else none

/-- A grant of `amount` with the reference `ref`. -/
def grant (id : Nat) (tenant : TenantId) (amount : Int) (ref : String) : CreditTransaction :=
  ⟨id, tenant, .grant, amount, none, some ref, none, 60, none⟩

/-- A grant, a redemption, the same voucher again and the same grant again. -/
theorem ledger_append_only_grant :
    ∃ u s, exec step oneVoucher
        [.append (grant 1 ⟨5⟩ 100 "grant:5:a") 60, .redeem "c0de" ⟨6⟩ 61 2] = some u ∧
      exec step u [.redeem "c0de" ⟨5⟩ 62 3, .append (grant 4 ⟨5⟩ 100 "grant:5:a") 63] = some s ∧
      u.creditTransactions.length = 2 ∧ s.creditTransactions.length = 2 ∧ s.balance ⟨5⟩ = 100 ∧
      s.balance ⟨6⟩ = 500 ∧ u.creditTransactions <+: s.creditTransactions := by
  have hreach : ∃ u s, exec step oneVoucher
        [.append (grant 1 ⟨5⟩ 100 "grant:5:a") 60, .redeem "c0de" ⟨6⟩ 61 2] = some u ∧
      exec step u [.redeem "c0de" ⟨5⟩ 62 3, .append (grant 4 ⟨5⟩ 100 "grant:5:a") 63] = some s ∧
      u.creditTransactions.length = 2 ∧ s.creditTransactions.length = 2 ∧ s.balance ⟨5⟩ = 100 ∧
      s.balance ⟨6⟩ = 500 :=
    ⟨_, _, rfl, rfl, rfl, rfl, rfl, rfl⟩
  have hempty : oneVoucher.LedgerEmpty := ⟨rfl, fun _ => rfl⟩
  have hgrant : ∀ hash, "grant:5:a" ≠ voucherRef hash := by
    intro hash h
    have hhead := congrArg (fun t => t.toList.head?) h
    simp [voucherRef] at hhead
  rcases hreach with ⟨u, s, hu, hs, hrest⟩
  refine ⟨u, s, hu, hs, hrest.1, hrest.2.1, hrest.2.2.1, hrest.2.2.2, ?_⟩
  refine (ledger_append_only hempty ?_ hu hs).1
  apply meets_of_forall
  intro _ c hc
  simp only [List.cons_append, List.nil_append, List.mem_cons, List.not_mem_nil, or_false] at hc
  rcases hc with rfl | rfl | rfl | rfl
  · simpa [Namespaced, grant] using hgrant
  · trivial
  · trivial
  · simpa [Namespaced, grant] using hgrant

/-! ## Exact balances -/

/-- Balances are sums of rows, and every row carries the sum up to itself. -/
structure Exact (s : InMemoryStore) : Prop where
  balance : ∀ t, s.balance t = rowSum s.creditTransactions t
  running : Along (fun pre row => row.balanceAfter = some (rowSum (pre ++ [row]) row.tenantId))
    s.creditTransactions

/-- The exact result of the call is an `i64`, if it books a row at all. -/
def Fits (s : InMemoryStore) : LedgerCall → Prop
  | .append txn _ => txn.referenceId.bind s.findTransactionByReference = none →
      FitsI64 (s.balance txn.tenantId + txn.amountUnits)
  | .redeem hash tenant now id => ∀ amount,
      (s.redeemVoucher hash tenant now id).1 = .ok amount → FitsI64 (s.balance tenant + amount)

lemma Exact.book_iff (h : s.Exact) (hfresh : s.Fresh txn.id) :
    (s.book txn now).2.Exact ↔ FitsI64 (s.balance txn.tenantId + txn.amountUnits) := by
  have hrows : (s.book txn now).2.creditTransactions =
      s.creditTransactions ++ [(s.book txn now).1] := hfresh.book_transactions
  have hsum : rowSum (s.book txn now).2.creditTransactions txn.tenantId =
      s.balance txn.tenantId + txn.amountUnits := by
    rw [hrows, h.balance]
    exact total_concat_self rfl
  have hbalance : (s.book txn now).2.balance txn.tenantId =
      saturatingAdd (s.balance txn.tenantId) txn.amountUnits := by
    simp [book_balance]
  rw [← saturatingAdd_eq_add_iff]
  constructor
  · intro hexact
    rw [← hbalance, hexact.balance, hsum]
  · intro hadd
    constructor
    · intro t
      by_cases ht : t = txn.tenantId
      · subst ht
        rw [hbalance, hadd, hsum]
      · have hother : rowSum (s.book txn now).2.creditTransactions t =
            rowSum s.creditTransactions t := by
          rw [hrows]
          exact total_concat_of_ne (fun heq => ht heq.symm)
        rw [hother, book_balance, if_neg ht, h.balance]
    · rw [hrows] at hsum ⊢
      refine along_concat.mpr ⟨h.running, ?_⟩
      have hafter : (s.book txn now).1.balanceAfter =
          some (saturatingAdd (s.balance txn.tenantId) txn.amountUnits) := by
        rw [← hbalance]
        simp [InMemoryStore.balance, InMemoryStore.book]
      have htenant : (s.book txn now).1.tenantId = txn.tenantId := rfl
      rw [hafter, hadd, htenant, hsum]

/-- The balances and the `balance_after` of all rows are exact all along if and only if the exact
result of every call fits. -/
theorem balances_exact_iff {s₀ : InMemoryStore} {ls : List LedgerCall} (h₀ : s₀.Exact) :
    (∀ pre s, pre <+: ls → exec step s₀ pre = some s → s.Exact) ↔ Meets step Fits s₀ ls := by
  have hstep : ∀ {s s' : InMemoryStore} {c : LedgerCall}, True → s.Exact → s.step c = some s' →
      True ∧ (s'.Exact ↔ s.Fits c) := by
    intro s s' c _ hs h
    refine ⟨trivial, ?_⟩
    rcases step_cases h with ⟨hfresh, hcases⟩
    rcases hcases with ⟨txn, now, existing, rfl, hfind, rfl⟩ | ⟨txn, now, rfl, hfind, rfl⟩ |
      ⟨hash, tenant, now, id, e, rfl, herr, rfl⟩ |
      ⟨hash, tenant, now, id, vid, voucher, rfl, hvid, hv, hactive, hok, rfl⟩
    · simp [Fits, hs, hfind]
    · rw [hs.book_iff hfresh]
      simp [Fits, hfind]
    · simp [Fits, hs, herr]
    · have hs' : (s.markUsed vid voucher tenant now).Exact := ⟨hs.balance, hs.running⟩
      have hid : s.Fresh id := hfresh
      rw [hs'.book_iff hid.voucher]
      simp [Fits, hok, voucherTransaction]
  exact always_iff_meets (I := fun _ => True) hstep trivial h₀

theorem balances_exact_iff_redeem :
    oneVoucher.Exact ∧
    ∀ pre s, pre <+: [.append (grant 1 ⟨5⟩ (-100) "grant:5:a") 60, .redeem "c0de" ⟨5⟩ 61 2] →
      exec step oneVoucher pre = some s → s.Exact := by
  have hexact : oneVoucher.Exact := ⟨fun _ => rfl, along_nil⟩
  refine ⟨hexact, (balances_exact_iff hexact).mpr ?_⟩
  refine (meets_cons rfl).mpr ⟨fun _ => by decide, (meets_cons rfl).mpr ⟨?_, trivial⟩⟩
  intro amount hok
  rcases (Except.ok.inj hok : 500 = amount) with rfl
  decide

/-- After the largest grant that the operator endpoint lets through, one unit more is booked, and
the balance stays where it is. -/
theorem balance_saturates :
    ∃ s, exec step oneVoucher
        [.append (grant 1 ⟨5⟩ i64Max "grant:5:a") 60, .append (grant 2 ⟨5⟩ 1 "grant:5:b") 61] =
          some s ∧
      s.creditTransactions.length = 2 ∧ s.balance ⟨5⟩ = i64Max ∧
      rowSum s.creditTransactions ⟨5⟩ = i64Max + 1 :=
  ⟨_, rfl, rfl, by decide, by decide⟩

end InMemoryStore
end Combee.Billing
