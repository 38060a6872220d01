import Combee.Common
import Combee.Foundation.Journal

/-!
# Ledger — credit transactions, accounts and vouchers

The types of the credit protocol and the arithmetic of balances. All amounts are whole microcredits
in an `i64`. What a ledger is for is said by `Foundation.Journal`: a journal of rows, posted at
most once for each reference, with the balance of a tenant being the sum of the tenant's rows. Both
metadata stores are compared with it.
-/

namespace Combee.Billing

open Foundation

/-! ## Rows, accounts and vouchers -/

structure TenantId where
  raw : Nat
  deriving DecidableEq, Repr

instance : ToString TenantId where
  toString id := toString id.raw

/-- `DEFAULT_TENANT`, which has usage without being created. -/
def defaultTenant : TenantId := ⟨1⟩

inductive CreditTransactionType where
  | recharge
  | usage
  | grant
  | voucher
  | refund
  | adjustment
  deriving DecidableEq, Repr

structure CreditTransaction where
  id : Nat
  tenantId : TenantId
  txnType : CreditTransactionType
  amountUnits : Int
  pricingVersion : Option Int
  referenceId : Option String
  description : Option String
  createdAt : Int
  balanceAfter : Option Int
  deriving DecidableEq, Repr

structure CreditAccount where
  tenantId : TenantId
  balanceUnits : Int
  reservedUnits : Int
  updatedAt : Int
  deriving DecidableEq, Repr

inductive VoucherStatus where
  | active
  | used
  | expired
  | revoked
  deriving DecidableEq, Repr

structure CreditVoucher where
  id : Nat
  codeHash : String
  amountUnits : Int
  status : VoucherStatus
  expiresAt : Option Int
  redeemedBy : Option TenantId
  redeemedAt : Option Int
  deriving DecidableEq, Repr

def CreditVoucher.redeemed (voucher : CreditVoucher) (tenant : TenantId) (now : Int) :
    CreditVoucher :=
  { voucher with status := .used, redeemedBy := some tenant, redeemedAt := some now }

def voucherRef (codeHash : String) : String :=
  "voucher:" ++ codeHash

lemma voucherRef_injective {hash hash' : String} (h : voucherRef hash = voucherRef hash') :
    hash = hash' := by
  simpa [voucherRef] using h

def voucherTransaction (id : Nat) (codeHash : String) (tenant : TenantId) (amount now : Int) :
    CreditTransaction where
  id := id
  tenantId := tenant
  txnType := .voucher
  amountUnits := amount
  pricingVersion := none
  referenceId := some (voucherRef codeHash)
  description := some "voucher redemption"
  createdAt := now
  balanceAfter := none

/-! ## Calls -/

/-- The arguments of `redeem_voucher`. -/
structure Redeem where
  codeHash : String
  tenant : TenantId
  now : Int
  deriving DecidableEq

/-- What `append_credit_transaction`, `redeem_voucher` or the handler `credits_redeem` returns. -/
inductive Reply where
  | posted (row : CreditTransaction)
  | found (row : CreditTransaction)
  | redeemed (amount : Int)
  | response (creditsAdded balance : Int) (alreadyRedeemed : Bool)
  | failed (e : CombeeError)

/-! ## Balances -/

abbrev rowSum : List CreditTransaction → TenantId → Int :=
  Journal.total CreditTransaction.tenantId CreditTransaction.amountUnits

/-- The result of an addition that an `i64` can hold. -/
def FitsI64 (n : Int) : Prop :=
  -(2 ^ 63) ≤ n ∧ n ≤ i64Max

instance (n : Int) : Decidable (FitsI64 n) :=
  inferInstanceAs (Decidable (_ ∧ _))

def saturatingAdd (a b : Int) : Int :=
  max (-(2 ^ 63)) (min i64Max (a + b))

lemma saturatingAdd_eq_add_iff {a b : Int} : saturatingAdd a b = a + b ↔ FitsI64 (a + b) := by
  unfold saturatingAdd FitsI64 i64Max
  omega

end Combee.Billing
