import Combee.Billing.Ledger
import Combee.Foundation.Machine

/-!
# Postgres — the ledger of the PostgreSQL metadata store, statement by statement

Every call runs in a session of its own, and each of its SQL statements is one step. What a
transaction has not committed is kept in the session (`Pc`), and the index entries and rows that it
holds are locks of the server: a statement that has to wait is a step that is not enabled. A
statement sees what is committed when it runs (READ COMMITTED); one that has waited for a row looks
at the row as it was committed in the meantime. Every statement can fail, a commit that fails may
have taken effect, and a transaction that is dropped is rolled back.

The sessions are `append_credit_transaction`, `redeem_voucher` and the handler `credits_redeem`.
-/

namespace Combee.Billing.Postgres

open Foundation Journal

/-! ## The server -/

/-- The committed tables; `credit_vouchers` is given by its unique `code_hash`. -/
structure Tables where
  creditAccounts : TenantId → Option CreditAccount
  creditTransactions : List CreditTransaction
  creditVouchers : String → Option CreditVoucher

/-- What an open transaction holds: index entries of the rows that it inserts, and rows. -/
inductive Lock where
  | id (id : Nat)
  | reference (ref : String)
  | account (t : TenantId)
  | voucher (codeHash : String)
  deriving DecidableEq

structure Server where
  tables : Tables
  locks : Lock → Option Nat

namespace Tables

def balance (db : Tables) (t : TenantId) : Int :=
  ((db.creditAccounts t).map (·.balanceUnits)).getD 0

def findTransactionByReference (db : Tables) (ref : String) : Option CreditTransaction :=
  lookup CreditTransaction.referenceId db.creditTransactions ref

end Tables

namespace Server

def free (g : Server) (i : Nat) (l : Lock) : Bool :=
  g.locks l = none || g.locks l = some i

def take (g : Server) (i : Nat) (l : Lock) : Server :=
  { g with locks := Function.update g.locks l (some i) }

def release (g : Server) (i : Nat) : Server :=
  { g with locks := fun l => if g.locks l = some i then none else g.locks l }

/-- An entry of the unique index on `reference_id`; `NULL` has none. -/
def freeReference (g : Server) (i : Nat) : Option String → Bool
  | none => true
  | some ref => g.free i (.reference ref)

def takeReference (g : Server) (i : Nat) : Option String → Server
  | none => g
  | some ref => g.take i (.reference ref)

end Server

/-! ## Sessions -/

/-- The open transaction of a session: an append, or a redemption, for a caller that asks for the
balance afterwards or not. -/
inductive Work where
  | append
  | redeem (r : Redeem) (marked : CreditVoucher) (handler : Bool)

inductive Pc where
  | lookup (txn : CreditTransaction)
  | begin (txn : CreditTransaction)
  | insert (w : Work) (row : CreditTransaction)
  | rollback (row : CreditTransaction)
  | reread (row : CreditTransaction)
  | upsert (w : Work) (row : CreditTransaction)
  | commit (w : Work) (row : CreditTransaction) (account : CreditAccount)
  | drop (e : CombeeError)
  | check (r : Redeem)
  | beginRedeem (r : Redeem) (handler : Bool)
  | mark (r : Redeem) (handler : Bool)
  | account (r : Redeem) (creditsAdded : Int) (alreadyRedeemed : Bool)
  | openAccount (r : Redeem) (creditsAdded : Int) (alreadyRedeemed : Bool)
  | answered (reply : Reply)

/-- The error `fault` of a statement, which may hide that it was `applied`; and the UUID and the
clock before it. -/
structure Choice where
  fault : Option String := none
  applied : Bool := false
  uuid : Nat := 0
  clock : Int := 0

def internal (message : String) : CombeeError :=
  .internal ("postgres error: " ++ message)

def uniqueViolation : CombeeError :=
  internal "duplicate key value violates unique constraint"

/-- The statement ends with the error of `c`, or as `ok` says. -/
def orFault (c : Choice) (bad : CombeeError → Server × Pc) (ok : Option (Server × Pc)) :
    Option (Server × Pc) :=
  match c.fault with
  | some message => some (bad (internal message))
  | none => ok

/-- The `WHERE` of the `UPDATE`. -/
def matchesVoucher (r : Redeem) (voucher : CreditVoucher) : Bool :=
  voucher.status = .active && (voucher.expiresAt.map fun e => decide (r.now < e)).getD true

def Tables.upserted (db : Tables) (row : CreditTransaction) : CreditAccount :=
  match db.creditAccounts row.tenantId with
  | none => ⟨row.tenantId, row.amountUnits, 0, row.createdAt⟩
  | some account =>
    { account with
      balanceUnits := account.balanceUnits + row.amountUnits, updatedAt := row.createdAt }

def Tables.commit (db : Tables) (w : Work) (row : CreditTransaction) (account : CreditAccount) :
    Tables where
  creditAccounts := Function.update db.creditAccounts row.tenantId (some account)
  creditTransactions := db.creditTransactions ++ [row]
  creditVouchers := match w with
    | .append => db.creditVouchers
    | .redeem r marked _ => Function.update db.creditVouchers r.codeHash (some marked)

/-- The commit of the transaction of session `i`. -/
def Server.commit (g : Server) (i : Nat) (w : Work) (row : CreditTransaction)
    (account : CreditAccount) : Server :=
  { g with tables := g.tables.commit w row account }.release i

def Tables.openAccount (db : Tables) (t : TenantId) (now : Int) : Tables :=
  { db with creditAccounts := Function.update db.creditAccounts t (some ⟨t, 0, 0, now⟩) }

def Work.after (row : CreditTransaction) (account : CreditAccount) : Work → Pc
  | .append => .answered (.posted { row with balanceAfter := some account.balanceUnits })
  | .redeem _ _ false => .answered (.redeemed row.amountUnits)
  | .redeem r _ true => .account r row.amountUnits false

def act (g : Server) (i : Nat) (pc : Pc) (c : Choice) : Option (Server × Pc) :=
  match pc with
  | .lookup txn =>
    match txn.referenceId with
    | none => some (g, .begin txn)
    | some ref => orFault c (fun e => (g, .answered (.failed e)))
        (match g.tables.findTransactionByReference ref with
        | some existing => some (g, .answered (.found existing))
        | none => some (g, .begin txn))
  | .begin txn => orFault c (fun e => (g, .answered (.failed e)))
      (some (g, .insert .append { txn with balanceAfter := none }))
  -- INSERT INTO credit_transactions; an append adds ON CONFLICT (reference_id) DO NOTHING
  | .insert w row => orFault c (fun e => (g, .drop e))
      (if g.free i (.id row.id) && g.freeReference i row.referenceId then
        if g.tables.creditTransactions.any fun r => r.id = row.id then
          some (g, .drop uniqueViolation)
        else if (row.referenceId.bind g.tables.findTransactionByReference).isSome then
          match w with
          | .append => some (g, .rollback row)
          | .redeem _ _ _ => some (g, .drop uniqueViolation)
        else
          some ((g.take i (.id row.id)).takeReference i row.referenceId, .upsert w row)
      else none)
  | .rollback row => orFault c (fun e => (g, .drop e)) (some (g.release i, .reread row))
  | .reread row => orFault c (fun e => (g, .answered (.failed e)))
      (match g.tables.findTransactionByReference (row.referenceId.getD "") with
      | some existing => some (g, .answered (.found existing))
      | none => some (g,
          .answered (.failed (.internal "credit transaction conflict but not found"))))
  -- INSERT INTO credit_accounts ON CONFLICT (tenant_id) DO UPDATE
  | .upsert w row => orFault c (fun e => (g, .drop e))
      (if g.free i (.account row.tenantId) then
        if FitsI64 (g.tables.upserted row).balanceUnits then
          some (g.take i (.account row.tenantId), .commit w row (g.tables.upserted row))
        else some (g, .drop (internal "bigint out of range"))
      else none)
  | .commit w row account =>
    match c.fault with
    | some message =>
      some (if c.applied then g.commit i w row account else g.release i,
        .answered (.failed (internal message)))
    | none => some (g.commit i w row account, w.after row account)
  | .drop e => some (g.release i, .answered (.failed e))
  | .check r => orFault c (fun e => (g, .answered (.failed e)))
      (match g.tables.findTransactionByReference (voucherRef r.codeHash) with
      | some txn => some (g, .account r txn.amountUnits true)
      | none => some (g, .beginRedeem r true))
  | .beginRedeem r handler => orFault c (fun e => (g, .answered (.failed e)))
      (some (g, .mark r handler))
  -- UPDATE credit_vouchers
  | .mark r handler => orFault c (fun e => (g, .drop e))
      (if g.free i (.voucher r.codeHash) then
        match (g.tables.creditVouchers r.codeHash).filter (matchesVoucher r) with
        | some voucher => some (g.take i (.voucher r.codeHash),
            .insert (.redeem r (voucher.redeemed r.tenant r.now) handler)
              (voucherTransaction c.uuid r.codeHash r.tenant voucher.amountUnits r.now))
        | none => some (g,
            .drop (.invalidRequest "voucher invalid, expired or already used"))
      else none)
  | .account r credits already => orFault c (fun e => (g, .answered (.failed e)))
      (match g.tables.creditAccounts r.tenant with
      | some account => some (g, .answered (.response credits account.balanceUnits already))
      | none => some (g, .openAccount r credits already))
  -- INSERT INTO credit_accounts of get_credit_account, a transaction of its own
  | .openAccount r credits already =>
    if c.fault.isSome && !c.applied then
      some (g, .answered (.failed (internal (c.fault.getD ""))))
    else if g.free i (.account r.tenant) then
      match g.tables.creditAccounts r.tenant with
      | some _ => some (g, .answered (.failed uniqueViolation))
      | none =>
        let reply := match c.fault with
          | some message => .failed (internal message)
          | none => .response credits 0 already
        some ({ g with tables := g.tables.openAccount r.tenant c.clock }, .answered reply)
    else none
  | .answered _ => none

def step : Pool Server Nat Pc → PoolLabel Nat Choice Empty → Option (Pool Server Nat Pc) :=
  Pool.step act (fun _ e => e.elim) (fun _ pc => pc)

end Combee.Billing.Postgres
