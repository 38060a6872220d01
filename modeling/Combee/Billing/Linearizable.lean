import Combee.Billing.Postgres

/-!
# Linearizable — the PostgreSQL ledger under every interleaving of statements

A session that has written something holds the index entries and rows that it depends on (`Holds`),
and a statement of another session leaves alone what it holds (`Spares`). So a commit adds a row
whose reference is still not in use and a balance that is the committed one plus the row, and the
tables stay consistent (`Consistent`).

A call that meets its reference in the ledger can only roll back and read (`Aborts`), and a call
that has committed never meets it afterwards (`Committed`), so such a call changes nothing at all.
-/

namespace Combee.Billing.Postgres

open Foundation Journal

/-- What a statement can do. -/
inductive Move (g : Server) (i : Nat) (c : Choice) : Pc → Server → Pc → Prop
  | failed {pc e} : Move g i c pc g (.answered (.failed e))
  | lookup {txn} (hnone : txn.referenceId.bind g.tables.findTransactionByReference = none) :
      Move g i c (.lookup txn) g (.begin txn)
  | found {txn row} : Move g i c (.lookup txn) g (.answered (.found row))
  | begin {txn} : Move g i c (.begin txn) g (.insert .append { txn with balanceAfter := none })
  | insert {w row} (hid : g.free i (.id row.id) = true)
      (href : g.freeReference i row.referenceId = true)
      (hnone : row.referenceId.bind g.tables.findTransactionByReference = none) :
      Move g i c (.insert w row) ((g.take i (.id row.id)).takeReference i row.referenceId)
        (.upsert w row)
  | conflict {row} : Move g i c (.insert .append row) g (.rollback row)
  | insertFailed {w row e} : Move g i c (.insert w row) g (.drop e)
  | rollback {row} : Move g i c (.rollback row) (g.release i) (.reread row)
  | rollbackFailed {row e} : Move g i c (.rollback row) g (.drop e)
  | reread {row existing} : Move g i c (.reread row) g (.answered (.found existing))
  | upsert {w row} (hfree : g.free i (.account row.tenantId) = true) :
      Move g i c (.upsert w row) (g.take i (.account row.tenantId))
        (.commit w row (g.tables.upserted row))
  | upsertFailed {w row e} : Move g i c (.upsert w row) g (.drop e)
  | commit {w row account} :
      Move g i c (.commit w row account) (g.commit i w row account) (w.after row account)
  | commitLost {w row account e} :
      Move g i c (.commit w row account) (g.commit i w row account) (.answered (.failed e))
  | commitFailed {w row account e} :
      Move g i c (.commit w row account) (g.release i) (.answered (.failed e))
  | drop {e} : Move g i c (.drop e) (g.release i) (.answered (.failed e))
  | redeemed {r txn}
      (htxn : g.tables.findTransactionByReference (voucherRef r.codeHash) = some txn) :
      Move g i c (.check r) g (.account r txn.amountUnits true)
  | check {r} (hnone : g.tables.findTransactionByReference (voucherRef r.codeHash) = none) :
      Move g i c (.check r) g (.beginRedeem r true)
  | beginRedeem {r handler} : Move g i c (.beginRedeem r handler) g (.mark r handler)
  | mark {r handler voucher} (hfree : g.free i (.voucher r.codeHash) = true)
      (hvoucher : g.tables.creditVouchers r.codeHash = some voucher)
      (hactive : voucher.status = .active) :
      Move g i c (.mark r handler) (g.take i (.voucher r.codeHash))
        (.insert (.redeem r (voucher.redeemed r.tenant r.now) handler)
          (voucherTransaction c.uuid r.codeHash r.tenant voucher.amountUnits r.now))
  | markFailed {r handler e} : Move g i c (.mark r handler) g (.drop e)
  | account {r credits already balance} :
      Move g i c (.account r credits already) g (.answered (.response credits balance already))
  | noAccount {r credits already} :
      Move g i c (.account r credits already) g (.openAccount r credits already)
  | openAccount {r credits already reply} (hfree : g.free i (.account r.tenant) = true)
      (hnone : g.tables.creditAccounts r.tenant = none)
      (hreply : reply = .response credits 0 already ∨ ∃ e, reply = .failed e) :
      Move g i c (.openAccount r credits already)
        { g with tables := g.tables.openAccount r.tenant c.clock } (.answered reply)

variable {g g' : Server} {i j : Nat} {pc pc' : Pc} {c : Choice}
variable {w : Work} {row : CreditTransaction} {account : CreditAccount}

/-! ## What a session holds -/

/-- The voucher that the session has marked is still active for everybody else. -/
def HoldsVoucher (g : Server) (i : Nat) (row : CreditTransaction) : Work → Prop
  | .append => True
  | .redeem r marked _ => g.locks (.voucher r.codeHash) = some i ∧
      ∃ voucher id, g.tables.creditVouchers r.codeHash = some voucher ∧
        voucher.status = .active ∧ marked = voucher.redeemed r.tenant r.now ∧
        row = voucherTransaction id r.codeHash r.tenant voucher.amountUnits r.now

/-- The reference of the inserted row is held and not in use. -/
structure HoldsRow (g : Server) (i : Nat) (row : CreditTransaction) : Prop where
  lock : ∀ ref, row.referenceId = some ref → g.locks (.reference ref) = some i
  unposted : Unposted CreditTransaction.referenceId g.tables.creditTransactions row

/-- The account is held, and the pending balance is the committed one plus the row. -/
structure HoldsAccount (g : Server) (i : Nat) (row : CreditTransaction) (account : CreditAccount) :
    Prop where
  lock : g.locks (.account row.tenantId) = some i
  balance : account.balanceUnits = g.tables.balance row.tenantId + row.amountUnits

/-- What the session `i` can rely on where it is. -/
def Holds (g : Server) (i : Nat) : Pc → Prop
  | .insert w row => HoldsVoucher g i row w
  | .upsert w row => HoldsVoucher g i row w ∧ HoldsRow g i row
  | .commit w row account => HoldsVoucher g i row w ∧ HoldsRow g i row ∧
      HoldsAccount g i row account
  | _ => True

/-- The change from `g` to `g'` leaves alone what the session `j` holds. -/
structure Spares (j : Nat) (g g' : Server) : Prop where
  locks : ∀ l, g.locks l = some j → g'.locks l = some j
  accounts : ∀ t, g.locks (.account t) = some j →
    g'.tables.creditAccounts t = g.tables.creditAccounts t
  vouchers : ∀ hash, g.locks (.voucher hash) = some j →
    g'.tables.creditVouchers hash = g.tables.creditVouchers hash
  rows : ∀ row ∈ g'.tables.creditTransactions, row ∈ g.tables.creditTransactions ∨
    ∀ ref, row.referenceId = some ref → g.locks (.reference ref) ≠ some j

lemma Spares.of_tables (htables : g'.tables = g.tables)
    (hlocks : ∀ l, g.locks l = some j → g'.locks l = some j) : Spares j g g' where
  locks := hlocks
  accounts t _ := by rw [htables]
  vouchers hash _ := by rw [htables]
  rows row hrow := .inl (htables ▸ hrow)

section

variable (h : Spares i g g')
include h

lemma Spares.holdsVoucher (hw : HoldsVoucher g i row w) : HoldsVoucher g' i row w := by
  cases w with
  | append => trivial
  | redeem r marked handler =>
    rcases hw with ⟨hlock, voucher, id, hvoucher, hrest⟩
    refine ⟨h.locks _ hlock, voucher, id, ?_, hrest⟩
    rw [h.vouchers _ hlock]
    exact hvoucher

lemma Spares.holdsRow (hrow : HoldsRow g i row) : HoldsRow g' i row := by
  constructor
  · intro ref href
    exact h.locks _ (hrow.lock ref href)
  · intro ref href other hother hother'
    rcases h.rows other hother with hold | hnew
    · exact hrow.unposted ref href other hold hother'
    · exact hnew ref hother' (hrow.lock ref href)

lemma Spares.holdsAccount (hacc : HoldsAccount g i row account) :
    HoldsAccount g' i row account := by
  constructor
  · exact h.locks _ hacc.lock
  · have hsame : g'.tables.balance row.tenantId = g.tables.balance row.tenantId := by
      simp only [Tables.balance, h.accounts _ hacc.lock]
    rw [hsame]
    exact hacc.balance

lemma Spares.holds (hpc : Holds g i pc) : Holds g' i pc := by
  cases pc with
  | insert w row => exact h.holdsVoucher hpc
  | upsert w row => exact ⟨h.holdsVoucher hpc.1, h.holdsRow hpc.2⟩
  | commit w row account =>
    exact ⟨h.holdsVoucher hpc.1, h.holdsRow hpc.2.1, h.holdsAccount hpc.2.2⟩
  | _ => trivial

end

/-! ## Locks -/

variable {l : Lock}

lemma locks_take {l' : Lock} (hfree : g.free i l = true) (h : g.locks l' = some j) :
    (g.take i l).locks l' = some j := by
  by_cases hl : l' = l
  · subst hl
    have hij : i = j := by simpa [Server.free, h, eq_comm] using hfree
    simp [Server.take, hij]
  · simpa [Server.take, hl] using h

lemma locks_takeReference {ref : Option String} (hfree : g.freeReference i ref = true)
    (h : g.locks l = some j) : (g.takeReference i ref).locks l = some j := by
  cases ref with
  | none => exact h
  | some r => exact locks_take hfree h

lemma locks_release (hji : j ≠ i) (h : g.locks l = some j) : (g.release i).locks l = some j := by
  simp [Server.release, h, hji]

/-! ## What a statement does -/

/-- A statement that commits nothing: the tables stay, and so do the locks of the other sessions. -/
structure Silent (i : Nat) (g g' : Server) : Prop where
  tables : g'.tables = g.tables
  locks : ∀ j, j ≠ i → ∀ l, g.locks l = some j → g'.locks l = some j

lemma Silent.refl : Silent i g g :=
  ⟨rfl, fun _ _ _ h => h⟩

lemma Silent.release : Silent i g (g.release i) :=
  ⟨rfl, fun _ hj _ h => locks_release hj h⟩

lemma Silent.take (hfree : g.free i l = true) : Silent i g (g.take i l) :=
  ⟨rfl, fun _ _ _ h => locks_take hfree h⟩

/-- A statement that commits nothing and leads to a place where the session can rely on what it
holds. -/
structure Quiet (i : Nat) (g : Server) (pc : Pc) (g' : Server) (pc' : Pc) : Prop where
  silent : Silent i g g'
  holds : Holds g i pc → Holds g' i pc'

lemma Silent.quiet (hs : Silent i g g') (hholds : Holds g' i pc') : Quiet i g pc g' pc' :=
  ⟨hs, fun _ => hholds⟩

variable {P : Server → Pc → Prop}

lemma of_some {r : Server × Pc} (h : some r = some (g', pc')) (hr : P r.1 r.2) : P g' pc' := by
  have heq : r = (g', pc') := Option.some.inj h
  rw [heq] at hr
  exact hr

/-- What holds after the error branch of a statement and after its result holds after it. -/
lemma of_orFault {bad : CombeeError → Server × Pc} {ok : Option (Server × Pc)}
    (h : orFault c bad ok = some (g', pc'))
    (hbad : ∀ e, P (bad e).1 (bad e).2) (hok : ok = some (g', pc') → P g' pc') : P g' pc' := by
  unfold orFault at h
  split at h
  · exact of_some h (hbad _)
  · exact hok h

lemma act_move (h : act g i pc c = some (g', pc')) : Move g i c pc g' pc' := by
  cases pc <;> simp only [act, reduceCtorEq] at h
  case lookup txn =>
    split at h
    · rename_i href
      exact of_some h (.lookup (by simp [href]))
    · rename_i ref href
      refine of_orFault h (fun _ => .failed) fun hok => ?_
      split at hok <;> rename_i hfind <;> refine of_some hok ?_
      · exact .found
      · exact .lookup (by simp [href, hfind])
  case begin => exact of_orFault h (fun _ => .failed) fun hok => of_some hok .begin
  case insert w row =>
    refine of_orFault h (fun _ => .insertFailed) fun hok => ?_
    split_ifs at hok with hfree hid href
    · exact of_some hok .insertFailed
    · cases w with
      | append => exact of_some hok .conflict
      | redeem => exact of_some hok .insertFailed
    · rcases Bool.and_eq_true_iff.mp hfree with ⟨hfreeId, hfreeRef⟩
      exact of_some hok (.insert hfreeId hfreeRef (by simpa using href))
  case rollback => exact of_orFault h (fun _ => .rollbackFailed) fun hok => of_some hok .rollback
  case reread =>
    refine of_orFault h (fun _ => .failed) fun hok => ?_
    split at hok
    · exact of_some hok .reread
    · exact of_some hok .failed
  case upsert =>
    refine of_orFault h (fun _ => .upsertFailed) fun hok => ?_
    split_ifs at hok with hfree
    · exact of_some hok (.upsert hfree)
    · exact of_some hok .upsertFailed
  case commit =>
    split at h
    · -- the connection is lost at the commit, before or after it takes effect
      split_ifs at h
      · exact of_some h .commitLost
      · exact of_some h .commitFailed
    · exact of_some h .commit
  case drop => exact of_some h .drop
  case check =>
    refine of_orFault h (fun _ => .failed) fun hok => ?_
    split at hok <;> rename_i hfind <;> refine of_some hok ?_
    · exact .redeemed hfind
    · exact .check hfind
  case beginRedeem => exact of_orFault h (fun _ => .failed) fun hok => of_some hok .beginRedeem
  case mark =>
    refine of_orFault h (fun _ => .markFailed) fun hok => ?_
    split_ifs at hok with hfree
    split at hok <;> rename_i hvoucher <;> refine of_some hok ?_
    · rcases Option.filter_eq_some_iff.mp hvoucher with ⟨hv, hmatches⟩
      simp only [matchesVoucher, Bool.and_eq_true, decide_eq_true_eq] at hmatches
      exact .mark hfree hv hmatches.1
    · exact .markFailed
  case account =>
    refine of_orFault h (fun _ => .failed) fun hok => ?_
    split at hok
    · exact of_some hok .account
    · exact of_some hok .noAccount
  case openAccount =>
    split_ifs at h with hfault hfree
    · exact of_some h .failed
    · split at h <;> rename_i hnone
      · exact of_some h .failed
      · refine of_some h (.openAccount hfree hnone ?_)
        cases c.fault with
        | none => exact .inl rfl
        | some message => exact .inr ⟨_, rfl⟩

lemma quiet_insert (hid : g.free i (.id row.id) = true)
    (href : g.freeReference i row.referenceId = true)
    (hnone : row.referenceId.bind g.tables.findTransactionByReference = none) :
    Quiet i g (.insert w row) ((g.take i (.id row.id)).takeReference i row.referenceId)
      (.upsert w row) := by
  have hlocks : ∀ j l, g.locks l = some j →
      ((g.take i (.id row.id)).takeReference i row.referenceId).locks l = some j := by
    intro j l hl
    refine locks_takeReference ?_ (locks_take hid hl)
    -- the id is another lock than the reference
    cases hr : row.referenceId with
    | none => rfl
    | some ref => simpa [Server.freeReference, Server.free, Server.take, hr] using href
  have htables : ((g.take i (.id row.id)).takeReference i row.referenceId).tables =
      g.tables := by
    cases row.referenceId with
    | none | some => rfl
  have hspares : Spares i g ((g.take i (.id row.id)).takeReference i row.referenceId) :=
    Spares.of_tables htables (hlocks i)
  refine ⟨⟨htables, fun j _ l => hlocks j l⟩, fun hw => ⟨hspares.holdsVoucher hw, ⟨?_, ?_⟩⟩⟩
  · intro ref hr
    simp [hr, Server.takeReference, Server.take]
  · rw [htables]
    exact unposted_iff.mpr hnone

variable {db : Tables}

lemma upserted_balance :
    (db.upserted row).balanceUnits = db.balance row.tenantId + row.amountUnits := by
  unfold Tables.upserted Tables.balance
  cases db.creditAccounts row.tenantId with
  | none | some => simp

/-- All statements but the commit and the opening of an account write nothing to the tables. -/
lemma act_cases (h : act g i pc c = some (g', pc')) :
    Quiet i g pc g' pc' ∨
    (∃ w row account, pc = .commit w row account ∧
      g' = g.commit i w row account ∧
      (pc' = w.after row account ∨ ∃ e, pc' = .answered (.failed e))) ∨
    ∃ r credits already now reply, pc = .openAccount r credits already ∧
      g.free i (.account r.tenant) = true ∧ g.tables.creditAccounts r.tenant = none ∧
      g' = { g with tables := g.tables.openAccount r.tenant now } ∧
      pc' = .answered reply ∧ ∀ row, reply ≠ .found row := by
  cases act_move h with
  | insert hid href hnone => exact .inl (quiet_insert hid href hnone)
  | @upsert w row hfree =>
    -- the row lock is taken before the balance is read
    have hspares : Spares i g (g.take i (.account row.tenantId)) :=
      Spares.of_tables rfl fun l hl => locks_take hfree hl
    refine .inl ⟨.take hfree, ?_⟩
    intro ⟨hw, hrow⟩
    refine ⟨hspares.holdsVoucher hw, hspares.holdsRow hrow, ?_, upserted_balance⟩
    simp [Server.take]
  | mark hfree hvoucher hactive =>
    refine .inl ((Silent.take hfree).quiet ⟨?_, _, c.uuid, hvoucher, hactive, rfl, rfl⟩)
    simp [Server.take]
  | rollback | commitFailed | drop => exact .inl (Silent.release.quiet trivial)
  | commit => exact .inr (.inl ⟨_, _, _, rfl, rfl, .inl rfl⟩)
  | commitLost => exact .inr (.inl ⟨_, _, _, rfl, rfl, .inr ⟨_, rfl⟩⟩)
  | openAccount hfree hnone hreply =>
    refine .inr (.inr ⟨_, _, _, _, _, rfl, hfree, hnone, rfl, rfl, fun row => ?_⟩)
    rcases hreply with rfl | ⟨e, rfl⟩ <;> simp
  | _ => exact .inl (Silent.refl.quiet trivial)

/-! ## The tables stay consistent -/

structure Consistent (db : Tables) : Prop where
  refs : Distinct CreditTransaction.referenceId db.creditTransactions
  balances : ∀ t, db.balance t = rowSum db.creditTransactions t

@[simp] lemma commit_tables : (g.commit i w row account).tables = g.tables.commit w row account :=
  rfl

variable {t : TenantId}

lemma commit_balance :
    (db.commit w row account).balance t =
      if t = row.tenantId then account.balanceUnits else db.balance t := by
  by_cases ht : t = row.tenantId
  · subst ht
    simp [Tables.balance, Tables.commit]
  · simp [Tables.balance, Tables.commit, ht]

lemma Consistent.commit (h : Consistent g.tables) (hrow : HoldsRow g i row)
    (hacc : HoldsAccount g i row account) : Consistent (g.tables.commit w row account) := by
  constructor
  · exact distinct_concat.mpr ⟨h.refs, hrow.unposted⟩
  · intro t
    have hrows : (g.tables.commit w row account).creditTransactions =
        g.tables.creditTransactions ++ [row] := rfl
    rw [hrows]
    by_cases ht : row.tenantId = t
    · subst ht
      have hbalance : (g.tables.commit w row account).balance row.tenantId =
          account.balanceUnits := by
        simp [commit_balance]
      calc (g.tables.commit w row account).balance row.tenantId
          = g.tables.balance row.tenantId + row.amountUnits := hbalance.trans hacc.balance
        _ = rowSum g.tables.creditTransactions row.tenantId + row.amountUnits := by
            rw [h.balances]
        _ = rowSum (g.tables.creditTransactions ++ [row]) row.tenantId :=
            (total_concat_self rfl).symm
    · have hbalance : (g.tables.commit w row account).balance t = g.tables.balance t := by
        simp [commit_balance, Ne.symm ht]
      calc (g.tables.commit w row account).balance t
          = rowSum g.tables.creditTransactions t := hbalance.trans (h.balances t)
        _ = rowSum (g.tables.creditTransactions ++ [row]) t := (total_concat_of_ne ht).symm

variable {now : Int}

lemma openAccount_balance {t' : TenantId}
    (hnone : db.creditAccounts t = none) : (db.openAccount t now).balance t' = db.balance t' := by
  by_cases ht : t' = t
  · subst ht
    simp [Tables.balance, Tables.openAccount, hnone]
  · simp [Tables.balance, Tables.openAccount, ht]

lemma Consistent.openAccount (h : Consistent db)
    (hnone : db.creditAccounts t = none) : Consistent (db.openAccount t now) := by
  refine ⟨h.refs, ?_⟩
  intro t'
  rw [openAccount_balance hnone]
  exact h.balances t'

lemma spares_commit (hji : j ≠ i) (h : Holds g i (.commit w row account)) :
    Spares j g (g.commit i w row account) := by
  rcases h with ⟨hw, hrow, hacc⟩
  have hlock : ∀ {l}, g.locks l = some j → g.locks l ≠ some i := by
    intro l hl hl'
    exact hji (Option.some.inj (hl.symm.trans hl'))
  constructor
  · intro l hl
    exact locks_release hji hl
  · intro t ht
    have hne : t ≠ row.tenantId := by
      rintro rfl
      exact hlock ht hacc.lock
    exact Function.update_of_ne hne _ _
  · intro hash hhash
    cases w with
    | append => rfl
    | redeem r marked handler =>
      have hne : hash ≠ r.codeHash := by
        rintro rfl
        exact hlock hhash hw.1
      exact Function.update_of_ne hne _ _
  · intro row' hrow'
    -- the new row has a reference that this session holds
    rcases List.mem_append.mp hrow' with hold | hnew
    · exact .inl hold
    · rcases List.mem_singleton.mp hnew with rfl
      exact .inr fun ref href hl => hlock hl (hrow.lock ref href)

lemma spares_openAccount (hji : j ≠ i) (hfree : g.free i (.account t) = true) :
    Spares j g { g with tables := g.tables.openAccount t now } := by
  refine ⟨fun _ hl => hl, ?_, fun _ _ => rfl, fun _ hrow => .inl hrow⟩
  intro t' ht'
  have hne : t' ≠ t := by
    rintro rfl
    have hij : i = j := by simpa [Server.free, ht', eq_comm] using hfree
    exact hji hij.symm
  exact Function.update_of_ne hne _ _

lemma act_spares (hpc : Holds g i pc) (h : act g i pc c = some (g', pc')) (hji : j ≠ i) :
    Spares j g g' := by
  rcases act_cases h with hquiet | ⟨w, row, account, rfl, rfl, _⟩ |
    ⟨r, credits, already, now, reply, rfl, hfree, _, rfl, _⟩
  · exact Spares.of_tables hquiet.silent.tables (hquiet.silent.locks j hji)
  · exact spares_commit hji hpc
  · exact spares_openAccount hji hfree

/-- The invariant: consistent tables, and every session holds what it relies on. -/
abbrev Sound : Pool Server Nat Pc → Prop :=
  Pool.Inv (fun g => Consistent g.tables) Holds

variable {s s' : Pool Server Nat Pc}

lemma Sound.step {l : PoolLabel Nat Choice Empty} (hs : Sound s)
    (h : step s l = some s') : Sound s' := by
  refine Pool.step_inv ?_ ?_ (fun {e} => e.elim) hs h
  · intro i c g' pc' _ hact
    rcases act_cases hact with hquiet | ⟨w, row, account, hpc, rfl, hafter⟩ |
      ⟨r, credits, already, now, reply, hpc, _, hnone, rfl, rfl, _⟩
    · rw [hquiet.silent.tables]
      exact ⟨hs.shared, hquiet.holds (hs.procs i)⟩
    · have hholds : Holds s.shared i (.commit w row account) := hpc ▸ hs.procs i
      refine ⟨hs.shared.commit hholds.2.1 hholds.2.2, ?_⟩
      rcases hafter with rfl | ⟨e, rfl⟩
      · cases w with
        | append => trivial
        | redeem r marked handler => cases handler <;> trivial
      · trivial
    · exact ⟨hs.shared.openAccount hnone, trivial⟩
  · intro i c g' pc' _ hact j hji hj
    exact (act_spares (hs.procs i) hact hji).holds hj

/-! ## A call that meets its reference changes nothing -/

def Present (g : Server) (row : CreditTransaction) : Prop :=
  ¬ Unposted CreditTransaction.referenceId g.tables.creditTransactions row

/-- The call has found its reference, or is about to look it up or insert it and will find it. -/
def MeetsReference (g : Server) : Pc → Prop
  | .lookup txn => Present g txn
  | .insert _ row => Present g row
  | .answered (.found _) => True
  | _ => False

/-- The call will not commit anything any more. -/
def Aborts (g : Server) : Pc → Prop
  | .lookup txn => Present g txn
  | .insert _ row => Present g row
  | .rollback _ => True
  | .reread _ => True
  | .drop _ => True
  | .answered _ => True
  | _ => False

def Committed : Pc → Prop
  | .account _ _ _ => True
  | .openAccount _ _ _ => True
  | .answered (.found _) => False
  | .answered _ => True
  | _ => False

lemma MeetsReference.aborts (h : MeetsReference g pc) : Aborts g pc := by
  cases pc with
  | lookup | insert => exact h
  | answered reply => trivial
  | _ => exact h.elim

lemma MeetsReference.not_committed (h : MeetsReference g pc) : ¬ Committed pc := by
  cases pc with
  | answered reply =>
    cases reply with
    | found row => exact id
    | _ => exact h.elim
  | lookup | insert => exact id
  | _ => exact h.elim

lemma Present.bind_isSome (h : Present g row) :
    (row.referenceId.bind g.tables.findTransactionByReference).isSome = true := by
  have hne : row.referenceId.bind g.tables.findTransactionByReference ≠ none :=
    fun hnone => h (unposted_iff.mpr hnone)
  exact Option.isSome_iff_ne_none.mpr hne

/-- The statements of a call that will not commit leave the tables as they are. -/
lemma Aborts.tables_eq (hpc : Aborts g pc) (h : act g i pc c = some (g', pc')) :
    g'.tables = g.tables := by
  rcases act_cases h with hquiet | ⟨w, row, account, rfl, _⟩ | ⟨r, credits, already, _, _, rfl, _⟩
  · exact hquiet.silent.tables
  · exact hpc.elim
  · exact hpc.elim

lemma Aborts.act (hpc : Aborts g pc) (h : act g i pc c = some (g', pc')) : Aborts g' pc' := by
  cases act_move h with
  | lookup hnone | insert _ _ hnone =>
    have hsome := Present.bind_isSome hpc
    simp [hnone] at hsome
  | begin | upsert | commit | redeemed | check | beginRedeem | mark | noAccount => exact hpc.elim
  | _ => trivial

lemma Committed.act (hpc : Committed pc) (h : act g i pc c = some (g', pc')) : Committed pc' := by
  cases act_move h with
  | failed | account | noAccount => trivial
  | openAccount _ _ hreply => rcases hreply with rfl | ⟨e, rfl⟩ <;> trivial
  | _ => exact hpc.elim

/-- A statement that writes to the tables is the last that a call commits. -/
lemma committed_of_tables_ne (h : act g i pc c = some (g', pc'))
    (hne : g'.tables ≠ g.tables) : Committed pc' := by
  rcases act_cases h with hquiet | ⟨w, row, account, rfl, _, hafter⟩ |
    ⟨r, credits, already, now, reply, rfl, _, _, _, rfl, hreply⟩
  · exact absurd hquiet.silent.tables hne
  · rcases hafter with rfl | ⟨e, rfl⟩
    · cases w with
      | append => trivial
      | redeem r marked handler => cases handler <;> trivial
    · trivial
  · cases reply with
    | found row => exact absurd rfl (hreply row)
    | _ => trivial

lemma transactions_grow (h : act g i pc c = some (g', pc')) :
    g.tables.creditTransactions <+: g'.tables.creditTransactions := by
  rcases act_cases h with hquiet | ⟨w, row, account, _, rfl, _⟩ |
    ⟨r, credits, already, now, reply, _, _, _, rfl, _⟩
  · simp [hquiet.silent.tables]
  · exact List.prefix_append _ _
  · exact List.prefix_rfl

lemma Present.mono (h : Present g row)
    (hrows : g.tables.creditTransactions <+: g'.tables.creditTransactions) : Present g' row := by
  intro hun
  refine h fun ref href other hother => hun ref href other ?_
  exact hrows.subset hother

lemma Aborts.mono (h : Aborts g pc)
    (hrows : g.tables.creditTransactions <+: g'.tables.creditTransactions) : Aborts g' pc := by
  cases pc with
  | lookup | insert => exact Present.mono h hrows
  | _ => exact h

variable {ls : List (PoolLabel Nat Choice Empty)}

lemma aborts_exec (hs : Aborts s.shared (s.procs i)) (h : exec step s ls = some s') :
    Aborts s'.shared (s'.procs i) := by
  refine Pool.proc_of_exec ?_ ?_ (fun {_ _ e} => e.elim) hs h
  · exact fun hpc hact => hpc.act hact
  · exact fun hpc hact => hpc.mono (transactions_grow hact)

lemma committed_exec
    (hs : Committed (s.procs i)) (h : exec step s ls = some s') : Committed (s'.procs i) := by
  refine Pool.proc_of_exec (K := fun _ pc => Committed pc) ?_ ?_ (fun {_ _ e} => e.elim) hs h
  · exact fun hpc hact => hpc.act hact
  · exact fun hpc _ => hpc

/-- A call that meets its reference at some point of a run changes the tables at no point of it. -/
lemma tables_eq_of_meetsReference {s₀ u v v' : Pool Server Nat Pc}
    {pre pre' : List (PoolLabel Nat Choice Empty)} (hpre : pre <+: ls)
    (hu : exec step s₀ pre = some u) (hmeets : MeetsReference u.shared (u.procs i))
    (hpre' : pre' ++ [.proc i c] <+: ls) (hv : exec step s₀ pre' = some v)
    (hstep : step v (.proc i c) = some v') : v'.shared.tables = v.shared.tables := by
  rcases Pool.step_proc_eq_some.mp hstep with ⟨g', pc', hact, rfl⟩
  have hv' : exec step s₀ (pre' ++ [.proc i c]) = some ⟨g', Function.update v.procs i pc'⟩ :=
    exec_append_eq_some.mpr ⟨v, hv, exec_cons hstep exec_nil⟩
  -- the statement comes before the call meets its reference, or after
  have hbefore : pre' ++ [.proc i c] <+: pre → g'.tables = v.shared.tables := by
    intro ⟨rest, hrest⟩
    by_contra hne
    rw [← hrest, exec_append_eq_some] at hu
    rcases hu with ⟨w, hw, hu⟩
    have hw' := Option.some.inj (hv'.symm.trans hw)
    subst hw'
    have hcommitted := committed_of_tables_ne hact hne
    exact hmeets.not_committed (committed_exec (by simpa using hcommitted) hu)
  have hafter : pre <+: pre' → g'.tables = v.shared.tables := by
    intro ⟨rest, hrest⟩
    rw [← hrest, exec_append_eq_some] at hv
    rcases hv with ⟨w, hw, hv⟩
    have hw' := Option.some.inj (hu.symm.trans hw)
    subst hw'
    exact (aborts_exec hmeets.aborts hv).tables_eq hact
  rcases List.prefix_or_prefix_of_prefix hpre hpre' with hle | hle
  · rcases List.prefix_concat_iff.mp hle with rfl | hle
    · exact hbefore List.prefix_rfl
    · exact hafter hle
  · exact hbefore hle

def Starting : Pc → Prop
  | .lookup _ => True
  | .beginRedeem _ _ => True
  | .check _ => True
  | _ => False

lemma Starting.holds (h : Starting pc) : Holds g i pc := by
  cases pc with
  | lookup | beginRedeem | check => trivial
  | _ => exact h.elim

/-- In every state no reference is used twice and every balance is the sum of the tenant's rows, and
a call that meets its reference changes nothing. -/
theorem postgres_linearizable {s₀ s : Pool Server Nat Pc}
    {ls : List (PoolLabel Nat Choice Empty)} (h₀ : Consistent s₀.shared.tables)
    (hstart : ∀ i, Starting (s₀.procs i)) (hrun : exec step s₀ ls = some s) :
    Distinct CreditTransaction.referenceId s.shared.tables.creditTransactions ∧
    (∀ t, s.shared.tables.balance t = rowSum s.shared.tables.creditTransactions t) ∧
    ∀ i pre u, pre <+: ls → exec step s₀ pre = some u →
      MeetsReference u.shared (u.procs i) →
      ∀ pre' c v v', pre' ++ [.proc i c] <+: ls → exec step s₀ pre' = some v →
        step v (.proc i c) = some v' → v'.shared.tables = v.shared.tables := by
  have hsound : Sound s :=
    inv_of_exec_all (fun hs h => hs.step h) ⟨h₀, fun i => (hstart i).holds⟩ hrun
  refine ⟨hsound.shared.refs, hsound.shared.balances, ?_⟩
  intro i pre u hpre hu hmeets pre' c v v' hpre' hv hstep
  exact tables_eq_of_meetsReference hpre hu hmeets hpre' hv hstep

/-- A server without rows, and a voucher of 500 units under the code `c0de`. -/
def freshServer : Server where
  tables :=
    { creditAccounts := fun _ => none
      creditTransactions := []
      creditVouchers := fun hash =>
        if hash = "c0de" then some ⟨7, "c0de", 500, .active, none, none, none⟩ else none }
  locks _ := none

def appendR (id : Nat) : CreditTransaction :=
  ⟨id, ⟨5⟩, .grant, 100, none, some "r", none, 60, none⟩

/-- The second append inserts after the first one has committed, and returns the row of the first.
-/
theorem postgres_linearizable_race :
    ∃ s, exec step ⟨freshServer, fun i => .lookup (appendR i)⟩
        [.proc 0 {}, .proc 1 {}, .proc 0 {}, .proc 1 {}, .proc 0 {}, .proc 0 {}, .proc 0 {},
          .proc 1 {}, .proc 1 {}, .proc 1 {}] = some s ∧
      s.procs 1 = .answered (.found (appendR 0)) ∧
      s.shared.tables.creditTransactions = [appendR 0] ∧
      s.shared.tables.balance ⟨5⟩ = rowSum s.shared.tables.creditTransactions ⟨5⟩ := by
  have hreach : ∃ s, exec step ⟨freshServer, fun i => .lookup (appendR i)⟩
        [.proc 0 {}, .proc 1 {}, .proc 0 {}, .proc 1 {}, .proc 0 {}, .proc 0 {}, .proc 0 {},
          .proc 1 {}, .proc 1 {}, .proc 1 {}] = some s ∧
      s.procs 1 = .answered (.found (appendR 0)) ∧
      s.shared.tables.creditTransactions = [appendR 0] :=
    ⟨_, rfl, rfl, rfl⟩
  rcases hreach with ⟨s, hs, hfound, hrows⟩
  refine ⟨s, hs, hfound, hrows, (postgres_linearizable ?_ ?_ hs).2.1 ⟨5⟩⟩
  · exact ⟨distinct_nil, fun _ => rfl⟩
  · intro i
    trivial

end Combee.Billing.Postgres
