import Combee.Billing.Vouchers

/-!
# RedeemBackends — redeeming a voucher in memory and in PostgreSQL

`redeem_voucher` is a chain of checks under the lock of the in-memory store, and a conditional
`UPDATE` with two more statements in a transaction. On ledgers that hold the same (`SameLedger`)
they do the same (`Alike`) unless the voucher is active and

* expires at the very moment of the call: the checks let it pass, the `UPDATE` does not;
* or has a ledger row already: the `INSERT` fails, the index in memory is overwritten;
* or brings the balance out of the range of an `i64`: the `UPSERT` fails, the sum saturates.
-/

namespace Combee.Billing

open Foundation Journal

/-! ## The call in PostgreSQL, with nobody else at work -/

namespace Postgres

/-- Runs the session `i` to its end, at most `n` statements. -/
def finish (i : Nat) (c : Choice) : Nat → Server → Pc → Option (Reply × Tables)
  | _, g, .answered reply => some (reply, g.tables)
  | 0, _, _ => none
  | n + 1, g, pc => (act g i pc c).bind fun next => finish i c n next.1 next.2

lemma finish_step {i : Nat} {c : Choice} {g g' : Server} {pc pc' : Pc} (n : Nat)
    (h : act g i pc c = some (g', pc')) : finish i c (n + 1) g pc = finish i c n g' pc' := by
  cases pc with
  | answered reply => cases h
  | _ => simp only [finish, h, Option.bind_some]

def Alone (g : Server) (i : Nat) : Prop :=
  ∀ l, g.locks l = none ∨ g.locks l = some i

section Alone

variable {g : Server} {i : Nat}

lemma Alone.free (h : Alone g i) (l : Lock) : g.free i l = true := by
  rcases h l with hl | hl <;> simp [Server.free, hl]

lemma Alone.freeReference (h : Alone g i) (ref : Option String) :
    g.freeReference i ref = true := by
  cases ref with
  | none => rfl
  | some ref => exact h.free _

lemma Alone.take (h : Alone g i) (l : Lock) : Alone (g.take i l) i := by
  intro l'
  by_cases hl : l' = l
  · exact .inr (by simp [Server.take, hl])
  · simpa [Server.take, hl] using h l'

variable {c : Choice} {r : Redeem} {handler : Bool}

lemma Alone.act_mark (h : Alone g i) (hc : c.fault = none) {voucher : CreditVoucher}
    (hv : (g.tables.creditVouchers r.codeHash).filter (matchesVoucher r) = some voucher) :
    act g i (.mark r handler) c = some (g.take i (.voucher r.codeHash),
      .insert (.redeem r (voucher.redeemed r.tenant r.now) handler)
        (voucherTransaction c.uuid r.codeHash r.tenant voucher.amountUnits r.now)) := by
  simp only [act, orFault, hc, h.free, if_true, hv]

lemma Alone.act_insert (h : Alone g i) (hc : c.fault = none) (r : Redeem)
    (marked : CreditVoucher) (handler : Bool) (row : CreditTransaction)
    (hid : ∀ old ∈ g.tables.creditTransactions, old.id ≠ row.id) :
    act g i (.insert (.redeem r marked handler) row) c = some (
      if (row.referenceId.bind g.tables.findTransactionByReference).isSome then
        (g, .drop uniqueViolation)
      else ((g.take i (.id row.id)).takeReference i row.referenceId,
        .upsert (.redeem r marked handler) row)) := by
  have hany : (g.tables.creditTransactions.any fun old => old.id = row.id) = false := by
    simpa using hid
  simp only [act, orFault, hc, h.free, h.freeReference, Bool.and_self, if_true, hany,
    Bool.false_eq_true, if_false]
  split <;> rfl

lemma Alone.act_upsert (h : Alone g i) (hc : c.fault = none) (w : Work)
    (row : CreditTransaction) :
    act g i (.upsert w row) c = some (
      if FitsI64 (g.tables.upserted row).balanceUnits then
        (g.take i (.account row.tenantId), .commit w row (g.tables.upserted row))
      else (g, .drop (internal "bigint out of range"))) := by
  simp only [act, orFault, hc, h.free, if_true]
  split <;> rfl

end Alone

namespace Tables

/-- `redeem_voucher` alone on the server; `uuid` is the one that it draws. -/
def redeemVoucher (db : Tables) (r : Redeem) (uuid : Nat) : Option (Reply × Tables) :=
  finish 0 { uuid } 6 ⟨db, fun _ => none⟩ (.beginRedeem r false)

def Fresh (db : Tables) (uuid : Nat) : Prop :=
  ∀ row ∈ db.creditTransactions, row.id ≠ uuid

instance (db : Tables) (uuid : Nat) : Decidable (db.Fresh uuid) :=
  inferInstanceAs (Decidable (∀ row ∈ db.creditTransactions, row.id ≠ uuid))

variable {db : Tables} {r : Redeem} {uuid : Nat}

lemma redeemVoucher_of_none
    (h : (db.creditVouchers r.codeHash).filter (matchesVoucher r) = none) :
    db.redeemVoucher r uuid =
      some (.failed (.invalidRequest "voucher invalid, expired or already used"), db) := by
  simp [redeemVoucher, finish, act, orFault, Server.free, h, Server.release]

/-- The `UPDATE` marks the voucher; the two statements after it decide. -/
lemma redeemVoucher_of_some {voucher : CreditVoucher} (hfresh : db.Fresh uuid)
    (h : (db.creditVouchers r.codeHash).filter (matchesVoucher r) = some voucher) :
    let row := voucherTransaction uuid r.codeHash r.tenant voucher.amountUnits r.now
    db.redeemVoucher r uuid = some (
      if (db.findTransactionByReference (voucherRef r.codeHash)).isSome then
        (.failed uniqueViolation, db)
      else if FitsI64 (db.upserted row).balanceUnits then
        (.redeemed voucher.amountUnits,
          db.commit (.redeem r (voucher.redeemed r.tenant r.now) false) row (db.upserted row))
      else (.failed (internal "bigint out of range"), db)) := by
  intro row
  have hnobody : Alone ⟨db, fun _ => none⟩ 0 := fun _ => .inl rfl
  have hmarked := hnobody.take (.voucher r.codeHash)
  have hbegin : act ⟨db, fun _ => none⟩ 0 (.beginRedeem r false) { uuid } =
    some (⟨db, fun _ => none⟩, .mark r false) := rfl
  rw [redeemVoucher, finish_step 5 hbegin, finish_step 4 (hnobody.act_mark rfl h)]
  have hinsert := hmarked.act_insert (c := { uuid }) rfl r (voucher.redeemed r.tenant r.now) false
    row hfresh
  by_cases href : (db.findTransactionByReference (voucherRef r.codeHash)).isSome = true
  · rw [if_pos href]
    exact (finish_step 3 (hinsert.trans (congrArg some (if_pos href)))).trans rfl
  · rw [if_neg href, finish_step 3 (hinsert.trans (congrArg some (if_neg href)))]
    have halone := (hmarked.take (.id row.id)).take (.reference (voucherRef r.codeHash))
    have hupsert := halone.act_upsert (c := { uuid }) rfl
      (.redeem r (voucher.redeemed r.tenant r.now) false) row
    by_cases hfits : FitsI64 (db.upserted row).balanceUnits
    · rw [if_pos hfits]
      exact (finish_step 2 (hupsert.trans (congrArg some (if_pos hfits)))).trans rfl
    · rw [if_neg hfits]
      exact (finish_step 2 (hupsert.trans (congrArg some (if_neg hfits)))).trans rfl

end Tables

end Postgres

/-! ## Ledgers that hold the same -/

def CreditTransaction.bare (row : CreditTransaction) : CreditTransaction :=
  { row with id := 0, balanceAfter := none }

structure SameLedger (s : InMemoryStore) (db : Postgres.Tables) : Prop where
  accounts : s.creditAccounts = db.creditAccounts
  rows : s.creditTransactions.map CreditTransaction.bare =
    db.creditTransactions.map CreditTransaction.bare
  vouchers : ∀ hash, (s.voucherByHash hash).bind s.vouchers = db.creditVouchers hash
  /-- No voucher has two hashes. -/
  hashes : ∀ hash hash' vid, s.voucherByHash hash = some vid → s.voucherByHash hash' = some vid →
    hash = hash'

/-- The call is accepted by both stores or by neither, and they hold the same afterwards. -/
structure Alike (s : InMemoryStore) (db : Postgres.Tables) (r : Redeem) (id uuid : Nat) :
    Prop where
  accepts : ∀ amount, (s.redeemVoucher r.codeHash r.tenant r.now id).1 = .ok amount ↔
    (db.redeemVoucher r uuid).map Prod.fst = some (.redeemed amount)
  changes : ∃ db', (db.redeemVoucher r uuid).map Prod.snd = some db' ∧
    SameLedger (s.redeemVoucher r.codeHash r.tenant r.now id).2 db'

/-- An active voucher does not expire at the very moment; if it is not expired, it has no ledger row
yet and the balance has room. -/
def GoAlike (db : Postgres.Tables) (r : Redeem) : Prop :=
  ∀ voucher, db.creditVouchers r.codeHash = some voucher → voucher.status = .active →
    voucher.expiresAt ≠ some r.now ∧
    ((∀ e, voucher.expiresAt = some e → r.now < e) →
      (∀ row ∈ db.creditTransactions, row.referenceId ≠ some (voucherRef r.codeHash)) ∧
      FitsI64 (db.balance r.tenant + voucher.amountUnits))

section Redeem

variable {s : InMemoryStore} {db : Postgres.Tables} {r : Redeem} {id uuid vid : Nat}
variable {voucher : CreditVoucher} {e e' : CombeeError} {amount : Int}

lemma alike_of_refused (h : SameLedger s db)
    (hmem : s.redeemVoucher r.codeHash r.tenant r.now id = (.error e, s))
    (hpg : db.redeemVoucher r uuid = some (.failed e', db)) : Alike s db r id uuid := by
  refine ⟨fun amount => ?_, db, by rw [hpg]; rfl, by rw [hmem]; exact h⟩
  rw [hmem, hpg]
  simp

lemma not_alike_of_failed (hmem : (s.redeemVoucher r.codeHash r.tenant r.now id).1 = .ok amount)
    (hpg : db.redeemVoucher r uuid = some (.failed e', db)) : ¬ Alike s db r id uuid := by
  intro h
  have := (h.accepts amount).mp hmem
  rw [hpg] at this
  simp at this

lemma redeemVoucher_of_active (hvid : s.voucherByHash r.codeHash = some vid)
    (hv : s.vouchers vid = some voucher) (hactive : voucher.status = .active) :
    s.redeemVoucher r.codeHash r.tenant r.now id =
      if (voucher.expiresAt.map fun e => decide (e < r.now)).getD false then
        (.error (.invalidRequest "voucher expired"), s)
      else (.ok voucher.amountUnits, ((s.markUsed vid voucher r.tenant r.now).book
        (voucherTransaction id r.codeHash r.tenant voucher.amountUnits r.now) r.now).2) := by
  simp only [InMemoryStore.redeemVoucher, hvid, hv]
  rw [if_neg (by simp [hactive])]

/-- Booking in memory and committing in PostgreSQL do the same, if the sum does not saturate. -/
lemma SameLedger.accepted (h : SameLedger s db) (hid : s.Fresh id)
    (hvid : s.voucherByHash r.codeHash = some vid)
    (hfits : FitsI64 (db.balance r.tenant + voucher.amountUnits)) :
    let row := voucherTransaction uuid r.codeHash r.tenant voucher.amountUnits r.now
    SameLedger ((s.markUsed vid voucher r.tenant r.now).book
        (voucherTransaction id r.codeHash r.tenant voucher.amountUnits r.now) r.now).2
      (db.commit (.redeem r (voucher.redeemed r.tenant r.now) false) row (db.upserted row)) := by
  intro row
  refine ⟨?_, ?_, fun hash => ?_, h.hashes⟩
  · have hupsert : db.upserted row = { s.accountEntry r.tenant r.now with
        balanceUnits := saturatingAdd (s.accountEntry r.tenant r.now).balanceUnits
          voucher.amountUnits
        updatedAt := r.now } := by
      unfold Postgres.Tables.balance at hfits
      unfold Postgres.Tables.upserted InMemoryStore.accountEntry
      rw [h.accounts, show row.tenantId = r.tenant from rfl]
      cases hdb : db.creditAccounts r.tenant with
      | none =>
        rw [hdb] at hfits
        have hsum : saturatingAdd 0 voucher.amountUnits = 0 + voucher.amountUnits :=
          saturatingAdd_eq_add_iff.mpr hfits
        simp [hsum, row, voucherTransaction]
      | some account =>
        rw [hdb] at hfits
        have hsum : saturatingAdd account.balanceUnits voucher.amountUnits =
            account.balanceUnits + voucher.amountUnits := saturatingAdd_eq_add_iff.mpr hfits
        simp [hsum, row, voucherTransaction]
    change Function.update s.creditAccounts r.tenant _ =
      Function.update db.creditAccounts r.tenant _
    rw [h.accounts, hupsert]
    rfl
  · have hfresh : (s.markUsed vid voucher r.tenant r.now).Fresh
        (voucherTransaction id r.codeHash r.tenant voucher.amountUnits r.now).id := hid
    rw [hfresh.book_transactions, List.map_append]
    change s.creditTransactions.map CreditTransaction.bare ++ _ =
      (db.creditTransactions ++ [row]).map CreditTransaction.bare
    rw [h.rows, List.map_append]
    rfl
  · change (s.voucherByHash hash).bind (Function.update s.vouchers vid _) =
      Function.update db.creditVouchers r.codeHash _ hash
    by_cases hhash : hash = r.codeHash
    · rw [hhash, hvid, Function.update_self]
      exact Function.update_self _ _ _
    · rw [Function.update_of_ne hhash, ← h.vouchers hash]
      -- another hash belongs to another voucher
      cases hother : s.voucherByHash hash with
      | none => rfl
      | some vid' =>
        have hne : vid' ≠ vid := fun heq => hhash (h.hashes _ _ vid (heq ▸ hother) hvid)
        exact Function.update_of_ne hne _ _

lemma filter_matches (hactive : voucher.status = .active) :
    (some voucher).filter (Postgres.matchesVoucher r) =
      if (voucher.expiresAt.map fun e => decide (r.now < e)).getD true then some voucher
      else none := by
  simp [Option.filter, Postgres.matchesVoucher, hactive]

lemma alike_iff_of_valid (h : SameLedger s db) (hid : s.Fresh id) (huuid : db.Fresh uuid)
    (hv : db.creditVouchers r.codeHash = some voucher) (hactive : voucher.status = .active)
    (hvalid : ∀ e, voucher.expiresAt = some e → r.now < e) :
    Alike s db r id uuid ↔
      (∀ row ∈ db.creditTransactions, row.referenceId ≠ some (voucherRef r.codeHash)) ∧
      FitsI64 (db.balance r.tenant + voucher.amountUnits) := by
  rcases Option.bind_eq_some_iff.mp ((h.vouchers r.codeHash).trans hv) with ⟨vid, hvid, hvoucher⟩
  have hmem : s.redeemVoucher r.codeHash r.tenant r.now id = _ :=
    redeemVoucher_of_active hvid hvoucher hactive
  have hunexpired : ¬ (voucher.expiresAt.map fun e => decide (e < r.now)).getD false = true := by
    cases he : voucher.expiresAt with
    | none => simp
    | some e =>
      have := hvalid e he
      simp
      omega
  rw [if_neg hunexpired] at hmem
  have hmatches : (db.creditVouchers r.codeHash).filter (Postgres.matchesVoucher r) =
      some voucher := by
    rw [hv, filter_matches hactive]
    refine if_pos ?_
    cases he : voucher.expiresAt with
    | none => rfl
    | some e => simpa using hvalid e he
  have hpg := Postgres.Tables.redeemVoucher_of_some huuid hmatches
  dsimp only at hpg
  rw [Postgres.upserted_balance] at hpg
  change _ = some (if _ then _ else if FitsI64 (db.balance r.tenant + voucher.amountUnits) then _
    else _) at hpg
  have hnorow : (∀ row ∈ db.creditTransactions,
      row.referenceId ≠ some (voucherRef r.codeHash)) ↔
      ¬ (db.findTransactionByReference (voucherRef r.codeHash)).isSome = true := by
    rw [Option.not_isSome_iff_eq_none]
    exact lookup_eq_none.symm
  rw [hnorow]
  by_cases href : (db.findTransactionByReference (voucherRef r.codeHash)).isSome = true
  · rw [if_pos href] at hpg
    exact iff_of_false (not_alike_of_failed (by rw [hmem]) hpg) fun hboth => hboth.1 href
  rw [if_neg href] at hpg
  by_cases hfits : FitsI64 (db.balance r.tenant + voucher.amountUnits)
  · rw [if_pos hfits] at hpg
    refine iff_of_true ⟨fun amount => ?_, _, by rw [hpg]; rfl, ?_⟩ ⟨href, hfits⟩
    · rw [hmem, hpg]
      simp
    · rw [hmem]
      exact h.accepted hid hvid hfits
  · rw [if_neg hfits] at hpg
    exact iff_of_false (not_alike_of_failed (by rw [hmem]) hpg) fun hboth => hfits hboth.2

lemma alike_of_inactive (h : SameLedger s db)
    (hv : ∀ voucher, db.creditVouchers r.codeHash = some voucher → voucher.status ≠ .active) :
    Alike s db r id uuid := by
  have hnone : (db.creditVouchers r.codeHash).filter (Postgres.matchesVoucher r) = none := by
    cases hvoucher : db.creditVouchers r.codeHash with
    | none => rfl
    | some voucher => simp [Option.filter, Postgres.matchesVoucher, hv voucher hvoucher]
  have hpg : db.redeemVoucher r uuid = _ := Postgres.Tables.redeemVoucher_of_none hnone
  have hmem : ∃ e, s.redeemVoucher r.codeHash r.tenant r.now id = (.error e, s) := by
    rcases InMemoryStore.redeemVoucher_cases s r.codeHash r.tenant r.now id with
      herror | ⟨vid, voucher, hvid, hvoucher, hactive, _⟩
    · exact herror
    · have hsame := h.vouchers r.codeHash
      rw [hvid, Option.bind_some, hvoucher] at hsame
      exact absurd hactive (hv voucher hsame.symm)
  rcases hmem with ⟨e, hmem⟩
  exact alike_of_refused h hmem hpg

/-- Both stores redeem alike exactly where `GoAlike` says so. -/
theorem redeem_alike_iff (s : InMemoryStore) (db : Postgres.Tables) (r : Redeem) (id uuid : Nat)
    (h : SameLedger s db) (hid : s.Fresh id) (huuid : db.Fresh uuid) :
    Alike s db r id uuid ↔ GoAlike db r := by
  cases hv : db.creditVouchers r.codeHash with
  | none =>
    have hnone : ∀ voucher, db.creditVouchers r.codeHash ≠ some voucher := by simp [hv]
    exact iff_of_true
      (alike_of_inactive h fun voucher hvoucher => absurd hvoucher (hnone voucher))
      fun voucher hvoucher => absurd hvoucher (hnone voucher)
  | some voucher =>
    have hone : ∀ voucher', db.creditVouchers r.codeHash = some voucher' → voucher' = voucher :=
      fun voucher' hvoucher => Option.some.inj (hvoucher.symm.trans hv)
    by_cases hactive : voucher.status = .active
    · have hgo : GoAlike db r ↔ voucher.expiresAt ≠ some r.now ∧
          ((∀ e, voucher.expiresAt = some e → r.now < e) →
            (∀ row ∈ db.creditTransactions, row.referenceId ≠ some (voucherRef r.codeHash)) ∧
            FitsI64 (db.balance r.tenant + voucher.amountUnits)) := by
        refine ⟨fun hall => hall voucher hv hactive, fun hthis voucher' hvoucher _ => ?_⟩
        rw [hone voucher' hvoucher]
        exact hthis
      rw [hgo]
      by_cases hvalid : ∀ e, voucher.expiresAt = some e → r.now < e
      · have hnow : voucher.expiresAt ≠ some r.now := fun he => Int.lt_irrefl _ (hvalid _ he)
        rw [alike_iff_of_valid h hid huuid hv hactive hvalid]
        exact ⟨fun hboth => ⟨hnow, fun _ => hboth⟩, fun hboth => hboth.2 hvalid⟩
      · rcases not_forall.mp hvalid with ⟨e, hnot⟩
        rcases Classical.not_imp.mp hnot with ⟨he, hnlt⟩
        have hle : e ≤ r.now := Int.not_lt.mp hnlt
        rcases Option.bind_eq_some_iff.mp ((h.vouchers r.codeHash).trans hv) with
          ⟨vid, hvid, hvoucher⟩
        have hmem : s.redeemVoucher r.codeHash r.tenant r.now id = _ :=
          redeemVoucher_of_active hvid hvoucher hactive
        have hnone :
            (db.creditVouchers r.codeHash).filter (Postgres.matchesVoucher r) = none := by
          rw [hv, filter_matches hactive, he]
          simpa using hle
        have hpg : db.redeemVoucher r uuid = _ := Postgres.Tables.redeemVoucher_of_none hnone
        rw [he] at hmem ⊢
        -- at the very moment the checks pass and the `UPDATE` does not
        rcases Int.lt_or_eq_of_le hle with hlt | rfl
        · rw [if_pos (by simpa using hlt)] at hmem
          refine iff_of_true (alike_of_refused h hmem hpg) ⟨fun heq => ?_, fun hvalid => ?_⟩
          · exact absurd (Option.some.inj heq) (Int.ne_of_lt hlt)
          · exact absurd (hvalid e rfl) hnlt
        · rw [if_neg (by simp)] at hmem
          exact iff_of_false (not_alike_of_failed (by rw [hmem]) hpg) fun hboth => hboth.1 rfl
    · refine iff_of_true (alike_of_inactive h fun voucher' hvoucher => ?_)
        fun voucher' hvoucher hactive' => ?_
      · rwa [hone voucher' hvoucher]
      · exact absurd (hone voucher' hvoucher ▸ hactive') hactive

end Redeem

/-! ## One voucher in both stores -/

def exampleVoucher : CreditVoucher := ⟨7, "h", 5, .active, some 100, none, none⟩

def exampleStore : InMemoryStore where
  creditAccounts := fun _ => none
  creditTransactions := []
  creditTxnByRef := fun _ => none
  vouchers := fun vid => if vid = 7 then some exampleVoucher else none
  voucherByHash := fun hash => if hash = "h" then some 7 else none

def exampleTables : Postgres.Tables where
  creditAccounts := fun _ => none
  creditTransactions := []
  creditVouchers := fun hash => if hash = "h" then some exampleVoucher else none

lemma sameLedger_example : SameLedger exampleStore exampleTables := by
  refine ⟨rfl, rfl, fun hash => ?_, fun hash hash' vid hvid hvid' => ?_⟩
  · by_cases h : hash = "h" <;> simp [exampleStore, exampleTables, h]
  · simp only [exampleStore, Option.ite_none_right_eq_some] at hvid hvid'
    rw [hvid.1, hvid'.1]

/-- Before its expiry the voucher is redeemed alike. -/
theorem redeem_alike_early : Alike exampleStore exampleTables ⟨"h", ⟨1⟩, 99⟩ 1 2 := by
  refine (redeem_alike_iff _ _ _ _ _ sameLedger_example (by decide) (by decide)).mpr ?_
  intro voucher hv _
  have heq : voucher = exampleVoucher := (Option.some.inj hv).symm
  subst heq
  exact ⟨by decide, fun _ => ⟨by decide, by decide⟩⟩

/-- At the second of its expiry it is redeemed in memory and refused by PostgreSQL. -/
theorem redeem_not_alike :
    SameLedger exampleStore exampleTables ∧
      (exampleStore.redeemVoucher "h" ⟨1⟩ 100 1).1 = .ok 5 ∧
      (exampleTables.redeemVoucher ⟨"h", ⟨1⟩, 100⟩ 2).map Prod.fst =
        some (.failed (.invalidRequest "voucher invalid, expired or already used")) ∧
      ¬ Alike exampleStore exampleTables ⟨"h", ⟨1⟩, 100⟩ 1 2 := by
  have hmem : (exampleStore.redeemVoucher "h" ⟨1⟩ 100 1).1 = .ok 5 := rfl
  have hpg : exampleTables.redeemVoucher ⟨"h", ⟨1⟩, 100⟩ 2 =
      some (.failed (.invalidRequest "voucher invalid, expired or already used"), exampleTables) :=
    Postgres.Tables.redeemVoucher_of_none (by decide)
  exact ⟨sameLedger_example, hmem, by rw [hpg]; rfl, not_alike_of_failed hmem hpg⟩

end Combee.Billing
