import Combee.Billing.Vouchers
import Mathlib.Data.Fintype.EquivFin

/-!
# RedeemAnswers — what the answer to a redemption says about the ledger

`credits_redeem` first looks for the row of the voucher, whoever it belongs to. If there is one,
the request is answered with `already_redeemed = true`; otherwise the voucher is redeemed, and an
error of the store is the answer. So everything is decided by what that lookup has `found`.
`Backed` says what a successful answer rests on, and both stores keep to it in every interleaving:
the answer is true of the caller's ledger exactly if the row that was found, if any, is the
caller's.
-/

namespace Combee.Billing

open Foundation Journal
open InMemoryStore (creditsRedeem oneVoucher)

def OwnRow (r : Redeem) (rows : List CreditTransaction) : Prop :=
  ∃ row ∈ rows, row.tenantId = r.tenant ∧ row.referenceId = some (voucherRef r.codeHash)

instance (r : Redeem) (rows : List CreditTransaction) : Decidable (OwnRow r rows) :=
  inferInstanceAs (Decidable (∃ row ∈ rows, _ ∧ _))

namespace Reply

def IsSuccess : Reply → Prop
  | .response _ _ _ => True
  | _ => False

def IsAlreadyRedeemed : Reply → Prop
  | .response _ _ already => already = true
  | _ => False

end Reply

/-- What a successful answer rests on: the row that the lookup has found, or a row of the caller. -/
def Backed (r : Redeem) (found : Option CreditTransaction) (rows : List CreditTransaction)
    (already : Bool) : Prop :=
  match found with
  | some row => already = true ∧ row ∈ rows ∧ row.referenceId = some (voucherRef r.codeHash)
  | none => already = false ∧ OwnRow r rows

variable {r : Redeem} {found : Option CreditTransaction} {rows rows' : List CreditTransaction}
variable {already : Bool}

lemma OwnRow.mono (h : OwnRow r rows) (hrows : rows <+: rows') : OwnRow r rows' := by
  rcases h with ⟨row, hrow, htenant, href⟩
  exact ⟨row, hrows.subset hrow, htenant, href⟩

lemma Backed.mono (h : Backed r found rows already) (hrows : rows <+: rows') :
    Backed r found rows' already := by
  cases found with
  | some row => exact ⟨h.1, hrows.subset h.2.1, h.2.2⟩
  | none => exact ⟨h.1, h.2.mono hrows⟩

lemma Backed.already_iff (h : Backed r found rows already) :
    already = true ↔ found.isSome = true := by
  cases found with
  | some | none => simp [h.1]

lemma OwnRow.tenant_eq (hrefs : Distinct CreditTransaction.referenceId rows) (h : OwnRow r rows)
    {row : CreditTransaction} (hrow : row ∈ rows)
    (href : row.referenceId = some (voucherRef r.codeHash)) : row.tenantId = r.tenant := by
  rcases h with ⟨own, hown, htenant, href'⟩
  rw [hrefs.eq hrow hown href href']
  exact htenant

lemma Backed.ownRow_iff (h : Backed r found rows already)
    (hrefs : Distinct CreditTransaction.referenceId rows) :
    OwnRow r rows ↔ ∀ row, found = some row → row.tenantId = r.tenant := by
  cases found with
  | some row =>
    rcases h with ⟨_, hrow, href⟩
    constructor
    · rintro hown _ ⟨⟩
      exact hown.tenant_eq hrefs hrow href
    · intro htenant
      exact ⟨row, hrow, htenant row rfl, href⟩
  | none => simp [h.2]

/-! ## PostgreSQL -/

namespace Postgres

variable {g g' : Server} {i : Nat} {pc pc' : Pc} {c : Choice}

def Tables.LedgerEmpty (db : Tables) : Prop :=
  db.creditTransactions = [] ∧ ∀ t, db.balance t = 0

lemma Tables.LedgerEmpty.consistent {db : Tables} (h : db.LedgerEmpty) : Consistent db := by
  constructor
  · rw [h.1]
    exact distinct_nil
  · intro t
    simp [h.1, h.2 t, rowSum, total]

def Funded (db : Tables) : Prop :=
  ∀ row ∈ db.creditTransactions, (db.creditAccounts row.tenantId).isSome = true

lemma account_stays {t : TenantId} (h : act g i pc c = some (g', pc'))
    (ht : (g.tables.creditAccounts t).isSome = true) :
    (g'.tables.creditAccounts t).isSome = true := by
  rcases act_cases h with hquiet | ⟨w, row, account, _, rfl, _⟩ |
    ⟨r, credits, already, now, reply, _, _, _, rfl, _⟩
  · rw [hquiet.silent.tables]
    exact ht
  · by_cases hrow : t = row.tenantId
    · simp [Server.commit, Server.release, Tables.commit, hrow]
    · simpa [Server.commit, Server.release, Tables.commit, hrow] using ht
  · by_cases hr : t = r.tenant
    · simp [Tables.openAccount, hr]
    · simpa [Tables.openAccount, hr] using ht

lemma Funded.act (hdb : Funded g.tables) (h : act g i pc c = some (g', pc')) :
    Funded g'.tables := by
  have hrows : ∀ row ∈ g'.tables.creditTransactions, row ∈ g.tables.creditTransactions ∨
      (g'.tables.creditAccounts row.tenantId).isSome = true := by
    rcases act_cases h with hquiet | ⟨w, row, account, _, rfl, _⟩ |
      ⟨r, credits, already, now, reply, _, _, _, rfl, _⟩
    · intro row hrow
      exact .inl (hquiet.silent.tables ▸ hrow)
    · intro row' hrow'
      rcases List.mem_append.mp hrow' with hold | hnew
      · exact .inl hold
      · rcases List.mem_singleton.mp hnew with rfl
        exact .inr (by simp [Server.commit, Server.release, Tables.commit])
    · exact fun row hrow => .inl hrow
  intro row hrow
  rcases hrows row hrow with hold | hnew
  · exact account_stays h (hdb row hold)
  · exact hnew

/-- The row that an open redemption for `r` has written. -/
def Mine (r : Redeem) (row : CreditTransaction) : Prop :=
  row.tenantId = r.tenant ∧ row.referenceId = some (voucherRef r.codeHash)

/-- Where a request can be after its lookup, and what it knows there. -/
def Tracks (r : Redeem) (found : Option CreditTransaction) (rows : List CreditTransaction) :
    Pc → Prop
  | .beginRedeem r' handler => r' = r ∧ handler = true ∧ found = none
  | .mark r' handler => r' = r ∧ handler = true ∧ found = none
  | .insert (.redeem r' _ handler) row => r' = r ∧ handler = true ∧ found = none ∧ Mine r row
  | .upsert (.redeem r' _ handler) row => r' = r ∧ handler = true ∧ found = none ∧ Mine r row
  | .commit (.redeem r' _ handler) row _ => r' = r ∧ handler = true ∧ found = none ∧ Mine r row
  | .account r' _ already => r' = r ∧ Backed r found rows already
  | .openAccount r' _ already => r' = r ∧ Backed r found rows already
  | .drop _ => True
  | .answered (.response _ _ already) => Backed r found rows already
  | .answered _ => True
  | _ => False

lemma Tracks.mono (h : Tracks r found rows pc) (hrows : rows <+: rows') :
    Tracks r found rows' pc := by
  cases pc with
  | account | openAccount => exact ⟨h.1, h.2.mono hrows⟩
  | answered reply =>
    cases reply with
    | response credits balance already => exact Backed.mono h hrows
    | _ => trivial
  | insert w | upsert w | commit w =>
    cases w with
    | append => exact h.elim
    | redeem r' marked handler => exact h
  | _ => exact h

lemma tracks_of_check (h : act g i (.check r) c = some (g', pc')) :
    Tracks r (g.tables.findTransactionByReference (voucherRef r.codeHash))
      g'.tables.creditTransactions pc' := by
  cases act_move h with
  | failed => trivial
  | redeemed htxn =>
    rcases mem_of_lookup htxn with ⟨hrow, href⟩
    rw [htxn]
    exact ⟨rfl, rfl, hrow, href⟩
  | check hnone =>
    rw [hnone]
    exact ⟨rfl, rfl, rfl⟩

lemma Tracks.act (hpc : Tracks r found g.tables.creditTransactions pc)
    (h : act g i pc c = some (g', pc')) : Tracks r found g'.tables.creditTransactions pc' := by
  cases act_move h with
  | lookup | begin | conflict | rollback | redeemed | check => exact hpc.elim
  | beginRedeem => exact hpc
  | mark =>
    rcases hpc with ⟨rfl, rfl, rfl⟩
    exact ⟨rfl, rfl, rfl, rfl, rfl⟩
  | @insert w | @upsert w =>
    cases w with
    | append => exact hpc.elim
    | redeem r' marked handler => exact hpc
  | @commit w row account =>
    cases w with
    | append => exact hpc.elim
    | redeem r' marked handler =>
      rcases hpc with ⟨rfl, rfl, rfl, hmine⟩
      -- the row is in the table from here on
      exact ⟨rfl, rfl, row, by simp [Tables.commit], hmine.1, hmine.2⟩
  | account => exact hpc.2
  | noAccount => exact hpc
  | openAccount _ _ hreply =>
    rcases hreply with rfl | ⟨e, rfl⟩
    · exact hpc.2
    · trivial
  | _ => trivial

variable {s s' : Pool Server Nat Pc} {ls : List (PoolLabel Nat Choice Empty)}

lemma tracks_exec (hs : Tracks r found s.shared.tables.creditTransactions (s.procs i))
    (h : exec step s ls = some s') :
    Tracks r found s'.shared.tables.creditTransactions (s'.procs i) := by
  refine Pool.proc_of_exec (K := fun g pc => Tracks r found g.tables.creditTransactions pc) ?_ ?_
    (fun {_ _ e} => e.elim) hs h
  · exact fun hpc hact => hpc.act hact
  · exact fun hpc hact => hpc.mono (transactions_grow hact)

/-- A request for which all that is left is to say that the voucher has been redeemed. -/
def Telling (r : Redeem) (g : Server) (pc : Pc) : Prop :=
  (g.tables.creditAccounts r.tenant).isSome = true ∧
  ((∃ credits, pc = .account r credits true) ∨
    ∃ credits balance, pc = .answered (.response credits balance true))

lemma telling_exec
    (hs : Telling r s.shared (s.procs i)) (hok : ∀ c, .proc i c ∈ ls → c.fault = none)
    (h : exec step s ls = some s') : Telling r s'.shared (s'.procs i) := by
  refine Pool.proc_of_exec_given (K := fun g pc => Telling r g pc) (D := fun c => c.fault = none)
    ?_ ?_ (fun {_ _ e} => e.elim) hs hok h
  · intro g pc c g' pc' hpc hc hact
    refine ⟨account_stays hact hpc.1, ?_⟩
    rcases hpc with ⟨hsome, ⟨credits, rfl⟩ | ⟨credits, balance, rfl⟩⟩
    · rcases Option.isSome_iff_exists.mp hsome with ⟨account, haccount⟩
      simp only [act, orFault, hc, haccount] at hact
      cases hact
      exact .inr ⟨credits, account.balanceUnits, rfl⟩
    · simp [act] at hact
  · intro g pc j q c g' q' hpc hact
    exact ⟨account_stays hact hpc.1, hpc.2⟩

lemma Telling.answer (h : Telling r s.shared (s.procs i)) :
    (∃ reply, s.procs i = .answered reply) ∨
    ∃ s' reply, step s (.proc i {}) = some s' ∧ s'.procs i = .answered reply := by
  rcases h with ⟨hsome, ⟨credits, hpc⟩ | ⟨credits, balance, hpc⟩⟩
  · rcases Option.isSome_iff_exists.mp hsome with ⟨account, haccount⟩
    have hact : act s.shared i (s.procs i) {} =
        some (s.shared, .answered (.response credits account.balanceUnits true)) := by
      simp [hpc, act, orFault, haccount]
    exact .inr ⟨_, _, Pool.step_proc_eq_some.mpr ⟨_, _, hact, rfl⟩, Function.update_self _ _ _⟩
  · exact .inl ⟨_, hpc⟩

variable {row : CreditTransaction}

lemma row_stays (hrow : row ∈ s.shared.tables.creditTransactions)
    (h : exec step s ls = some s') : row ∈ s'.shared.tables.creditTransactions := by
  refine inv_of_exec_all (I := fun s => row ∈ s.shared.tables.creditTransactions) ?_ hrow h
  intro s l s' hrow hstep
  cases hstep using Pool.step_cases with
  | proc i c g' pc' hact =>
    exact (transactions_grow hact).subset hrow
  | env e => exact e.elim

def Ready (s : Pool Server Nat Pc) : Prop :=
  Sound s ∧ Funded s.shared.tables

lemma ready_exec (hs : Ready s) (h : exec step s ls = some s') : Ready s' := by
  refine inv_of_exec_all ?_ hs h
  intro s l s' ⟨hsound, hfunded⟩ hstep
  refine ⟨hsound.step hstep, ?_⟩
  cases hstep using Pool.step_cases with
  | proc i c g' pc' hact =>
    exact hfunded.act hact
  | env e => exact e.elim

lemma telling_of_check (hfunded : Funded g.tables)
    (hfound : g.tables.findTransactionByReference (voucherRef r.codeHash) = some row)
    (htenant : row.tenantId = r.tenant) (hc : c.fault = none)
    (h : act g i (.check r) c = some (g', pc')) : Telling r g' pc' := by
  simp only [act, orFault, hc, hfound] at h
  cases h
  refine ⟨?_, .inl ⟨_, rfl⟩⟩
  rw [← htenant]
  exact hfunded row (mem_of_lookup hfound).1

end Postgres

/-! ## The in-memory store -/

namespace InMemoryStore

variable {s s' : InMemoryStore} {pc pc' : HandlerPc} {c : Reading} {i : Nat}

/-- The requests, with the other users of the ledger around them. A call draws a new UUID. -/
def handle : Pool InMemoryStore Nat HandlerPc → PoolLabel Nat Reading LedgerCall →
    Option (Pool InMemoryStore Nat HandlerPc) :=
  Pool.step (fun s i pc c => if s.Fresh c.uuid then s.creditsRedeem i pc c else none) step
    (fun _ pc => pc)

def Sound (s : InMemoryStore) : Prop :=
  s.Indexed ∧ s.PaidOut

lemma LedgerEmpty.sound (h : s.LedgerEmpty) : s.Sound :=
  ⟨h.indexed, h.paidOut⟩

lemma Sound.refs (h : s.Sound) : Distinct CreditTransaction.referenceId s.creditTransactions :=
  h.1.refs

lemma Sound.creditsRedeem (hs : s.Sound) (hfresh : s.Fresh c.uuid)
    (h : s.creditsRedeem i pc c = some (s', pc')) :
    s'.Sound ∧ s.creditTransactions <+: s'.creditTransactions := by
  cases pc with
  | check r =>
    simp only [creditsRedeem] at h
    split at h
    · cases h
      exact ⟨hs, List.prefix_rfl⟩
    · cases h
      exact ⟨hs, List.prefix_rfl⟩
  | redeem r =>
    have hstep : s.step (.redeem r.codeHash r.tenant r.now c.uuid) = some s' := by
      have hperform : (s.redeemVoucher r.codeHash r.tenant r.now c.uuid).2 = s' := by
        simp only [creditsRedeem] at h
        split at h
        · rename_i heq
          cases h
          rw [heq]
        · rename_i heq
          cases h
          rw [heq]
      have hid : s.Fresh (LedgerCall.redeem r.codeHash r.tenant r.now c.uuid).id := hfresh
      rw [step, if_pos hid]
      exact congrArg some hperform
    have hns : Namespaced (.redeem r.codeHash r.tenant r.now c.uuid) := trivial
    rcases sound_step hs.1 hs.2 hns hstep with ⟨hidx, hpaid, hrows⟩
    exact ⟨⟨hidx, hpaid⟩, hrows⟩
  | account r credits already =>
    -- an account is made at most
    cases h
    exact ⟨⟨⟨hs.1.ids, hs.1.index⟩, hs.2⟩, List.prefix_rfl⟩
  | answered reply => simp [creditsRedeem] at h

def NamespacedStep : PoolLabel Nat Reading LedgerCall → Prop
  | .proc _ _ => True
  | .env call => Namespaced call

variable {p p' : Pool InMemoryStore Nat HandlerPc}

lemma sound_handle {l : PoolLabel Nat Reading LedgerCall} (hs : p.shared.Sound)
    (hl : NamespacedStep l) (h : handle p l = some p') :
    p'.shared.Sound ∧ p.shared.creditTransactions <+: p'.shared.creditTransactions := by
  cases h using Pool.step_cases with
  | proc i c s' pc' hact =>
    split_ifs at hact with hfresh
    exact hs.creditsRedeem hfresh hact
  | env call s' hcall =>
    rcases sound_step hs.1 hs.2 hl hcall with ⟨hidx, hpaid, hrows⟩
    exact ⟨⟨hidx, hpaid⟩, hrows⟩

variable {ls : List (PoolLabel Nat Reading LedgerCall)}

lemma namespaced_meets (h : ∀ call, .env call ∈ ls → Namespaced call) :
    Meets handle (fun _ l => NamespacedStep l) p ls := by
  refine meets_of_forall fun _ l hl => ?_
  cases l with
  | proc i c => trivial
  | env call => exact h call hl

lemma sound_exec_handle (hs : p.shared.Sound)
    (hns : Meets handle (fun _ l => NamespacedStep l) p ls) (h : exec handle p ls = some p') :
    p'.shared.Sound :=
  inv_of_exec (I := fun p => p.shared.Sound) (fun hs hl hstep => (sound_handle hs hl hstep).1)
    hs hns h

def HandlerPc.Tracks (r : Redeem) (found : Option CreditTransaction)
    (rows : List CreditTransaction) : HandlerPc → Prop
  | .redeem r' => r' = r ∧ found = none
  | .account r' _ already => r' = r ∧ Backed r found rows already
  | .answered (.response _ _ already) => Backed r found rows already
  | .answered _ => found = none
  | .check _ => False

lemma HandlerPc.Tracks.mono (h : pc.Tracks r found rows) (hrows : rows <+: rows') :
    pc.Tracks r found rows' := by
  cases pc with
  | account r' credits already => exact ⟨h.1, h.2.mono hrows⟩
  | answered reply =>
    cases reply with
    | response credits balance already => exact Backed.mono h hrows
    | _ => exact h
  | _ => exact h

lemma tracks_of_check (hs : s.Sound) (h : s.creditsRedeem i (.check r) c = some (s', pc')) :
    pc'.Tracks r (s.findTransactionByReference (voucherRef r.codeHash)) s'.creditTransactions := by
  simp only [creditsRedeem] at h
  split at h
  · rename_i txn htxn
    cases h
    have hmem := htxn
    rw [hs.1.find_eq_lookup] at hmem
    rcases mem_of_lookup hmem with ⟨hrow, href⟩
    rw [htxn]
    exact ⟨rfl, rfl, hrow, href⟩
  · rename_i hnone
    cases h
    exact ⟨rfl, hnone⟩

lemma HandlerPc.Tracks.creditsRedeem (hpc : pc.Tracks r found s.creditTransactions)
    (h : s.creditsRedeem i pc c = some (s', pc')) : pc'.Tracks r found s'.creditTransactions := by
  cases pc with
  | redeem r' =>
    rcases hpc with ⟨rfl, rfl⟩
    simp only [creditsRedeem] at h
    rcases redeemVoucher_cases s r'.codeHash r'.tenant r'.now c.uuid with
      ⟨e, herr⟩ | ⟨vid, voucher, _, _, _, hok⟩
    · rw [herr] at h
      cases h
      rfl
    · rw [hok] at h
      cases h
      exact ⟨rfl, rfl, _, book_mem, rfl, rfl⟩
  | account r' credits already =>
    cases h
    exact hpc.2
  | answered reply => simp [creditsRedeem] at h
  | check r' => exact hpc.elim

lemma tracks_exec (hs : p.shared.Sound)
    (hpc : (p.procs i).Tracks r found p.shared.creditTransactions)
    (hns : Meets handle (fun _ l => NamespacedStep l) p ls) (h : exec handle p ls = some p') :
    p'.shared.Sound ∧ (p'.procs i).Tracks r found p'.shared.creditTransactions := by
  refine inv_of_exec (I := fun p => p.shared.Sound ∧
    (p.procs i).Tracks r found p.shared.creditTransactions) ?_ ⟨hs, hpc⟩ hns h
  intro p l p' ⟨hs, hpc⟩ hl hstep
  rcases sound_handle hs hl hstep with ⟨hs', hrows⟩
  refine ⟨hs', ?_⟩
  cases hstep using Pool.step_cases with
  | proc j c s' pc' hact =>
    split_ifs at hact with hfresh
    by_cases hij : i = j
    · subst hij
      simpa using hpc.creditsRedeem hact
    · simpa [Function.update_of_ne hij] using hpc.mono hrows
  | env call s' hcall =>
    exact hpc.mono hrows

lemma exists_fresh (s : InMemoryStore) : ∃ id, s.Fresh id := by
  rcases Infinite.exists_notMem_finset (s.creditTransactions.map (·.id)).toFinset with ⟨id, hid⟩
  refine ⟨id, fun row hrow hne => hid ?_⟩
  exact List.mem_toFinset.mpr (List.mem_map.mpr ⟨row, hrow, hne⟩)

lemma HandlerPc.Tracks.answer
    (h : (p.procs i).Tracks r found rows) (hfound : found.isSome = true) :
    (∃ reply, p.procs i = .answered reply) ∨
    ∃ c p' reply, handle p (.proc i c) = some p' ∧ p'.procs i = .answered reply := by
  rcases Option.isSome_iff_exists.mp hfound with ⟨row, rfl⟩
  cases hpc : p.procs i with
  | answered reply => exact .inl ⟨reply, rfl⟩
  | account r' credits already =>
    rcases exists_fresh p.shared with ⟨id, hid⟩
    have hact : p.shared.creditsRedeem i (p.procs i) { uuid := id } =
        some ((p.shared.getCreditAccount r'.tenant 0).2,
          .answered (.response credits (p.shared.getCreditAccount r'.tenant 0).1.balanceUnits
            already)) := by
      rw [hpc]
      rfl
    have hstep : handle p (.proc i { uuid := id }) = some ⟨_, Function.update p.procs i _⟩ :=
      Pool.step_proc_eq_some.mpr ⟨_, _, (if_pos hid).trans hact, rfl⟩
    exact .inr ⟨_, _, _, hstep, Function.update_self _ _ _⟩
  | redeem r' =>
    rw [hpc] at h
    simp [Tracks] at h
  | check r' =>
    rw [hpc] at h
    exact h.elim

end InMemoryStore

/-! ## Both stores -/

/-- A successful answer is true of the caller's ledger exactly if the row that the lookup has found,
if any, is the caller's; for the tenant that has redeemed the voucher it is `already_redeemed =
true` exactly if the lookup has found the row. -/
theorem redeem_answers_iff (r : Redeem) (i : Nat) :
    (∀ (s₀ u v s : Pool Postgres.Server Nat Postgres.Pc) (c : Postgres.Choice)
      (ls ms : List (PoolLabel Nat Postgres.Choice Empty)),
      s₀.shared.tables.LedgerEmpty → (∀ j, Postgres.Starting (s₀.procs j)) →
      exec Postgres.step s₀ ls = some u → u.procs i = .check r →
      Postgres.step u (.proc i c) = some v → exec Postgres.step v ms = some s →
      (∀ reply, s.procs i = .answered reply → reply.IsSuccess →
        (OwnRow r s.shared.tables.creditTransactions ↔
          ∀ row, u.shared.tables.findTransactionByReference (voucherRef r.codeHash) = some row →
            row.tenantId = r.tenant)) ∧
      (OwnRow r s.shared.tables.creditTransactions →
        (∀ c', .proc i c' ∈ .proc i c :: ms → c'.fault = none) →
        (∀ reply, s.procs i = .answered reply →
          (reply.IsAlreadyRedeemed ↔
            (u.shared.tables.findTransactionByReference (voucherRef r.codeHash)).isSome = true)) ∧
        ((u.shared.tables.findTransactionByReference (voucherRef r.codeHash)).isSome = true →
          (∃ reply, s.procs i = .answered reply) ∨
          ∃ s' reply, Postgres.step s (.proc i {}) = some s' ∧ s'.procs i = .answered reply))) ∧
    (∀ (s₀ u v s : Pool InMemoryStore Nat InMemoryStore.HandlerPc) (c : InMemoryStore.Reading)
      (ls ms : List (PoolLabel Nat InMemoryStore.Reading InMemoryStore.LedgerCall)),
      s₀.shared.LedgerEmpty →
      (∀ call, .env call ∈ ls ++ ms → InMemoryStore.Namespaced call) →
      exec InMemoryStore.handle s₀ ls = some u → u.procs i = .check r →
      InMemoryStore.handle u (.proc i c) = some v → exec InMemoryStore.handle v ms = some s →
      (∀ reply, s.procs i = .answered reply → reply.IsSuccess →
        (OwnRow r s.shared.creditTransactions ↔
          ∀ row, u.shared.findTransactionByReference (voucherRef r.codeHash) = some row →
            row.tenantId = r.tenant)) ∧
      (OwnRow r s.shared.creditTransactions →
        (∀ reply, s.procs i = .answered reply →
          (reply.IsAlreadyRedeemed ↔
            (u.shared.findTransactionByReference (voucherRef r.codeHash)).isSome = true)) ∧
        ((u.shared.findTransactionByReference (voucherRef r.codeHash)).isSome = true →
          (∃ reply, s.procs i = .answered reply) ∨
          ∃ c' s' reply, InMemoryStore.handle s (.proc i c') = some s' ∧
            s'.procs i = .answered reply))) := by
  constructor
  · intro s₀ u v s c ls ms hempty hstart hu hcheck hv hs
    have hready₀ : Postgres.Ready s₀ := by
      refine ⟨⟨hempty.consistent, fun j => (hstart j).holds⟩, ?_⟩
      intro row hrow
      simp [hempty.1] at hrow
    have hready : Postgres.Ready u := Postgres.ready_exec hready₀ hu
    have hrefs : Distinct CreditTransaction.referenceId s.shared.tables.creditTransactions := by
      have hexec : exec Postgres.step u (.proc i c :: ms) = some s :=
        exec_cons hv hs
      exact (Postgres.ready_exec hready hexec).1.shared.refs
    rcases Pool.step_proc_eq_some.mp hv with ⟨g, pc, hact, rfl⟩
    rw [hcheck] at hact
    have htracks := Postgres.tracks_exec (i := i) (by simpa using Postgres.tracks_of_check hact) hs
    refine ⟨?_, ?_⟩
    · intro reply hreply hsuccess
      rw [hreply] at htracks
      cases reply with
      | response credits balance already => exact Backed.ownRow_iff htracks hrefs
      | _ => exact hsuccess.elim
    · intro hown hok
      have htelling : (u.shared.tables.findTransactionByReference
          (voucherRef r.codeHash)).isSome = true → Postgres.Telling r s.shared (s.procs i) := by
        intro hsome
        rcases Option.isSome_iff_exists.mp hsome with ⟨row, hfound⟩
        rcases mem_of_lookup hfound with ⟨hmem, href⟩
        have hmem' : row ∈ s.shared.tables.creditTransactions :=
          Postgres.row_stays hmem (exec_cons hv hs)
        have htenant : row.tenantId = r.tenant := hown.tenant_eq hrefs hmem' href
        have hcheck' : Postgres.Telling r g pc :=
          Postgres.telling_of_check hready.2 hfound htenant (hok c List.mem_cons_self) hact
        refine Postgres.telling_exec (by simpa using hcheck') ?_ hs
        exact fun c' hc' => hok c' (List.mem_cons_of_mem _ hc')
      refine ⟨?_, fun hsome => (htelling hsome).answer⟩
      intro reply hreply
      constructor
      · intro halready
        rw [hreply] at htracks
        cases reply with
        | response credits balance already => exact (Backed.already_iff htracks).mp halready
        | _ => exact halready.elim
      · intro hsome
        rcases htelling hsome with ⟨_, ⟨credits, hpc⟩ | ⟨credits, balance, hpc⟩⟩
        · simp [hreply] at hpc
        · obtain rfl : reply = .response credits balance true := by simpa [hreply] using hpc
          rfl
  · intro s₀ u v s c ls ms hempty hns hu hcheck hv hs
    have hls : Meets InMemoryStore.handle (fun _ l => InMemoryStore.NamespacedStep l) s₀ ls :=
      InMemoryStore.namespaced_meets fun call hcall => hns call (List.mem_append_left _ hcall)
    have hsound : u.shared.Sound := InMemoryStore.sound_exec_handle hempty.sound hls hu
    rcases Pool.step_proc_eq_some.mp hv with ⟨g, pc, hact, rfl⟩
    rw [hcheck] at hact
    split_ifs at hact with hfresh
    have hms : Meets InMemoryStore.handle (fun _ l => InMemoryStore.NamespacedStep l)
        ⟨g, Function.update u.procs i pc⟩ ms :=
      InMemoryStore.namespaced_meets fun call hcall => hns call (List.mem_append_right _ hcall)
    have htracks₀ := InMemoryStore.tracks_of_check hsound hact
    have hsound₀ : g.Sound := (hsound.creditsRedeem hfresh hact).1
    rcases InMemoryStore.tracks_exec (i := i) hsound₀ (by simpa using htracks₀) hms hs with
      ⟨hsound', htracks⟩
    refine ⟨?_, ?_⟩
    · intro reply hreply hsuccess
      rw [hreply] at htracks
      cases reply with
      | response credits balance already => exact Backed.ownRow_iff htracks hsound'.refs
      | _ => exact hsuccess.elim
    · intro _
      refine ⟨?_, fun hsome => htracks.answer hsome⟩
      intro reply hreply
      rw [hreply] at htracks
      cases reply with
      | response credits balance already => exact Backed.already_iff htracks
      | _ => simp [Reply.IsAlreadyRedeemed, show _ = none from htracks]

/-- The voucher is redeemed by tenant 5, who then asks again. -/
def redeemAgain : Redeem :=
  ⟨"c0de", ⟨5⟩, 60⟩

theorem redeem_answers_iff_again :
    (∃ u v s, exec Postgres.step ⟨Postgres.freshServer, fun _ => .check redeemAgain⟩
        [.proc 0 {}, .proc 0 {}, .proc 0 { uuid := 1 }, .proc 0 {}, .proc 0 {}, .proc 0 {}] =
          some u ∧
      Postgres.step u (.proc 1 {}) = some v ∧ exec Postgres.step v [.proc 1 {}] = some s ∧
      s.procs 1 = .answered (.response 500 500 true) ∧
      OwnRow redeemAgain s.shared.tables.creditTransactions) ∧
    ∃ u v s, exec InMemoryStore.handle ⟨oneVoucher, fun _ => .check redeemAgain⟩
        [.proc 0 {}, .proc 0 { uuid := 1 }] = some u ∧
      InMemoryStore.handle u (.proc 1 {}) = some v ∧
      exec InMemoryStore.handle v [.proc 1 {}] = some s ∧
      s.procs 1 = .answered (.response 500 500 true) ∧
      OwnRow redeemAgain s.shared.creditTransactions := by
  constructor
  · refine ⟨_, _, _, rfl, rfl, rfl, rfl, ?_⟩
    refine (((redeem_answers_iff redeemAgain 1).1
      ⟨Postgres.freshServer, fun _ => .check redeemAgain⟩ _ _ _ {}
      [.proc 0 {}, .proc 0 {}, .proc 0 { uuid := 1 }, .proc 0 {}, .proc 0 {}, .proc 0 {}]
      [.proc 1 {}] ⟨rfl, fun _ => rfl⟩ (fun _ => trivial) rfl rfl rfl rfl).1 _ rfl trivial).mpr ?_
    rintro row ⟨⟩
    rfl
  · refine ⟨_, _, _, rfl, rfl, rfl, rfl, ?_⟩
    refine (((redeem_answers_iff redeemAgain 1).2
      ⟨oneVoucher, fun _ => .check redeemAgain⟩ _ _ _ {}
      [.proc 0 {}, .proc 0 { uuid := 1 }] [.proc 1 {}] ⟨rfl, fun _ => rfl⟩ (by simp) rfl rfl rfl
      rfl).1 _ rfl trivial).mpr ?_
    rintro row ⟨⟩
    rfl

/-- Tenant 6 is told of 500 redeemed credits and has no row; of two requests of tenant 5 at once,
the second is answered with an error. -/
theorem redeem_answer_untrue :
    (∃ s, exec Postgres.step
        ⟨Postgres.freshServer, fun i => .check ⟨"c0de", ⟨if i = 1 then 6 else 5⟩, 60⟩⟩
        [.proc 0 {}, .proc 0 {}, .proc 0 { uuid := 1 }, .proc 0 {}, .proc 0 {}, .proc 0 {},
          .proc 0 {}, .proc 1 {}, .proc 1 {}, .proc 1 {}] = some s ∧
      s.procs 1 = .answered (.response 500 0 true) ∧
      ¬ OwnRow ⟨"c0de", ⟨6⟩, 60⟩ s.shared.tables.creditTransactions) ∧
    (∃ s, exec InMemoryStore.handle
        ⟨oneVoucher, fun i => .check ⟨"c0de", ⟨if i = 1 then 6 else 5⟩, 60⟩⟩
        [.proc 0 {}, .proc 0 { uuid := 1 }, .proc 0 {}, .proc 1 {}, .proc 1 {}] = some s ∧
      s.procs 1 = .answered (.response 500 0 true) ∧
      ¬ OwnRow ⟨"c0de", ⟨6⟩, 60⟩ s.shared.creditTransactions) ∧
    (∃ s, exec Postgres.step ⟨Postgres.freshServer, fun _ => .check redeemAgain⟩
        [.proc 0 {}, .proc 1 {}, .proc 0 {}, .proc 0 { uuid := 1 }, .proc 0 {}, .proc 0 {},
          .proc 0 {}, .proc 0 {}, .proc 1 {}, .proc 1 { uuid := 2 }, .proc 1 {}] = some s ∧
      OwnRow redeemAgain s.shared.tables.creditTransactions ∧
      s.procs 0 = .answered (.response 500 500 false) ∧
      s.procs 1 = .answered (.failed
        (.invalidRequest "voucher invalid, expired or already used"))) ∧
    ∃ s, exec InMemoryStore.handle ⟨oneVoucher, fun _ => .check redeemAgain⟩
        [.proc 0 {}, .proc 1 {}, .proc 0 { uuid := 1 }, .proc 0 {}, .proc 1 {}] = some s ∧
      OwnRow redeemAgain s.shared.creditTransactions ∧
      s.procs 0 = .answered (.response 500 500 false) ∧
      s.procs 1 = .answered (.failed (.invalidRequest "voucher already used or revoked")) := by
  refine ⟨⟨_, rfl, rfl, ?_⟩, ⟨_, rfl, rfl, ?_⟩, ⟨_, rfl, ?_, rfl, rfl⟩, ⟨_, rfl, ?_, rfl, rfl⟩⟩
  all_goals decide

end Combee.Billing
