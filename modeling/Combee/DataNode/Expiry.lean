import Combee.DataNode.Quotas

/-!
# Expiry — the TTL arithmetic of the KV writes

SET, MSET, EXPIRE and INCR all get their expiry from `expires_at_from` at a time that they have read
(`stored_of_run`). It casts the `u64` to an `i64` and adds it to the time, and both can wrap, so
the expiry is the sum exactly if the sum is an `i64` (`ttl_exact_iff`). Otherwise the key has
expired when it is written. The check of the ttl rules that out only if it is switched on.
-/

namespace Combee.DataNode

open Foundation Kv

/-- The cast makes a ttl of `2 ^ 63` or more negative, and a sum beyond `i64::MAX` wraps. -/
lemma expiresAtFrom_eq {ttl : UInt64} {time : Int} (h0 : 0 ≤ time) (h : time < 2 ^ 63) :
    expiresAtFrom (some ttl) time =
      some (if time + ttl.toNat < 2 ^ 63 then time + ttl.toNat else time + ttl.toNat - 2 ^ 64) := by
  have httl : ttl.toNat < 2 ^ 64 := ttl.toNat_lt
  have hwrap : ∀ n : Int, 2 ^ 63 ≤ n → n < 2 ^ 64 + 2 ^ 63 → wrapI64 n = n - 2 ^ 64 := by
    intro n hlo hhi
    rw [← wrapI64_of_bounds (n := n - 2 ^ 64) (by omega) (by omega)]
    exact (Int.sub_bmod_right n (2 ^ 64)).symm
  simp only [expiresAtFrom, Option.map_some, Option.some.injEq]
  by_cases hcast : (ttl.toNat : Int) < 2 ^ 63
  · rw [wrapI64_of_bounds (n := ttl.toNat) (by omega) hcast]
    split
    · exact wrapI64_of_bounds (by omega) (by omega)
    · exact hwrap _ (by omega) (by omega)
  · rw [hwrap ttl.toNat (by omega) (by omega), if_neg (by omega),
      wrapI64_of_bounds (by omega) (by omega)]
    omega

/-- The write gives a ttl to the key. In a batch the last item for the key counts. -/
def WriteOp.SetsTtl (key : String) (ttl : UInt64) : WriteOp → Prop
  | .kvSet key' _ ttlSeconds _ _ => key' = key ∧ ttlSeconds = some ttl
  | .kvMset items => ∃ before value after, items = before ++ ⟨key, value, some ttl⟩ :: after ∧
      ∀ it ∈ after, it.key ≠ key
  | .kvExpire key' ttlSeconds => key' = key ∧ ttlSeconds = some ttl
  | .kvIncr key' _ ttlSeconds => key' = key ∧ ttlSeconds = some ttl
  | _ => False

/-- The row of the key has the expiry that `expires_at_from` gives at a time between the states. -/
def TtlStored (db : DatabaseId) (key : String) (ttl : UInt64) (s s' : KvState) (time : Int) :
    Prop :=
  s.clock ≤ time ∧ time ≤ s'.clock ∧ ∃ row, s'.row ⟨db, key⟩ = some row ∧
    row.expiresAt = expiresAtFrom (some ttl) time

section Stored

variable {db : DatabaseId} {key : String} {ttl : UInt64} {s : KvState} {calls : Nat → Outside}
  {reply : KvReply}

lemma stored_of_mset {items before after : List KvSetItem} {value : String}
    (hitems : items = before ++ ⟨key, value, some ttl⟩ :: after)
    (hafter : ∀ it ∈ after, it.key ≠ key)
    (h : (Prog.run (answer db) calls s (msetLoop items).run).1 = .ok ()) :
    ∃ time, TtlStored db key ttl s (Prog.run (answer db) calls s (msetLoop items).run).2 time := by
  have hnone : ∀ i, failsAt items calls i = false := by
    intro i
    by_contra hfails
    obtain ⟨e, he⟩ := run_msetLoop_error db items calls s (Bool.eq_true_of_not_eq_false hfails)
    cases h.symm.trans he
  obtain ⟨_, times, hlen, htimes, htables⟩ := run_msetLoop_ok db items calls s hnone
  -- the times of the items before, of the item, and of the items after
  rw [hitems, List.length_append, List.length_cons] at hlen
  obtain ⟨times1, time, times2, rfl, hlen1⟩ :
      ∃ times1 time times2, times = times1 ++ time :: times2 ∧ times1.length = before.length := by
    have hlt : before.length < times.length := by omega
    refine ⟨times.take before.length, times[before.length], times.drop (before.length + 1), ?_, ?_⟩
    · rw [← List.drop_eq_getElem_cons hlt, List.take_append_drop]
    · simp [hlt.le]
  have hzip : items.zip (times1 ++ time :: times2) =
      before.zip times1 ++ (⟨key, value, some ttl⟩, time) :: after.zip times2 := by
    rw [hitems, List.zip_append hlen1.symm, List.zip_cons_cons]
  obtain ⟨hlo, hhi⟩ := htimes time (by simp)
  obtain ⟨version, hrow⟩ := lookup_applyItems_last (s.tables db) (before.zip times1)
    (after.zip times2) ⟨key, value, some ttl⟩ time
    fun it hit => hafter it.1 (List.of_mem_zip hit).1
  refine ⟨time, hlo, hhi, ⟨value, expiresAtFrom (some ttl) time, version⟩, ?_, rfl⟩
  rw [KvState.row, htables, ← hrow, ← hzip]
  exact KvState.row_setTable _ db key

lemma stored_of_run {op : WriteOp} {c : Closure} (hop : op.SetsTtl key ttl)
    (hc : op.closure = some c) (h : (Prog.run (answer db) calls s c.prog.run).1 = .ok reply)
    (hreply : reply ≠ .flag false) :
    ∃ time, TtlStored db key ttl s (Prog.run (answer db) calls s c.prog.run).2 time := by
  cases op with
  | kvSet key' value ttlSeconds nx xx =>
    cases hc
    obtain ⟨rfl, rfl⟩ := hop
    have hleaves := alone_set_leaves.run_ok h
    cases reply with
    | flag written =>
      cases written with
      | true =>
        obtain ⟨time, version, hlo, hhi, hrow⟩ := hleaves
        exact ⟨time, hlo, hhi, _, hrow, rfl⟩
      | false => exact absurd rfl hreply
    | _ => exact hleaves.elim
  | kvMset items =>
    cases hc
    obtain ⟨before, value, after, hitems, hafter⟩ := hop
    rw [mset_prog_run, Prog.run_bind_ret] at h ⊢
    cases hrun : (Prog.run (answer db) calls s (msetLoop items).run).1 with
    | error e =>
      rw [hrun] at h
      cases h
    | ok _ => exact stored_of_mset hitems hafter hrun
  | kvExpire key' ttlSeconds =>
    cases hc
    obtain ⟨rfl, rfl⟩ := hop
    have hleaves := alone_expire_leaves.run_ok h
    cases reply with
    | flag updated =>
      cases updated with
      | true =>
        obtain ⟨time, row, hlo, hhi, hrow, hexp⟩ := hleaves
        exact ⟨time, hlo, hhi, row, hrow, hexp⟩
      | false => exact absurd rfl hreply
    | _ => exact hleaves.elim
  | kvIncr key' delta ttlSeconds =>
    cases hc
    obtain ⟨rfl, rfl⟩ := hop
    have hleaves := run_incr_leaves db key' delta (some ttl) s calls
    rw [h] at hleaves
    cases reply with
    | int n =>
      obtain ⟨_, e, t, hn, _, htable, hhi⟩ := hleaves
      obtain ⟨version, hrow⟩ := lookup_exec_set (.inl rfl)
        (upsert_exec_pos key' (toString n) e t)
      exact ⟨_, by omega, hhi, ⟨_, e, version⟩, (congrArg (·.lookup key') htable).trans hrow,
        expiresAt_of_incrLive hn nofun⟩
    | _ => exact hleaves.elim
  | _ => exact hop.elim

end Stored

section Exact

variable {U R : Type}

lemma map_inl_eq_ok {r : Result KvReply} {reply : KvReply} :
    r.map .inl = (.ok (.inl reply) : Result (KvReply ⊕ R)) ↔ r = .ok reply := by
  cases r <;> simp [Except.map]

lemma checkTtl_eq_ok {quota : QuotaConfig} {ttl : UInt64} :
    checkTtl quota (some ttl) = .ok () ↔ Within quota.maxTtlSeconds ttl.toNat :=
  limit_eq_ok

lemma within_of_admission {quota : QuotaConfig} {s : Node U} {db : DatabaseId} {generation : Int}
    {bytes : Nat} {op : WriteOp} {key : String} {ttl : UInt64} (hop : op.SetsTtl key ttl)
    (h : admission quota s db generation bytes op = .ok ()) :
    Within quota.maxTtlSeconds ttl.toNat := by
  rw [← checkTtl_eq_ok]
  cases op with
  | kvSet key' value ttlSeconds nx xx =>
    simp only [admission, bind_eq_ok_iff] at h
    exact hop.2 ▸ h.2.2.1
  | kvMset items =>
    obtain ⟨before, value, after, rfl, _⟩ := hop
    simp only [admission, bind_eq_ok_iff, forM_eq_ok_iff] at h
    have hitem := h.2.2 ⟨key, value, some ttl⟩ (by simp)
    simp only [checkItem, bind_eq_ok_iff] at hitem
    exact hitem.2.2
  | kvExpire key' ttlSeconds | kvIncr key' delta ttlSeconds =>
    simp only [admission, bind_eq_ok_iff] at h
    exact hop.2 ▸ h.2.1
  | _ => exact hop.elim

/-- The stored expiry is that of a time during the call; it is the sum of time and ttl exactly if
the sum is an `i64`, and for a positive ttl exactly then the key is live. -/
theorem ttl_exact_iff (quota : QuotaConfig)
    (engine : SqlCall → Nat → KvTable × U → Except CombeeError R × (KvTable × U)) (s s' : Node U)
    (db : DatabaseId) (generation : Int) (op : WriteOp) (os : Nat → Outcome) (key : String)
    (ttl : UInt64) (hop : op.SetsTtl key ttl) (reply : KvReply) (hreply : reply ≠ .flag false)
    (h : serveWrite quota engine s ⟨db, generation, op⟩ os = (.ok (.inl reply), s'))
    (hstart : 0 ≤ s.kv.clock) (hend : s'.kv.clock < 2 ^ 63) :
    Within quota.maxTtlSeconds ttl.toNat ∧ ∃ time row, s.kv.clock ≤ time ∧ time ≤ s'.kv.clock ∧
      s'.kv.row ⟨db, key⟩ = some row ∧ row.expiresAt = expiresAtFrom (some ttl) time ∧
      (row.expiresAt = some (time + ttl.toNat) ↔ time + ttl.toNat < 2 ^ 63) ∧
      (0 < ttl.toNat → (isExpired row.expiresAt time = false ↔ time + ttl.toNat < 2 ^ 63)) := by
  obtain ⟨c, hc⟩ : ∃ c, op.closure = some c := by
    cases op with
    | executeSql | executeTransaction => exact hop.elim
    | _ => exact ⟨_, rfl⟩
  obtain ⟨k, hk⟩ := serveWrite_eq quota engine op hc s db generation os
  rw [h] at hk
  cases hadm : admission quota s db generation (os 2).bytes op with
  | error e =>
    rw [hadm] at hk
    cases hk
  | ok _ =>
    rw [hadm] at hk
    obtain ⟨hr, rfl⟩ := Prod.mk.inj hk
    obtain ⟨_, hrun, hs'⟩ := runClosure_eq_ok (map_inl_eq_ok.mp hr.symm)
    obtain ⟨time, hlo, hhi, row, hrow, hexp⟩ := stored_of_run hop hc hrun hreply
    rw [← hs'] at hhi hrow
    refine ⟨within_of_admission hop hadm, time, row, hlo, hhi, hrow, hexp, ?_⟩
    rw [hexp, expiresAtFrom_eq (hstart.trans hlo) (hhi.trans_lt hend), isExpired_some]
    have httl : ttl.toNat < 2 ^ 64 := ttl.toNat_lt
    constructor
    · rw [Option.some.injEq]
      split <;> omega
    · intro hpos
      rw [decide_eq_false_iff_not]
      split <;> omega

/-- SET with a ttl of ten seconds at the second 100. -/
theorem ttl_exact_iff_ten : ∃ s', serveWrite {} noSql emptyNode
      ⟨⟨0⟩, 0, .kvSet "k" "v" (some 10) false false⟩ (fun _ => {}) = (.ok (.inl (.flag true)), s') ∧
    ∃ time row, s'.kv.row ⟨⟨0⟩, "k"⟩ = some row ∧ row.expiresAt = some (time + 10) := by
  refine ⟨_, rfl, ?_⟩
  obtain ⟨_, time, row, _, hhi, hrow, _, hexact, _⟩ := ttl_exact_iff {} noSql emptyNode _ ⟨0⟩ 0
    (.kvSet "k" "v" (some 10) false false) (fun _ => {}) "k" 10 ⟨rfl, rfl⟩ (.flag true) nofun rfl
    (by decide) (by decide)
  have hclock : time ≤ 100 := hhi
  exact ⟨time, row, hrow, hexact.mpr (by simp; omega)⟩

/-- Without a limit on ttls, `u64::MAX` seconds are stored as one second ago. -/
theorem ttl_inexact : ∃ s', serveWrite { maxTtlSeconds := 0 } noSql emptyNode
      ⟨⟨0⟩, 0, .kvSet "k" "v" (some 18446744073709551615) false false⟩ (fun _ => {}) =
        (.ok (.inl (.flag true)), s') ∧
    s'.kv.row ⟨⟨0⟩, "k"⟩ = some ⟨"v", some 99, 1⟩ ∧ isExpired (some 99) s'.kv.clock = true :=
  ⟨_, rfl, rfl, rfl⟩

end Exact

end Combee.DataNode
