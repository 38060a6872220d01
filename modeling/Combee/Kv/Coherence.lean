import Combee.Kv.Serving

/-!
# Coherence — the cache agrees with SQLite

The invariant of the serving machine: an unexpired cache entry agrees with its row, except for the
one key whose row the running closure has just changed. It is proved per closure, under the
interference of everything else on the node, which can only let time pass and drop cache entries
(`Fades`).

The second clock read of SET and MSET is the one place where the closures need help: the entry they
put carries the expiry of the row only if that read shows the same second (`SameSecond`).
-/

namespace Combee.Kv

open Foundation
open KvState (setTable live)
open Prog (secure_exceptT_bind secure_bind secure_ret)

/-! ## States that only lose cache entries -/

/-- Time passes and cache entries go; the tables stay. -/
structure Fades (s s' : KvState) : Prop where
  tables : s'.tables = s.tables
  clock : s.clock ≤ s'.clock
  cache : ∀ k v, s'.cache k = some v → s.cache k = some v

namespace Fades

lemma refl (s : KvState) : Fades s s :=
  ⟨rfl, le_rfl, fun _ _ h => h⟩

variable {s : KvState}

lemma trans {t u : KvState} (h : Fades s t) (h' : Fades t u) : Fades s u :=
  ⟨h'.tables.trans h.tables, h.clock.trans h'.clock, fun k v hv => h.cache k v (h'.cache k v hv)⟩

lemma tick (s : KvState) (elapsed : Nat) : Fades s (s.tick elapsed) :=
  ⟨rfl, by simp [KvState.tick], fun _ _ h => h⟩

lemma drop (s : KvState) (k : CacheKey) : Fades s (s.setEntry k none) := by
  refine ⟨rfl, le_rfl, fun k' v hv => ?_⟩
  by_cases hk : k' = k
  · simp [KvState.setEntry, hk] at hv
  · simpa [KvState.setEntry, hk] using hv

lemma row {s' : KvState} (h : Fades s s') (k : CacheKey) : s'.row k = s.row k := by
  simp [KvState.row, h.tables]

lemma dead {s' : KvState} (h : Fades s s') {k : CacheKey} (hk : s.live k = false) :
    s'.live k = false := by
  simp only [live, h.row] at hk ⊢
  cases hr : s.row k with
  | none => rfl
  | some r =>
    simp only [hr, Bool.not_eq_false'] at hk ⊢
    exact isExpired_mono h.clock hk

end Fades

namespace CoherentExcept

variable {s s' : KvState} {x : Option CacheKey}

lemma weaken (h : CoherentExcept none s) : CoherentExcept x s :=
  fun k v hv he _ => h k v hv he (by simp)

lemma fades (h : CoherentExcept x s) (hf : Fades s s') : CoherentExcept x s' := by
  intro k v hv he hx
  rw [hf.row]
  refine h k v (hf.cache k v hv) ?_ hx
  cases hexp : isExpired v.expiresAt s.clock with
  | false => rfl
  | true => rw [isExpired_mono hf.clock hexp] at he; exact he

end CoherentExcept

variable {db : DatabaseId}

lemma row_setTable_of_ne {s : KvState} {st : Stmt} {k : CacheKey}
    (hk : k ≠ ⟨db, st.key⟩) : (s.setTable db (st.exec (s.tables db)).2).row k = s.row k := by
  obtain ⟨db', key⟩ := k
  by_cases hdb : db' = db
  · subst hdb
    have hkey : key ≠ st.key := fun h => hk (by rw [h])
    simp [KvState.row, setTable, st.lookup_exec_of_ne _ hkey]
  · simp [KvState.row, setTable, hdb]

namespace CoherentExcept

variable {s : KvState} {db : DatabaseId} {st : Stmt}

lemma exec (h : CoherentExcept none s) :
    CoherentExcept (some ⟨db, st.key⟩) (s.setTable db (st.exec (s.tables db)).2) := by
  intro k v hv he hx
  have hk : k ≠ ⟨db, st.key⟩ := fun hk => hx (by rw [hk])
  rw [row_setTable_of_ne hk]
  exact h k v hv he (by simp)

/-- A statement on a dead row spoils nothing: no unexpired entry can have agreed with that row. -/
lemma exec_of_dead (h : CoherentExcept none s) (hdead : s.live ⟨db, st.key⟩ = false) :
    CoherentExcept none (s.setTable db (st.exec (s.tables db)).2) := by
  intro k v hv he _
  by_cases hk : k = ⟨db, st.key⟩
  · subst hk
    obtain ⟨r, hr, _, hexp⟩ := h _ v hv he (by simp)
    have hlive : isExpired v.expiresAt s.clock = true := by
      simpa [live, hr, hexp] using hdead
    exact absurd (hlive.symm.trans he) (by simp)
  · rw [row_setTable_of_ne hk]
    exact h k v hv he (by simp)

lemma setEntry {k : CacheKey} {e : Option CachedValue} (h : CoherentExcept (some k) s)
    (he : ∀ v, e = some v → Agrees (s.row k) v) : CoherentExcept none (s.setEntry k e) := by
  intro k' v hv hexp _
  by_cases hk : k' = k
  · subst hk
    exact he v (by simpa [KvState.setEntry] using hv)
  · exact h k' v (by simpa [KvState.setEntry, hk] using hv) hexp (by simpa using Ne.symm hk)

end CoherentExcept

/-! ## Closures under interference -/

/-- What the rest of the node may do while a closure is running. -/
structure Rely (n n' : KvNode) : Prop where
  kv : Fades n.kv n'.kv
  reads : n'.reads = n.reads
  stale : n'.stale = n.stale

namespace Rely

lemma refl (n : KvNode) : Rely n n :=
  ⟨Fades.refl _, rfl, rfl⟩

lemma trans {n n' n'' : KvNode} (h : Rely n n') (h' : Rely n' n'') : Rely n n'' :=
  ⟨h.kv.trans h'.kv, h'.reads.trans h.reads, h'.stale.trans h.stale⟩

end Rely

def Coherent (n : KvNode) : Prop :=
  CoherentExcept n.stale n.kv

/-- `SameSecond`, for a call of the closure `c`. -/
def Allowed (c : Closure) (n : KvNode) (op : KvOp) (o : Outside) : Prop :=
  op = .now → c.rereads n.reads.length = true →
    n.reads.head? = some (n.kv.clock + o.elapsed)

/-- The closure `c`, of which `p` is left to run, keeps the node coherent. -/
abbrev Sec (c : Closure) (db : DatabaseId) {α : Type} (Q : α → KvNode → Prop)
    (p : Prog KvOp KvOp.Res α) (n : KvNode) : Prop :=
  Prog.Secure (KvNode.call db) Rely (Allowed c) Coherent Q p n

/-- Between two keys: every entry is coherent. -/
structure Settled (n : KvNode) : Prop where
  coherent : CoherentExcept none n.kv
  stale : n.stale = none

/-- A statement on `key` was executed and the cache entry is still to be updated. -/
structure Pending (db : DatabaseId) (key : String) (n : KvNode) : Prop where
  except : CoherentExcept (some ⟨db, key⟩) n.kv
  stale : n.stale = none ∧ CoherentExcept none n.kv ∨ n.stale = some ⟨db, key⟩

variable {n n' : KvNode}

lemma Settled.rely (h : Settled n) (hr : Rely n n') : Settled n' :=
  ⟨h.coherent.fades hr.kv, hr.stale.trans h.stale⟩

lemma Settled.inv (h : Settled n) : Coherent n :=
  h.coherent.weaken

lemma Pending.rely {key : String} (h : Pending db key n)
    (hr : Rely n n') : Pending db key n' := by
  refine ⟨h.except.fades hr.kv, ?_⟩
  rcases h.stale with ⟨hs, hc⟩ | hs
  · exact .inl ⟨hr.stale.trans hs, hc.fades hr.kv⟩
  · exact .inr (hr.stale.trans hs)

lemma Pending.inv {key : String} (h : Pending db key n) :
    Coherent n := by
  rcases h.stale with ⟨_, hc⟩ | hs
  · exact hc.weaken
  · rw [Coherent, hs]
    exact h.except

section Calls

variable {c : Closure} {db : DatabaseId} {key : String}

lemma Settled.tick (h : Settled n) (elapsed : Nat) (reads : List Int) :
    Settled { n with kv := n.kv.tick elapsed, reads := reads } :=
  ⟨h.coherent.fades (Fades.tick _ _), h.stale⟩

/-- The clock. The reading is remembered, and the second one for a key is the first again. -/
lemma sec_unixNow {Q : Result Int → KvNode → Prop} (hn : Settled n)
    (h : ∀ n' t, Settled n' → Fades n.kv n'.kv → n'.reads = t :: n.reads → n'.kv.clock = t →
      (c.rereads n.reads.length = true → n.reads.head? = some t) → Q (.ok t) n') :
    Sec c db Q KvM.unixNow.run n := by
  intro n' hr o ho
  rw [KvNode.call_now]
  have hs := (hn.rely hr).tick o.elapsed ((n'.kv.clock + o.elapsed) :: n'.reads)
  refine ⟨hs.inv, h _ _ hs (hr.kv.trans (Fades.tick _ _)) (by simp [hr.reads]) rfl ?_⟩
  intro hc
  rw [← hr.reads] at hc ⊢
  exact ho rfl hc

lemma sec_readRow {Q : Result (Option KvRow) → KvNode → Prop} (hn : Settled n)
    (herr : ∀ n' e, Settled n' → Q (.error e) n')
    (h : ∀ n', Settled n' → Fades n.kv n'.kv → n'.reads = n.reads →
      Q (.ok (n'.kv.row ⟨db, key⟩)) n') :
    Sec c db Q (KvM.readRow key).run n := by
  intro n' hr o _
  have hs := (hn.rely hr).tick o.elapsed n'.reads
  cases ho : o.fault with
  | some e =>
    rw [KvNode.call_readRow_fault ho]
    exact ⟨hs.inv, herr _ _ hs⟩
  | none =>
    rw [KvNode.call_readRow_ok ho]
    exact ⟨hs.inv, h _ hs (hr.kv.trans (Fades.tick _ _)) hr.reads⟩

/-- A statement leaves its key pending; on a dead row, or without a change, everything stays
settled. -/
lemma sec_execute {st : Stmt} {Q : Result Nat → KvNode → Prop} (hn : Settled n)
    (herr : ∀ n' e, Settled n' → n'.reads = n.reads → Q (.error e) n')
    (h : ∀ n' t, Pending db st.key n' → n'.reads = n.reads →
      n'.kv.row ⟨db, st.key⟩ = (st.exec t).2.lookup st.key →
      ((st.exec t).1 = 0 ∨ n.kv.live ⟨db, st.key⟩ = false → Settled n') →
      Q (.ok (st.exec t).1) n') :
    Sec c db Q (KvM.execute st).run n := by
  intro n' hr o _
  have hs := (hn.rely hr).tick o.elapsed n'.reads
  cases ho : o.fault with
  | some e =>
    rw [KvNode.call_execute_fault ho]
    exact ⟨hs.inv, herr _ _ hs hr.reads⟩
  | none =>
    rw [KvNode.call_execute_ok ho]
    set n2 : KvNode := { n' with
      kv := (n'.kv.tick o.elapsed).setTable db (st.exec (n'.kv.tables db)).2
      stale := n'.staleAfter db (.execute st) o } with hn2
    -- a statement that changes no row, or a dead one, does not mark its key as stale
    have hsettled : (st.exec (n'.kv.tables db)).1 = 0 ∨
        (n'.kv.tick o.elapsed).live ⟨db, st.key⟩ = false → Settled n2 := by
      rintro (hzero | hdead)
      · refine ⟨?_, by simp [hn2, KvNode.staleAfter, hzero, (hn.rely hr).stale]⟩
        have hself : (n'.kv.tick o.elapsed).setTable db (st.exec (n'.kv.tables db)).2 =
            n'.kv.tick o.elapsed := by
          rw [st.exec_eq_self_of_zero _ hzero]
          simp [setTable, KvState.tick]
        rw [hn2, hself]
        exact hs.coherent
      · exact ⟨hs.coherent.exec_of_dead hdead,
          by simp [hn2, KvNode.staleAfter, hdead, (hn.rely hr).stale]⟩
    have hpending : Pending db st.key n2 := by
      refine ⟨hs.coherent.exec, ?_⟩
      by_cases hc : (st.exec (n'.kv.tables db)).1 = 0 ∨
          (n'.kv.tick o.elapsed).live ⟨db, st.key⟩ = false
      · exact .inl ⟨(hsettled hc).stale, (hsettled hc).coherent⟩
      · rw [not_or, Bool.not_eq_false] at hc
        exact .inr (by simp [hn2, KvNode.staleAfter, ho, hc.2, Nat.pos_of_ne_zero hc.1])
    refine ⟨hpending.inv, h n2 _ hpending hr.reads ?_ ?_⟩
    · simp [hn2, KvState.row, setTable]
    · rintro (hzero | hdead)
      · exact hsettled (.inl hzero)
      · exact hsettled (.inr ((hr.kv.trans (Fades.tick _ _)).dead hdead))

/-- The key is up to date again once its entry agrees with the row, or is gone. -/
lemma Pending.resolve {e : Option CachedValue} (h : Pending db key n)
    (he : ∀ v, e = some v → Agrees (n.kv.row ⟨db, key⟩) v) (elapsed : Nat) :
    Settled { n with
      kv := (n.kv.tick elapsed).setEntry ⟨db, key⟩ e
      stale := if n.stale = some ⟨db, key⟩ then none else n.stale } := by
  refine ⟨(h.except.fades (Fades.tick _ _)).setEntry he, ?_⟩
  rcases h.stale with ⟨hs, _⟩ | hs <;> simp [hs]

variable {Q : Result Unit → KvNode → Prop}

lemma sec_put {v : CachedValue} (hn : Pending db key n) (hv : Agrees (n.kv.row ⟨db, key⟩) v)
    (h : ∀ n', Settled n' → n'.reads = n.reads → Q (.ok ()) n') :
    Sec c db Q (KvM.put key v).run n := by
  intro n' hr o _
  rw [KvNode.call_put]
  have hv' : ∀ v', some v = some v' → Agrees (n'.kv.row ⟨db, key⟩) v' := by
    rintro _ ⟨⟩
    rwa [hr.kv.row]
  have hs := (hn.rely hr).resolve hv' o.elapsed
  exact ⟨hs.inv, h _ hs hr.reads⟩

lemma sec_invalidate (hn : Pending db key n)
    (h : ∀ n', Settled n' → n'.reads = n.reads → Q (.ok ()) n') :
    Sec c db Q (KvM.invalidate key).run n := by
  intro n' hr o _
  rw [KvNode.call_invalidate]
  have hs := (hn.rely hr).resolve (e := none) (by simp) o.elapsed
  exact ⟨hs.inv, h _ hs hr.reads⟩

lemma Settled.pending (h : Settled n) : Pending db key n :=
  ⟨h.coherent.weaken, .inl ⟨h.stale, h.coherent⟩⟩

/-! ## The functions of `kv.rs` -/

lemma sec_ignore {α : Type} {p : KvM α}
    (h : Sec c db (fun _ n => Q (.ok ()) n) p.run n) : Sec c db Q (KvM.ignore p).run n :=
  secure_bind (secure_bind h)

lemma sec_map {α β : Type} {f : α → β} {p : KvM α} {Q : Result β → KvNode → Prop}
    (h : Sec c db (fun r n => Q (r.map f) n) p.run n) : Sec c db Q (f <$> p).run n := by
  refine secure_bind (h.mono fun {r n} hr => ?_)
  cases r with
  | ok | error => exact hr

lemma sec_del {Q : Result Bool → KvNode → Prop} (hn : Settled n)
    (herr : ∀ n' e, Settled n' → Q (.error e) n') (hsame : ∀ n', Settled n' → Q (.ok false) n')
    (hdel : ∀ n', Pending db key n' →
      (n.kv.live ⟨db, key⟩ = false → Settled n') → Q (.ok true) n') :
    Sec c db Q (del key).run n := by
  refine secure_exceptT_bind (sec_execute hn ?_ ?_)
  · intro n' e hs _
    exact herr n' e hs
  · intro n' t hp _ _ hsettled
    refine secure_ret ?_
    by_cases hzero : ((Stmt.delete key).exec t).1 = 0
    · simp only [hzero, lt_irrefl, decide_false]
      exact hsame n' (hsettled (.inl hzero))
    · simp only [Nat.pos_of_ne_zero hzero, decide_true]
      exact hdel n' hp fun hd => hsettled (.inr hd)

lemma sec_ignore_del (hn : Settled n) (hdead : n.kv.live ⟨db, key⟩ = false)
    (h : ∀ n', Settled n' → Q (.ok ()) n') : Sec c db Q (KvM.ignore (del key)).run n :=
  sec_ignore (sec_del hn (fun n' _ hs => h n' hs) (fun n' hs => h n' hs)
    fun n' _ hs => h n' (hs hdead))

lemma live_of_row {s : KvState} {k : CacheKey} {row : KvRow} (h : s.row k = some row) :
    s.live k = !isExpired row.expiresAt s.clock := by
  simp [live, h]

/-- The clock and then the row: a row that has expired at the reading is dead. -/
lemma sec_look {α : Type} {f : Int → Option KvRow → KvM α} {Q : Result α → KvNode → Prop}
    (hn : Settled n) (herr : ∀ n' e, Settled n' → Q (.error e) n')
    (h : ∀ n' now, Settled n' → (∀ row, n'.kv.row ⟨db, key⟩ = some row →
        isExpired row.expiresAt now = true → n'.kv.live ⟨db, key⟩ = false) →
      Sec c db Q (f now (n'.kv.row ⟨db, key⟩)).run n') :
    Sec c db Q (do f (← KvM.unixNow) (← KvM.readRow key) : KvM α).run n := by
  refine secure_exceptT_bind (sec_unixNow hn ?_)
  intro n1 now hs1 _ _ hclock _
  refine secure_exceptT_bind (sec_readRow hs1 herr ?_)
  intro n2 hs2 hf2 _
  refine h n2 now hs2 ?_
  intro row hrow hexp
  -- the clock has not gone back since the reading
  rw [live_of_row hrow, isExpired_mono (hclock ▸ hf2.clock) hexp]
  rfl

lemma sec_readWithExpiry {Q : Result (Option (String × Option Int)) → KvNode → Prop}
    (hn : Settled n)
    (h : ∀ n' r, Settled n' →
      (∀ v e, r = .ok (some (v, e)) → Agrees (n'.kv.row ⟨db, key⟩) ⟨v, e⟩) → Q r n') :
    Sec c db Q (readWithExpiry key).run n := by
  refine sec_look hn (fun n' e hs => h n' _ hs (by simp)) ?_
  intro n' now hs hdead
  cases hrow : n'.kv.row ⟨db, key⟩ with
  | none => exact h n' (.ok none) hs (by simp)
  | some row =>
    by_cases hexp : isExpired row.expiresAt now = true
    · simp only [hexp, if_true]
      refine secure_exceptT_bind (sec_ignore_del hs (hdead row hrow hexp) fun n3 hs3 => ?_)
      exact h n3 (.ok none) hs3 (by simp)
    · simp only [hexp]
      refine h n' (.ok (some (row.value, row.expiresAt))) hs ?_
      rintro v e ⟨⟩
      exact ⟨row, hrow, rfl, rfl⟩

lemma setStmt_key (key value : String) (expiresAt : Option Int) (nx xx : Bool) :
    (setStmt key value expiresAt nx xx).key = key := by
  cases nx <;> cases xx <;> rfl

lemma setStmt_cases (key value : String) (expiresAt : Option Int) (nx xx : Bool) :
    setStmt key value expiresAt nx xx = .upsert key value expiresAt ∨
    setStmt key value expiresAt nx xx = .insertIfAbsent key value expiresAt ∨
    setStmt key value expiresAt nx xx = .updateIfPresent key value expiresAt := by
  cases nx <;> cases xx <;> simp [setStmt]

lemma upsert_exec_pos (key value : String) (expiresAt : Option Int) (t : KvTable) :
    0 < ((Stmt.upsert key value expiresAt).exec t).1 := by
  simp only [Stmt.exec]
  split <;> simp

variable {ttlSeconds : Option UInt64}

section

variable (hn : Settled n)
include hn

variable {Q : Result Bool → KvNode → Prop}

/-- SET leaves its key pending if it wrote the value and the expiry computed from the clock reading.
-/
lemma sec_set {value : String} {nx xx : Bool}
    (hsame : ∀ n' r, Settled n' → (∀ b, r = .ok b → b = false ∧ (nx || xx) = true) → Q r n')
    (hset : ∀ n' t, Pending db key n' → n'.reads = t :: n.reads →
      Agrees (n'.kv.row ⟨db, key⟩) ⟨value, expiresAtFrom ttlSeconds t⟩ → Q (.ok true) n') :
    Sec c db Q (set key value ttlSeconds nx xx).run n := by
  unfold set
  by_cases hkey : key.isEmpty = true
  · simp only [hkey, if_true]
    exact hsame n _ hn (by simp)
  · simp only [hkey]
    refine secure_exceptT_bind (sec_unixNow hn ?_)
    intro n1 now hs1 _ hreads1 _ _
    have hk := setStmt_key key value (expiresAtFrom ttlSeconds now) nx xx
    refine secure_exceptT_bind (sec_execute hs1 ?_ ?_)
    · intro n2 e hs2 _
      exact hsame n2 _ hs2 (by simp)
    · intro n2 t hp hreads2 hrow hsettled
      rw [hk] at hp hrow
      refine secure_ret ?_
      by_cases hzero : ((setStmt key value (expiresAtFrom ttlSeconds now) nx xx).exec t).1 = 0
      · -- only the guarded statements can leave the row alone
        have hflag : (nx || xx) = true := by
          cases nx <;> cases xx <;> first | rfl | skip
          exact absurd hzero (upsert_exec_pos _ _ _ _).ne'
        simp only [hflag, if_true, hzero, lt_irrefl, decide_false]
        exact hsame n2 _ (hsettled (.inl hzero)) (by simp [hflag])
      · have hpos := Nat.pos_of_ne_zero hzero
        have hres : decide (0 < if (nx || xx) = true
            then ((setStmt key value (expiresAtFrom ttlSeconds now) nx xx).exec t).1
            else 1) = true := by
          split <;> simp [hpos]
        rw [hres]
        obtain ⟨version, hlookup⟩ := lookup_exec_set (setStmt_cases _ _ _ _ _) hpos
        refine hset n2 now hp (hreads2.trans hreads1) ⟨_, hrow.trans hlookup, rfl, rfl⟩

/-- SET with its cache update; for a ttl, the second clock read must be in the `SameSecond`. -/
lemma sec_setAndCache {value : String} {nx xx : Bool}
    (hre : ttlSeconds.isSome = true → c.rereads (n.reads.length + 1) = true)
    (h : ∀ n' r, Settled n' →
      ((nx || xx) = false → ∀ b, r = .ok b → n'.reads.length = n.reads.length + 2) → Q r n') :
    Sec c db Q (setAndCache key value ttlSeconds nx xx).run n := by
  refine secure_exceptT_bind (sec_set hn ?_ ?_)
  · intro n1 r hs1 hr
    cases r with
    | error e => exact h n1 _ hs1 (by simp)
    | ok b =>
      obtain ⟨rfl, hflag⟩ := hr b rfl
      exact h n1 (.ok false) hs1 (by simp [hflag])
  · -- the key is pending from `n1` on; `n2` is where the clock is read again
    intro n1 t hp hreads1 hagree n2 hr2 o ho
    rw [KvNode.call_now]
    have hlen : n2.reads.length = n.reads.length + 1 := by simp [hr2.reads, hreads1]
    -- without a ttl the second reading plays no part; with one, it is the first again
    have hexp :
        expiresAtFrom ttlSeconds (n2.kv.clock + o.elapsed) = expiresAtFrom ttlSeconds t := by
      cases httl : ttlSeconds with
      | none => rfl
      | some ttl =>
        have hhead : n2.reads.head? = some (n2.kv.clock + o.elapsed) :=
          ho rfl (by rw [hlen]; exact hre (by simp [httl]))
        have : t = n2.kv.clock + o.elapsed := by simpa [hr2.reads, hreads1] using hhead
        rw [this]
    have hrely : Rely n2 { n2 with kv := n2.kv.tick o.elapsed } := ⟨Fades.tick _ _, rfl, rfl⟩
    have hp2 := (hp.rely hr2).rely hrely
    set n3 : KvNode := { n2 with
      kv := n2.kv.tick o.elapsed, reads := (n2.kv.clock + o.elapsed) :: n2.reads } with hn3
    have hp3 : Pending db key n3 := ⟨hp2.except, hp2.stale⟩
    refine ⟨hp3.inv, secure_exceptT_bind (sec_put hp3 ?_ ?_)⟩
    · rw [hexp, (hr2.kv.trans hrely.kv).row]
      exact hagree
    · intro n4 hs4 hreads4
      refine h n4 (.ok true) hs4 fun _ _ _ => ?_
      rw [hreads4, hn3, List.length_cons, hlen]

lemma sec_exists (h : ∀ n' r, Settled n' → Q r n') : Sec c db Q («exists» key).run n := by
  refine sec_look hn (fun n' e hs => h n' _ hs) ?_
  intro n' now hs _
  cases n'.kv.row ⟨db, key⟩ with
  | none => exact h n' (.ok false) hs
  | some row => exact h n' (.ok _) hs

lemma sec_ttl {Q : Result (Option Int) → KvNode → Prop}
    (h : ∀ n' r, Settled n' → Q r n') : Sec c db Q (ttl key).run n := by
  refine sec_look hn (fun n' e hs => h n' _ hs) ?_
  intro n' now hs _
  cases n'.kv.row ⟨db, key⟩ with
  | none => exact h n' (.ok none) hs
  | some row =>
    obtain ⟨value, _ | e, version⟩ := row
    · exact h n' (.ok _) hs
    · by_cases he : isExpired (some e) now = true
      · simp only [he, if_true]
        exact h n' (.ok none) hs
      · simp only [he]
        exact h n' (.ok _) hs

lemma sec_expire
    (herr : ∀ n' e, Settled n' → Q (.error e) n') (hsame : ∀ n', Settled n' → Q (.ok false) n')
    (h : ∀ n', Pending db key n' → Q (.ok true) n') : Sec c db Q (expire key ttlSeconds).run n := by
  refine secure_exceptT_bind (sec_exists hn ?_)
  intro n1 r hs1
  cases r with
  | error e => exact herr n1 e hs1
  | ok b =>
    cases b with
    | false => exact hsame n1 hs1
    | true =>
      refine secure_exceptT_bind (sec_unixNow hs1 ?_)
      intro n2 now hs2 _ _ _ _
      refine secure_exceptT_bind (sec_execute hs2 ?_ ?_)
      · intro n3 e hs3 _
        exact herr n3 e hs3
      · intro n3 t hp _ _ _
        exact h n3 hp

/-- INCR leaves its key pending; on an error it has changed at most an expired row. -/
lemma sec_incr {delta : Int} {Q : Result Int → KvNode → Prop}
    (herr : ∀ n' e, Settled n' → Q (.error e) n') (h : ∀ n' v, Pending db key n' → Q (.ok v) n') :
    Sec c db Q (incr key delta ttlSeconds).run n := by
  -- the last statement, from any state in which everything is settled
  have hwrite : ∀ {n2 : KvNode} (r : Int × Option Int), Settled n2 →
      Sec c db Q (do
        let _ ← KvM.execute (.upsert key (toString r.1) r.2)
        pure r.1 : KvM Int).run n2 := by
    intro n2 r hs2
    refine secure_exceptT_bind (sec_execute hs2 (fun n3 e hs3 _ => herr n3 e hs3) ?_)
    intro n3 t hp _ _ _
    exact h n3 _ hp
  unfold incr
  by_cases hkey : key.isEmpty = true
  · simp only [hkey, if_true]
    exact herr n _ hn
  · simp only [hkey]
    refine sec_look hn herr ?_
    intro n2 now hs2 hdead
    cases hrow : n2.kv.row ⟨db, key⟩ with
    | none => exact hwrite _ hs2
    | some row =>
      by_cases hexp : isExpired row.expiresAt now = true
      · simp only [hexp, if_true]
        refine secure_exceptT_bind (sec_ignore_del hs2 (hdead row hrow hexp) fun n3 hs3 => ?_)
        exact hwrite _ hs3
      · simp only [hexp]
        refine secure_exceptT_bind ?_
        cases hincr : incrRow row delta ttlSeconds now with
        | error e => exact herr n2 e hs2
        | ok r => exact hwrite r hs2

end

/-! ## The closures -/

lemma sec_mgetLoop {keys : List String} {miss : List Nat} {out : List (Option String)}
    {Q : Result (List (Option String)) → KvNode → Prop} (hn : Settled n)
    (h : ∀ n' r, Settled n' → Q r n') : Sec c db Q (mgetLoop keys miss out).run n := by
  induction miss generalizing out n with
  | nil => exact h n (.ok out) hn
  | cons i miss ih =>
    refine secure_exceptT_bind (sec_readWithExpiry hn ?_)
    intro n1 r hs1 hagree
    cases r with
    | error e => exact h n1 _ hs1
    | ok found =>
      cases found with
      | none => exact ih hs1
      | some ve =>
        refine secure_exceptT_bind (sec_put hs1.pending (hagree _ _ rfl) ?_)
        intro n2 hs2 _
        exact ih hs2

/-- The items before the current one have made two clock readings each. -/
lemma sec_msetLoop (done : List KvSetItem) {items : List KvSetItem}
    (hc : c = .mset (done ++ items)) (hn : Settled n) (hreads : n.reads.length = 2 * done.length)
    (h : ∀ n' r, Settled n' → Q r n') : Sec c db Q (msetLoop items).run n := by
  induction items generalizing done n with
  | nil => exact h n (.ok ()) hn
  | cons it items ih =>
    refine secure_exceptT_bind (sec_setAndCache hn ?_ ?_)
    · intro httl
      -- the reading after the first one for this item has an odd number
      have hdiv : (2 * done.length + 1) / 2 = done.length := by omega
      simp [hc, Closure.rereads, hreads, hdiv, httl]
    · intro n1 r hs1 hlen
      cases r with
      | error e => exact h n1 _ hs1
      | ok b =>
        refine ih (done ++ [it]) (by simp [hc]) hs1 ?_
        rw [hlen rfl b rfl, hreads]
        simp
        omega

lemma sec_prog (c : Closure) (hn : Settled n) (hreads : n.reads = []) :
    Sec c db (fun _ n' => Settled n') c.prog.run n := by
  cases c with
  | get key =>
    refine sec_map (secure_exceptT_bind (sec_unixNow hn ?_))
    intro n1 now hs1 _ _ _ _
    refine secure_exceptT_bind (sec_readWithExpiry hs1 ?_)
    intro n2 r hs2 hagree
    cases r with
    | error e => exact hs2
    | ok found =>
      cases found with
      | none => exact hs2
      | some ve =>
        refine secure_exceptT_bind (sec_put hs2.pending (hagree _ _ rfl) ?_)
        intro n3 hs3 _
        exact hs3
  | set key value ttlSeconds nx xx =>
    refine sec_map (sec_setAndCache hn ?_ fun _ _ hs _ => hs)
    intro httl
    simp [Closure.rereads, hreads, httl]
  | del key =>
    refine sec_map (secure_exceptT_bind (sec_del hn (fun _ _ hs => hs) (fun _ hs => hs) ?_))
    intro n1 hp _
    exact secure_exceptT_bind (sec_invalidate hp fun _ hs _ => hs)
  | «exists» key => exact sec_map (sec_exists hn fun _ _ hs => hs)
  | mget keys out miss => exact sec_map (sec_mgetLoop hn fun _ _ hs => hs)
  | mset items =>
    exact sec_map (sec_msetLoop [] rfl hn (by simp [hreads]) fun _ _ hs => hs)
  | ttl key => exact sec_map (sec_ttl hn fun _ _ hs => hs)
  | expire key ttlSeconds =>
    refine sec_map (secure_exceptT_bind (sec_expire hn (fun _ _ hs => hs) (fun _ hs => hs) ?_))
    intro n1 hp
    exact secure_exceptT_bind (sec_invalidate hp fun _ hs _ => hs)
  | incr key delta ttlSeconds =>
    refine sec_map (secure_exceptT_bind (sec_incr hn (fun _ _ hs => hs) ?_))
    intro n1 v hp
    exact secure_exceptT_bind (sec_invalidate hp fun _ hs _ => hs)

end Calls

/-! ## The machine -/

def Task.isRunning : Task → Bool
  | .running _ _ _ => true
  | _ => false

variable {i : Nat} {t : Task} {o : Outside}

lemma act_cases {t' : Task} (h : act n i t o = some (n', t')) :
    (t.isRunning = false ∧ t'.isRunning = false ∧ n'.holder = n.holder ∧ Rely n n') ∨
    (∃ db c, t = .waiting db c ∧ n.holder = none ∧ t' = .running db c c.prog.run ∧
      n' = { n with holder := some i, reads := [], stale := none }) ∨
    (∃ db c op k, t = .running db c (.call op k) ∧ t' = .running db c (k (n.call db op o).1) ∧
      n' = (n.call db op o).2) ∨
    (∃ db c r, t = .running db c (.ret r) ∧ t' = .done r ∧
      n' = { n with holder := none, reads := [], stale := none }) := by
  unfold act at h
  split at h
  · -- a call of the lock-free part
    rename_i db op k
    cases h
    refine .inl ⟨rfl, rfl, rfl, ?_, rfl, rfl⟩
    cases op with
    | now | get => exact Fades.tick _ _
    | invalidate key => exact (Fades.tick _ _).trans (Fades.drop _ _)
  · cases h
    exact .inl ⟨rfl, rfl, rfl, Rely.refl _⟩
  · cases h
    exact .inl ⟨rfl, rfl, rfl, Rely.refl _⟩
  · rename_i db c
    split at h
    · rename_i hfree
      cases h
      exact .inr (.inl ⟨db, c, rfl, hfree, rfl, rfl⟩)
    · cases h
  · rename_i db c op k
    cases h
    exact .inr (.inr (.inl ⟨db, c, op, k, rfl, rfl, rfl⟩))
  · rename_i db c r
    cases h
    exact .inr (.inr (.inr ⟨db, c, r, rfl, rfl, rfl⟩))
  · cases h

variable {db : DatabaseId}

lemma call_holder {op : KvOp} : (n.call db op o).2.holder = n.holder := rfl

lemma lookup_foldl_erase (keys : List String) (t : KvTable) (key : String) :
    (keys.foldl (fun t key => t.erase key) t).lookup key =
      if key ∈ keys then none else t.lookup key := by
  induction keys generalizing t with
  | nil => simp
  | cons k keys ih =>
    rw [List.foldl_cons, ih]
    by_cases hk : key = k
    · subst hk
      simp
    · simp [hk, Finmap.lookup_erase_ne hk]

/-- The garbage collection removes expired rows only, so no unexpired entry loses its row. -/
lemma CoherentExcept.gc {s : KvState} {keys : List String} {t : KvTable}
    (h : CoherentExcept none s) (ht : gcExpired (s.tables db) s.clock keys = some t) :
    CoherentExcept none (s.setTable db t) := by
  unfold gcExpired at ht
  split at ht
  · rename_i hkeys
    cases ht
    intro k v hv he hx
    obtain ⟨r, hr, hval, hexp⟩ := h k v hv he hx
    refine ⟨r, ?_, hval, hexp⟩
    obtain ⟨db', key⟩ := k
    by_cases hdb : db' = db
    · subst hdb
      -- a key that is collected has an expired row, and its entry agrees with it
      have hnot : key ∉ keys := by
        intro hmem
        have hrow : (s.tables db').lookup key = some r := hr
        have hdead : isExpired v.expiresAt s.clock = true := by
          simpa [expiredAt, hrow, hexp] using List.all_eq_true.mp hkeys.2 key hmem
        exact absurd (hdead.symm.trans he) (by simp)
      simpa [KvState.row, setTable, lookup_foldl_erase, hnot] using hr
    · simpa [KvState.row, setTable, hdb] using hr
  · cases ht

def Steady (n : KvNode) : Prop :=
  Coherent n ∧ (n.holder = none → Settled n)

/-- The part about one command: a running closure holds the mutex and will keep the node
coherent. -/
def Keeps (n : KvNode) (i : Nat) : Task → Prop
  | .running db c p => n.holder = some i ∧ Sec c db (fun _ n' => Settled n') p n
  | _ => n.holder ≠ some i

lemma keeps_of_not_running (ht : t.isRunning = false) :
    Keeps n i t ↔ n.holder ≠ some i := by
  cases t <;> first | exact Iff.rfl | cases ht

lemma Keeps.rely (h : Keeps n i t) (hr : Rely n n')
    (hh : n'.holder = n.holder) : Keeps n' i t := by
  cases t with
  | running db c p =>
    exact ⟨hh.trans h.1, h.2.rely (fun h h' => h.trans h') (fun hs hr => hs.rely hr) hr⟩
  | fast | waiting | done => exact fun hn => h (hh ▸ hn)

lemma Steady.rely (h : Steady n) (hr : Rely n n') (hh : n'.holder = n.holder) :
    Steady n' := by
  refine ⟨?_, fun hn => (h.2 (hh ▸ hn)).rely hr⟩
  rw [Coherent, hr.stale]
  exact h.1.fades hr.kv

/-- A command that does not hold the mutex depends on nothing else. -/
lemma Keeps.idle {j : Nat} (h : Keeps n j t)
    (hn : n.holder ≠ some j) (hn' : n'.holder ≠ some j) : Keeps n' j t := by
  cases t with
  | running db c p => exact absurd h.1 hn
  | fast | waiting | done => exact hn'

variable {s : Pool KvNode Nat Task}

lemma allowed_of_sameSecond
    {c : Closure} {op : KvOp} {k : op.Res → Prog KvOp KvOp.Res (Result KvReply)}
    (ht : s.procs i = .running db c (.call op k)) (h : SameSecond s (.proc i o)) :
    Allowed c s.shared op o := by
  rintro rfl
  simpa [SameSecond, ht] using h

/-- One step of the node, with the second clock read of a SET in the second of the first. -/
lemma step_steady {s s' : Pool KvNode Nat Task} {l : PoolLabel Nat Outside Event}
    (hs : Pool.Inv Steady Keeps s) (hC : SameSecond s l) (h : step s l = some s') :
    Pool.Inv Steady Keeps s' := by
  refine Pool.step_inv ?_ ?_ ?_ hs h
  · rintro i o n' t' rfl hact
    have hi := hs.procs i
    rcases act_cases hact with ⟨ht, ht', hh, hr⟩ | ⟨db, c, ht, hfree, rfl, rfl⟩ |
      ⟨db, c, op, k, ht, rfl, rfl⟩ | ⟨db, c, r, ht, rfl, rfl⟩
    · refine ⟨hs.shared.rely hr hh, (keeps_of_not_running ht').mpr ?_⟩
      rw [hh]
      exact (keeps_of_not_running ht).mp hi
    -- nobody held the mutex, so the closure starts with everything settled
    · have hsettled := hs.shared.2 hfree
      refine ⟨⟨hsettled.coherent.weaken, by simp⟩, rfl, ?_⟩
      exact sec_prog c ⟨hsettled.coherent, rfl⟩ rfl
    -- a call of the running closure: `Sec` says what it establishes
    · rw [ht] at hi
      obtain ⟨hinv, hsec⟩ := hi.2.call (Rely.refl _) (allowed_of_sameSecond ht hC)
      refine ⟨⟨hinv, fun hnone => ?_⟩, hi.1, hsec⟩
      exact absurd (hi.1.symm.trans (call_holder.symm.trans hnone)) (by simp)
    · -- the closure has returned, so everything is settled
      rw [ht] at hi
      have hsettled : Settled s.shared := hi.2
      exact ⟨⟨hsettled.coherent.weaken, fun _ => ⟨hsettled.coherent, rfl⟩⟩,
        Option.some_ne_none i ∘ Eq.symm⟩
  · rintro i o n' t' rfl hact j hj hKj
    have hi := hs.procs i
    rcases act_cases hact with ⟨ht, ht', hh, hr⟩ | ⟨db, c, ht, hfree, rfl, rfl⟩ |
      ⟨db, c, op, k, ht, rfl, rfl⟩ | ⟨db, c, r, ht, rfl, rfl⟩
    · exact hKj.rely hr hh
    -- the mutex went from nobody, or back to nobody, and never to `j`
    · exact hKj.idle (by simp [hfree]) (by simpa using Ne.symm hj)
    · rw [ht] at hi
      have hne : s.shared.holder ≠ some j := by simpa [hi.1] using Ne.symm hj
      exact hKj.idle hne hne
    · rw [ht] at hi
      exact hKj.idle (by simpa [hi.1] using Ne.symm hj) (by simp)
  · rintro e n' rfl henv
    cases e with
    | tick elapsed =>
      cases henv
      have hr : Rely s.shared { s.shared with kv := s.shared.kv.tick elapsed } :=
        ⟨Fades.tick _ _, rfl, rfl⟩
      exact ⟨hs.shared.rely hr rfl, fun j hKj => hKj.rely hr rfl⟩
    | evict k =>
      cases henv
      have hr : Rely s.shared { s.shared with kv := s.shared.kv.setEntry k none } :=
        ⟨Fades.drop _ _, rfl, rfl⟩
      exact ⟨hs.shared.rely hr rfl, fun j hKj => hKj.rely hr rfl⟩
    | gc db keys =>
      simp only [env] at henv
      split at henv
      · rename_i hfree
        obtain ⟨t, ht, rfl⟩ := Option.map_eq_some_iff.mp henv
        have hsettled := hs.shared.2 hfree
        have hgc : Settled { s.shared with kv := s.shared.kv.setTable db t } :=
          ⟨hsettled.coherent.gc ht, hsettled.stale⟩
        -- nobody runs a closure, so no command depends on the tables
        exact ⟨⟨hgc.inv, fun _ => hgc⟩, fun j hKj =>
          hKj.idle (by simp [hfree]) (by simp [hfree])⟩
      · cases henv

lemma Fresh.inv (h : Fresh s) : Pool.Inv Steady Keeps s := by
  refine ⟨⟨h.coherent.weaken, fun _ => ⟨h.coherent, h.stale⟩⟩, fun i => ?_⟩
  obtain ⟨db, r, hi⟩ := h.arrived i
  rw [hi]
  intro hn
  exact absurd (h.holder.symm.trans hn) (by simp)

/-- If the second clock read of a SET or MSET with a ttl shows the second of the first, every
unexpired entry agrees with its row, except for the key that the running closure is about to update.
-/
theorem cache_coherent {s₀ s : Pool KvNode Nat Task} {ls : List (PoolLabel Nat Outside Event)}
    (h₀ : Fresh s₀) (hC : Meets step SameSecond s₀ ls) (h : exec step s₀ ls = some s) :
    CoherentExcept s.shared.stale s.shared.kv ∧
    (s.shared.holder = none → CoherentExcept none s.shared.kv) := by
  have hinv : Pool.Inv Steady Keeps s :=
    inv_of_exec (fun hs hc hl => step_steady hs hc hl) h₀.inv hC h
  exact ⟨hinv.shared.1, fun hn => (hinv.shared.2 hn).coherent⟩

/-- An empty node at time 100, with the commands `rs` on their way to one Cell. -/
def arrivals (rs : Nat → KvRequest) : Pool KvNode Nat Task where
  shared := ⟨⟨fun _ => ∅, fun _ => none, 100⟩, none, [], none⟩
  procs := fun i => .arrived ⟨0⟩ (rs i)

lemma arrivals_fresh (rs : Nat → KvRequest) : Fresh (arrivals rs) where
  holder := rfl
  stale := rfl
  coherent := fun k v hv => by simp [arrivals] at hv
  arrived := fun i => ⟨⟨0⟩, rs i, rfl⟩

/-- `n` steps of the command `i`, all within one second. -/
def steadily (i n : Nat) : List (PoolLabel Nat Outside Event) :=
  List.replicate n (.proc i {})

/-- `SET k v EX 10` from its arrival to its answer, within one second. -/
theorem cache_coherent_set_ex :
    ∃ s, exec step (arrivals fun _ => .set "k" "v" (some 10) false false) (steadily 0 7) = some s ∧
      s.shared.kv.cache ⟨⟨0⟩, "k"⟩ = some ⟨"v", some 110⟩ ∧ CoherentExcept none s.shared.kv := by
  have hmeets : Meets step SameSecond (arrivals fun _ => .set "k" "v" (some 10) false false)
      (steadily 0 7) := by
    refine (meets_cons rfl).mpr ⟨trivial, ?_⟩  -- hand over to `with_conn`
    refine (meets_cons rfl).mpr ⟨trivial, ?_⟩  -- take the mutex
    refine (meets_cons rfl).mpr ⟨fun h => absurd h (by decide), ?_⟩  -- the clock, for the row
    refine (meets_cons rfl).mpr ⟨trivial, ?_⟩  -- the upsert
    refine (meets_cons rfl).mpr ⟨fun _ => rfl, ?_⟩  -- the clock, for the entry
    refine (meets_cons rfl).mpr ⟨trivial, ?_⟩  -- the put
    exact (meets_cons rfl).mpr ⟨trivial, trivial⟩
  exact ⟨_, rfl, rfl, (cache_coherent (arrivals_fresh _) hmeets rfl).2 rfl⟩

/-- While a second SET runs the cache still has the old value; and if the two clock reads of a SET
are a second apart, the entry outlives the row by that second. -/
theorem cache_incoherent_set :
    (∃ s, exec step (arrivals fun i => .set "k" (if i = 0 then "old" else "new") none false false)
        (steadily 0 7 ++ steadily 1 4) = some s ∧
      s.shared.stale = some ⟨⟨0⟩, "k"⟩ ∧ ¬ CoherentExcept none s.shared.kv) ∧
    (∃ s, exec step (arrivals fun _ => .set "k" "v" (some 10) false false)
        (steadily 0 4 ++ [.proc 0 { elapsed := 1 }] ++ steadily 0 2) = some s ∧
      s.shared.holder = none ∧ ¬ CoherentExcept none s.shared.kv) := by
  refine ⟨⟨_, rfl, rfl, fun h => ?_⟩, ⟨_, rfl, rfl, fun h => ?_⟩⟩
  · obtain ⟨r, hr, hval, _⟩ := h ⟨⟨0⟩, "k"⟩ ⟨"old", none⟩ rfl rfl (by simp)
    cases hr
    exact absurd hval (by decide)
  · obtain ⟨r, hr, _, hexp⟩ := h ⟨⟨0⟩, "k"⟩ ⟨"v", some 111⟩ rfl rfl (by simp)
    cases hr
    exact absurd hexp (by decide)

end Combee.Kv
