import Combee.DataNode.Fencing
import Combee.Kv.Coherence

/-!
# Batch — how far MSET is a single write

`kv_mset` writes its items one by one, each with a statement of its own and no transaction around
them. An item can be refused (an empty key) or its statement can fail; the items before it are
written by then, in the table and in the cache. So MSET is all or nothing exactly when it is
rejected before its closure runs, when no item fails, or when the first item does
(`mset_atomic_iff`).
-/

namespace Combee.DataNode

open Foundation Kv

/-! ## What MSET is for -/

/-- The items of a batch applied left to right, each with the time at which it is written. -/
def applyItems (t : KvTable) (items : List (KvSetItem × Int)) : KvTable :=
  items.foldl (fun t it =>
    ((Stmt.upsert it.1.key it.1.value (expiresAtFrom it.1.ttlSeconds it.2)).exec t).2) t

lemma lookup_applyItems_of_notMem (items : List (KvSetItem × Int)) (t : KvTable) {key : String}
    (h : ∀ it ∈ items, it.1.key ≠ key) : (applyItems t items).lookup key = t.lookup key := by
  induction items generalizing t with
  | nil => rfl
  | cons it items ih =>
    rw [applyItems, List.foldl_cons, ← applyItems, ih _ fun it' h' => h it' (.tail _ h')]
    exact Stmt.lookup_exec_of_ne _ _ (Ne.symm (h it (.head _)))

lemma lookup_applyItems_last (t : KvTable) (before after : List (KvSetItem × Int))
    (it : KvSetItem) (time : Int) (h : ∀ it' ∈ after, it'.1.key ≠ it.key) :
    ∃ version, (applyItems t (before ++ (it, time) :: after)).lookup it.key =
      some ⟨it.value, expiresAtFrom it.ttlSeconds time, version⟩ := by
  have hsplit : applyItems t (before ++ (it, time) :: after) = applyItems
      ((Stmt.upsert it.key it.value (expiresAtFrom it.ttlSeconds time)).exec
        (applyItems t before)).2 after := by
    simp [applyItems]
  rw [hsplit, lookup_applyItems_of_notMem after _ h]
  exact lookup_exec_set (.inl rfl) (upsert_exec_pos _ _ _ _)

/-! ## The loop -/

/-- The item at a position is refused, or the SQLite call of that position fails. -/
def failsAt (items : List KvSetItem) (calls : Nat → Outside) (i : Nat) : Bool :=
  match items[i]? with
  -- each item takes four calls: the time, the statement, the time again, the cache entry
  | some it => it.key.isEmpty || (calls (4 * i + 1)).fault.isSome
  | none => false

lemma failsAt_cons_succ (it : KvSetItem) (items : List KvSetItem) (calls : Nat → Outside)
    (i : Nat) : failsAt (it :: items) calls (i + 1) = failsAt items (fun n => calls (n + 4)) i := by
  simp [failsAt, Nat.mul_add, Nat.add_right_comm]

variable {db : DatabaseId}

def itemDone (db : DatabaseId) (calls : Nat → Outside) (s : KvState) (it : KvSetItem) : KvState :=
  let s₁ := s.tick (calls 0).elapsed
  let s₂ := s₁.tick (calls 1).elapsed
  let s₃ := (s₂.setTable db ((Stmt.upsert it.key it.value (expiresAtFrom it.ttlSeconds
    s₁.clock)).exec (s₂.tables db)).2).tick (calls 2).elapsed
  (s₃.tick (calls 3).elapsed).setEntry ⟨db, it.key⟩
    (some ⟨it.value, expiresAtFrom it.ttlSeconds s₃.clock⟩)

lemma msetLoop_cons_run {it : KvSetItem} (hkey : it.key.isEmpty = false)
    (items : List KvSetItem) :
    (msetLoop (it :: items)).run = .call KvOp.now fun (now : Int) =>
      .call (KvOp.execute (.upsert it.key it.value (expiresAtFrom it.ttlSeconds now)))
        fun (res : Result Nat) => match res with
        | .error e => .ret (.error e)
        | .ok _ => .call KvOp.now fun (now : Int) =>
          .call (KvOp.put it.key ⟨it.value, expiresAtFrom it.ttlSeconds now⟩) fun (_ : Unit) =>
            (msetLoop items).run := by
  change (setAndCache it.key it.value it.ttlSeconds false false >>= fun _ => msetLoop items).run = _
  unfold setAndCache Kv.set
  rw [hkey]
  refine congrArg (Prog.call KvOp.now) (funext fun now => ?_)
  refine congrArg (Prog.call _) (funext fun res => ?_)
  cases res with
  | error | ok => rfl

lemma run_msetLoop_cons (calls : Nat → Outside) (s : KvState) (it : KvSetItem)
    (items : List KvSetItem) :
    Prog.run (answer db) calls s (msetLoop (it :: items)).run =
      if it.key.isEmpty then (.error (invalid "key must not be empty"), s)
      else match (calls 1).fault with
        | some e => (.error (.sql e), (s.tick (calls 0).elapsed).tick (calls 1).elapsed)
        | none => Prog.run (answer db) (fun n => calls (n + 4)) (itemDone db calls s it)
            (msetLoop items).run := by
  cases hkey : it.key.isEmpty with
  | true =>
    unfold msetLoop setAndCache Kv.set
    rw [hkey]
    rfl
  | false =>
    rw [msetLoop_cons_run hkey]
    simp only [Prog.run, answer]
    cases hf : (calls 1).fault with
    | some | none => rfl

variable {calls : Nat → Outside} {items : List KvSetItem}

lemma run_msetLoop_next {it : KvSetItem}
    (h : failsAt (it :: items) calls 0 = false) (s : KvState) :
    Prog.run (answer db) calls s (msetLoop (it :: items)).run =
      Prog.run (answer db) (fun n => calls (n + 4)) (itemDone db calls s it)
        (msetLoop items).run := by
  obtain ⟨hkey, hfault⟩ : it.key.isEmpty = false ∧ (calls 1).fault = none := by
    simpa [failsAt] using h
  rw [run_msetLoop_cons, hkey, hfault]
  rfl

variable (db : DatabaseId)

lemma run_msetLoop_stop (h : failsAt items calls 0 = true) (s : KvState) :
    ∃ e, (Prog.run (answer db) calls s (msetLoop items).run).1 = .error e ∧
      (Prog.run (answer db) calls s (msetLoop items).run).2.tables = s.tables ∧
      (Prog.run (answer db) calls s (msetLoop items).run).2.cache = s.cache := by
  cases items with
  | nil => simp [failsAt] at h
  | cons it items =>
    rw [run_msetLoop_cons]
    cases hkey : it.key.isEmpty with
    | true => exact ⟨_, rfl, rfl, rfl⟩
    | false =>
      cases hf : (calls 1).fault with
      | some e => exact ⟨_, rfl, rfl, rfl⟩
      | none => simp [failsAt, hkey, hf] at h

/-! ## Whole batches -/

lemma clock_le_run {α : Type} (calls : Nat → Outside) (s : KvState)
    (p : Prog KvOp KvOp.Res α) : s.clock ≤ (Prog.run (answer db) calls s p).2.clock := by
  refine Prog.run_rel (R := fun s s' => s.clock ≤ s'.clock) (fun _ => le_rfl)
    (fun h h' => h.trans h') ?_ calls s p
  intro s op o
  have hle : s.clock ≤ s.clock + o.elapsed := by omega
  cases op with
  | now | put | invalidate => exact hle
  | readRow key => cases ho : o.fault <;> simp [answer, ho, KvState.tick]
  | execute st => cases ho : o.fault <;> simp [answer, ho, KvState.tick, KvState.setTable]

lemma tables_itemDone (calls : Nat → Outside) (s : KvState) (it : KvSetItem) :
    (itemDone db calls s it).tables = (s.setTable db
      (applyItems (s.tables db) [(it, s.clock + (calls 0).elapsed)])).tables := rfl

/-- A batch in which no item fails is applied left to right. -/
lemma run_msetLoop_ok (items : List KvSetItem) (calls : Nat → Outside)
    (s : KvState) (h : ∀ i, failsAt items calls i = false) :
    (Prog.run (answer db) calls s (msetLoop items).run).1 = .ok () ∧
    ∃ times : List Int, times.length = items.length ∧
      (∀ time ∈ times, s.clock ≤ time ∧
        time ≤ (Prog.run (answer db) calls s (msetLoop items).run).2.clock) ∧
      (Prog.run (answer db) calls s (msetLoop items).run).2.tables =
        (s.setTable db (applyItems (s.tables db) (items.zip times))).tables := by
  induction items generalizing calls s with
  | nil =>
    refine ⟨rfl, [], rfl, by simp, ?_⟩
    simp [msetLoop, applyItems, KvState.setTable, Prog.run]
  | cons it items ih =>
    rw [run_msetLoop_next (h 0)]
    have hrest : ∀ i, failsAt items (fun n => calls (n + 4)) i = false := fun i =>
      (failsAt_cons_succ it items calls i).symm.trans (h (i + 1))
    have hend := clock_le_run db (fun n => calls (n + 4)) (itemDone db calls s it)
      (msetLoop items).run
    obtain ⟨hok, times, hlen, htimes, htables⟩ := ih _ (itemDone db calls s it) hrest
    refine ⟨hok, (s.clock + (calls 0).elapsed) :: times, by simp [hlen], ?_, ?_⟩
    · have hstart : s.clock + (calls 0).elapsed ≤ (itemDone db calls s it).clock := by
        simp only [itemDone, KvState.setEntry, KvState.setTable, KvState.tick]
        omega
      intro time htime
      rcases List.mem_cons.mp htime with rfl | hmem
      · exact ⟨by omega, hstart.trans hend⟩
      · have hbounds := htimes time hmem
        exact ⟨by omega, hbounds.2⟩
    · rw [htables]
      simp [KvState.setTable, tables_itemDone, applyItems]

lemma run_msetLoop_error (items : List KvSetItem) (calls : Nat → Outside)
    (s : KvState) {i : Nat} (h : failsAt items calls i = true) :
    ∃ e, (Prog.run (answer db) calls s (msetLoop items).run).1 = .error e := by
  induction items generalizing calls s i with
  | nil => simp [failsAt] at h
  | cons it items ih =>
    cases hfirst : failsAt (it :: items) calls 0 with
    | true =>
      obtain ⟨e, he, _⟩ := run_msetLoop_stop db hfirst s
      exact ⟨e, he⟩
    | false =>
      rw [run_msetLoop_next hfirst]
      cases i with
      | zero => exact absurd (hfirst.symm.trans h) (by simp)
      | succ i => exact ih _ _ ((failsAt_cons_succ it items calls i).symm.trans h)

/-- No row of the first table is gone or of a lower version in the second. -/
def NotOlder (t t' : KvTable) : Prop :=
  ∀ key row, t.lookup key = some row → ∃ row', t'.lookup key = some row' ∧
    row.version ≤ row'.version

lemma upsert_lookup (key value : String) (expiresAt : Option Int) (t : KvTable) :
    ∃ row, ((Stmt.upsert key value expiresAt).exec t).2.lookup key = some row ∧
      ∀ old, t.lookup key = some old → old.version < row.version := by
  cases ht : t.lookup key with
  | none => exact ⟨⟨value, expiresAt, 1⟩, by simp [Stmt.exec, ht], by simp⟩
  | some row => exact ⟨⟨value, expiresAt, row.version + 1⟩, by simp [Stmt.exec, ht], by simp⟩

lemma notOlder_upsert (key value : String) (expiresAt : Option Int) (t : KvTable) :
    NotOlder t ((Stmt.upsert key value expiresAt).exec t).2 := by
  intro key' row hrow
  by_cases hkey : key' = key
  · subst hkey
    obtain ⟨row', hrow', hlt⟩ := upsert_lookup key' value expiresAt t
    exact ⟨row', hrow', (hlt row hrow).le⟩
  · exact ⟨row, (Stmt.lookup_exec_of_ne _ _ hkey).trans hrow, le_rfl⟩

lemma notOlder_run_msetLoop (items : List KvSetItem) (calls : Nat → Outside) (s : KvState) :
    NotOlder (s.tables db)
      ((Prog.run (answer db) calls s (msetLoop items).run).2.tables db) := by
  induction items generalizing calls s with
  | nil => exact fun _ row h => ⟨row, h, le_rfl⟩
  | cons it items ih =>
    cases hfirst : failsAt (it :: items) calls 0 with
    | true =>
      obtain ⟨_, _, htables, _⟩ := run_msetLoop_stop db hfirst s
      rw [htables]
      exact fun _ row h => ⟨row, h, le_rfl⟩
    | false =>
      rw [run_msetLoop_next hfirst]
      intro key row hrow
      obtain ⟨row1, hrow1, hle1⟩ := notOlder_upsert it.key it.value
        (expiresAtFrom it.ttlSeconds (s.clock + (calls 0).elapsed)) _ key row hrow
      obtain ⟨row2, hrow2, hle2⟩ := ih (fun n => calls (n + 4)) (itemDone db calls s it)
        key row1 (by simpa [tables_itemDone, KvState.setTable, applyItems] using hrow1)
      exact ⟨row2, hrow2, hle1.trans hle2⟩

/-- A batch whose first item is written has changed the table, wherever the loop stops. -/
lemma run_msetLoop_changed (hne : items ≠ []) (h : failsAt items calls 0 = false) (s : KvState) :
    (Prog.run (answer db) calls s (msetLoop items).run).2.tables db ≠ s.tables db := by
  cases items with
  | nil => exact absurd rfl hne
  | cons it items =>
    rw [run_msetLoop_next h]
    intro heq
    obtain ⟨row, hrow, hlt⟩ := upsert_lookup it.key it.value
      (expiresAtFrom it.ttlSeconds (s.clock + (calls 0).elapsed)) (s.tables db)
    obtain ⟨row', hrow', hle⟩ := notOlder_run_msetLoop db items (fun n => calls (n + 4))
      (itemDone db calls s it) it.key row
      (by simpa [tables_itemDone, KvState.setTable, applyItems] using hrow)
    -- the version has gone up since the start, so the row cannot be the one of the start
    rw [heq] at hrow'
    exact absurd (hlt row' hrow') (by omega)

/-! ## The entry point -/

section Entry

variable {U R : Type} (quota : QuotaConfig)
  (engine : SqlCall → Nat → KvTable × U → Result R × (KvTable × U))

/-- The answer of the node to one call of an entry point, made with no other request under way. -/
def Node.answer (db : DatabaseId) (s : Node U) (op : NodeOp) (o : Outcome) :
    op.Res R × Node U :=
  match op with
  | .checkGeneration generation => (s.checkGeneration db generation, s)
  | .checkWritable => (s.checkWritable db, s)
  | .storageBytes => (o.bytes, s)
  | .acquireLock => ((), s)
  | .runClosure c => runClosure s db c o
  | .runSql q => runSql engine s db q o

def serveWrite (s : Node U) (r : WriteRequest) (os : Nat → Outcome) :
    Result (KvReply ⊕ R) × Node U :=
  Prog.run (Node.answer engine r.db) os s (entry quota r).run

/-- All items were applied left to right, or the call failed and nothing has changed. -/
def AllOrNothing (db : DatabaseId) (items : List KvSetItem) (s : Node U)
    (res : Result (KvReply ⊕ R)) (s' : Node U) : Prop :=
  s'.user = s.user ∧ match res with
  | .ok _ => ∃ times : List Int, times.length = items.length ∧
      (∀ time ∈ times, s.kv.clock ≤ time ∧ time ≤ s'.kv.clock) ∧
      s'.kv.tables = (s.kv.setTable db (applyItems (s.kv.tables db) (items.zip times))).tables
  | .error _ => s'.kv.tables = s.kv.tables ∧ s'.kv.cache = s.kv.cache

/-- The generation, the read-only set, a quota or the opening stops the call before its closure. -/
def Rejected (s : Node U) (db : DatabaseId) (generation : Int) (items : List KvSetItem)
    (o : Outcome) : Prop :=
  s.checkGeneration db generation ≠ .ok () ∨ s.checkWritable db ≠ .ok () ∨
    items.forM (checkItem quota) ≠ .ok () ∨ o.openFault ≠ none

variable {quota engine}

lemma serveWrite_mset (s : Node U) (db : DatabaseId) (generation : Int) (items : List KvSetItem)
    (os : Nat → Outcome) :
    serveWrite quota engine s ⟨db, generation, .kvMset items⟩ os =
      match s.checkGeneration db generation with
      | .error e => (.error e, s)
      | .ok () => match s.checkWritable db with
        | .error e => (.error e, s)
        | .ok () => match items.forM (checkItem quota) with
          | .error e => (.error e, s)
          | .ok () => ((runClosure s db (.mset items) (os 3)).1.map .inl,
              (runClosure s db (.mset items) (os 3)).2) := by
  change Prog.run (Node.answer engine db) _ s
    (ExceptT.bindCont _ (s.checkGeneration db generation)) = _
  cases s.checkGeneration db generation with
  | error e => rfl
  | ok _ =>
    change Prog.run (Node.answer engine db) _ s (ExceptT.bindCont _ (s.checkWritable db)) = _
    cases s.checkWritable db with
    | error e => rfl
    | ok _ =>
      change Prog.run (Node.answer engine db) _ s
        (ExceptT.bindCont _ (items.forM (checkItem quota))) = _
      cases items.forM (checkItem quota) with
      | error | ok => rfl

lemma mset_prog_run (items : List KvSetItem) : (Closure.mset items).prog.run =
    (msetLoop items).run >>= fun r => .ret (r.map fun _ => KvReply.unit) := by
  refine congrArg ((msetLoop items).run >>= ·) (funext fun r => ?_)
  cases r <;> rfl

lemma runClosure_mset (s : Node U) (db : DatabaseId) (items : List KvSetItem) {o : Outcome}
    (hopen : o.openFault = none) :
    runClosure s db (.mset items) o =
      ((Prog.run (answer db) o.calls s.kv (msetLoop items).run).1.map fun _ => KvReply.unit,
        { s with kv := (Prog.run (answer db) o.calls s.kv (msetLoop items).run).2 }) := by
  simp only [runClosure, openConn, hopen, mset_prog_run, Prog.run_bind_ret]

/-- A call that is rejected changes neither the database nor the cache. -/
lemma rejected_unchanged {s : Node U} {db : DatabaseId} {generation : Int}
    {items : List KvSetItem} {os : Nat → Outcome}
    (h : Rejected quota s db generation items (os 3)) :
    AllOrNothing db items s (serveWrite quota engine s ⟨db, generation, .kvMset items⟩ os).1
      (serveWrite quota engine s ⟨db, generation, .kvMset items⟩ os).2 := by
  rw [serveWrite_mset]
  cases hgen : s.checkGeneration db generation with
  | error e => exact ⟨rfl, rfl, rfl⟩
  | ok _ =>
    cases hwritable : s.checkWritable db with
    | error e => exact ⟨rfl, rfl, rfl⟩
    | ok _ =>
      cases hitems : items.forM (checkItem quota) with
      | error e => exact ⟨rfl, rfl, rfl⟩
      | ok _ =>
        cases hopen : (os 3).openFault with
        | none => simp [Rejected, hgen, hwritable, hitems, hopen] at h
        | some fault =>
          simp only [runClosure, openConn, hopen]
          obtain ⟨e, _ | _⟩ := fault <;> exact ⟨rfl, rfl, rfl⟩

/-- MSET is all or nothing exactly when it is rejected before its closure, or no item is written
before one that fails. -/
theorem mset_atomic_iff (quota : QuotaConfig)
    (engine : SqlCall → Nat → KvTable × U → Except CombeeError R × (KvTable × U)) (s : Node U)
    (db : DatabaseId) (generation : Int) (items : List KvSetItem) (os : Nat → Outcome) :
    AllOrNothing db items s (serveWrite quota engine s ⟨db, generation, .kvMset items⟩ os).1
        (serveWrite quota engine s ⟨db, generation, .kvMset items⟩ os).2 ↔
      Rejected quota s db generation items (os 3) ∨
        ∀ i, failsAt items (os 3).calls i = true → failsAt items (os 3).calls 0 = true := by
  by_cases hrejected : Rejected quota s db generation items (os 3)
  · exact iff_of_true (rejected_unchanged hrejected) (.inl hrejected)
  · simp only [hrejected, false_or]
    obtain ⟨hgen, hwritable, hitems, hopen⟩ : s.checkGeneration db generation = .ok () ∧
        s.checkWritable db = .ok () ∧ items.forM (checkItem quota) = .ok () ∧
        (os 3).openFault = none := by
      simpa [Rejected] using hrejected
    simp only [serveWrite_mset, hgen, hwritable, hitems, runClosure_mset s db items hopen]
    by_cases hfirst : failsAt items (os 3).calls 0 = true
    · obtain ⟨e, he, htables, hcache⟩ := run_msetLoop_stop db hfirst s.kv
      rw [he]
      exact iff_of_true ⟨rfl, htables, hcache⟩ fun _ _ => hfirst
    by_cases hfail : ∃ i, failsAt items (os 3).calls i = true
    -- something fails after the first item: an error, and the first item is in the table
    · obtain ⟨i, hi⟩ := hfail
      obtain ⟨e, he⟩ := run_msetLoop_error db items (os 3).calls s.kv hi
      have hne : items ≠ [] := by
        rintro rfl
        simp [failsAt] at hi
      have hchanged := run_msetLoop_changed db hne (by simpa using hfirst) s.kv
      rw [he]
      refine iff_of_false (fun h => hchanged (congrFun h.2.1 db)) fun h => hfirst (h i hi)
    · have hnone : ∀ i, failsAt items (os 3).calls i = false := fun i =>
        Bool.eq_false_iff.mpr fun hi => hfail ⟨i, hi⟩
      obtain ⟨hok, htimes⟩ := run_msetLoop_ok db items (os 3).calls s.kv hnone
      rw [hok]
      exact iff_of_true ⟨rfl, htimes⟩ fun i hi => absurd ⟨i, hi⟩ hfail

end Entry

/-- An empty key after a good one: the call fails, and the item before is in the table and in the
cache. -/
theorem mset_partial : let s : Node Unit := ⟨fun _ => none, fun _ => false, fun _ => none,
      ⟨fun _ => ∅, fun _ => none, 100⟩, fun _ => ()⟩
    let r := serveWrite {} noSql s ⟨⟨0⟩, 0, .kvMset [⟨"a", "1", none⟩, ⟨"", "2", none⟩]⟩
      fun _ => {}
    r.1 = .error (.invalidRequest "key must not be empty") ∧
      (r.2.kv.tables ⟨0⟩).lookup "a" = some ⟨"1", none, 1⟩ ∧
      r.2.kv.cache ⟨⟨0⟩, "a"⟩ = some ⟨"1", none⟩ := by
  exact ⟨rfl, rfl, rfl⟩

end Combee.DataNode
