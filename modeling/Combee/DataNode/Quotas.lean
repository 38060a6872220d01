import Combee.DataNode.Batch
import Combee.Kv.Effects

/-!
# Quotas — the size limits of the KV writes

Each write entry point makes its own checks and then runs one closure (`serveWrite_eq`). `kv_set`
and `kv_mset` look at the sizes of keys and values; `kv_incr` does not, so it is the only call that
can leave a row beyond the limits (`rows_fit_iff`). `kv_mset` makes the checks of `kv_set` for
every item, but for the one on the size of the file (`mset_item_accepted_iff`).
-/

namespace Combee.DataNode

open Foundation Kv

/-! ## Admission and execution of a call -/

section Admission

variable {U R : Type} {quota : QuotaConfig}
  {engine : SqlCall → Nat → KvTable × U → Result R × (KvTable × U)}
  {s : Node U} {db : DatabaseId} {os : Nat → Outcome}

/-- `storage_bytes`: the length of the main file, without what an empty Cell takes. -/
def storageBytesOf (mainLen : Option Nat) : Nat :=
  mainLen.getD 0 - 32 * 1024

def checkHardLimit (quota : QuotaConfig) (bytes : Nat) (value : String) :
    Result Unit :=
  let projected := min (bytes + value.utf8ByteSize) (2 ^ 64 - 1)
  if 0 < quota.storageHardBytes ∧ quota.storageHardBytes < projected then
    .error (.quotaExceeded
      s!"storage hard limit exceeded: {projected} bytes (max {quota.storageHardBytes})")
  else .ok ()

def WriteOp.closure : WriteOp → Option Closure
  | .kvSet key value ttlSeconds nx xx => some (.set key value ttlSeconds nx xx)
  | .kvDel key => some (.del key)
  | .kvMset items => some (.mset items)
  | .kvExpire key ttlSeconds => some (.expire key ttlSeconds)
  | .kvIncr key delta ttlSeconds => some (.incr key delta ttlSeconds)
  | .executeSql _ => none
  | .executeTransaction _ => none

/-- The checks in front of the closure, in their order. -/
def admission (quota : QuotaConfig) (s : Node U) (db : DatabaseId) (generation : Int)
    (bytes : Nat) : WriteOp → Result Unit
  | .kvSet key value ttlSeconds _ _ => do
    s.checkGeneration db generation
    s.checkWritable db
    checkTtl quota ttlSeconds
    checkKeySize quota key
    checkValueSize quota value
    checkHardLimit quota bytes value
  | .kvMset items => do
    s.checkGeneration db generation
    s.checkWritable db
    items.forM (checkItem quota)
  | .kvExpire _ ttlSeconds => do
    s.checkGeneration db generation
    checkTtl quota ttlSeconds
    s.checkWritable db
  | .kvIncr _ _ ttlSeconds => do
    s.checkGeneration db generation
    checkTtl quota ttlSeconds
    s.checkWritable db
  | _ => do
    s.checkGeneration db generation
    s.checkWritable db

lemma run_checkGeneration (generation : Int) (f : Unit → NodeM R (KvReply ⊕ R)) :
    Prog.run (Node.answer engine db) os s (checkGeneration generation >>= f).run =
      match s.checkGeneration db generation with
      | .ok a => Prog.run (Node.answer engine db) (fun n => os (n + 1)) s (f a).run
      | .error e => (.error e, s) := by
  rw [checkGeneration_bind_run]
  simp only [Prog.run, Node.answer]
  cases s.checkGeneration db generation <;> rfl

lemma run_checkWritable (f : Unit → NodeM R (KvReply ⊕ R)) :
    Prog.run (Node.answer engine db) os s (checkWritable >>= f).run =
      match s.checkWritable db with
      | .ok a => Prog.run (Node.answer engine db) (fun n => os (n + 1)) s (f a).run
      | .error e => (.error e, s) := by
  change Prog.run (Node.answer engine db) _ s (ExceptT.bindCont f (s.checkWritable db)) = _
  cases s.checkWritable db <;> rfl

lemma run_liftM {α : Type} (c : Result α) (f : α → NodeM R (KvReply ⊕ R)) :
    Prog.run (Node.answer engine db) os s ((liftM c : NodeM R α) >>= f).run =
      match c with
      | .ok a => Prog.run (Node.answer engine db) os s (f a).run
      | .error e => (.error e, s) := by
  cases c <;> rfl

lemma run_storageBytes (g : Nat → NodeM R Unit) (f : Unit → NodeM R (KvReply ⊕ R)) :
    Prog.run (Node.answer engine db) os s ((storageBytes >>= g) >>= f).run =
      Prog.run (Node.answer engine db) (fun n => os (n + 1)) s (g (os 0).bytes >>= f).run := rfl

variable (quota engine s db os) in
lemma run_checkStorage (value : String) (f : Unit → NodeM R (KvReply ⊕ R)) :
    ∃ k, Prog.run (Node.answer engine db) os s (checkStorage quota value >>= f).run =
      match checkHardLimit quota (os 0).bytes value with
      | .ok a => Prog.run (Node.answer engine db) (fun n => os (n + k)) s (f a).run
      | .error e => (.error e, s) := by
  unfold checkStorage checkHardLimit
  by_cases hhard : 0 < quota.storageHardBytes
  · by_cases hover : quota.storageHardBytes <
        min ((os 0).bytes + value.utf8ByteSize) (2 ^ 64 - 1)
    · refine ⟨0, ?_⟩
      simp only [hhard, hover, if_true, and_self, run_storageBytes]
      rfl
    · by_cases hsoft : 0 < quota.storageSoftBytes
      · refine ⟨2, ?_⟩
        simp only [hhard, hover, hsoft, if_true, and_false, if_false, run_storageBytes]
        rfl
      · refine ⟨1, ?_⟩
        simp only [hhard, hover, hsoft, if_true, and_false, if_false, run_storageBytes]
        rfl
  · by_cases hsoft : 0 < quota.storageSoftBytes
    · refine ⟨1, ?_⟩
      simp only [hhard, hsoft, if_true, false_and, if_false]
      rfl
    · refine ⟨0, ?_⟩
      simp only [hhard, hsoft, false_and, if_false]
      rfl

variable (quota engine) in
lemma serveWrite_incr (key : String) (delta : Int) (ttlSeconds : Option UInt64) (s : Node U)
    (db : DatabaseId) (generation : Int) (os : Nat → Outcome) :
    serveWrite quota engine s ⟨db, generation, .kvIncr key delta ttlSeconds⟩ os =
      match admission quota s db generation (os 2).bytes (.kvIncr key delta ttlSeconds) with
      | .ok _ => ((runClosure s db (.incr key delta ttlSeconds) (os 3)).1.map .inl,
        (runClosure s db (.incr key delta ttlSeconds) (os 3)).2)
      | .error e => (.error e, s) := by
  simp only [serveWrite, entry, kvIncr, run_checkGeneration, run_checkWritable, run_liftM,
    admission]
  cases s.checkGeneration db generation <;> cases checkTtl quota ttlSeconds <;>
    cases s.checkWritable db <;> rfl

variable (quota engine) in
/-- A KV write is its checks, which change nothing, and then its closure. -/
lemma serveWrite_eq (op : WriteOp) {c : Closure} (hc : op.closure = some c) (s : Node U)
    (db : DatabaseId) (generation : Int) (os : Nat → Outcome) :
    ∃ k, serveWrite quota engine s ⟨db, generation, op⟩ os =
      match admission quota s db generation (os 2).bytes op with
      | .ok _ => ((runClosure s db c (os k)).1.map .inl, (runClosure s db c (os k)).2)
      | .error e => (.error e, s) := by
  cases op with
  | kvSet key value ttlSeconds nx xx =>
    cases hc
    obtain ⟨k, hk⟩ := run_checkStorage quota engine s db (fun n => os (n + 2)) value
      fun _ => withConn (.set key value ttlSeconds nx xx)
    refine ⟨1 + k + 2, ?_⟩
    simp only [serveWrite, entry, kvSet, run_checkGeneration, run_checkWritable, run_liftM, hk,
      admission]
    cases s.checkGeneration db generation <;> cases s.checkWritable db <;>
      cases checkTtl quota ttlSeconds <;> cases checkKeySize quota key <;>
      cases checkValueSize quota value <;> cases checkHardLimit quota (os 2).bytes value <;> rfl
  | kvDel key =>
    cases hc
    refine ⟨3, ?_⟩
    simp only [serveWrite, entry, kvDel, run_checkGeneration, run_checkWritable, admission]
    cases s.checkGeneration db generation <;> cases s.checkWritable db <;> rfl
  | kvMset items =>
    cases hc
    refine ⟨3, ?_⟩
    rw [serveWrite_mset]
    simp only [admission]
    cases s.checkGeneration db generation <;> cases s.checkWritable db <;>
      cases items.forM (checkItem quota) <;> rfl
  | kvExpire key ttlSeconds =>
    cases hc
    refine ⟨3, ?_⟩
    simp only [serveWrite, entry, kvExpire, run_checkGeneration, run_checkWritable, run_liftM,
      admission]
    cases s.checkGeneration db generation <;> cases checkTtl quota ttlSeconds <;>
      cases s.checkWritable db <;> rfl
  | kvIncr key delta ttlSeconds =>
    cases hc
    exact ⟨3, serveWrite_incr ..⟩
  | executeSql | executeTransaction => cases hc

end Admission

/-! ## Rows within the limits -/

/-- A size within a limit; `0` switches the limit off. -/
def Within (limit size : Nat) : Prop := 0 < limit → size ≤ limit

structure RowFits (quota : QuotaConfig) (key value : String) : Prop where
  named : key ≠ ""
  key_within : Within quota.maxKvKeyBytes key.utf8ByteSize
  value_within : Within quota.maxKvValueBytes value.utf8ByteSize

def RowsFit (quota : QuotaConfig) (t : KvTable) : Prop :=
  ∀ key row, t.lookup key = some row → RowFits quota key row.value

section Fits

variable {quota : QuotaConfig}

lemma bind_eq_ok_iff {x y : Result Unit} :
    (x >>= fun _ => y) = .ok () ↔ x = .ok () ∧ y = .ok () := by
  cases x with
  | error e => exact iff_of_false nofun fun h => nomatch h.1
  | ok _ => exact ⟨fun h => ⟨rfl, h⟩, fun h => h.2⟩

lemma forM_eq_ok_iff {α : Type} {xs : List α} {f : α → Result Unit} :
    xs.forM f = .ok () ↔ ∀ x ∈ xs, f x = .ok () := by
  induction xs with
  | nil => exact iff_of_true rfl (by simp)
  | cons x xs ih =>
    change (f x >>= fun _ => xs.forM f) = .ok () ↔ _
    rw [bind_eq_ok_iff, ih]
    simp

lemma limit_eq_ok {limit size : Nat} {e : CombeeError} :
    (if 0 < limit ∧ limit < size then .error e else .ok () : Result Unit) = .ok () ↔
      Within limit size := by
  unfold Within
  split
  · rename_i h
    exact iff_of_false nofun fun hle => absurd (hle h.1) (Nat.not_le_of_lt h.2)
  · rename_i h
    exact iff_of_true rfl fun hpos => Nat.le_of_not_lt fun hlt => h ⟨hpos, hlt⟩

lemma checkSize_eq_ok {what : String} {size limit : Nat} :
    checkSize what size limit = .ok () ↔ Within limit size :=
  limit_eq_ok

lemma checkHardLimit_eq_ok {bytes : Nat} {value : String} :
    checkHardLimit quota bytes value = .ok () ↔
      Within quota.storageHardBytes (min (bytes + value.utf8ByteSize) (2 ^ 64 - 1)) :=
  limit_eq_ok

lemma RowsFit.exec {st : Stmt} {t : KvTable}
    (hst : ∀ key value, st.stores = some (key, value) → RowFits quota key value)
    (h : RowsFit quota t) : RowsFit quota (st.exec t).2 := by
  intro k row hrow
  rcases Stmt.value_exec hrow with hstored | ⟨old, hold, hvalue⟩
  · exact hst k row.value hstored
  · exact hvalue ▸ h k old hold

lemma RowsFit.among {t t' : KvTable} (h : RowsFit quota t) (hamong : Among t' t) :
    RowsFit quota t' :=
  fun k row hrow => h k row (hamong k row hrow)

variable {U : Type} {s : Node U} {db : DatabaseId} {c : Closure} {o : Outcome}

lemma runClosure_inv {I : KvTable → Prop}
    (hc : ∀ st t, c.Executes st → I t → I (st.exec t).2) (hs : I (s.kv.tables db)) :
    I ((runClosure s db c o).2.kv.tables db) := by
  unfold runClosure openConn
  rcases o.openFault with _ | ⟨e, _ | _⟩
  · exact (executes_prog c).run_inv hc o.calls hs
  · exact hs
  · exact hs

lemma runClosure_eq_ok {reply : KvReply} (h : (runClosure s db c o).1 = .ok reply) :
    o.openFault = none ∧ (Prog.run (answer db) o.calls s.kv c.prog.run).1 = .ok reply ∧
      (runClosure s db c o).2.kv = (Prog.run (answer db) o.calls s.kv c.prog.run).2 := by
  cases hopen : o.openFault with
  | some fault => obtain ⟨e, _ | _⟩ := fault <;> simp [runClosure, openConn, hopen] at h
  | none =>
    simp only [runClosure, openConn, hopen] at h ⊢
    exact ⟨trivial, h, trivial⟩

lemma runClosure_incr (s : Node U) (db : DatabaseId) (key : String) (delta : Int)
    (ttlSeconds : Option UInt64) (o : Outcome) :
    IncrLeaves db key delta ttlSeconds (o.calls 0).elapsed s.kv
      (runClosure s db (.incr key delta ttlSeconds) o).1
      (runClosure s db (.incr key delta ttlSeconds) o).2.kv := by
  unfold runClosure openConn
  rcases o.openFault with _ | ⟨e, _ | _⟩
  · exact run_incr_leaves ..
  · exact fun _ _ h => h
  · exact fun _ _ h => h

structure KvCall where
  generation : Int
  op : WriteOp
  os : Nat → Outcome

end Fits

section Calls

variable {U R : Type} (quota : QuotaConfig)
  (engine : SqlCall → Nat → KvTable × U → Result R × (KvTable × U))
  (db : DatabaseId)

/-- One call after another; SQL cannot reach the table of the keys. -/
def kvCall (s : Node U) (l : KvCall) : Option (Node U) :=
  l.op.closure.map fun _ => (serveWrite quota engine s ⟨db, l.generation, l.op⟩ l.os).2

/-- How far the clock has gone when INCR reads it. -/
def KvCall.wait (l : KvCall) : Nat := ((l.os 3).calls 0).elapsed

/-- If the call is an INCR that succeeds, its key is within the limits, and so is the sum of its
`delta` and the value that is live when it reads the clock. -/
def SumFits (s : Node U) (l : KvCall) : Prop :=
  ∀ key delta ttlSeconds n e, l.op = .kvIncr key delta ttlSeconds →
    incrLive ((s.kv.tick l.wait).liveValue ⟨db, key⟩) delta ttlSeconds (s.kv.clock + l.wait) =
      .ok (n, e) →
    (serveWrite quota engine s ⟨db, l.generation, l.op⟩ l.os).1.isOk = true →
    Within quota.maxKvKeyBytes key.utf8ByteSize ∧
      Within quota.maxKvValueBytes (toString n).utf8ByteSize

variable {quota engine db} {s s' : Node U} {l : KvCall}

/-- Whatever passes the checks of a call other than INCR is within the limits. -/
lemma fitting_of_admission {generation : Int} {bytes : Nat} {op : WriteOp} {c : Closure}
    (hc : op.closure = some c) (hincr : ∀ key delta ttlSeconds, op ≠ .kvIncr key delta ttlSeconds)
    (h : admission quota s db generation bytes op = .ok ()) {st : Stmt} (hst : c.Executes st)
    {key value : String} (hstores : st.stores = some (key, value)) : RowFits quota key value := by
  cases op with
  | kvSet key' value' ttlSeconds nx xx =>
    cases hc
    obtain ⟨hne, now, rfl⟩ := hst
    simp only [admission, bind_eq_ok_iff] at h
    obtain ⟨_, _, _, hkey, hvalue, _⟩ := h
    have hkv : (key', value') = (key, value) := by
      cases nx <;> cases xx <;> exact Option.some.inj hstores
    cases hkv
    exact ⟨hne, checkSize_eq_ok.mp hkey, checkSize_eq_ok.mp hvalue⟩
  | kvMset items =>
    cases hc
    obtain ⟨it, hit, hne, now, rfl⟩ := hst
    simp only [admission, bind_eq_ok_iff, forM_eq_ok_iff] at h
    have hitem := h.2.2 it hit
    simp only [checkItem, bind_eq_ok_iff] at hitem
    cases hstores
    exact ⟨hne, checkSize_eq_ok.mp hitem.1, checkSize_eq_ok.mp hitem.2.1⟩
  | kvDel key' =>
    cases hc
    cases hst
    cases hstores
  | kvExpire key' ttlSeconds =>
    cases hc
    obtain ⟨now, rfl⟩ := hst
    cases hstores
  | kvIncr key' delta ttlSeconds => exact absurd rfl (hincr key' delta ttlSeconds)
  | executeSql | executeTransaction => cases hc

lemma rowsFit_incr_iff {key : String} {delta : Int} {ttlSeconds : Option UInt64} {o : Outcome}
    (hs : RowsFit quota (s.kv.tables db)) :
    RowsFit quota ((runClosure s db (.incr key delta ttlSeconds) o).2.kv.tables db) ↔
      ∀ n e, incrLive ((s.kv.tick (o.calls 0).elapsed).liveValue ⟨db, key⟩) delta ttlSeconds
          (s.kv.clock + (o.calls 0).elapsed) = .ok (n, e) →
        (runClosure s db (.incr key delta ttlSeconds) o).1.isOk = true →
        Within quota.maxKvKeyBytes key.utf8ByteSize ∧
          Within quota.maxKvValueBytes (toString n).utf8ByteSize := by
  have hleaves := runClosure_incr s db key delta ttlSeconds o
  generalize runClosure s db (.incr key delta ttlSeconds) o = x at hleaves ⊢
  obtain ⟨r, s'⟩ := x
  cases r with
  | error e => exact iff_of_true (hs.among hleaves) nofun
  | ok reply =>
    cases reply with
    | int n =>
      obtain ⟨hne, e, t, hn, hamong, htable, _⟩ := hleaves
      dsimp only
      rw [htable]
      constructor
      · intro h n' e' hn' _
        cases hn.symm.trans hn'
        obtain ⟨version, hrow⟩ := lookup_exec_set (t := t) (.inl rfl)
          (upsert_exec_pos key (toString n) e t)
        have hfits := h key _ hrow
        exact ⟨hfits.key_within, hfits.value_within⟩
      · intro h
        obtain ⟨hkey, hvalue⟩ := h n e hn rfl
        refine (hs.among hamong).exec fun key' value' hstores => ?_
        cases hstores
        exact ⟨hne, hkey, hvalue⟩
    | _ => exact hleaves.elim

/-- A call keeps the rows within the limits exactly if it is no INCR that goes beyond them. -/
lemma kvCall_rowsFit_iff (hs : RowsFit quota (s.kv.tables db))
    (h : kvCall quota engine db s l = some s') :
    RowsFit quota (s'.kv.tables db) ↔ SumFits quota engine db s l := by
  obtain ⟨generation, op, os⟩ := l
  obtain ⟨c, hc, rfl⟩ := Option.map_eq_some_iff.mp h
  unfold SumFits
  by_cases hincr : ∃ key delta ttlSeconds, op = .kvIncr key delta ttlSeconds
  · obtain ⟨key, delta, ttlSeconds, rfl⟩ := hincr
    rw [serveWrite_incr]
    cases hadm : admission quota s db generation (os 2).bytes (.kvIncr key delta ttlSeconds) with
    | error e => exact iff_of_true hs nofun
    | ok _ =>
      dsimp only
      rw [rowsFit_incr_iff hs]
      cases hrun : (runClosure s db (.incr key delta ttlSeconds) (os 3)).1 with
      | error e => exact iff_of_true nofun nofun
      | ok reply =>
        constructor
        · intro h key' delta' ttlSeconds' n e hop hn _
          cases hop
          exact h n e hn rfl
        · exact fun h n e hn _ => h key delta ttlSeconds n e rfl hn rfl
  · obtain ⟨k, hk⟩ := serveWrite_eq quota engine op hc s db generation os
    refine iff_of_true ?_
      fun key delta ttlSeconds n e hop => absurd ⟨key, delta, ttlSeconds, hop⟩ hincr
    dsimp only at hk ⊢
    rw [hk]
    cases hadm : admission quota s db generation (os 2).bytes op with
    | error e => exact hs
    | ok _ =>
      refine runClosure_inv (fun st t hst ht => ht.exec fun key value hstores => ?_) hs
      refine fitting_of_admission hc ?_ hadm hst hstores
      exact fun key delta ttlSeconds hop => hincr ⟨key, delta, ttlSeconds, hop⟩

/-- The rows are within the limits all along exactly if every INCR that succeeds has a key and a sum
of the live value and its `delta` within them. -/
theorem rows_fit_iff (quota : QuotaConfig)
    (engine : SqlCall → Nat → KvTable × U → Except CombeeError R × (KvTable × U))
    (db : DatabaseId) (s : Node U) (hs : s.kv.tables db = ∅) (ls : List KvCall) :
    (∀ pre s', pre <+: ls → exec (kvCall quota engine db) s pre = some s' →
      RowsFit quota (s'.kv.tables db)) ↔
      Meets (kvCall quota engine db) (SumFits quota engine db) s ls := by
  have hempty : RowsFit quota (s.kv.tables db) := by
    intro key row hrow
    rw [hs] at hrow
    simp at hrow
  refine always_iff_meets (I := fun _ => True) ?_ trivial hempty
  exact fun _ hfits hstep => ⟨trivial, kvCall_rowsFit_iff hfits hstep⟩

def emptyNode : Node Unit :=
  ⟨fun _ => none, fun _ => false, fun _ => none, ⟨fun _ => ∅, fun _ => none, 100⟩, fun _ => ()⟩

def shortValues : QuotaConfig := { maxKvValueBytes := 3 }

def setAndDel : List KvCall :=
  [⟨0, .kvSet "n" "999" none false false, fun _ => {}⟩, ⟨0, .kvDel "m", fun _ => {}⟩]

theorem rows_fit_iff_set : ∃ s, exec (kvCall shortValues noSql ⟨0⟩) emptyNode setAndDel = some s ∧
    RowsFit shortValues (s.kv.tables ⟨0⟩) := by
  refine ⟨_, rfl, (rows_fit_iff shortValues noSql ⟨0⟩ emptyNode rfl setAndDel).mpr ?_ _ _
    List.prefix_rfl rfl⟩
  refine meets_of_forall fun s l hl key delta ttlSeconds n e hop => ?_
  simp only [setAndDel, List.mem_cons, List.not_mem_nil, or_false] at hl
  rcases hl with rfl | rfl <;> cases hop

/-- INCR by 1000 stores a value of four bytes, and one of a key that is too long stores the key. -/
theorem rows_do_not_fit :
    (∃ s, exec (kvCall shortValues noSql ⟨0⟩) emptyNode
        [⟨0, .kvIncr "n" 1000 none, fun _ => {}⟩] = some s ∧
      (s.kv.tables ⟨0⟩).lookup "n" = some ⟨"1000", none, 1⟩ ∧
      ¬ RowsFit shortValues (s.kv.tables ⟨0⟩)) ∧
    ∃ s, exec (kvCall { maxKvKeyBytes := 3 } noSql ⟨0⟩) emptyNode
        [⟨0, .kvIncr "hits" 1 none, fun _ => {}⟩] = some s ∧
      (s.kv.tables ⟨0⟩).lookup "hits" = some ⟨"1", none, 1⟩ ∧
      ¬ RowsFit { maxKvKeyBytes := 3 } (s.kv.tables ⟨0⟩) := by
  refine ⟨⟨_, rfl, rfl, fun h => ?_⟩, _, rfl, rfl, fun h => ?_⟩
  · exact absurd ((h "n" _ rfl).value_within (by decide)) (by decide)
  · exact absurd ((h "hits" _ rfl).key_within (by decide)) (by decide)

end Calls

/-! ## MSET against SET -/

section Batches

variable {U R : Type} {quota : QuotaConfig}
  {engine : SqlCall → Nat → KvTable × U → Result R × (KvTable × U)}
  {s : Node U} {db : DatabaseId} {generation : Int} {items : List KvSetItem}

def beforeItem (s : Node U) (db : DatabaseId) (calls : Nat → Outside) (items : List KvSetItem)
    (i : Nat) : Node U :=
  { s with kv := (Prog.run (answer db) calls s.kv (msetLoop (items.take i)).run).2 }

lemma accepted_of_mset {os : Nat → Outcome} {reply : KvReply ⊕ R}
    (h : (serveWrite quota engine s ⟨db, generation, .kvMset items⟩ os).1 = .ok reply) :
    s.checkGeneration db generation = .ok () ∧ s.checkWritable db = .ok () ∧
      ∀ it ∈ items, checkItem quota it = .ok () ∧ it.key ≠ "" := by
  obtain ⟨k, hk⟩ := serveWrite_eq quota engine (.kvMset items) rfl s db generation os
  rw [hk] at h
  cases hadm : admission quota s db generation (os 2).bytes (.kvMset items) with
  | error e =>
    rw [hadm] at h
    cases h
  | ok _ =>
    rw [hadm] at h
    have hadm : admission quota s db generation (os 2).bytes (.kvMset items) = .ok () := hadm
    simp only [admission, bind_eq_ok_iff, forM_eq_ok_iff] at hadm
    refine ⟨hadm.1, hadm.2.1, fun it hit => ⟨hadm.2.2 it hit, fun hempty => ?_⟩⟩
    -- the batch would have stopped at the item
    obtain ⟨i, hi⟩ := List.getElem?_of_mem hit
    obtain ⟨e, he⟩ := run_msetLoop_error db items (os k).calls s.kv (i := i)
      (by simp [failsAt, hi, hempty])
    cases hrun : (runClosure s db (.mset items) (os k)).1 with
    | error e => simp [hrun, Except.map] at h
    | ok r =>
      rw [runClosure_mset s db items (runClosure_eq_ok hrun).1, he] at hrun
      cases hrun

/-- The checks of SET on an item of a batch that has passed its own: only the size of the file is
left. -/
lemma admission_item {it : KvSetItem} {bytes : Nat} {nx xx : Bool}
    (hgen : s.checkGeneration db generation = .ok ()) (hwritable : s.checkWritable db = .ok ())
    (hit : checkItem quota it = .ok ()) :
    admission quota s db generation bytes (.kvSet it.key it.value it.ttlSeconds nx xx) =
      checkHardLimit quota bytes it.value := by
  simp only [checkItem, bind_eq_ok_iff] at hit
  obtain ⟨hkey, hvalue, httl⟩ := hit
  simp only [admission, hgen, hwritable, hkey, hvalue, httl]
  rfl

lemma runClosure_set {key value : String} {ttlSeconds : Option UInt64} {o : Outcome}
    (hkey : key ≠ "") (hopen : o.openFault = none) (hcalls : ∀ n, (o.calls n).fault = none) :
    (runClosure s db (.set key value ttlSeconds false false) o).1 = .ok (.flag true) := by
  have hleaves : SetLeaves (∃ n, (o.calls n).fault ≠ none) db key value ttlSeconds false false
      s.kv (runClosure s db (.set key value ttlSeconds false false) o).1
      (runClosure s db (.set key value ttlSeconds false false) o).2.kv := by
    simp only [runClosure, openConn, hopen]
    exact alone_set_leaves.run
  generalize (runClosure s db (.set key value ttlSeconds false false) o).1 = reply at hleaves ⊢
  rcases reply with e | r
  · rcases hleaves with hempty | ⟨n, hn⟩
    · exact absurd hempty hkey
    · exact absurd (hcalls n) hn
  · cases r with
    | flag written =>
      cases written with
      | true => rfl
      | false => cases hleaves
    | _ => exact hleaves.elim

/-- An accepted item would be accepted as a SET at its turn exactly if there is room for it in the
storage. -/
theorem mset_item_accepted_iff (quota : QuotaConfig)
    (engine : SqlCall → Nat → KvTable × U → Except CombeeError R × (KvTable × U)) (s : Node U)
    (db : DatabaseId) (generation : Int) (items : List KvSetItem) (os : Nat → Outcome)
    (reply : KvReply ⊕ R)
    (h : (serveWrite quota engine s ⟨db, generation, .kvMset items⟩ os).1 = .ok reply)
    (i : Nat) (it : KvSetItem) (hit : items[i]? = some it) (mainLen : Option Nat) (o : Outcome)
    (hbytes : o.bytes = storageBytesOf mainLen) (hopen : o.openFault = none)
    (hcalls : ∀ n, (o.calls n).fault = none) :
    (serveWrite quota engine (beforeItem s db (os 3).calls items i)
        ⟨db, generation, .kvSet it.key it.value it.ttlSeconds false false⟩ fun _ => o).1 =
        .ok (.inl (.flag true)) ↔
      Within quota.storageHardBytes
        (min (storageBytesOf mainLen + it.value.utf8ByteSize) (2 ^ 64 - 1)) := by
  obtain ⟨hgen, hwritable, hitems⟩ := accepted_of_mset h
  obtain ⟨hcheck, hkey⟩ := hitems it (List.mem_of_getElem? hit)
  obtain ⟨_, hserve⟩ := serveWrite_eq quota engine
    (.kvSet it.key it.value it.ttlSeconds false false) rfl
    (beforeItem s db (os 3).calls items i) db generation fun _ => o
  rw [hserve, admission_item (s := beforeItem s db (os 3).calls items i) hgen hwritable hcheck]
  rw [hbytes, ← checkHardLimit_eq_ok]
  cases checkHardLimit quota (storageBytesOf mainLen) it.value with
  | error e => exact iff_of_false nofun nofun
  | ok _ =>
    refine iff_of_true ?_ rfl
    dsimp only
    rw [runClosure_set hkey hopen hcalls]
    rfl

def smallStorage : QuotaConfig := { storageHardBytes := 100 }

def twoItems : List KvSetItem := [⟨"a", "1", none⟩, ⟨"b", "2", none⟩]

theorem mset_item_accepted_iff_room :
    (serveWrite smallStorage noSql (beforeItem emptyNode ⟨0⟩ (fun _ => {}) twoItems 1)
      ⟨⟨0⟩, 0, .kvSet "b" "2" none false false⟩
      fun _ => { bytes := storageBytesOf (some 32800) }).1 = .ok (.inl (.flag true)) :=
  (mset_item_accepted_iff smallStorage noSql emptyNode ⟨0⟩ 0 twoItems (fun _ => {}) (.inl .unit)
    rfl 1 ⟨"b", "2", none⟩ rfl (some 32800) { bytes := storageBytesOf (some 32800) } rfl rfl
    fun _ => rfl).mpr (by unfold Within; decide)

/-- The file has one page beyond the empty Cell: the batch is accepted, a SET of its first item is
not. -/
theorem mset_item_rejected :
    (serveWrite smallStorage noSql emptyNode ⟨⟨0⟩, 0, .kvMset twoItems⟩
      fun _ => { bytes := storageBytesOf (some 36864) }).1 = .ok (.inl .unit) ∧
    (serveWrite smallStorage noSql (beforeItem emptyNode ⟨0⟩ (fun _ => {}) twoItems 0)
      ⟨⟨0⟩, 0, .kvSet "a" "1" none false false⟩
      fun _ => { bytes := storageBytesOf (some 36864) }).1 =
      .error (.quotaExceeded "storage hard limit exceeded: 4097 bytes (max 100)") := by
  refine ⟨rfl, ?_⟩
  decide

end Batches

end Combee.DataNode
