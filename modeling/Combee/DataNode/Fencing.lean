import Combee.DataNode.Writes

/-!
# Fencing — what `fence_cell` stops and what it does not

The write entry points of one data node, interleaved with `fence_cell`. The generation is checked
once, at the start of an entry point; the fence only changes the table that this check reads. So a
fence stops every request that has not made its check yet, and none that has.
-/

namespace Combee.DataNode

open Foundation Kv

/-! ## The machine -/

structure Outcome where
  /-- The size of the Cell's files. -/
  bytes : Nat := 0
  /-- `with_conn` cannot open the database; the flag says that `storage::open` itself failed. -/
  openFault : Option (CombeeError × Bool) := none
  /-- The answers to the calls of a KV closure. -/
  calls : Nat → Outside := fun _ => {}
  /-- The choice of the SQL engine. -/
  sql : Nat := 0
  /-- The SQL timeout fires. -/
  timeout : Bool := false

/-- A write request under way; after a SQL timeout its closure still runs to its end. -/
inductive Task (R : Type) where
  | arrived (r : WriteRequest)
  | running (r : WriteRequest) (p : Prog NodeOp (NodeOp.Res R) (Result (KvReply ⊕ R)))
  | detached (r : WriteRequest) (q : SqlCall)
  | finished (r : WriteRequest) (res : Result (KvReply ⊕ R))

namespace Task

variable {R : Type}

def request : Task R → WriteRequest
  | arrived r => r
  | running r _ => r
  | detached r _ => r
  | finished r _ => r

def InFlight : Task R → Prop
  | arrived _ => False
  | running _ (.call _ _) => True
  | running _ (.ret _) => False
  | detached _ _ => True
  | finished _ _ => False

end Task

section Machine

variable {U R : Type} (quota : QuotaConfig)
  (engine : SqlCall → Nat → KvTable × U → Result R × (KvTable × U))
  (sqlTimeout : Option String)

/-- The part of `with_conn` before the closure: opening the database may fail. -/
def openConn (s : Node U) (db : DatabaseId) (o : Outcome) : Result Unit × Node U :=
  match o.openFault with
  -- a database that does not open is protected from writes from then on
  | some (e, true) => (.error e, { s with readonly := Function.update s.readonly db true })
  | some (e, false) => (.error e, s)
  | none => (.ok (), s)

def runClosure (s : Node U) (db : DatabaseId) (c : Closure) (o : Outcome) :
    Result KvReply × Node U :=
  match openConn s db o with
  | (.error e, s) => (.error e, s)
  | (.ok (), s) =>
    let r := Prog.run (answer db) o.calls s.kv c.prog.run
    (r.1, { s with kv := r.2 })

def runSql (s : Node U) (db : DatabaseId) (q : SqlCall) (o : Outcome) :
    Result R × Node U :=
  match openConn s db o with
  | (.error e, s) => (.error e, s)
  | (.ok (), s) =>
    let r := engine q o.sql (s.kv.tables db, s.user db)
    (r.1, { s with
      kv := s.kv.setTable db r.2.1
      user := Function.update s.user db r.2.2 })

def timeoutError (after : String) : CombeeError :=
  .sql s!"query timed out after {after} (interrupted)"

/-- One step of a program: the call it is at, unless it waits for the lock in vain. -/
def advance (s : Node U) (i : Nat) (r : WriteRequest)
    (p : Prog NodeOp (NodeOp.Res R) (Result (KvReply ⊕ R))) (o : Outcome) :
    Option (Node U × Task R) :=
  match p with
  | .ret res => some (s, .finished r res)
  | .call (.checkGeneration generation) k =>
    some (s, .running r (k (s.checkGeneration r.db generation)))
  | .call .checkWritable k => some (s, .running r (k (s.checkWritable r.db)))
  | .call .storageBytes k => some (s, .running r (k o.bytes))
  | .call .acquireLock k =>
    -- a task that finds the lock taken is not enabled
    if s.locks r.db = none then some (s.setLock r.db (some i), .running r (k ())) else none
  | .call (.runClosure c) k =>
    let res := runClosure s r.db c o
    some (res.2.setLock r.db none, .running r (k res.1))
  | .call (.runSql q) k =>
    let res := runSql engine s r.db q o
    some (res.2.setLock r.db none, .running r (k res.1))

/-- The SQL timeout gives the lock back; a closure that is already on its way goes on. -/
def expire (s : Node U) (r : WriteRequest) (after : String)
    (p : Prog NodeOp (NodeOp.Res R) (Result (KvReply ⊕ R))) :
    Option (Node U × Task R) :=
  match r.op, p with
  | .executeSql _, .call .acquireLock _ => some (s, .finished r (.error (timeoutError after)))
  | .executeTransaction _, .call .acquireLock _ =>
    some (s, .finished r (.error (timeoutError after)))
  | _, .call (.runSql q) _ => some (s.setLock r.db none, .detached r q)
  | _, _ => none

def act (s : Node U) (i : Nat) (t : Task R) (o : Outcome) : Option (Node U × Task R) :=
  match t with
  | .arrived r => advance engine s i r (entry quota r).run o
  | .running r p =>
    match sqlTimeout with
    | some after => if o.timeout then expire s r after p else advance engine s i r p o
    | none => advance engine s i r p o
  | .detached r q =>
    some ((runSql engine s r.db q o).2, .finished r (.error (timeoutError (sqlTimeout.getD ""))))
  | .finished _ _ => none

structure Fence where
  db : DatabaseId
  generation : Int
  deriving DecidableEq, Repr

/-- The write requests of one data node, interleaved with `fence_cell`. -/
def step (s : Pool (Node U) Nat (Task R)) (l : PoolLabel Nat Outcome Fence) :
    Option (Pool (Node U) Nat (Task R)) :=
  Pool.step (act quota engine sqlTimeout) (fun s f => some (s.fenceCell f.db f.generation))
    (fun _ t => t) s l

/-! ## What one step can do -/

variable {quota engine sqlTimeout}

lemma openConn_generations (s : Node U) (db : DatabaseId) (o : Outcome) :
    (openConn s db o).2.generations = s.generations := by
  unfold openConn
  split <;> rfl

lemma runClosure_generations (s : Node U) (db : DatabaseId) (c : Closure) (o : Outcome) :
    (runClosure s db c o).2.generations = s.generations := by
  have h := openConn_generations s db o
  unfold runClosure
  split <;> simp_all

lemma runSql_generations (s : Node U) (db : DatabaseId) (q : SqlCall) (o : Outcome) :
    (runSql engine s db q o).2.generations = s.generations := by
  have h := openConn_generations s db o
  unfold runSql
  split <;> simp_all

variable {s s' : Node U} {i : Nat} {r : WriteRequest} {o : Outcome} {t' : Task R}
  {p : Prog NodeOp (NodeOp.Res R) (Result (KvReply ⊕ R))}

/-- No step of a program touches the fence table, and it stays the program of its request. -/
lemma advance_frame (h : advance engine s i r p o = some (s', t')) :
    s'.generations = s.generations ∧ t'.request = r := by
  unfold advance at h
  split at h
  case h_5 =>
    split at h <;> cases h
    exact ⟨rfl, rfl⟩
  case h_6 =>
    cases h
    exact ⟨runClosure_generations _ _ _ _, rfl⟩
  case h_7 =>
    cases h
    exact ⟨runSql_generations _ _ _ _, rfl⟩
  all_goals
    cases h
    exact ⟨rfl, rfl⟩

lemma expire_frame {after : String}
    (h : expire s r after p = some (s', t')) : s'.generations = s.generations ∧ t'.request = r := by
  unfold expire at h
  split at h <;> cases h <;> exact ⟨rfl, rfl⟩

/-- The first step of a request is its generation check, which changes nothing. -/
lemma advance_entry (h : advance engine s i r (entry quota r).run o = some (s', t')) :
    s' = s ∧ (t'.InFlight → r.generation = (s.generations r.db).getD 0) := by
  obtain ⟨rest, hrest⟩ := entry_eq_bind (R := R) quota r
  rw [hrest, checkGeneration_bind_run] at h
  simp only [advance] at h
  cases h
  refine ⟨rfl, fun hfl => ?_⟩
  by_contra hne
  simp [Node.checkGeneration, hne, Task.InFlight] at hfl

/-- The fence table and the request stay; a request gets past its check only with the generation of
the table, and only past it changes anything. -/
lemma act_spec {t : Task R} (h : act quota engine sqlTimeout s i t o = some (s', t')) :
    s'.generations = s.generations ∧ t'.request = t.request ∧
    (t'.InFlight → t.InFlight ∨
      t.request.generation = (s.generations t.request.db).getD 0) ∧
    (¬ t.InFlight → s' = s) := by
  cases t with
  | arrived r =>
    obtain ⟨rfl, hgen⟩ := advance_entry h
    exact ⟨rfl, (advance_frame h).2, fun hfl => .inr (hgen hfl), fun _ => rfl⟩
  | running r p =>
    have hframe : s'.generations = s.generations ∧ t'.request = r := by
      simp only [act] at h
      split at h
      · split at h
        · exact expire_frame h
        · exact advance_frame h
      · exact advance_frame h
    -- a program that is at a call was in flight before, whatever the call does
    refine ⟨hframe.1, hframe.2, ?_⟩
    cases p with
    | call op k => exact ⟨fun _ => .inl trivial, fun hn => absurd trivial hn⟩
    | ret res =>
      -- the program has returned: all that is left is to report the result
      have hres : s' = s ∧ t' = .finished r res := by
        simp only [act] at h
        split at h
        · split at h
          · simp only [expire] at h
            split at h <;> simp_all
          · simp_all [advance]
        · simp_all [advance]
      obtain ⟨rfl, rfl⟩ := hres
      exact ⟨fun hfl => hfl.elim, fun _ => rfl⟩
  | detached r q =>
    cases h
    exact ⟨runSql_generations _ _ _ _, rfl, fun hfl => hfl.elim, fun hn => absurd trivial hn⟩
  | finished r res => cases h

/-! ## A request works on its own Cell -/

variable {db db' : DatabaseId}

/-- A KV closure that runs for one Cell leaves the table and the cache entries of another alone. -/
lemma run_answer_of_ne {α : Type} (hne : db' ≠ db) (os : Nat → Outside)
    (kv : KvState) (p : Prog KvOp KvOp.Res α) :
    (Prog.run (answer db) os kv p).2.tables db' = kv.tables db' ∧
    ∀ key, (Prog.run (answer db) os kv p).2.cache ⟨db', key⟩ = kv.cache ⟨db', key⟩ := by
  refine Prog.run_rel (R := fun s s' => s'.tables db' = s.tables db' ∧
    ∀ key, s'.cache ⟨db', key⟩ = s.cache ⟨db', key⟩) (fun _ => ⟨rfl, fun _ => rfl⟩) ?_ ?_ os kv p
  · rintro s t u ⟨ht, hc⟩ ⟨ht', hc'⟩
    exact ⟨ht'.trans ht, fun key => (hc' key).trans (hc key)⟩
  · intro s op o
    cases op with
    | now => exact ⟨rfl, fun _ => rfl⟩
    | readRow key => cases ho : o.fault <;> simp [answer, ho, KvState.tick]
    | execute st =>
      cases ho : o.fault <;> simp [answer, ho, KvState.tick, KvState.setTable, hne]
    | put | invalidate => simp [answer, KvState.tick, KvState.setEntry, hne]

lemma openConn_cell (s : Node U) (db db' : DatabaseId) (o : Outcome) :
    (openConn s db o).2.cell db' = s.cell db' := by
  unfold openConn
  split <;> rfl

lemma runClosure_cell_of_ne (hne : db' ≠ db) (c : Closure)
    (o : Outcome) : (runClosure s db c o).2.cell db' = s.cell db' := by
  have hopen := openConn_cell s db db' o
  unfold runClosure
  split
  · simp_all
  · rename_i s₁ hs1
    rw [hs1] at hopen
    obtain ⟨htable, hcache⟩ := run_answer_of_ne hne o.calls s₁.kv c.prog.run
    rw [← hopen]
    simp only [Node.cell, htable, hcache]

lemma runSql_cell_of_ne (hne : db' ≠ db) (q : SqlCall)
    (o : Outcome) : (runSql engine s db q o).2.cell db' = s.cell db' := by
  have hopen := openConn_cell s db db' o
  unfold runSql
  split
  · simp_all
  · rename_i s₁ hs1
    rw [hs1] at hopen
    rw [← hopen]
    simp [Node.cell, KvState.setTable, hne]

lemma act_cell_of_ne {t : Task R} (hne : db ≠ t.request.db)
    (h : act quota engine sqlTimeout s i t o = some (s', t')) : s'.cell db = s.cell db := by
  have hadvance : ∀ {r p}, t.request = r → advance engine s i r p o = some (s', t') →
      s'.cell db = s.cell db := by
    rintro r p rfl h
    unfold advance at h
    split at h
    case h_5 => split at h <;> cases h; rfl
    case h_6 => cases h; exact runClosure_cell_of_ne hne _ _
    case h_7 => cases h; exact runSql_cell_of_ne hne _ _
    all_goals cases h; rfl
  cases t with
  | arrived r => exact hadvance rfl h
  | running r p =>
    simp only [act] at h
    split at h
    · split at h
      · unfold expire at h
        split at h <;> cases h <;> rfl
      · exact hadvance rfl h
    · exact hadvance rfl h
  | detached r q =>
    cases h
    exact runSql_cell_of_ne hne _ _
  | finished r res => cases h

/-! ## Admission -/

variable {s s' : Pool (Node U) Nat (Task R)} {ls : List (PoolLabel Nat Outcome Fence)}

lemma request_of_exec (i : Nat) (h : exec (step quota engine sqlTimeout) s ls = some s') :
    (s'.procs i).request = (s.procs i).request := by
  change exec (Pool.step (act quota engine sqlTimeout)
    (fun s f => some (s.fenceCell f.db f.generation)) fun _ t => t) s ls = some s' at h
  refine Pool.proc_of_exec (K := fun _ (t : Task R) => t.request = (s.procs i).request) ?_ ?_ ?_
    rfl h
  · intro g t o g' t' ht hact
    rw [← ht, ← (act_spec hact).2.1]
  · exact fun ht _ => ht
  · exact fun ht _ => ht

variable {l : PoolLabel Nat Outcome Fence}

/-- A step that takes a request past its check finds the request's generation in the fence table. -/
lemma admitted_of_step (hnot : ¬ (s.procs i).InFlight) (hin : (s'.procs i).InFlight)
    (h : step quota engine sqlTimeout s l = some s') :
    s.shared.checkGeneration (s.procs i).request.db (s.procs i).request.generation = .ok () := by
  cases h using Pool.step_cases with
  | proc j o s₁ t1 hact =>
    by_cases hij : i = j
    · subst hij
      simp only [Function.update_self] at hin
      have hgen := ((act_spec hact).2.2.1 hin).resolve_left hnot
      simp [Node.checkGeneration, hgen]
    · simp only [Function.update_of_ne hij] at hin
      exact absurd hin hnot
  | env f s₁ _ =>
    exact absurd hin hnot

/-- Whatever changes a Cell is a request on it that has passed `check_generation`. -/
lemma change_was_admitted {s0 s s' : Pool (Node U) Nat (Task R)} (h0 : ¬ (s0.procs i).InFlight)
    (hrun : exec (step quota engine sqlTimeout) s0 ls = some s)
    (hstep : step quota engine sqlTimeout s (.proc i o) = some s')
    (hchange : s'.shared.cell db ≠ s.shared.cell db) :
    (s.procs i).request.db = db ∧ ∃ pre post u, ls = pre ++ post ∧
      exec (step quota engine sqlTimeout) s0 pre = some u ∧
      u.shared.checkGeneration db (s.procs i).request.generation = .ok () := by
  obtain ⟨s₁, t1, hact, rfl⟩ := Pool.step_proc_eq_some.mp hstep
  have hdb : (s.procs i).request.db = db := by
    by_contra hne
    exact hchange (act_cell_of_ne (Ne.symm hne) hact)
  have hin : (s.procs i).InFlight := by
    by_contra hnot
    exact hchange (by rw [(act_spec hact).2.2.2 hnot])
  -- the step that took the request past its check
  obtain ⟨pre, l, post, u, u', rfl, hpre, hl, hpost, hnot, hin'⟩ :=
    exists_step_of_exec (P := fun t => (t.procs i).InFlight) h0 hin hrun
  have hreq : (s.procs i).request = (u.procs i).request :=
    request_of_exec i (exec_cons hl hpost)
  have hok := admitted_of_step hnot hin' hl
  rw [← hreq, hdb] at hok
  exact ⟨hdb, pre, l :: post, u, rfl, hpre, hok⟩

/-! ## The fence -/

/-- The fence of the Cell stands, and every request on it that is past its check carries its
generation. -/
def Fenced (db : DatabaseId) (g : Int) : Pool (Node U) Nat (Task R) → Prop :=
  Pool.Inv (fun s => s.generations db = some g)
    (fun _ _ t => t.InFlight → t.request.db = db → t.request.generation = g)

def NotFence (db : DatabaseId) : PoolLabel Nat Outcome Fence → Prop
  | .env f => f.db ≠ db
  | .proc _ _ => True

lemma step_fenced {g : Int}
    (hs : Fenced db g s) (hl : NotFence db l) (h : step quota engine sqlTimeout s l = some s') :
    Fenced db g s' := by
  refine Pool.step_inv ?_ ?_ ?_ hs h
  · rintro i o s₁ t1 rfl hact
    obtain ⟨hgen, hreq, hfl, _⟩ := act_spec hact
    refine ⟨hgen ▸ hs.shared, fun hin hdb => ?_⟩
    rw [hreq] at hdb ⊢
    rcases hfl hin with hin' | hcur
    · exact hs.procs i hin' hdb
    -- it has just passed its check, and the table has had `g` all along
    · rw [hcur, hdb, hs.shared]
      rfl
  · rintro i o s₁ t1 rfl _ j _ hj
    exact hj
  · rintro f s₁ rfl henv
    cases henv
    exact ⟨(Function.update_of_ne (Ne.symm hl) _ _).trans hs.shared, fun _ hj => hj⟩

/-- Once `fence_cell(db, g)` is set with no other request past its check, only requests with `g`
change the Cell until the next fence. -/
theorem fence_effective_of_drained {s₁ s₂ s₃ s₄ : Pool (Node U) Nat (Task R)} {db : DatabaseId}
    {g : Int} {ls : List (PoolLabel Nat Outcome Fence)} {i : Nat} {o : Outcome}
    (hdrained : ∀ j, (s₁.procs j).InFlight → (s₁.procs j).request.db = db →
      (s₁.procs j).request.generation = g)
    (hfence : step quota engine sqlTimeout s₁ (.env ⟨db, g⟩) = some s₂)
    (hrun : exec (step quota engine sqlTimeout) s₂ ls = some s₃)
    (hnone : ∀ l ∈ ls, NotFence db l)
    (hstep : step quota engine sqlTimeout s₃ (.proc i o) = some s₄)
    (hother : (s₃.procs i).request.db = db → (s₃.procs i).request.generation ≠ g) :
    s₄.shared.cell db = s₃.shared.cell db := by
  have h₂ : Fenced db g s₂ := by
    obtain ⟨s, hs, rfl⟩ := Pool.step_env_eq_some.mp hfence
    cases hs
    exact ⟨by simp [Node.fenceCell], hdrained⟩
  have h₃ : Fenced db g s₃ :=
    inv_of_exec (fun hs hl h => step_fenced hs hl h) h₂ (meets_of_forall fun _ => hnone) hrun
  obtain ⟨s, t, hact, rfl⟩ := Pool.step_proc_eq_some.mp hstep
  by_cases hdb : (s₃.procs i).request.db = db
  -- a request on the Cell with another generation is not past its check
  · have hnot : ¬ (s₃.procs i).InFlight := fun hfl => hother hdb (h₃.procs i hfl hdb)
    rw [(act_spec hact).2.2.2 hnot]
  · exact act_cell_of_ne (Ne.symm hdb) hact

end Machine

/-! ## A request that is past its check -/

/-- An engine that does nothing, for runs without SQL. -/
def noSql (_ : SqlCall) (_ : Nat) (d : KvTable × Unit) :
    Result Unit × (KvTable × Unit) :=
  (.ok (), d)

/-- An empty, unfenced node to which `SET k v` arrives with generation 0. -/
def unfenced : Pool (Node Unit) Nat (Task Unit) where
  shared := ⟨fun _ => none, fun _ => false, fun _ => none, ⟨fun _ => ∅, fun _ => none, 100⟩,
    fun _ => ()⟩
  procs := fun _ => .arrived ⟨⟨0⟩, 0, .kvSet "k" "v" none false false⟩

/-- A request that arrives after the fence is rejected and changes nothing. -/
theorem fence_rejects_arrived :
    ∃ s₂ s₃ s₄, step {} noSql none unfenced (.env ⟨⟨0⟩, 1⟩) = some s₂ ∧
      exec (step {} noSql none) s₂ [.proc 0 {}] = some s₃ ∧
      step {} noSql none s₃ (.proc 0 {}) = some s₄ ∧
      s₄.shared.cell ⟨0⟩ = s₃.shared.cell ⟨0⟩ := by
  have hdrained : ∀ j, (unfenced.procs j).InFlight → (unfenced.procs j).request.db = ⟨0⟩ →
      (unfenced.procs j).request.generation = 1 := fun _ h => h.elim
  refine ⟨_, _, _, rfl, rfl, rfl, ?_⟩
  refine fence_effective_of_drained hdrained
    (rfl : step {} noSql none unfenced (.env ⟨⟨0⟩, 1⟩) = some _)
    (rfl : exec (step {} noSql none) _ [.proc 0 {}] = some _) (by simp [NotFence])
    (rfl : step {} noSql none _ (.proc 0 {}) = some _) (fun _ => ?_)
  decide

/-- A request that made its check before the fence writes after it, with the old generation. -/
theorem fence_misses_in_flight :
    ∃ s₁ s₂ s₃ s₄, step {} noSql none unfenced (.proc 0 {}) = some s₁ ∧
      step {} noSql none s₁ (.env ⟨⟨0⟩, 1⟩) = some s₂ ∧
      exec (step {} noSql none) s₂ [.proc 0 {}, .proc 0 {}] = some s₃ ∧
      step {} noSql none s₃ (.proc 0 {}) = some s₄ ∧
      (s₃.procs 0).request.generation = 0 ∧
      (s₃.shared.cell ⟨0⟩).table.lookup "k" = none ∧
      (s₄.shared.cell ⟨0⟩).table.lookup "k" = some ⟨"v", none, 1⟩ :=
  ⟨_, _, _, _, rfl, rfl, rfl, rfl, rfl, rfl, rfl⟩

end Combee.DataNode
