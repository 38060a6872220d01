import Combee.DataNode.InService

/-!
# Window — when nothing gets between a reset or restore and the files

`reset_database` and `restore` close the connection under the lock and then work on the files
without it. In the window from the close to the last file operation a request that runs its closure
opens the old files again; and a request that has looked at the old data before may be answered
after the job has returned. `Undisturbed` says that neither happens. Within the window nothing
moves but the job, except that cache entries go (`Frozen`).
-/

namespace Combee.DataNode.OneCell

open Foundation Kv Storage

section

variable {U R : Type} [Inhabited U] {quota : QuotaConfig}
  {engine : SqlCall → Nat → U → Result R × U} {db : DatabaseId}

/-! ## The condition on a run -/

namespace Task

/-- The job has closed the connection and has a file operation ahead. -/
def window : Task R → Bool
  | reset .clear => true
  | reset (.invalidate _) => true
  | reset .removeMain => true
  | reset .removeWal => true
  | restore .listIncr => true
  | restore .listFull => true
  | restore (.getMain _ _) => true
  | restore (.renameMain _ _) => true
  | restore (.getWal _ _) => true
  | restore (.renameWal _ _) => true
  | restore (.dropWal _) => true
  | _ => false

/-- The next step of the job is its last file operation, or its return. -/
def closing : Task R → Bool
  | reset .removeWal => true
  | restore (.renameWal _ _) => true
  | restore (.dropWal _) => true
  | restore (.invalidate _ _) => true
  | _ => false

def isOver : Task R → Bool
  | reset .returned => true
  | reset (.failed _) => true
  | restore (.done _) => true
  | restore (.failed _) => true
  | _ => false

end Task

/-- A step that does not get between the job `i` and the Cell. -/
structure Undisturbed (i : Nat) (s : Pool CellNode Nat (Task R))
    (l : PoolLabel Nat Choice Event) : Prop where
  sameSecond : SameSecond s l
  /-- No request calls `with_conn` in the window. -/
  window : ∀ j o, l = .proc j o → (s.procs i).window = true → (s.procs j).opens = false
  /-- No request has looked at the data and is unanswered when the window ends and when the job
  returns. -/
  drained : ∀ o, l = .proc i o → (s.procs i).closing = true → ∀ j, (s.procs j).caught = false
  /-- The removal of the old WAL, whose error is ignored, leaves nothing behind. -/
  dropped : ∀ o main, l = .proc i o → s.procs i = .restore (.dropWal main) →
    o.fault = none ∨ s.shared.disk.walFile = []

/-- A Cell before the job `i` starts: no closure is running and the requests have just arrived. -/
structure Fresh (i : Nat) (job : Task R) (s : Pool CellNode Nat (Task R)) : Prop where
  stale : s.shared.stale = none
  log : s.shared.log = []
  job : s.procs i = job
  arrived : ∀ j, j ≠ i → ∃ r, s.procs j = .arrived r

/-! ## Steps within the window -/

/-- Nothing changes but that time passes and cache entries go. -/
structure Frozen (s s' : CellNode) : Prop where
  disk : s'.disk = s.disk
  holder : s'.holder = s.holder
  cache : ∀ key v, s'.cache key = some v → s.cache key = some v

lemma Frozen.refl (s : CellNode) : Frozen s s :=
  ⟨rfl, rfl, fun _ _ h => h⟩

variable {i : Nat} {t t' : Task R} {o : Choice} {s s' : CellNode}

lemma act_frozen (hreq : t.isRequest = true) (hrun : t.isRunning = false)
    (hopens : t.opens = false) (h : act quota engine db s i t o = some (s', t')) : Frozen s s' := by
  unfold act at h
  split at h
  case h_3 =>
    cases h
    exact ⟨rfl, rfl, (Calm.callCache s _ _).cache⟩
  case h_6 => cases hopens
  case h_11 => cases hopens
  case h_12 => cases hopens
  case h_14 => cases hrun
  case h_15 => cases hrun
  case h_16 => cases h
  case h_17 => cases hreq
  case h_18 => cases hreq
  all_goals
    cases h
    exact .refl s

lemma env_frozen {e : Event} (hconn : s.disk.conn = none)
    (h : env engine s e = some s') : Frozen s s' := by
  cases e with
  | tick | fence =>
    cases h
    exact ⟨rfl, rfl, fun _ _ h => h⟩
  | evict key =>
    cases h
    exact ⟨rfl, rfl, (Calm.evict s key).cache⟩
  | sleep checkpoint =>
    simp only [env] at h
    split at h <;> cases h
    refine ⟨?_, rfl, fun _ _ h => h⟩
    cases checkpoint with
    | true => simp [CellNode.closeConn, Disk.close, hconn]
    | false =>
      simp only [CellNode.closeConn, Disk.crash]
      rw [← hconn]
      rfl
  | gc keys => simp [env, hconn] at h

lemma act_isRequest
    (h : act quota engine db s i t o = some (s', t')) : t'.isRequest = t.isRequest := by
  unfold act at h
  split at h
  case h_6 => exact (withConn_caught h fun _ => ⟨rfl, rfl⟩).2
  case h_11 => exact (withConn_caught h fun _ => ⟨rfl, rfl⟩).2
  case h_12 => exact (withConn_caught h fun _ => ⟨rfl, rfl⟩).2
  case h_16 => cases h
  case h_17 =>
    obtain ⟨r, _, rfl⟩ := of_map_step h
    rfl
  case h_18 =>
    obtain ⟨r, _, rfl⟩ := of_map_step h
    rfl
  all_goals
    cases h
    rfl

lemma act_store (h : act quota engine db s i t o = some (s', t')) : s'.store = s.store := by
  cases ht : t.changesFiles with
  | false =>
    cases act_move ht h with
    | idle _ _ calm | start _ _ calm | sql _ _ _ calm => exact calm.store
    | call | finish => rfl
  | true => exact (act_frame ht h).2.2.2.2

variable {s s' : Pool CellNode Nat (Task R)} {l : PoolLabel Nat Choice Event}

lemma Undisturbed.none_caught (hC : Undisturbed i s (.proc i o))
    (hclosing : (s.procs i).closing = true) (ht : t.caught = false) :
    ∀ j, (Function.update s.procs i t j).caught = false :=
  (Function.forall_update_iff s.procs fun _ t => t.caught = false).mpr
    ⟨ht, fun j _ => hC.drained o rfl hclosing j⟩

lemma step_store
    (h : OneCell.step quota engine db s l = some s') : s'.shared.store = s.shared.store := by
  cases h using Pool.step_cases with
  | proc i o g p hact =>
    exact act_store hact
  | env e g henv =>
    rcases env_cases henv with calm | ⟨keys, t, _, _, _, rfl⟩
    · exact calm.store
    · rfl

/-- What holds on the Cell at any time: the mutex, the ledger, and one job only. -/
structure Orderly (i : Nat) (s : Pool CellNode Nat (Task R)) : Prop where
  mutex : Mutex s
  ledger : Ledger s
  requests : ∀ j, j ≠ i → (s.procs j).isRequest = true

lemma Fresh.not_caught {job : Task R}
    (h : Fresh i job s) (j : Nat) (hj : j ≠ i) : (s.procs j).caught = false := by
  obtain ⟨r, hr⟩ := h.arrived j hj
  rw [hr]
  rfl

lemma Fresh.orderly {job : Task R}
    (hjob : job.isRunning = false) (h : Fresh i job s) : Orderly i s := by
  have hrunning : ∀ j, (s.procs j).isRunning = false := by
    intro j
    by_cases hj : j = i
    · rw [hj, h.job, hjob]
    · obtain ⟨r, hr⟩ := h.arrived j hj
      rw [hr]
      rfl
  refine ⟨⟨fun j hj => ?_, fun _ => h.stale⟩, fun j _ c hc => ?_, fun j hj => ?_⟩
  · exact absurd ((hrunning j).symm.trans hj) (by simp)
  · simp [h.log] at hc
  · obtain ⟨r, hr⟩ := h.arrived j hj
    rw [hr]
    rfl

lemma Orderly.step (hs : Orderly i s)
    (h : OneCell.step quota engine db s l = some s') : Orderly i s' := by
  refine ⟨hs.mutex.step h, hs.ledger.step h, fun j hj => ?_⟩
  cases h using Pool.step_cases with
  | proc k o g p hact =>
    by_cases hjk : j = k
    · subst hjk
      simpa [act_isRequest hact] using hs.requests j hj
    · simpa [Function.update_of_ne hjk] using hs.requests j hj
  | env e g _ =>
    exact hs.requests j hj

lemma procs_other (hl : ∀ o, l ≠ .proc i o)
    (h : OneCell.step quota engine db s l = some s') : s'.procs i = s.procs i := by
  cases h using Pool.step_cases with
  | proc j o g p _ =>
    exact Function.update_of_ne (fun hij => hl o (by rw [hij])) _ _
  | env e g _ =>
    rfl

/-- Within the window the job alone moves: a step of anybody else leaves the files as they are. -/
lemma window_other (hs : Orderly i s) (hC : Undisturbed i s l) (hwin : (s.procs i).window = true)
    (hconn : s.shared.disk.conn = none) (free : s.shared.holder = none) (hl : ∀ o, l ≠ .proc i o)
    (h : OneCell.step quota engine db s l = some s') : Frozen s.shared s'.shared := by
  cases h using Pool.step_cases with
  | proc j o g p hact =>
    have hji : j ≠ i := fun hji => hl o (by rw [hji])
    exact act_frozen (hs.requests j hji) (hs.mutex.none_running free j)
      (hC.window j o rfl hwin) hact
  | env e g henv =>
    exact env_frozen hconn henv

variable {old : String → Bool}

/-- With the files in place and nobody on the Cell, regular service begins; old cache entries are
masked. -/
lemma inService_of_placed (hs : Orderly i s)
    (hconn : s.shared.disk.conn = none) (free : s.shared.holder = none)
    (hold : ∀ key v, s.shared.cache key = some v → old key = true) :
    InService engine db old s.shared.disk.contents s.shared.log.length s := by
  have hcoherent : CoherentExcept none (s.shared.kvNode engine db old).kv := by
    intro k v hv
    simp only [CellNode.kvNode, CellNode.mask] at hv
    split at hv
    · rename_i hk
      exact absurd ((hold _ v hv).symm.trans hk.2) (by simp)
    · cases hv
  refine ⟨⟨Disk.attached_of_closed hconn, le_rfl, by simp, hcoherent.weaken, fun _ =>
    ⟨hcoherent, hs.mutex.settled free⟩⟩, fun j => ?_⟩
  rw [keeps_of_not_running (by rw [Task.kvTask_isRunning, hs.mutex.none_running free j])]
  simp [CellNode.kvNode, free]

lemma Task.changesFiles_of_isRequest (h : t.isRequest = true) : t.changesFiles = false := by
  cases t with
  | reset | restore => cases h
  | _ => rfl

lemma InService.other {n : Nat} {base : List Commit}
    (hs : InService engine db old base n s) (ho : Orderly i s) (hC : SameSecond s l)
    (hl : ∀ o, l ≠ .proc i o) (h : OneCell.step quota engine db s l = some s') :
    ∃ old', Remains old old' s.shared s'.shared ∧ InService engine db old' base n s' := by
  cases h using Pool.step_cases with
  | proc j o g p hact =>
    have hji : j ≠ i := fun hji => hl o (by rw [hji])
    have hfiles := Task.changesFiles_of_isRequest (ho.requests j hji)
    exact hs.move hC (act_move hfiles hact)
  | env e g henv =>
    exact ⟨old, hs.environment henv⟩

/-! ## After the job -/

/-- The job `i` has returned, and the Cell is in service since `n` changes had been committed. -/
structure Over (engine : SqlCall → Nat → U → Result R × U) (db : DatabaseId)
    (i n : Nat) (base : List Commit) (s : Pool CellNode Nat (Task R)) : Prop where
  orderly : Orderly i s
  returned : (s.procs i).isOver = true
  inService : InService engine db (fun _ => false) base n s

lemma act_of_isOver {s : CellNode} (h : t.isOver = true) :
    act quota engine db s i t o = none := by
  cases t with
  | reset pc =>
    cases pc with
    | returned | failed => rfl
    | _ => cases h
  | restore pc =>
    cases pc with
    | done | failed => rfl
    | _ => cases h
  | _ => cases h

lemma Over.step {n : Nat} {base : List Commit} (hs : Over engine db i n base s)
    (hC : Undisturbed i s l) (h : OneCell.step quota engine db s l = some s') :
    Over engine db i n base s' := by
  have hother : ∀ o, l ≠ .proc i o := by
    rintro o rfl
    obtain ⟨g, p, hact, _⟩ := Pool.step_proc_eq_some.mp h
    simp [act_of_isOver hs.returned] at hact
  obtain ⟨old', hold, hin⟩ := hs.inService.other hs.orderly hC.sameSecond hother h
  -- nothing was masked, so nothing is
  obtain rfl : old' = fun _ => false := by
    funext key
    cases hk : old' key with
    | false => rfl
    | true => exact absurd (hold key hk).1 (by simp)
  refine ⟨hs.orderly.step h, ?_, hin⟩
  rw [procs_other hother h]
  exact hs.returned

/-! ## Runs that meet the condition -/

/-- The condition as a test, for steps of the requests outside the window. -/
def outsideWindow (i : Nat) (s : Pool CellNode Nat (Task R)) :
    PoolLabel Nat Choice Event → Bool
  | .proc j o => !(j == i) && !(s.procs i).window && match s.procs j with
      | .running c (.call .now _) _ => !(c.rereads s.shared.reads.length) ||
          s.shared.reads.head? == some (s.shared.clock + o.outside.elapsed)
      | _ => true
  | .env _ => true

lemma undisturbed_of_outsideWindow (h : outsideWindow i s l = true) : Undisturbed i s l := by
  cases l with
  | env e => exact ⟨trivial, fun j o hl => (by cases hl), fun o hl => (by cases hl),
      fun o main hl => (by cases hl)⟩
  | proc j o =>
    simp only [outsideWindow, Bool.and_eq_true, Bool.not_eq_true', beq_eq_false_iff_ne] at h
    obtain ⟨⟨hji, hwin⟩, hsecond⟩ := h
    refine ⟨?_, fun j o hl hwin' => ?_, fun o hl => ?_, fun o main hl => ?_⟩
    · simp only [SameSecond]
      split
      · rename_i heq
        intro hrereads
        simpa [heq, hrereads] using hsecond
      · trivial
    · exact absurd (hwin.symm.trans hwin') (by simp)
    · exact absurd (PoolLabel.proc.inj hl).1 hji
    · exact absurd (PoolLabel.proc.inj hl).1 hji

/-- `n` steps of the task `i`. -/
def times (n i : Nat) : List (PoolLabel Nat Choice Event) :=
  List.replicate n (.proc i {})

lemma Task.quiet_of_job (h : t.isRequest = false) :
    t.isRunning = false ∧ t.opens = false ∧ t.caught = false := by
  cases t with
  | reset | restore => exact ⟨rfl, rfl, rfl⟩
  | _ => cases h

/-- A job that alone moves, without faults and with no request under way, is undisturbed. -/
lemma meets_times
    (hjob : (s.procs i).isRequest = false) (hothers : ∀ j, j ≠ i → (s.procs j).caught = false)
    (n : Nat) : Meets (step quota engine db) (Undisturbed i) s (times n i) := by
  induction n generalizing s with
  | zero => trivial
  | succ n ih =>
    intro s' h
    obtain ⟨hrun, hopens, hcaught⟩ := Task.quiet_of_job hjob
    obtain ⟨g, p, hact, rfl⟩ := Pool.step_proc_eq_some.mp h
    have hjob' : p.isRequest = false := (act_isRequest hact).trans hjob
    refine ⟨⟨?_, fun j o hl _ => ?_, fun _ _ _ j => ?_, fun o _ hl _ => ?_⟩, ih ?_ ?_⟩
    · simp only [SameSecond]
      split
      · rename_i heq
        simp [heq, Task.isRunning] at hrun
      · trivial
    · cases hl
      exact hopens
    · by_cases hj : j = i
      · exact hj ▸ hcaught
      · exact hothers j hj
    · cases hl
      exact .inl rfl
    · simpa using hjob'
    · exact fun j hj => by simpa [Function.update_of_ne hj] using hothers j hj

end

/-! ## A Cell and requests for example runs -/

def noSql (_ : SqlCall) (_ : Nat) (u : Unit) : Result Unit × Unit :=
  (.ok (), u)

/-- A Cell whose file holds the row `k = old`, with nobody on it. -/
def oldCell : CellNode where
  generation := none
  readonly := false
  disk := { Disk.blank with
    mains := fun _ => [⟨none, .kv (.upsert "k" "old" none)⟩], main := some 0, fresh := 1 }
  cache := fun _ => none
  clock := 100
  holder := none
  reads := []
  stale := none
  store := none
  log := []

/-- A job, a `SET k new` as the task 3, and `GET k` otherwise. -/
def besideRequests (job : Task Unit) : Nat → Task Unit
  | 0 => job
  | 3 => .arrived (.write ⟨⟨0⟩, 0, .kvSet "k" "new" none false false⟩)
  | _ => .arrived (.read (.get "k"))

lemma besideRequests_fresh {s : CellNode} (job : Task Unit) (hstale : s.stale = none)
    (hlog : s.log = []) : Fresh 0 job ⟨s, besideRequests job⟩ where
  stale := hstale
  log := hlog
  job := rfl
  arrived := fun j hj => by
    match j with
    | 0 => exact absurd rfl hj
    | 1 => exact ⟨_, rfl⟩
    | 2 => exact ⟨_, rfl⟩
    | 3 => exact ⟨_, rfl⟩
    | j + 4 => exact ⟨_, rfl⟩

end Combee.DataNode.OneCell
