import Combee.DataNode.ActiveDb

/-!
# Timeouts — what a SQL request does after it has been answered as timed out

`timeout_sql` drops the future of the request and interrupts the statement that is running at that
moment. The worker of the request, if it has been spawned, goes on. If the interrupt finds the
worker in a statement, or before or after its work, nothing of the request reaches the database any
more (`timed_out_inert`). If it finds the worker waiting for `conns` or between two statements, it
interrupts nothing, and the request is carried out after its answer (`timed_out_commits`).
-/

namespace Combee.DataNode.ActiveDb

open Foundation Storage

section

variable {U R : Type} [Inhabited U] {engine : String → Nat → U → Result (R × U)}
  {path : String} {limit : Option String}

/-! ## The condition on a run -/

namespace Worker

def isDone : Worker R → Bool
  | unspawned => true
  | inside (.ret _) => true
  | finished _ => true
  | _ => false

def isRunning : Worker R → Bool
  | running _ _ => true
  | _ => false

end Worker

/-- The interrupt of a call finds its worker in a statement, or with nothing left to do. -/
def interruptible (s : Pool Manager Nat (Call R)) : PoolLabel Nat Choice Event → Bool
  | .proc i c =>
    match c.side, (s.procs i).future with
    | .future, .expired _ => (s.procs i).worker.isDone || (s.procs i).worker.isRunning
    | _, _ => true
  | .env _ => true

/-! ## Closures that stop at the first error -/

def FailFast : SqlProg R → Prop
  | .ret _ => True
  | .call st k => (∀ e, ∃ res, k (st.failed e) = .ret res) ∧ ∀ r, FailFast (k r)

lemma runStatements_failFast (statements : List String) (results : List R) :
    FailFast (runStatements statements results) := by
  induction statements generalizing results with
  | nil => exact ⟨fun e => ⟨_, rfl⟩, fun r => trivial⟩
  | cons sql rest ih =>
    refine ⟨fun e => ⟨_, rfl⟩, fun r => ?_⟩
    cases r with
    | ok x => exact ih (x :: results)
    | error e => trivial

lemma sqlClosure_failFast (q : SqlCall) : FailFast (sqlClosure q : SqlProg R) := by
  cases q with
  | execute sql => exact ⟨fun e => ⟨_, rfl⟩, fun r => trivial⟩
  | transaction statements =>
    simp only [sqlClosure, executeTransaction]
    split
    · trivial
    · refine ⟨fun e => ⟨_, rfl⟩, fun r => ?_⟩
      cases r with
      | ok x => exact runStatements_failFast statements []
      | error e => trivial

/-- What is left of the closure stops at the first error. -/
def Worker.FailFast : Worker R → Prop
  | inside p => ActiveDb.FailFast p
  | running st k => ActiveDb.FailFast (.call st k)
  | _ => True

variable {job : Job R}

lemma closure_failFast {q : SqlCall} {p : SqlProg R} (hjob : job = .sql q)
    (hp : job.closure = some p) : FailFast p := by
  subst hjob
  cases hp
  exact sqlClosure_failFast q

/-! ## Who is in a statement -/

variable {g g' : Manager} {i : Nat} {w w' : Worker R}

lemma Worker.executing_of_isRunning (h : w.isRunning = true) : w.executing = true := by
  cases w with
  | running st k => rfl
  | _ => cases h

/-- A worker that executes has the mutex, and its statement is the one that runs. -/
structure Owns (g : Manager) (i : Nat) (w : Worker R) : Prop where
  conns : w.executing = true → g.conns = some i
  statement : w.isRunning = true → g.statement = some i

lemma Owns.idle (h : w.executing = false) : Owns g i w := by
  constructor
  · intro he
    exact absurd (h.symm.trans he) (by simp)
  · intro hr
    exact absurd (h.symm.trans (Worker.executing_of_isRunning hr)) (by simp)

lemma Owns.frame (h : Owns g i w)
    (hkeep : w.executing = true → g'.conns = g.conns ∧ g'.statement = g.statement) :
    Owns g' i w := by
  constructor
  · intro he
    exact (hkeep he).1.trans (h.conns he)
  · intro hr
    exact (hkeep (Worker.executing_of_isRunning hr)).2.trans (h.statement hr)

lemma Owns.works (h : Owns g i w) (hw : Works engine g i job w g' w') : Owns g' i w' := by
  cases hw with
  | opened | visits =>
    exact ⟨fun _ => rfl, fun hr => by cases hr⟩
  | starts =>
    exact ⟨fun _ => h.conns rfl, fun _ => rfl⟩
  | aborts hit =>
    exact ⟨fun _ => h.conns rfl, fun hr => by cases hr⟩
  | completes hit =>
    rename_i st k c
    have hconns := (g.execute_frame engine i c st).2.2
    exact ⟨fun _ => hconns.trans (h.conns rfl), fun hr => by cases hr⟩
  | _ => exact .idle rfl

/-- While one worker executes, the steps of the others leave the mutex and the statement alone. -/
lemma Owns.works_other {j : Nat} (hi : Owns g i w) (hconns : g.conns = some j) (hji : j ≠ i)
    (hw : Works engine g i job w g' w') : g'.conns = g.conns ∧ g'.statement = g.statement ∧
      (g.interrupted = true → g'.interrupted = true) := by
  have hidle : w.executing = false := by
    cases hwe : w.executing with
    | false => rfl
    | true => exact absurd (Option.some.inj (hconns.symm.trans (hi.conns hwe))) hji
  have hbusy : g.conns ≠ none := by simp [hconns]
  cases hw with
  | opened free | visits free => exact absurd free hbusy
  | starts | aborts | completes | returns => cases hidle
  | _ => exact ⟨rfl, rfl, fun h => h⟩

/-! ## The invariant -/

structure Tracked (g : Manager) (i : Nat) (t : Call R) : Prop extends Owns g i t.worker where
  failFast : ∀ q, t.job = .sql q → t.worker.FailFast
  /-- A request that is answered is done, or in a statement that has been interrupted. -/
  answered : ∀ q res, t.job = .sql q → t.future = .answered res →
    t.worker.isDone = true ∨ t.worker.isRunning = true ∧ g.interrupted = true

lemma Tracked.frame {j : Nat} {t : Call R} (h : Tracked g j t)
    (hexec : t.worker.executing = true → g'.conns = g.conns ∧ g'.statement = g.statement ∧
      (g.interrupted = true → g'.interrupted = true)) : Tracked g' j t := by
  refine ⟨h.toOwns.frame fun he => ⟨(hexec he).1, (hexec he).2.1⟩, h.failFast, ?_⟩
  intro q res hjob hans
  rcases h.answered q res hjob hans with hdone | ⟨hr, hhit⟩
  · exact .inl hdone
  · exact .inr ⟨hr, (hexec (Worker.executing_of_isRunning hr)).2.2 hhit⟩

variable {f f' : Future R}

lemma Tracked.future
    (h : Tracked g i ⟨job, f, w⟩) (hconns : g'.conns = g.conns)
    (hstatement : g'.statement = g.statement)
    (hans : ∀ res, f' = .answered res →
      w.isDone = true ∨ w.isRunning = true ∧ g'.interrupted = true) :
    Tracked g' i ⟨job, f', w⟩ :=
  ⟨h.toOwns.frame fun _ => ⟨hconns, hstatement⟩, h.failFast, fun _ res _ => hans res⟩

lemma Tracked.idle (hidle : w.executing = false)
    (hans : ∀ q res, job = .sql q → f = .answered res → w.isDone = true) :
    Tracked g i ⟨job, f, w⟩ := by
  refine ⟨.idle hidle, fun q _ => ?_, fun q res hjob hf => .inl (hans q res hjob hf)⟩
  cases w with
  | inside | running => cases hidle
  | _ => trivial

/-! ## Steps -/

lemma Tracked.polls (h : Tracked g i ⟨job, f, w⟩)
    (hC : ∀ limit, f = .expired limit → w.isDone = true ∨ w.isRunning = true)
    (hp : Polls g i job f w g' f' w') : Tracked g' i ⟨job, f', w'⟩ := by
  cases hp with
  | tick | acquired => exact .idle rfl (by simp)
  | found | created => exact h.future rfl rfl (by simp)
  | released | ended => exact h.future rfl rfl fun _ _ => .inl rfl
  | interrupts =>
    refine h.future rfl rfl fun res _ => ?_
    rcases hC _ rfl with hdone | hr
    · exact .inl hdone
    -- the statement that is running is the one of this call
    · exact .inr ⟨hr, by simp [Manager.interrupt, h.statement hr]⟩

lemma Tracked.works (h : Tracked g i ⟨job, f, w⟩) (hw : Works engine g i job w g' w') :
    Tracked g' i ⟨job, f, w'⟩ := by
  -- a worker with work ahead belongs to a request that is not answered
  have hopen : w.isDone = false → w.isRunning = false ∨ g.interrupted = false →
      ∀ q res, job = .sql q → f = .answered res → False := by
    intro hdone hrun q res hjob hf
    rcases h.answered q res hjob hf with hdone' | ⟨hr, hhit⟩
    · exact absurd (hdone.symm.trans hdone') (by simp)
    · rcases hrun with hrun | hrun
      · exact absurd (hrun.symm.trans hr) (by simp)
      · exact absurd (hrun.symm.trans hhit) (by simp)
  have hown := h.toOwns.works hw
  cases hw with
  | refused | returns | stuck | unlinks => exact .idle rfl fun _ _ _ _ => rfl
  | opened _ _ hp | visits _ _ hp =>
    refine ⟨hown, fun q hq => closure_failFast hq hp, ?_⟩
    exact fun q res hq hf => (hopen rfl (.inl rfl) q res hq hf).elim
  | closes _ hjob | deletes _ hjob => exact .idle rfl fun q res hq => by simp [hjob] at hq
  | starts =>
    refine ⟨hown, h.failFast, ?_⟩
    exact fun q res hq hf => (hopen rfl (.inl rfl) q res hq hf).elim
  | aborts hit =>
    refine ⟨hown, fun q hq => (h.failFast q hq).2 _, ?_⟩
    intro q res hq _
    obtain ⟨res', hret⟩ := (h.failFast q hq).1 (.sql "interrupted")
    rw [hret]
    exact .inl rfl
  | completes hit =>
    refine ⟨hown, fun q hq => (h.failFast q hq).2 _, ?_⟩
    exact fun q res hq hf => (hopen rfl (.inr hit) q res hq hf).elim
  | removes | removed => exact .idle rfl fun q res hq hf => (hopen rfl (.inl rfl) q res hq hf).elim

lemma Polls.frame
    (hp : Polls g i job f w g' f' w') : g'.conns = g.conns ∧ g'.statement = g.statement ∧
      (g.interrupted = true → g'.interrupted = true) := by
  cases hp with
  | interrupts => exact ⟨rfl, rfl, fun h => by simp [Manager.interrupt, h]⟩
  | _ => exact ⟨rfl, rfl, fun h => h⟩

lemma Expires.frame (he : Expires g f g' f') :
    g'.conns = g.conns ∧ g'.statement = g.statement ∧
      (g.interrupted = true → g'.interrupted = true) ∧ ∀ res, f' ≠ .answered res := by
  cases he <;> exact ⟨rfl, rfl, fun h => h, by simp⟩

def AllTracked (s : Pool Manager Nat (Call R)) : Prop :=
  ∀ i, Tracked s.shared i (s.procs i)

lemma AllTracked.step {s s' : Pool Manager Nat (Call R)} {l : PoolLabel Nat Choice Event}
    (hs : AllTracked s) (hC : interruptible s l = true)
    (h : ActiveDb.step engine path limit s l = some s') : AllTracked s' := by
  cases h using Pool.step_cases with
  | proc i c g p hact =>
    obtain ⟨job', f', w'⟩ := p
    -- it is enough to look at the call that moves, and at the others
    have hassemble : Tracked g i ⟨job', f', w'⟩ → (∀ j, j ≠ i → Tracked g j (s.procs j)) →
        AllTracked ⟨g, Function.update s.procs i ⟨job', f', w'⟩⟩ :=
      fun hown hothers => (Function.forall_update_iff _ _).mpr ⟨hown, hothers⟩
    have hown := hs i
    cases hi : s.procs i with
    | mk job f w =>
      rw [hi] at hact hown
      obtain ⟨rfl, ⟨hside, hp⟩ | ⟨_, rfl, hw⟩ | ⟨_, rfl, he⟩⟩ := act_cases _ _ _ hact
      · refine hassemble (hown.polls (fun lim hf => ?_) hp) fun j _ =>
          (hs j).frame fun _ => hp.frame
        simpa [interruptible, hside, hi, hf] using hC
      · have hworks := runWorker_works engine path hw
        exact hassemble (hown.works hworks) fun j hj =>
          (hs j).frame fun he => hown.works_other ((hs j).conns he) hj hworks
      · obtain ⟨hconns, hstatement, hhit, hans⟩ := he.frame
        refine hassemble (hown.future hconns hstatement fun res hf => ?_) fun j _ =>
          (hs j).frame fun _ => ⟨hconns, hstatement, hhit⟩
        exact absurd hf (hans res)
  | env e g henv =>
    obtain ⟨_, _, rfl⟩ := env_cases henv
    exact fun j => (hs j).frame fun _ => ⟨rfl, rfl, fun h => h⟩

lemma Start.allTracked {s : Pool Manager Nat (Call R)} (h : Start s) : AllTracked s := by
  intro i
  have hworker := h.worker i
  have hfuture := h.future i
  cases hi : s.procs i with
  | mk job f w =>
    rw [hi] at hworker hfuture
    cases hworker
    cases hfuture
    exact .idle rfl (by simp)

lemma Works.disk (hw : Works engine g i job w g' w')
    (h : w.isDone = true ∨ w.isRunning = true ∧ g.interrupted = true) : g'.disk = g.disk := by
  cases hw with
  | aborts | returns => rfl
  | completes hit => simp [Worker.isDone, hit] at h
  | _ => simp [Worker.isDone, Worker.isRunning] at h

/-- If every interrupt finds the worker of its request in a statement, or with nothing left to do, a
request that timed out never writes again. -/
theorem timed_out_inert {s₀ s s' : Pool Manager Nat (Call R)}
    {ls : List (PoolLabel Nat Choice Event)} {i : Nat} {c : Choice} {q : SqlCall} {d : String}
    (h₀ : Start s₀)
    (hC : Meets (step engine path limit) (fun s l => interruptible s l = true) s₀ ls)
    (hrun : exec (step engine path limit) s₀ ls = some s) (hjob : (s.procs i).job = .sql q)
    (hout : (s.procs i).future = .answered (.error (timeoutError d)))
    (hstep : step engine path limit s (.proc i c) = some s') : s'.shared.disk = s.shared.disk := by
  have hs : AllTracked s := inv_of_exec (fun hs hc hl => hs.step hc hl) h₀.allTracked hC hrun
  have hdone := (hs i).answered q _ hjob hout
  obtain ⟨g, t, hact, rfl⟩ := Pool.step_proc_eq_some.mp hstep
  simp only [act] at hact
  split at hact
  · obtain ⟨_, hp⟩ := pollFuture_polls hact
    rw [hout] at hp
    cases hp
  · obtain ⟨w, hw, rfl⟩ := of_map_step hact
    exact (runWorker_works engine path hw).disk hdone
  · obtain ⟨_, _, he⟩ := fireTimer_expires limit hact
    rw [hout] at he
    cases he

end

/-! ## A timeout before the worker has started -/

def expire (i : Nat) : PoolLabel Nat Choice Event :=
  .proc i { side := .timer }

def inserts : Pool Manager Nat (Call Unit) where
  shared :=
    { lockMap := none, nextLock := 0, holders := fun _ => none, conns := none, disk := .blank,
      tx := none, statement := none, interrupted := false }
  procs := fun _ => ⟨.sql (.execute "INSERT INTO t VALUES (1)"), .start, .unspawned⟩

lemma inserts_start : Start inserts :=
  ⟨fun _ => rfl, fun _ => rfl⟩

/-- The interrupt meets the statement of its own request, which writes nothing. -/
theorem timed_out_inert_running :
    ∃ s s', exec (step noEngine "cell" (some "30s")) inserts
        [poll 0, poll 0, work 0, work 0, expire 0, poll 0] = some s ∧
      (s.procs 0).future = .answered (.error (timeoutError "30s")) ∧
      step noEngine "cell" (some "30s") s (work 0) = some s' ∧
      s'.shared.disk = s.shared.disk := by
  obtain ⟨s, s', hrun, hjob, hout, hstep⟩ : ∃ s s', exec (step noEngine "cell" (some "30s")) inserts
        [poll 0, poll 0, work 0, work 0, expire 0, poll 0] = some s ∧
      (s.procs 0).job = .sql (.execute "INSERT INTO t VALUES (1)") ∧
      (s.procs 0).future = .answered (.error (timeoutError "30s")) ∧
      step noEngine "cell" (some "30s") s (work 0) = some s' := ⟨_, _, rfl, rfl, rfl, rfl⟩
  have hC : Meets (step noEngine "cell" (some "30s")) (fun s l => interruptible s l = true) inserts
      [poll 0, poll 0, work 0, work 0, expire 0, poll 0] := meets_of_check (fun h => h) rfl
  exact ⟨s, s', hrun, hout, hstep, timed_out_inert inserts_start hC hrun hjob hout hstep⟩

/-- The timeout comes while the worker is queued, and its row is committed afterwards. -/
theorem timed_out_commits :
    ∃ s s', exec (step noEngine "cell" (some "30s")) inserts [poll 0, poll 0, expire 0, poll 0] =
        some s ∧ (s.procs 0).future = .answered (.error (timeoutError "30s")) ∧
      s.shared.disk.contents = [] ∧
      exec (step noEngine "cell" (some "30s")) s [work 0, work 0, work 0] = some s' ∧
      s'.shared.disk.contents = [⟨0, [("INSERT INTO t VALUES (1)", 0)]⟩] :=
  ⟨_, _, rfl, rfl, rfl, rfl, rfl⟩

end Combee.DataNode.ActiveDb
