import Combee.DataNode.Interrupts

/-!
# Removal — the files of a Cell while and after they are removed

`delete_database` closes the connection and removes the files one by one. From then on the files
come back only if a call of `with_conn` opens the Cell (`Opens`): it makes files that are missing,
whoever has removed them (`step_opens`). Nothing else does (`step_shrinks`), since the other calls
need a connection that is open, and workers that execute have one (`Connected`).

An open that fails is taken to leave the files as they are; the results below leave it out, since
`storage::open` may fail after it has made the file.
-/

namespace Combee.DataNode.ActiveDb

open Foundation Storage
open Function (update update_of_ne update_self)

/-- No file of the Cell is left, and no connection. -/
structure Gone (d : Disk Commit) : Prop where
  conn : d.conn = none
  main : d.main = none
  wal : d.wal = none

def File.Absent (d : Disk Commit) : File → Prop
  | .main => d.main = none
  | .wal => d.wal = none

/-- The connection is closed, and no file has come back. -/
structure Shrinks (d d' : Disk Commit) : Prop where
  conn : d'.conn = none
  main : d.main = none → d'.main = none
  wal : d.wal = none → d'.wal = none

variable {d : Disk Commit}

lemma Shrinks.absent {d' : Disk Commit} (h : Shrinks d d') {f : File} (hf : f.Absent d) :
    f.Absent d' := by
  cases f with
  | main => exact h.main hf
  | wal => exact h.wal hf

lemma Shrinks.gone {d' : Disk Commit} (h : Shrinks d d') (hd : Gone d) : Gone d' :=
  ⟨h.conn, h.main hd.main, h.wal hd.wal⟩

lemma Shrinks.of_closed (h : d.conn = none) : Shrinks d d :=
  ⟨h, id, id⟩

/-- However a connection is closed, no file comes back. -/
lemma Shrinks.shut (d : Disk Commit) (checkpoint : Bool) :
    Shrinks d (if checkpoint then d.close else d.crash) := by
  have hconn := d.conn_shut checkpoint
  cases checkpoint with
  | false => exact ⟨hconn, id, id⟩
  | true => cases h : d.conn <;> exact ⟨hconn, by simp [Disk.close, h], by simp [Disk.close, h]⟩

section

variable {U R : Type} [Inhabited U] {engine : String → Nat → U → Result (R × U)}
  {path : String} {limit : Option String}

/-! ## Workers that execute have a connection -/

structure Connected (s : Pool Manager Nat (Call R)) : Prop where
  own : AllOwn s
  open_of_executing : ∀ i, (s.procs i).worker.executing = true → s.shared.disk.conn ≠ none

variable {s : Pool Manager Nat (Call R)}

lemma Start.connected (h : Start s) : Connected s where
  own i := .idle (by rw [h.worker i]; rfl)
  open_of_executing i he := by simp [h.worker i, Worker.executing] at he

lemma Connected.idle (h : Connected s)
    (hclosed : s.shared.disk.conn = none) (i : Nat) : (s.procs i).worker.executing = false := by
  cases he : (s.procs i).worker.executing with
  | false => rfl
  | true => exact absurd hclosed (h.open_of_executing i he)

variable {g g' : Manager} {i : Nat} {job : Job R} {w w' : Worker R}

lemma Works.conn_own
    (hw : Works engine g i job w g' w') (hown : w.executing = true → g.disk.conn ≠ none)
    (he : w'.executing = true) : g'.disk.conn ≠ none := by
  cases hw with
  | opened free _ _ =>
    rcases g.disk.conn_openConn with ⟨m, w, hconn⟩
    simp [hconn]
  | visits free hopen _ => exact hopen
  | starts | aborts => exact hown rfl
  | completes hit =>
    rename_i st k c
    have hconn := g.execute_conn engine i c st (hown rfl)
    exact fun h => hown rfl (hconn.symm.trans h)
  | _ => cases he

lemma Works.conn_busy (hw : Works engine g i job w g' w') (hbusy : g.conns ≠ none)
    (hidle : w.executing = false) : g'.disk.conn = g.disk.conn := by
  cases hw with
  | opened free | closes free | deletes free => exact absurd free hbusy
  | starts | aborts | completes => cases hidle
  | removes hconn => exact hconn
  | _ => rfl

variable {f f' : Future R}

lemma Polls.disk (hp : Polls g i job f w g' f' w') : g'.disk = g.disk := by
  cases hp <;> rfl

lemma Expires.disk (he : Expires g f g' f') : g'.disk = g.disk := by
  cases he <;> rfl

lemma Polls.worker (hp : Polls g i job f w g' f' w') : w' = .queued ∨ w' = w := by
  cases hp with
  | tick | acquired => exact .inl rfl
  | _ => exact .inr rfl

variable {t t' : Call R} {c : Choice}

variable {s' : Pool Manager Nat (Call R)} {l : PoolLabel Nat Choice Event}

lemma Connected.step
    (hs : Connected s) (h : ActiveDb.step engine path limit s l = some s') : Connected s' := by
  refine ⟨hs.own.step h, fun j he => ?_⟩
  cases h using Pool.step_cases with
  | env e g henv =>
    have hconns := (hs.own j).conns he
    rw [(env_cases henv).1] at hconns
    cases hconns
  | proc i c g t hact =>
    dsimp only at he ⊢
    rcases (act_cases _ _ _ hact).2 with ⟨_, hp⟩ | ⟨_, _, hw⟩ | ⟨_, hworker, hexpires⟩
    · rw [hp.disk]
      by_cases hji : j = i
      · subst hji
        rw [update_self] at he
        rcases hp.worker with hw | hw
        · rw [hw] at he
          cases he
        · exact hs.open_of_executing j (hw ▸ he)
      · rw [update_of_ne hji] at he
        exact hs.open_of_executing j he
    · have hworks := runWorker_works engine path hw
      by_cases hji : j = i
      · subst hji
        rw [update_self] at he
        exact hworks.conn_own (hs.open_of_executing j) he
      · rw [update_of_ne hji] at he
        -- the other worker executes, so the one that moves does not
        have hconns := (hs.own j).conns he
        have hidle : (s.procs i).worker.executing = false := by
          cases hwe : (s.procs i).worker.executing with
          | false => rfl
          | true => exact absurd (Option.some.inj (hconns.symm.trans ((hs.own i).conns hwe))) hji
        rw [hworks.conn_busy (by simp [hconns]) hidle]
        exact hs.open_of_executing j he
    · rw [hexpires.disk]
      by_cases hji : j = i
      · subst hji
        rw [update_self, hworker] at he
        exact hs.open_of_executing j he
      · rw [update_of_ne hji] at he
        exact hs.open_of_executing j he

/-! ## Opening a Cell -/

def Job.opens : Job R → Bool
  | .withConn _ => true
  | .sql _ => true
  | _ => false

/-- The step is that of a worker that goes to open the Cell, whose connection is closed. -/
def Opens (s : Pool Manager Nat (Call R)) (l : PoolLabel Nat Choice Event) : Prop :=
  ∃ i c, l = .proc i c ∧ c.side = .worker ∧ (s.procs i).worker = .queued ∧
    (s.procs i).job.opens = true ∧ s.shared.disk.conn = none

/-- What `enter` does to the files of a Cell that is closed, unless it opens it. -/
lemma enter_shrinks (hclosed : g.disk.conn = none) (hnot : job.opens = false) :
    Shrinks g.disk (enter g i job c).1.disk := by
  cases job with
  | withConn | sql => cases hnot
  | maintenance p => simpa [enter, hclosed] using Shrinks.of_closed hclosed
  | closeDatabase | deleteDatabase => exact Shrinks.shut g.disk c.checkpoint

lemma removeFile_shrinks {d d' : Disk Commit} {f : File} {fault : Option String}
    (hclosed : d.conn = none) (h : removeFile path d f fault = .ok d') :
    Shrinks d d' ∧ f.Absent d' := by
  unfold removeFile at h
  split at h <;> cases h
  · rename_i hmain
    exact ⟨.of_closed hclosed, hmain⟩
  · rename_i hwal
    exact ⟨.of_closed hclosed, hwal⟩
  · exact ⟨⟨hclosed, fun _ => rfl, id⟩, rfl⟩
  · exact ⟨⟨hclosed, id, fun _ => rfl⟩, rfl⟩

/-- A worker of a Cell that is closed makes no file, unless it opens the Cell. -/
lemma runWorker_shrinks (hclosed : g.disk.conn = none) (hidle : w.executing = false)
    (hnot : w = .queued → job.opens = false) (h : runWorker engine path g i job w c = some (g', w'))
    : Shrinks g.disk g'.disk := by
  cases w with
  | unspawned | finished => cases h
  | queued =>
    simp only [runWorker] at h
    split at h
    · have henter := enter_shrinks (i := i) (c := c) hclosed (hnot rfl)
      rw [Option.some.inj h] at henter
      exact henter
    · cases h
  | inside | running => cases hidle
  | removing files =>
    cases files with
    | nil =>
      cases h
      exact .of_closed hclosed
    | cons f fs =>
      simp only [runWorker] at h
      split at h
      · rename_i hremove
        cases h
        exact (removeFile_shrinks hclosed hremove).1
      · cases h
        exact .of_closed hclosed
  | unlinking =>
    cases h
    exact .of_closed hclosed

lemma step_shrinks (hs : Connected s) (hclosed : s.shared.disk.conn = none) (hnot : ¬ Opens s l)
    (h : step engine path limit s l = some s') : Shrinks s.shared.disk s'.shared.disk := by
  cases h using Pool.step_cases with
  | env e g henv =>
    rcases env_cases henv with ⟨_, checkpoint, rfl⟩
    exact Shrinks.shut s.shared.disk checkpoint
  | proc i c g t hact =>
    rcases (act_cases _ _ _ hact).2 with ⟨_, hp⟩ | ⟨hside, _, hw⟩ | ⟨_, _, he⟩
    · rw [show g.disk = s.shared.disk from hp.disk]
      exact .of_closed hclosed
    · refine runWorker_shrinks hclosed (hs.idle hclosed i) (fun hqueued => ?_) hw
      cases hopens : (s.procs i).job.opens with
      | false => rfl
      | true => exact absurd ⟨i, c, rfl, hside, hqueued, hopens, hclosed⟩ hnot
    · rw [show g.disk = s.shared.disk from he.disk]
      exact .of_closed hclosed

lemma step_opens (hopens : Opens s (.proc i c)) (hfault : c.openFault = none)
    (h : step engine path limit s (.proc i c) = some s') : ¬ Gone s'.shared.disk := by
  rcases hopens with ⟨_, _, heq, hside, hqueued, hjob, hclosed⟩
  cases heq
  rcases Pool.step_proc_eq_some.mp h with ⟨g, t, hact, rfl⟩
  simp only [act, hside, hqueued, runWorker] at hact
  rcases of_map_step hact with ⟨w, hw, rfl⟩
  split at hw
  · have hdisk : g.disk = s.shared.disk.openConn := by
      cases hj : (s.procs i).job with
      | withConn | sql =>
        simp only [hj, enter, openAndRun, hclosed, hfault] at hw
        cases hw
        rfl
      | _ => simp [hj, Job.opens] at hjob
    intro hgone
    rcases s.shared.disk.conn_openConn with ⟨m, w, hconn⟩
    have hnone := hgone.conn
    rw [hdisk, hconn] at hnone
    cases hnone
  · cases hw

/-! ## The removal -/

def Removed (d : Disk Commit) : Worker R → Prop
  | .inside _ => False
  | .running _ _ => False
  | .removing files => d.conn = none ∧ ∀ f, f ∉ files → f.Absent d
  | .unlinking => Gone d
  | .finished (.ok _) => Gone d
  | _ => True

/-- The worker has begun to remove the files, and it has not failed. -/
def Worker.removal : Worker R → Bool
  | .removing _ => true
  | .unlinking => true
  | .finished (.ok _) => true
  | _ => false

lemma Removed.closed {d : Disk Commit} (h : Removed d w)
    (hw : w.removal = true) : d.conn = none := by
  cases w with
  | removing files => exact h.1
  | unlinking => exact h.conn
  | finished res =>
    cases res with
    | ok xs => exact h.conn
    | error e => cases hw
  | _ => cases hw

/-- What others do to the files of a Cell that is closed does not set the delete back. -/
lemma Removed.shrinks {d d' : Disk Commit} (h : Removed d w)
    (hd : w.removal = true → Shrinks d d') : Removed d' w := by
  cases w with
  | removing files => exact ⟨(hd rfl).conn, fun f hf => (hd rfl).absent (h.2 f hf)⟩
  | unlinking => exact (hd rfl).gone h
  | finished res =>
    cases res with
    | ok xs => exact (hd rfl).gone h
    | error e => trivial
  | _ => exact h

lemma runWorker_removed (hw : Removed g.disk w)
    (h : runWorker engine path g i .deleteDatabase w c = some (g', w')) : Removed g'.disk w' := by
  cases w with
  | unspawned | finished => cases h
  | queued =>
    simp only [runWorker] at h
    split at h <;> cases h
    refine ⟨Disk.conn_shut _ _, fun f hf => ?_⟩
    cases f <;> simp at hf
  | inside | running => cases hw
  | removing files =>
    rcases hw with ⟨hclosed, habsent⟩
    cases files with
    | nil =>
      cases h
      exact ⟨hclosed, habsent .main (by simp), habsent .wal (by simp)⟩
    | cons f fs =>
      simp only [runWorker] at h
      split at h
      · rename_i hremove
        cases h
        rcases removeFile_shrinks hclosed hremove with ⟨hshrinks, hf⟩
        refine ⟨hshrinks.conn, fun f' hf' => ?_⟩
        by_cases heq : f' = f
        · exact heq ▸ hf
        · exact hshrinks.absent (habsent f' (by simp [heq, hf']))
      · cases h
        trivial
  | unlinking =>
    cases h
    exact hw

lemma step_removed {d : Nat} (hs : Connected s) (hjob : (s.procs d).job = .deleteDatabase)
    (hd : Removed s.shared.disk (s.procs d).worker)
    (hquiet : Opens s l → (s.procs d).worker.removal = false)
    (h : step engine path limit s l = some s') :
    (s'.procs d).job = .deleteDatabase ∧ Removed s'.shared.disk (s'.procs d).worker := by
  have hothers : Removed s'.shared.disk (s.procs d).worker := by
    refine hd.shrinks fun hw => step_shrinks hs (hd.closed hw) (fun hopens => ?_) h
    simp [hquiet hopens] at hw
  cases h using Pool.step_cases with
  | env e g henv =>
    exact ⟨hjob, hothers⟩
  | proc i c g t hact =>
    by_cases hdi : d = i
    · subst hdi
      dsimp only
      rw [update_self]
      rcases act_cases _ _ _ hact with ⟨hsame, hcases⟩
      refine ⟨hsame.trans hjob, ?_⟩
      rcases hcases with ⟨_, hp⟩ | ⟨_, _, hw⟩ | ⟨_, hworker, _⟩
      · rcases hp.worker with hw | hw
        · rw [hw]
          trivial
        · rw [hw]
          exact hothers
      · rw [hjob] at hw
        exact runWorker_removed hd hw
      · exact hworker ▸ hothers
    · dsimp only
      rw [update_of_ne hdi]
      exact ⟨hjob, hothers⟩

/-! ## Calls from their start to their answer -/

def Future.waits : Future R → Bool
  | .start => true
  | .waiting _ => true
  | _ => false

structure Settled (t : Call R) : Prop where
  unspawned : t.future.waits = true → t.worker = .unspawned
  finished : ∀ xs, t.future = .answered (.ok xs) → t.worker = .finished (.ok xs)

def Call.new (job : Job R) : Call R :=
  ⟨job, .start, .unspawned⟩

lemma Settled.new (job : Job R) : Settled (Call.new job) :=
  ⟨fun _ => rfl, fun xs h => by cases h⟩

lemma runWorker_spawned (h : runWorker engine path g i job w c = some (g', w')) :
    w ≠ .unspawned ∧ ∀ res, w ≠ .finished res := by
  constructor
  · rintro rfl
    cases h
  · rintro res rfl
    cases h

lemma Settled.act (ht : Settled t)
    (h : ActiveDb.act engine path limit g i t c = some (g', t')) : Settled t' := by
  rcases t with ⟨job, future, worker⟩
  rcases t' with ⟨job', future', worker'⟩
  rcases (act_cases _ _ _ h).2 with ⟨_, hp⟩ | ⟨_, hf, hw⟩ | ⟨_, _, hexpires⟩
  · cases hp with
    | found _ | created _ => exact ⟨fun _ => ht.unspawned rfl, fun xs h => by cases h⟩
    | released | ended => exact ⟨fun h => (by cases h), fun xs h => by cases h; rfl⟩
    | _ => exact ⟨fun h => (by cases h), fun xs h => by cases h⟩
  · cases hf
    -- a worker that moves is neither still to come nor at its end
    rcases runWorker_spawned hw with ⟨hspawned, hfinished⟩
    exact ⟨fun h => absurd (ht.unspawned h) hspawned,
      fun xs h => absurd (ht.finished xs h) (hfinished _)⟩
  · cases hexpires <;> exact ⟨fun h => (by cases h), fun xs h => by cases h⟩

lemma Settled.finished_act {res : Result (List R)} (ht : Settled t)
    (hres : t.worker = .finished res) (h : ActiveDb.act engine path limit g i t c = some (g', t')) :
    t'.worker = .finished res := by
  rcases (act_cases _ _ _ h).2 with ⟨_, hp⟩ | ⟨_, _, hw⟩ | ⟨_, hworker, _⟩
  · rcases t with ⟨job, future, worker⟩
    rcases t' with ⟨job', future', worker'⟩
    cases hp with
    | tick | acquired => cases hres.symm.trans (ht.unspawned rfl)
    | _ => exact hres
  · exact absurd hres ((runWorker_spawned hw).2 res)
  · exact hworker.trans hres

lemma Settled.step {c : Nat}
    (hc : Settled (s.procs c)) (h : ActiveDb.step engine path limit s l = some s') :
    Settled (s'.procs c) ∧
      ∀ res, (s.procs c).worker = .finished res → (s'.procs c).worker = .finished res := by
  cases h using Pool.step_cases with
  | env e g _ =>
    exact ⟨hc, fun res hres => hres⟩
  | proc i choice g t hact =>
    dsimp only
    by_cases hci : c = i
    · subst hci
      rw [update_self]
      exact ⟨hc.act hact, fun res hres => hc.finished_act hres hact⟩
    · rw [update_of_ne hci]
      exact ⟨hc, fun res hres => hres⟩

/-! ## Calls that may still open the Cell -/

def Worker.isQueued : Worker R → Bool
  | .queued => true
  | _ => false

/-- The call has not got as far as the connection, and it will open the Cell if it is closed. -/
def Call.mayOpen (t : Call R) : Bool :=
  t.job.opens && (t.worker.isQueued || t.future.waits)

lemma Works.not_queued (hw : Works engine g i job w g' w') : w'.isQueued = false := by
  cases hw <;> rfl

lemma mayOpen_act (ht : t.mayOpen = false) (h : act engine path limit g i t c = some (g', t')) :
    t'.mayOpen = false := by
  rcases t with ⟨job, future, worker⟩
  rcases t' with ⟨job', future', worker'⟩
  cases hopens : job.opens with
  | false =>
    have hjob : job' = job := (act_cases _ _ _ h).1
    simp [Call.mayOpen, hjob, hopens]
  | true =>
    have hnot : worker.isQueued = false ∧ future.waits = false := by
      simpa [Call.mayOpen, hopens] using ht
    have hnot' : worker'.isQueued = false ∧ future'.waits = false := by
      rcases (act_cases _ _ _ h).2 with ⟨_, hp⟩ | ⟨_, hf, hw⟩ | ⟨_, hworker, hexpires⟩
      · cases hp with
        | tick | found | created | acquired => cases hnot.2
        | released | ended => exact ⟨rfl, rfl⟩
        | interrupts => exact ⟨hnot.1, rfl⟩
      · cases hf
        exact ⟨(runWorker_works engine path hw).not_queued, hnot.2⟩
      · dsimp only at hworker
        rw [hworker]
        cases hexpires <;> exact ⟨hnot.1, rfl⟩
    simp [Call.mayOpen, hnot'.1, hnot'.2]

lemma mayOpen_step {c : Nat} (hc : (s.procs c).mayOpen = false)
    (h : step engine path limit s l = some s') : (s'.procs c).mayOpen = false := by
  cases h using Pool.step_cases with
  | env e g _ =>
    exact hc
  | proc i choice g t hact =>
    dsimp only
    by_cases hci : c = i
    · subst hci
      rw [update_self]
      exact mayOpen_act hc hact
    · rw [update_of_ne hci]
      exact hc

lemma Opens.mayOpen (h : Opens s l) : ∃ i c, l = .proc i c ∧ (s.procs i).mayOpen = true := by
  rcases h with ⟨i, c, rfl, _, hqueued, hjob, _⟩
  exact ⟨i, c, rfl, by simp [Call.mayOpen, hjob, hqueued, Worker.isQueued]⟩

/-! ## Calls that are made -/

def made (s : Pool Manager Nat (Call R)) (c : Nat) (job : Job R) : Pool Manager Nat (Call R) :=
  ⟨s.shared, update s.procs c (Call.new job)⟩

lemma Connected.made (hs : Connected s) (c : Nat) (job : Job R) :
    Connected (ActiveDb.made s c job) := by
  constructor
  · intro i
    by_cases hi : i = c
    · subst hi
      simpa [ActiveDb.made] using Owns.idle rfl
    · simpa [ActiveDb.made, update_of_ne hi] using hs.own i
  · intro i he
    by_cases hi : i = c
    · subst hi
      simp [ActiveDb.made, Call.new, Worker.executing] at he
    · simp only [ActiveDb.made, update_of_ne hi] at he
      exact hs.open_of_executing i he

end

end Combee.DataNode.ActiveDb
