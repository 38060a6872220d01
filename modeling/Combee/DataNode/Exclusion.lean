import Combee.DataNode.ActiveDb

/-!
# Exclusion — one call at a time on a Cell

`close_database` and `delete_database` take the lock of the Cell out of the map while they hold
it. A call that has cloned it before waits on for the old object, while the next call finds none
and makes a new one: two calls then hold a lock of the Cell at the same time
(`delete_beside_reader`). As long as a new lock object is made only when nobody has an old one,
and no call is dropped whose worker is under way (`Serial`), at most one call holds the lock, and
files are removed with no connection open and nobody executing (`lock_exclusive`).
-/

namespace Combee.DataNode.ActiveDb

open Foundation Storage

section

variable {U R : Type} [Inhabited U] {engine : String → Nat → U → Result (R × U)}
  {path : String} {limit : Option String}

/-! ## The condition on a run -/

def Call.lock (t : Call R) : Option Nat :=
  match t.future with
  | .waiting l => some l
  | .holding l => some l
  | _ => none

namespace Worker

def underWay : Worker R → Bool
  | unspawned => false
  | finished _ => false
  | _ => true

end Worker

structure Serial (s : Pool Manager Nat (Call R)) (l : PoolLabel Nat Choice Event) : Prop where
  /-- A new lock object is made only if no other call has an old one. -/
  create : ∀ i c, l = .proc i c → c.side = .future → (s.procs i).future = .start →
    s.shared.lockMap = none → ∀ j, j ≠ i → (s.procs j).lock = none
  /-- No call is dropped whose worker is under way. -/
  drop : ∀ i c, l = .proc i c → c.side = .timer → (s.procs i).worker.underWay = false

/-! ## The invariant -/

/-- What holds for a call if `lock` is the only lock object in use. -/
structure Placed (lock : Nat) (g : Manager) (i : Nat) (t : Call R) : Prop where
  lock : ∀ l, t.lock = some l → l = lock
  held : ∀ l, t.future = .holding l → g.holders l = some i
  guarded : t.worker.underWay = true →
    (∃ l, t.future = .holding l) ∨ ∃ p, t.job = .maintenance p
  executing : t.worker.executing = true → g.conns = some i ∧ g.disk.conn ≠ none
  removing : ∀ fs, t.worker = .removing fs → g.disk.conn = none ∧ t.job = .deleteDatabase

def Exclusive (s : Pool Manager Nat (Call R)) : Prop :=
  ∃ lock, (∀ l, s.shared.lockMap = some l → l = lock) ∧
    ∀ i, Placed lock s.shared i (s.procs i)

variable {lock i j : Nat} {g : Manager} {t : Call R}

lemma Placed.unique {t' : Call R} (hi : Placed lock g i t) (hj : Placed lock g j t') {l l' : Nat}
    (ht : t.future = .holding l) (ht' : t'.future = .holding l') : i = j := by
  have hl : l = lock := hi.lock l (by simp [Call.lock, ht])
  have hl' : l' = lock := hj.lock l' (by simp [Call.lock, ht'])
  have hheld := hi.held l ht
  have hheld' := hj.held l' ht'
  rw [hl] at hheld
  rw [hl'] at hheld'
  exact Option.some.inj (hheld.symm.trans hheld')

variable {g' : Manager}

/-- A call stays placed as long as its lock and its connection are left alone. -/
lemma Placed.frame (h : Placed lock g j t)
    (hholders : ∀ l, t.future = .holding l → g'.holders l = g.holders l)
    (hexec : t.worker.executing = true → g'.conns = g.conns ∧ g'.disk.conn = g.disk.conn)
    (hremoving : ∀ fs, t.worker = .removing fs → g'.disk.conn = none) : Placed lock g' j t := by
  refine ⟨h.lock, fun l hl => (hholders l hl).trans (h.held l hl), h.guarded, fun he => ?_,
    fun fs hfs => ⟨hremoving fs hfs, (h.removing fs hfs).2⟩⟩
  obtain ⟨hconns, hconn⟩ := hexec he
  rw [hconns, hconn]
  exact h.executing he

variable {job : Job R} {f f' : Future R} {w : Worker R}

lemma Placed.future {lock' : Nat} (h : Placed lock g i ⟨job, f, w⟩) (hconns : g'.conns = g.conns)
    (hdisk : g'.disk = g.disk) (hlock : ∀ l, Call.lock ⟨job, f', w⟩ = some l → l = lock')
    (hheld : ∀ l, f' = .holding l → g'.holders l = some i)
    (hidle : ∀ l, f = .holding l → w.underWay = false) : Placed lock' g' i ⟨job, f', w⟩ := by
  refine ⟨hlock, hheld, fun hw => ?_, fun he => ?_, fun fs hfs => ?_⟩
  · rcases h.guarded hw with ⟨l, hl⟩ | hp
    · exact absurd ((hidle l hl).symm.trans hw) (by simp)
    · exact .inr hp
  · rw [hconns, hdisk]
    exact h.executing he
  · rw [hdisk]
    exact h.removing fs hfs

lemma Placed.spawned (hlock : ∀ l, Call.lock ⟨job, f, .queued⟩ = some l → l = lock)
    (hheld : ∀ l, f = .holding l → g.holders l = some i)
    (hguarded : (∃ l, f = .holding l) ∨ ∃ p, job = .maintenance p) :
    Placed lock g i ⟨job, f, .queued⟩ :=
  ⟨hlock, hheld, fun _ => hguarded, fun he => (by cases he), fun fs hfs => (by cases hfs)⟩

lemma Placed.release {l : Nat} (h : Placed lock g j t) (hji : j ≠ i) (hi : g.holders l = some i) :
    Placed lock (g.release l) j t := by
  refine h.frame (fun l' hl' => ?_) (fun _ => ⟨rfl, rfl⟩) fun fs hfs => (h.removing fs hfs).1
  refine Function.update_of_ne (fun hll => ?_) _ _
  have hheld := h.held l' hl'
  rw [hll] at hheld
  exact hji (Option.some.inj (hheld.symm.trans hi))

variable {w' : Worker R}

lemma Placed.works (h : Placed lock g i ⟨job, f, w⟩) (hholders : g'.holders = g.holders)
    (hway : w'.underWay = true → w.underWay = true)
    (hexec : w'.executing = true → g'.conns = some i ∧ g'.disk.conn ≠ none)
    (hremoving : ∀ fs, w' = .removing fs → g'.disk.conn = none ∧ job = .deleteDatabase) :
    Placed lock g' i ⟨job, f, w'⟩ := by
  refine ⟨h.lock, fun l hl => ?_, fun hw => h.guarded (hway hw), hexec, hremoving⟩
  rw [hholders]
  exact h.held l hl

/-- A call that has started before `conns` was free executes nothing. -/
lemma Placed.not_executing
    (h : Placed lock g j t) (hconns : g.conns ≠ some j) : t.worker.executing = false := by
  cases he : t.worker.executing with
  | false => rfl
  | true => exact absurd (h.executing he).1 hconns

variable {s : Pool Manager Nat (Call R)}

lemma exclusive_update (hmap : ∀ l, g.lockMap = some l → l = lock) (hown : Placed lock g i t)
    (hothers : ∀ j, j ≠ i → Placed lock g j (s.procs j)) :
    Exclusive ⟨g, Function.update s.procs i t⟩ :=
  ⟨lock, hmap, (Function.forall_update_iff _ _).mpr ⟨hown, hothers⟩⟩

/-! ## Steps -/

section

variable (hs : Exclusive s)
include hs

section

variable (hi : s.procs i = ⟨job, f, w⟩)
include hi

lemma Exclusive.polls
    (hcreate : f = .start → s.shared.lockMap = none → ∀ j, j ≠ i → (s.procs j).lock = none)
    (hp : Polls s.shared i job f w g f' w') :
    Exclusive ⟨g, Function.update s.procs i ⟨job, f', w'⟩⟩ := by
  obtain ⟨lock, hmap, hplaced⟩ := hs
  have hown := hplaced i
  rw [hi] at hown
  cases hp with
  | tick hjob =>
    refine exclusive_update hmap (.spawned (by simp [Call.lock]) (by simp) ?_)
      fun j _ => hplaced j
    exact .inr ⟨_, hjob⟩
  | found hl =>
    refine exclusive_update hmap (hown.future rfl rfl ?_ (by simp) (by simp)) fun j _ => hplaced j
    simpa [Call.lock] using hmap _ hl
  | created hnone =>
    -- nobody has an older lock object, so the new one is the only one
    have hnew : Placed s.shared.nextLock
        { s.shared with lockMap := some s.shared.nextLock, nextLock := s.shared.nextLock + 1 }
        i ⟨job, .waiting s.shared.nextLock, w⟩ :=
      hown.future rfl rfl (by simp [Call.lock]) (by simp) (by simp)
    refine exclusive_update (by simp) hnew fun j hj => ?_
    have hlock := hcreate rfl hnone j hj
    have hj := hplaced j
    exact ⟨by simp [hlock], hj.held, hj.guarded, hj.executing, hj.removing⟩
  | acquired free =>
    rename_i l
    have hl : l = lock := hown.lock l (by simp [Call.lock])
    refine exclusive_update hmap (.spawned (by simp [Call.lock, hl]) (by simp) (.inl ⟨l, rfl⟩))
      fun j hj => ?_
    refine (hplaced j).frame (fun l' hl' => ?_) (fun _ => ⟨rfl, rfl⟩)
      fun fs hfs => ((hplaced j).removing fs hfs).1
    refine Function.update_of_ne (fun hll => ?_) _ _
    have hheld := (hplaced j).held l' hl'
    rw [hll, free] at hheld
    cases hheld
  | released =>
    rename_i l res
    refine exclusive_update hmap ?_ fun j hj => (hplaced j).release hj (hown.held l rfl)
    exact hown.future rfl rfl (by simp [Call.lock]) (by simp) (by simp [Worker.underWay])
  | ended =>
    refine exclusive_update hmap ?_ fun j _ => hplaced j
    exact hown.future rfl rfl (by simp [Call.lock]) (by simp) (by simp)
  | interrupts =>
    refine exclusive_update hmap ?_ fun j _ => ?_
    · exact hown.future rfl rfl (by simp [Call.lock]) (by simp) (by simp)
    · exact (hplaced j).frame (fun _ _ => rfl) (fun _ => ⟨rfl, rfl⟩)
        fun fs hfs => ((hplaced j).removing fs hfs).1

lemma Exclusive.expires (hidle : w.underWay = false) (he : Expires s.shared f g f') :
    Exclusive ⟨g, Function.update s.procs i ⟨job, f', w⟩⟩ := by
  obtain ⟨lock, hmap, hplaced⟩ := hs
  have hown := hplaced i
  rw [hi] at hown
  cases he with
  | start | waiting =>
    refine exclusive_update hmap ?_ fun j _ => hplaced j
    exact hown.future rfl rfl (by simp [Call.lock]) (by simp) (by simp)
  | holding =>
    rename_i l limit
    refine exclusive_update hmap ?_ fun j hj => (hplaced j).release hj (hown.held l rfl)
    exact hown.future rfl rfl (by simp [Call.lock]) (by simp) fun _ _ => hidle

lemma Exclusive.works (hw : Works engine s.shared i job w g w') :
    Exclusive ⟨g, Function.update s.procs i ⟨job, f, w'⟩⟩ := by
  obtain ⟨lock, hmap, hplaced⟩ := hs
  have hown := hplaced i
  rw [hi] at hown
  -- the others, if the step takes or gives up `conns`
  have hquiet : (∀ j, j ≠ i → s.shared.conns ≠ some j) → g.holders = s.shared.holders →
      (∀ j fs, j ≠ i → (s.procs j).worker = .removing fs → g.disk.conn = none) →
      ∀ j, j ≠ i → Placed lock g j (s.procs j) := by
    intro hconns hholders hremoving j hj
    have hidle := (hplaced j).not_executing (hconns j hj)
    refine (hplaced j).frame (fun l _ => by rw [hholders]) (fun he => ?_)
      fun fs => hremoving j fs hj
    exact absurd (hidle.symm.trans he) (by simp)
  have hremoving : ∀ j fs, (s.procs j).worker = .removing fs → s.shared.disk.conn = none :=
    fun j fs hfs => ((hplaced j).removing fs hfs).1
  have hfree : s.shared.conns = none → ∀ j, j ≠ i → s.shared.conns ≠ some j := by
    intro free j _
    simp [free]
  cases hw with
  | refused | stuck | removed =>
    refine exclusive_update hmap ?_ fun j _ => hplaced j
    exact hown.works rfl (fun _ => rfl) (fun he => by cases he) fun fs hfs => by cases hfs
  | opened free hjob hp =>
    refine exclusive_update hmap ?_ (hquiet (hfree free) rfl fun j fs hj hfs => ?_)
    · refine hown.works rfl (fun _ => rfl) (fun _ => ⟨rfl, ?_⟩) fun fs hfs => by cases hfs
      obtain ⟨m, w, hconn⟩ := Disk.conn_openConn s.shared.disk
      simp [hconn]
    · -- the call that removes files would have to be this one
      have hguard : ∃ l, f = .holding l :=
        (hown.guarded rfl).resolve_right fun ⟨p, hm⟩ => hjob p hm
      obtain ⟨l, hl⟩ := hguard
      have hdel := ((hplaced j).removing fs hfs).2
      have hway : (s.procs j).worker.underWay = true := by rw [hfs]; rfl
      obtain ⟨l', hl'⟩ := ((hplaced j).guarded hway).resolve_right fun ⟨p, hm⟩ => by
        simp [hdel] at hm
      exact absurd ((hplaced j).unique hown hl' hl) hj
  | visits free hopen hp =>
    refine exclusive_update hmap ?_ (hquiet (hfree free) rfl fun j fs _ => hremoving j fs)
    exact hown.works rfl (fun _ => rfl) (fun _ => ⟨rfl, hopen⟩) fun fs hfs => by cases hfs
  | closes free hjob =>
    refine exclusive_update hmap ?_ (hquiet (hfree free) rfl fun j fs _ _ => Disk.conn_shut _ _)
    exact hown.works rfl (fun _ => rfl) (fun he => by cases he) fun fs hfs => by cases hfs
  | deletes free hjob =>
    refine exclusive_update hmap ?_ (hquiet (hfree free) rfl fun j fs _ _ => Disk.conn_shut _ _)
    exact hown.works rfl (fun _ => rfl) (fun he => by cases he)
      fun fs _ => ⟨Disk.conn_shut _ _, hjob⟩
  | starts | aborts =>
    refine exclusive_update hmap ?_ fun j _ => ?_
    · exact hown.works rfl (fun _ => rfl) (fun _ => hown.executing rfl) fun fs hfs => by cases hfs
    · exact (hplaced j).frame (fun _ _ => rfl) (fun _ => ⟨rfl, rfl⟩) (hremoving j)
  | completes hit =>
    rename_i st k c
    obtain ⟨hconns, hopen⟩ := hown.executing rfl
    obtain ⟨hlocks, hholders, hconns'⟩ := s.shared.execute_frame engine i c st
    have hconn := s.shared.execute_conn engine i c st hopen
    refine exclusive_update (by simpa [hlocks] using hmap) ?_ fun j _ => ?_
    · refine hown.works hholders (fun _ => rfl) (fun _ => ?_) fun fs hfs => by cases hfs
      exact ⟨hconns'.trans hconns, by simpa [hconn] using hopen⟩
    · exact (hplaced j).frame (fun l _ => by rw [hholders]) (fun _ => ⟨hconns', hconn⟩)
        fun fs hfs => hconn.trans (hremoving j fs hfs)
  | returns =>
    obtain ⟨hconns, _⟩ := hown.executing rfl
    refine exclusive_update hmap ?_ (hquiet (fun j hj => ?_) rfl fun j fs _ => hremoving j fs)
    · exact hown.works rfl (fun _ => rfl) (fun he => by cases he) fun fs hfs => by cases hfs
    · simpa [hconns] using Ne.symm hj
  | removes hconn =>
    rename_i f fs d
    obtain ⟨hnone, hjob⟩ := hown.removing (f :: fs) rfl
    refine exclusive_update hmap ?_ fun j _ => ?_
    · exact hown.works rfl (fun _ => rfl) (fun he => by cases he)
        fun fs _ => ⟨hconn.trans hnone, hjob⟩
    · exact (hplaced j).frame (fun _ _ => rfl) (fun _ => ⟨rfl, hconn⟩)
        fun fs _ => hconn.trans hnone
  | unlinks =>
    have hunmapped : ∀ l, (none : Option Nat) = some l → l = lock := by simp
    refine exclusive_update hunmapped ?_ fun j _ => ?_
    · exact hown.works rfl (fun _ => rfl) (fun he => by cases he) fun fs hfs => by cases hfs
    · exact (hplaced j).frame (fun _ _ => rfl) (fun _ => ⟨rfl, rfl⟩) (hremoving j)

end

lemma Exclusive.step {s' : Pool Manager Nat (Call R)} {l : PoolLabel Nat Choice Event}
    (hC : Serial s l) (h : ActiveDb.step engine path limit s l = some s') :
    Exclusive s' := by
  cases h using Pool.step_cases with
  | proc i c g p hact =>
    obtain ⟨job', f', w'⟩ := p
    cases hi : s.procs i with
    | mk job f w =>
      rw [hi] at hact
      obtain ⟨rfl, ⟨hside, hp⟩ | ⟨_, rfl, hw⟩ | ⟨hside, rfl, he⟩⟩ := act_cases _ _ _ hact
      · exact hs.polls hi (fun hf => hC.create i c rfl hside (by rw [hi]; exact hf)) hp
      · exact hs.works hi (runWorker_works engine path hw)
      · have hidle := hC.drop i c rfl hside
        rw [hi] at hidle
        exact hs.expires hi hidle he
  | env e g henv =>
    obtain ⟨free, checkpoint, rfl⟩ := env_cases henv
    obtain ⟨lock, hmap, hplaced⟩ := hs
    refine ⟨lock, hmap, fun j => ?_⟩
    refine (hplaced j).frame (fun _ _ => rfl) (fun he => ?_) fun fs _ => Disk.conn_shut _ _
    exact absurd ((hplaced j).executing he).1 (by simp [free])

end

lemma Start.exclusive (h : Start s) : Exclusive s := by
  refine ⟨s.shared.lockMap.getD 0, fun l hl => by simp [hl], fun i => ⟨?_, ?_, ?_, ?_, ?_⟩⟩
  · simp [Call.lock, h.future i]
  · simp [h.future i]
  · simp [h.worker i, Worker.underWay]
  · simp [h.worker i, Worker.executing]
  · simp [h.worker i]

/-- If a new lock object is made only when nobody has an old one, and no call is dropped whose
worker is under way, at most one call holds a lock of the Cell, and nobody executes while files are
removed. -/
theorem lock_exclusive {s₀ s : Pool Manager Nat (Call R)} {ls : List (PoolLabel Nat Choice Event)}
    (h₀ : Start s₀) (hC : Meets (step engine path limit) Serial s₀ ls)
    (hrun : exec (step engine path limit) s₀ ls = some s) :
    (∀ i j l l', (s.procs i).future = .holding l → (s.procs j).future = .holding l' → i = j) ∧
      ∀ i fs, (s.procs i).worker = .removing fs → s.shared.disk.conn = none ∧
        ∀ j, (s.procs j).worker.executing = false := by
  obtain ⟨lock, _, hplaced⟩ : Exclusive s :=
    inv_of_exec (fun hs hc hl => hs.step hc hl) h₀.exclusive hC hrun
  refine ⟨fun i j l l' hi hj => (hplaced i).unique (hplaced j) hi hj, fun i fs hfs => ?_⟩
  obtain ⟨hnone, _⟩ := (hplaced i).removing fs hfs
  refine ⟨hnone, fun j => ?_⟩
  cases he : (s.procs j).worker.executing with
  | false => rfl
  | true => exact absurd hnone ((hplaced j).executing he).2

/-- The condition as a test, for steps that find a lock object and drop no call. -/
def mapped (s : Pool Manager Nat (Call R)) : PoolLabel Nat Choice Event → Bool
  | .proc _ c => s.shared.lockMap.isSome && c.side != .timer
  | .env _ => true

lemma serial_of_mapped {l : PoolLabel Nat Choice Event} (h : mapped s l = true) : Serial s l := by
  cases l with
  | proc i c =>
    simp only [mapped, Bool.and_eq_true, bne_iff_ne] at h
    refine ⟨fun j c' hl _ _ hnone => ?_, fun j c' hl hside => ?_⟩
    · simp [hnone] at h
    · cases hl
      exact absurd hside h.2
  | env e => exact ⟨fun j c hl => (by cases hl), fun j c hl => (by cases hl)⟩

end

/-! ## Two lock objects -/

/-- A close, a call of `with_conn`, and any number of deletes. -/
def closeReadDelete (lockMap : Option Nat) : Pool Manager Nat (Call Unit) where
  shared :=
    { lockMap := lockMap, nextLock := 1, holders := fun _ => none, conns := none, disk := .blank,
      tx := none, statement := none, interrupted := false }
  procs := fun
    | 0 => ⟨.closeDatabase, .start, .unspawned⟩
    | 1 => ⟨.withConn (executeSqlQuota "SELECT 1"), .start, .unspawned⟩
    | _ => ⟨.deleteDatabase, .start, .unspawned⟩

lemma closeReadDelete_start (lockMap : Option Nat) : Start (closeReadDelete lockMap) := by
  constructor <;> rintro (_ | _ | i) <;> rfl

theorem lock_exclusive_delete :
    ∃ s, exec (step noEngine "cell" none) (closeReadDelete (some 0)) [poll 2, poll 2, work 2] =
        some s ∧ (s.procs 2).worker = .removing [.main, .wal] ∧ s.shared.disk.conn = none ∧
      ∀ j, (s.procs j).worker.executing = false := by
  obtain ⟨s, hrun, hremoving⟩ : ∃ s, exec (step noEngine "cell" none) (closeReadDelete (some 0))
      [poll 2, poll 2, work 2] = some s ∧ (s.procs 2).worker = .removing [.main, .wal] :=
    ⟨_, rfl, rfl⟩
  have hC : Meets (step noEngine "cell" none) Serial (closeReadDelete (some 0))
      [poll 2, poll 2, work 2] := meets_of_check serial_of_mapped rfl
  exact ⟨s, hrun, hremoving, (lock_exclusive (closeReadDelete_start _) hC hrun).2 2 _ hremoving⟩

/-- A call gets the lock that a close takes out of the map, and a delete makes a new one: it is
about to remove the files while the other call executes. -/
theorem delete_beside_reader :
    ∃ s, exec (step noEngine "cell" none) (closeReadDelete none)
        [poll 0, poll 1, poll 0, work 0, work 0, poll 0, poll 1, poll 2, poll 2, work 2, work 1] =
        some s ∧ (s.procs 1).future = .holding 1 ∧ (s.procs 2).future = .holding 2 ∧
      (s.procs 2).worker = .removing [.main, .wal] ∧ (s.procs 1).worker.executing = true ∧
      s.shared.disk.conn ≠ none :=
  ⟨_, rfl, rfl, rfl, rfl, rfl, by decide⟩

end Combee.DataNode.ActiveDb
