import Combee.Cluster.Promotion

/-!
# EmptyReplica — what a failover promotes

`replicate_from_primary` answers whether it has applied an archive, and `failover_cell` throws the
answer away: a replica that has never seen the data is promoted just like one that has.

`download_snapshot` writes every download of a Cell, main file or WAL, to one staging file next to
the database and renames that into place. `stagedStep` is the cluster with these files: a rename
puts in place what the staging file of the node holds by then, whoever has written it.
-/

namespace Combee.Cluster

open Foundation Storage
open Function (update update_of_ne)

/-! ## The staging file -/

/-- What a process does next to the staging file. -/
inductive Staging where
  | fetch (k : ObjKey)
  | rename

def FilesPc.staging : FilesPc → Option Staging
  | .getSnap k _ => some (.fetch k)
  | .getWal k => some (.fetch k)
  | .renameMain _ _ => some .rename
  | .renameWal _ => some .rename
  | _ => none

def RestorePc.staging : RestorePc → Option Staging
  | .files pc => pc.staging
  | .getFull k => some (.fetch k)
  | .renameFull _ => some .rename
  | _ => none

/-- The node of the staging file comes first. -/
def Proc.staging : Proc → Option (NodeId × Staging)
  | .failover _ (.pulling _ _ c (.files pc)) => pc.staging.map (c.node, ·)
  | .replicaLoop n (.pulling (.files pc)) => pc.staging.map (n, ·)
  | .migrate _ _ (.restoring _ _ c pc) => pc.staging.map (c.node, ·)
  | .restore _ (.restoring n pc) => pc.staging.map (n, ·)
  | _ => none

def FilesPc.take (bytes : List Nat) : FilesPc → FilesPc
  | .renameMain _ wal => .renameMain bytes wal
  | .renameWal _ => .renameWal bytes
  | pc => pc

def RestorePc.take (bytes : List Nat) : RestorePc → RestorePc
  | .files pc => .files (pc.take bytes)
  | .renameFull _ => .renameFull bytes
  | pc => pc

/-- The process about to rename a staging file that holds `bytes`. -/
def Proc.take (bytes : List Nat) : Proc → Proc
  | .failover a (.pulling old r c (.files pc)) =>
    .failover a (.pulling old r c (.files (pc.take bytes)))
  | .replicaLoop n (.pulling (.files pc)) => .replicaLoop n (.pulling (.files (pc.take bytes)))
  | .migrate a dest (.restoring source g c pc) =>
    .migrate a dest (.restoring source g c (pc.take bytes))
  | .restore a (.restoring n pc) => .restore a (.restoring n (pc.take bytes))
  | p => p

inductive PullEvent where
  /-- The archive has been listed on the node `n`, as it was then. -/
  | listed (n : NodeId) (store : ObjectStore Archived)
  | fetched (k : ObjKey) (o : Archived)
  /-- The main file of the node `n` has been replaced. -/
  | placed (n : NodeId) (bytes : List Nat)

/-- The cluster with the staging file of each node; `log` has what the pull of each failover comes
across, and is read by no one. -/
structure Staged where
  cluster : System
  files : NodeId → Option (List Nat)
  log : Nat → List PullEvent

namespace Staged

/-- The rename of a file that is not there fails. -/
def sees (s : Staged) (i : Nat) (ch : Choice) : Proc × Choice :=
  match (s.cluster.procs i).staging with
  | some (n, .rename) =>
    match s.files n with
    | some bytes => ((s.cluster.procs i).take bytes, ch)
    | none => (s.cluster.procs i, { ch with ok := false })
  | _ => (s.cluster.procs i, ch)

def filesAfter (s : Staged) (i : Nat) (ch : Choice) : NodeId → Option (List Nat) :=
  match (s.cluster.procs i).staging with
  | some (n, .fetch k) => update s.files n <|
    match ch.ok, s.cluster.shared.store.lookup k with
    | true, some o => some o.bytes
    | _, _ => s.files n
  | some (n, .rename) => update s.files n (if ch.ok then none else s.files n)
  | none => s.files

/-- Only what succeeds is logged. -/
def events (s : Staged) (i : Nat) (ch : Choice) : List PullEvent :=
  match s.cluster.procs i, ch.ok with
  | .failover _ (.pulling _ _ c (.files .list)), true => [.listed c.node s.cluster.shared.store]
  | .failover _ (.pulling _ _ _ (.files (.getSnap k _))), true =>
    ((s.cluster.shared.store.lookup k).map (.fetched k)).toList
  | .failover _ (.pulling _ _ c (.files (.renameMain _ _))), true =>
    ((s.files c.node).map (.placed c.node)).toList
  | _, _ => []

end Staged

def stagedStep (s : Staged) : Label → Option Staged
  | .proc i ch => (act s.cluster.shared i (s.sees i ch).1 (s.sees i ch).2).map fun (w, p) =>
    ⟨⟨w, update s.cluster.procs i p⟩, s.filesAfter i ch,
      update s.log i (s.log i ++ s.events i ch)⟩
  | .env e => (step s.cluster (.env e)).map fun t => { s with cluster := t }

/-- No other process moves at the staging file that the process `i` is at. -/
def Alone (i : Nat) (s : Staged) (l : Label) : Prop :=
  ∀ j ch n u v, l = .proc j ch → j ≠ i → (s.cluster.procs i).staging = some (n, u) →
    (s.cluster.procs j).staging ≠ some (n, v)

/-- The failover has put an archived snapshot in the place of the main file of `r`. -/
def Filled (s : Staged) (i : Nat) (r : NodeId) : Prop :=
  ∃ rev o, .fetched (.snapshot rev) o ∈ s.log i ∧ .placed r o.bytes ∈ s.log i

/-- The pull of the failover is made on `r`, and when it lists the archive there is a snapshot. -/
def FindsSnapshot (s : Staged) (i : Nat) (r : NodeId) : Prop :=
  ∃ store rev, .listed r store ∈ s.log i ∧ .snapshot rev ∈ store

/-! ## The invariant -/

def FilesPc.late : FilesPc → Bool
  | .list => false
  | .getSnap _ _ => false
  | .renameMain _ _ => false
  | _ => true

def PullPc.late : PullPc → Bool
  | .close => false
  | .files pc => pc.late
  | _ => true

/-- The replica's main file has been replaced, if it is to be. -/
def FailoverPc.late : FailoverPc → Bool
  | .start => false
  | .gotRecord _ _ => false
  | .pulling _ _ _ pc => pc.late
  | _ => true

def Concluded (log : List PullEvent) : Prop :=
  ∃ n store, (log = [.listed n store] ∧ ∀ rev, .snapshot rev ∉ store) ∨
    ∃ rev o, log = [.listed n store, .fetched (.snapshot rev) o, .placed n o.bytes] ∧
      .snapshot rev ∈ store

/-- What the log of the failover is where it stands. -/
def Tracks (log : List PullEvent) (files : NodeId → Option (List Nat)) : FailoverPc → Prop
  | .failed => True
  | .pulling _ _ c (.files (.getSnap k _)) =>
    ∃ store rev, log = [.listed c.node store] ∧ k = .snapshot rev ∧ .snapshot rev ∈ store
  | .pulling _ _ c (.files (.renameMain _ _)) =>
    ∃ store rev o, log = [.listed c.node store, .fetched (.snapshot rev) o] ∧
      .snapshot rev ∈ store ∧ files c.node = some o.bytes
  | pc => if pc.late then Concluded log else log = []

/-- The process `i` is a failover, and its log is right for where it stands. -/
def OnTrack (i a : Nat) (s : Staged) : Prop :=
  ∃ pc, s.cluster.procs i = .failover a pc ∧ Tracks (s.log i) s.files pc

/-- Where a step of `restore_from_incr` leaves the failover. -/
def FilesPc.next (old : Option NodeId) (r : NodeId) (c : Client) : FilesPc → FailoverPc
  | .done true => .pulling old r c .clear
  | .done false => .promote old r c
  | .failed => .failed
  | pc => .pulling old r c (.files pc)

section Steps

variable {w w' : World} {s s' : Staged} {i a : Nat} {n : NodeId} {pc : FailoverPc} {ch : Choice}
  {files : NodeId → Option (List Nat)} {log : List PullEvent} {l : Label}

lemma FilesMove.late {pc pc' : FilesPc} (h : FilesMove w n pc w' pc') (hpc : pc.late = true) :
    pc'.pull.late = true := by
  cases h <;> first | rfl | cases hpc

lemma PullMove.late {pc pc' : PullPc} (h : PullMove w n pc w' pc') (hpc : pc.late = true) :
    pc'.late = true := by
  cases h with
  | files h => exact h.late hpc
  | clear => rfl
  | close | fail => cases hpc

lemma FailoverMove.late {pc' : FailoverPc} (h : FailoverMove w a ch pc w' pc')
    (hpc : pc.late = true) : pc'.late = true := by
  cases h with
  | pull h => exact h.late hpc
  | read | connect => cases hpc
  | _ => rfl

lemma tracks_late (hpc : pc.late = true) (h : Concluded log) : Tracks log files pc := by
  unfold Tracks
  split
  · trivial
  · cases hpc
  · cases hpc
  · rwa [if_pos hpc]

lemma Tracks.of_late (h : Tracks log files pc) (hpc : pc.late = true) (hne : pc ≠ .failed) :
    Concluded log := by
  unfold Tracks at h
  split at h
  · exact absurd rfl hne
  · cases hpc
  · cases hpc
  · rwa [if_pos hpc] at h

/-- Only the rename of the main file depends on the staging file. -/
lemma Tracks.of_files {files' : NodeId → Option (List Nat)} (hs : Tracks log files pc)
    (hfiles : ∀ n u, (Proc.failover a pc).staging = some (n, u) → files' n = files n) :
    Tracks log files' pc := by
  cases pc with
  | pulling old r c ppc =>
    cases ppc with
    | files fpc =>
      cases fpc with
      | renameMain =>
        rcases hs with ⟨store, rev, o, hlog, hrev, hfile⟩
        exact ⟨store, rev, o, hlog, hrev, (hfiles _ _ rfl).trans hfile⟩
      | _ => exact hs
    | _ => exact hs
  | _ => exact hs

lemma filesAfter_of_ne {j : Nat} (hn : ∀ u, (s.cluster.procs j).staging ≠ some (n, u)) :
    s.filesAfter j ch n = s.files n := by
  unfold Staged.filesAfter
  cases hj : (s.cluster.procs j).staging with
  | none => rfl
  | some x =>
    have hne : n ≠ x.1 := by
      rintro rfl
      exact hn x.2 hj
    rcases x with ⟨m, k | _⟩ <;> exact update_of_ne hne _ _

lemma stagedStep_proc_eq_some : stagedStep s (.proc i ch) = some s' ↔
    ∃ w p, act s.cluster.shared i (s.sees i ch).1 (s.sees i ch).2 = some (w, p) ∧
      s' = ⟨⟨w, update s.cluster.procs i p⟩, s.filesAfter i ch,
        update s.log i (s.log i ++ s.events i ch)⟩ := by
  simp only [stagedStep, Option.map_eq_some_iff, Prod.exists, eq_comm (a := s')]

/-- A step of the failover, told by what it sees at the staging file. -/
lemma stagedStep_own {pc₁ : FailoverPc} {ch₁ : Choice}
    (hsees : s.sees i ch = (.failover a pc₁, ch₁)) (h : stagedStep s (.proc i ch) = some s') :
    ∃ w pc', failoverStep s.cluster.shared a pc₁ ch₁ = some (w, pc') ∧
      s'.cluster.procs i = .failover a pc' ∧ s'.files = s.filesAfter i ch ∧
      s'.log i = s.log i ++ s.events i ch := by
  rcases stagedStep_proc_eq_some.mp h with ⟨w, p, hact, rfl⟩
  rw [hsees] at hact
  rcases of_map_step hact with ⟨pc', hstep, rfl⟩
  exact ⟨w, pc', hstep, by simp, rfl, by simp⟩

lemma stagedStep_files {old : Option NodeId} {r : NodeId} {c : Client} {fpc : FilesPc}
    (hsees : s.sees i ch = (.failover a (.pulling old r c (.files fpc)), ch))
    (h : stagedStep s (.proc i ch) = some s') :
    ∃ w fpc', filesStep s.cluster.shared c.node fpc ch = some (w, fpc') ∧
      s'.cluster.procs i = .failover a (fpc'.next old r c) ∧ s'.files = s.filesAfter i ch ∧
      s'.log i = s.log i ++ s.events i ch := by
  rcases stagedStep_own hsees h with ⟨w, pc', hstep, hpc', hrest⟩
  rcases of_map_step hstep with ⟨ppc, hpull, rfl⟩
  rcases of_map_step hpull with ⟨fpc', hmove, rfl⟩
  refine ⟨w, fpc', hmove, hpc'.trans ?_, hrest⟩
  cases fpc'
  case done applied => cases applied <;> rfl
  all_goals rfl

lemma sees_late (hp : s.cluster.procs i = .failover a pc) (hpc : pc.late = true) :
    s.events i ch = [] ∧ ∃ pc₁ ch₁, s.sees i ch = (.failover a pc₁, ch₁) ∧ pc₁.late = true ∧
      (pc = .failed → pc₁ = .failed) := by
  unfold Staged.events Staged.sees
  rw [hp]
  cases pc with
  | start | gotRecord => cases hpc
  | pulling old r c ppc =>
    cases ppc with
    | files fpc =>
      cases fpc with
      | list | getSnap | renameMain => cases hpc
      | renameWal bytes =>
        refine ⟨rfl, ?_⟩
        simp only [Proc.staging, FilesPc.staging, Option.map_some]
        split
        · exact ⟨_, _, rfl, rfl, by rintro ⟨⟩⟩
        · exact ⟨_, _, rfl, rfl, id⟩
      | _ => exact ⟨rfl, _, _, rfl, rfl, id⟩
    | _ => exact ⟨rfl, _, _, rfl, hpc, id⟩
  | _ => exact ⟨rfl, _, _, rfl, rfl, id⟩

lemma Tracks.late_step (hs : Tracks (s.log i) s.files pc)
    (hp : s.cluster.procs i = .failover a pc) (hpc : pc.late = true)
    (h : stagedStep s (.proc i ch) = some s') : OnTrack i a s' := by
  rcases sees_late hp hpc with ⟨hevents, pc₁, ch₁, hsees, hlate, hfailed⟩
  rcases stagedStep_own hsees h with ⟨w, pc', hstep, hpc', -, hlog⟩
  have hne : pc ≠ .failed := by
    intro heq
    rw [hfailed heq] at hstep
    cases hstep
  refine ⟨pc', hpc', tracks_late ((failoverStep_move hstep).late hlate) ?_⟩
  rw [hlog, hevents, List.append_nil]
  exact hs.of_late hpc hne

lemma early_step (hs : s.log i = [])
    (hp : s.cluster.procs i = .failover a pc) (hstaging : (Proc.failover a pc).staging = none)
    (hevents : s.events i ch = [])
    (h : stagedStep s (.proc i ch) = some s')
    (hnext : ∀ w pc', failoverStep s.cluster.shared a pc ch = some (w, pc') →
      Tracks [] s'.files pc') : OnTrack i a s' := by
  have hsees : s.sees i ch = (.failover a pc, ch) := by simp [Staged.sees, hp, hstaging]
  rcases stagedStep_own hsees h with ⟨w, pc', hstep, hpc', -, hlog⟩
  refine ⟨pc', hpc', ?_⟩
  rw [hlog, hevents, hs, List.append_nil]
  exact hnext w pc' hstep

section Files

variable {old : Option NodeId} {r : NodeId} {c : Client} {wal : Option ObjKey}
  (h : stagedStep s (.proc i ch) = some s')
include h

lemma onTrack_list (hs : s.log i = [])
    (hp : s.cluster.procs i = .failover a (.pulling old r c (.files .list))) : OnTrack i a s' := by
  have hsees : s.sees i ch = (.failover a (.pulling old r c (.files .list)), ch) := by
    simp [Staged.sees, hp, Proc.staging, FilesPc.staging]
  rcases stagedStep_files hsees h with ⟨w, fpc', hlist, hpc', -, hlog⟩
  refine ⟨_, hpc', ?_⟩
  simp only [filesStep] at hlist
  split at hlist
  · rename_i hok
    have hlisted : s'.log i = [.listed c.node s.cluster.shared.store] := by
      rw [hlog, hs]
      simp [Staged.events, hp, hok]
    split at hlist <;> rename_i hlatest <;> cases hlist
    · exact tracks_late rfl ⟨_, _, .inl ⟨hlisted, latestIncr_eq_none.mp hlatest⟩⟩
    · rcases latestIncr_eq_some.mp hlatest with ⟨rev, hk, hrev, _⟩
      exact ⟨_, rev, hlisted, hk, hrev⟩
  · cases hlist
    trivial

lemma onTrack_getSnap {k : ObjKey}
    (hs : Tracks (s.log i) s.files (.pulling old r c (.files (.getSnap k wal))))
    (hp : s.cluster.procs i = .failover a (.pulling old r c (.files (.getSnap k wal)))) :
    OnTrack i a s' := by
  rcases hs with ⟨store, rev, hbefore, rfl, hrev⟩
  have hsees : s.sees i ch =
      (.failover a (.pulling old r c (.files (.getSnap (.snapshot rev) wal))), ch) := by
    simp [Staged.sees, hp, Proc.staging, FilesPc.staging]
  rcases stagedStep_files hsees h with ⟨w, fpc', hget, hpc', hfiles, hlog⟩
  refine ⟨_, hpc', ?_⟩
  simp only [filesStep] at hget
  split at hget
  · rename_i o hok ho
    cases hget
    refine ⟨store, rev, o, ?_, hrev, ?_⟩
    · rw [hlog, hbefore]
      simp [Staged.events, hp, hok, ho]
    · rw [hfiles]
      simp [Staged.filesAfter, hp, Proc.staging, FilesPc.staging, hok, ho]
  · cases hget
    trivial

/-- What is renamed is what this failover has fetched. -/
lemma onTrack_renameMain {bytes : List Nat}
    (hs : Tracks (s.log i) s.files (.pulling old r c (.files (.renameMain bytes wal))))
    (hp : s.cluster.procs i = .failover a (.pulling old r c (.files (.renameMain bytes wal)))) :
    OnTrack i a s' := by
  rcases hs with ⟨store, rev, o, hbefore, hrev, hfile⟩
  have hsees : s.sees i ch =
      (.failover a (.pulling old r c (.files (.renameMain o.bytes wal))), ch) := by
    simp [Staged.sees, hp, Proc.staging, FilesPc.staging, hfile, Proc.take, FilesPc.take]
  rcases stagedStep_files hsees h with ⟨w, fpc', hrename, hpc', -, hlog⟩
  refine ⟨_, hpc', ?_⟩
  simp only [filesStep] at hrename
  split at hrename
  · rename_i hok
    cases hrename
    refine tracks_late (by cases wal <;> rfl) ⟨c.node, store, .inr ⟨rev, o, ?_, hrev⟩⟩
    rw [hlog, hbefore]
    simp [Staged.events, hp, hok, hfile]
  · cases hrename
    trivial

end Files

lemma Tracks.own_step (hs : Tracks (s.log i) s.files pc)
    (hp : s.cluster.procs i = .failover a pc) (h : stagedStep s (.proc i ch) = some s') :
    OnTrack i a s' := by
  cases pc with
  | start =>
    refine early_step hs hp rfl (by simp [Staged.events, hp]) h fun w pc' hstep => ?_
    cases failoverStep_move hstep with
    | read => rfl
    | refused => trivial
  | gotRecord old r =>
    refine early_step hs hp rfl (by simp [Staged.events, hp]) h fun w pc' hstep => ?_
    cases failoverStep_move hstep with
    | connect => rfl
    | refused => trivial
  | pulling old r c ppc =>
    cases ppc with
    | close =>
      refine early_step hs hp rfl (by simp [Staged.events, hp]) h fun w pc' hstep => ?_
      rcases of_map_step hstep with ⟨ppc, hpull, rfl⟩
      cases pullStep_move hpull with
      | close => rfl
      | fail => trivial
    | files fpc =>
      cases fpc with
      | list => exact onTrack_list h hs hp
      | getSnap => exact onTrack_getSnap h hs hp
      | renameMain => exact onTrack_renameMain h hs hp
      | _ => exact hs.late_step hp rfl h
    | _ => exact hs.late_step hp rfl h
  | _ => exact hs.late_step hp rfl h

lemma onTrack_step (hs : OnTrack i a s) (halone : Alone i s l) (h : stagedStep s l = some s') :
    OnTrack i a s' := by
  rcases hs with ⟨pc, hp, hs⟩
  cases l with
  | env e =>
    unfold stagedStep at h
    rcases Option.map_eq_some_iff.mp h with ⟨t, ht, rfl⟩
    rcases Pool.step_env_eq_some.mp ht with ⟨w, _, rfl⟩
    -- a restart leaves the failover where it is, or cuts it off
    cases pc with
    | pulling old r c ppc =>
      by_cases he : c.node = e.node
      · exact ⟨.failed, by simp [hp, Proc.hit, he], trivial⟩
      · exact ⟨_, by simp [hp, Proc.hit, he], hs⟩
    | _ => exact ⟨_, congrArg (Proc.hit e) hp, hs⟩
  | proc j ch =>
    by_cases hj : j = i
    · subst hj
      exact hs.own_step hp h
    · rcases stagedStep_proc_eq_some.mp h with ⟨w, p, -, rfl⟩
      refine ⟨pc, by simpa [update_of_ne (Ne.symm hj)] using hp, ?_⟩
      simp only [update_of_ne (Ne.symm hj)]
      exact hs.of_files (a := a) fun n u hn =>
        filesAfter_of_ne fun v => halone j ch n u v rfl hj (hp ▸ hn)

end Steps

/-- The primary holds the write 4, which is archived under the key `k`; a failover is about to
begin. -/
def archivedAs (k : ObjKey) : Staged where
  cluster.shared := { newCell with
    disks := update newCell.disks ⟨1⟩ (Disk.blank.commit 4)
    store := newCell.store.insert k ⟨[4], ⟨1⟩, 0⟩ }
  cluster.procs := fun _ => .failover 0 .start
  files := fun _ => none
  log := fun _ => []

end Combee.Cluster
