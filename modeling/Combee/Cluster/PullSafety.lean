import Combee.Cluster.Promotion

/-!
# PullSafety — replica pulls and acknowledged writes

`replicate_from_primary` closes the node's database and renames archived files over it. Nothing
ties the pull to the node's role at that time: the replica loop works through a duty list read
earlier, and a second `failover_cell` pulls on the node that the first has promoted.
-/

namespace Combee.Cluster

open Foundation Storage

/-! ## Replacing files -/

/-- The next step of `restore_from_incr` replaces a file. -/
def FilesPc.replaces : FilesPc → Bool
  | .renameMain _ _ => true
  | .renameWal _ => true
  | .removeWal => true
  | _ => false

def PullPc.replaces : PullPc → Bool
  | .files pc => pc.replaces
  | _ => false

namespace Proc

/-- The node on which the next step of a pull replaces a file. -/
def replacing : Proc → Option NodeId
  | .replicaLoop n (.pulling pc) => if pc.replaces then some n else none
  | .failover _ (.pulling _ _ c pc) => if pc.replaces then some c.node else none
  | _ => none

/-- The node that has acknowledged a client write as the Cell's storage node. -/
def ackedByPrimary : Proc → Option NodeId
  | .write _ (.acked n true) => some n
  | _ => none

end Proc

/-- Files are replaced only on a node that is not the Cell's storage node and has no connection
open. -/
def Tidy (s : System) : Label → Prop
  | .proc i _ => ∀ n, (s.procs i).replacing = some n →
      s.shared.record.storageNodeId ≠ some n ∧ (s.shared.disks n).conn = none
  | .env _ => True

/-! ## What a move does to a disk -/

section Moves

variable {w w' : World} {n m : NodeId}

/-- A disk of the world after a move loses nothing, unless the move replaces one of its files. -/
def DiskStep (w w' : World) (replacing : Option NodeId) (m : NodeId) : Prop :=
  ((w.disks m).Attached → Disk.Keeps (w.disks m) (w'.disks m)) ∨
    (replacing = some m ∧ (w'.disks m).conn = (w.disks m).conn)

variable {replacing : Option NodeId}

lemma DiskStep.same (h : w'.disks = w.disks) : DiskStep w w' replacing m := by
  refine .inl fun ha => ?_
  rw [h]
  exact ha.keeps_self

lemma DiskStep.setDisk {d : Disk Nat} (h : (w.disks n).Attached → Disk.Keeps (w.disks n) d) :
    DiskStep w (w.setDisk n d) replacing m := by
  refine .inl fun ha => ?_
  by_cases hm : m = n
  · subst hm
    simpa [World.setDisk] using h ha
  · simpa [World.setDisk, hm] using ha.keeps_self

lemma DiskStep.replace {d : Disk Nat} (h : d.conn = (w.disks n).conn) :
    DiskStep w (w.setDisk n d) (some n) m := by
  by_cases hm : m = n
  · subst hm
    exact .inr ⟨rfl, by simpa [World.setDisk] using h⟩
  · refine .inl fun ha => ?_
    simpa [World.setDisk, hm] using ha.keeps_self

lemma FilesMove.diskStep {pc pc' : FilesPc} (h : FilesMove w n pc w' pc') :
    DiskStep w w' (if pc.replaces then some n else none) m := by
  cases h with
  | nothing | chosen | getSnap | getWal | keepWal | fail => exact .same rfl
  | renameMain => exact .replace rfl
  | renameWal => exact .replace rfl
  | removeWal => exact .replace rfl

lemma PullMove.diskStep {pc pc' : PullPc} (h : PullMove w n pc w' pc') :
    DiskStep w w' (if pc.replaces then some n else none) m := by
  cases h with
  | close => exact .setDisk fun ha => ha.keeps_close
  | files h => exact h.diskStep
  | clear | fail => exact .same rfl

lemma WriteMove.diskStep {i a : Nat} {ch : Choice} {pc pc' : WritePc}
    (h : WriteMove w i a ch pc w' pc') : DiskStep w w' none m := by
  cases h with
  | read | pass | fail => exact .same rfl
  | route h =>
    refine .same ?_
    rw [(routeStep_spec h).1]
  | ack caches => exact DiskStep.setDisk (w := w) fun ha => ha.keeps_commit i

lemma ProcMove.diskStep {i : Nat} {p p' : Proc} (h : ProcMove w i p w' p') :
    DiskStep w w' p.replacing m := by
  cases h with
  | write h => exact h.diskStep
  | failover h =>
    cases h with
    | pull h | pulled h | broken h => exact h.diskStep
    | _ => exact .same rfl
  | replicaLoop h =>
    cases h with
    | wait | duty => exact .same rfl
    | pull h => exact h.diskStep
  | backupLoop h =>
    cases h with
    | copy => exact .setDisk fun ha => ha.keeps_openConn
    | _ => exact .same rfl

lemma ProcMove.ackedByPrimary {i : Nat} {p p' : Proc} (h : ProcMove w i p w' p')
    (hn : p'.ackedByPrimary = some n) :
    w'.record.storageNodeId = some n ∧ i ∈ (w'.disks n).contents := by
  cases h with
  | write h =>
    cases h with
    | read | route | pass | fail => cases hn
    | @ack g m caches =>
      by_cases hs : w.record.storageNodeId = some m
      · simp only [Proc.ackedByPrimary, hs, decide_true] at hn
        cases hn
        exact ⟨hs, by simp [Disk.contents_commit]⟩
      · simp [Proc.ackedByPrimary, hs] at hn
  | failover | replicaLoop | backupLoop => cases hn

end Moves

/-! ## Acknowledged writes survive -/

section Safety

variable {R : DatabaseRecord} {r : NodeId} {s s' : System} {l : Label}

lemma ProcOk.replacing {w : World} {i : Nat} {p : Proc} {n : NodeId} (h : ProcOk R r w i p)
    (hn : p.replacing = some n) : n = r := by
  unfold Proc.replacing at hn
  split at hn
  · split at hn
    · rcases h with h | h
      · cases h
      · exact (Option.some.inj hn).symm.trans h
    · cases hn
  · split at hn
    · exact (Option.some.inj hn).symm.trans h.2.2
    · cases hn
  · cases hn

/-- Connections have the files at the paths open, and what a storage node has acknowledged is in its
database. -/
structure Durable (R : DatabaseRecord) (r : NodeId) (s : System) : Prop where
  around : Around R r s
  attached : ∀ n, (s.shared.disks n).Attached
  acked : ∀ i n, (s.procs i).ackedByPrimary = some n →
    i ∈ (s.shared.disks n).contents ∧ (n = r → s.shared.record.storageNodeId = some r)

lemma Proc.Cut.not_acked {p : Proc} (h : p.Cut) : p.ackedByPrimary = none := by
  unfold Proc.Cut at h
  split at h <;> first | rfl | exact h.elim

lemma Around.storage_kept (hs : Around R r s) (hR : Promotable R r) (h : step s l = some s')
    (hst : s.shared.record.storageNodeId = some r) : s'.shared.record.storageNodeId = some r := by
  rcases (hs.kept hR h).shared.record with hrec | hrec
  · rcases hs.shared.record with hrec0 | hrec0
    · rw [hrec, ← hrec0]
      exact hst
    · exact absurd (hrec.symm.trans (hs.promoted_kept hR h hrec0)) (ne_promotedTo R r)
  · rw [hrec]
    rfl

/-- Each disk loses nothing in a tidy step, unless it is the replica's before the promotion. -/
lemma Durable.disk_step (hs : Durable R r s) (hC : Tidy s l) (h : step s l = some s')
    (n : NodeId) : (s'.shared.disks n).Attached ∧
      ((s.shared.disks n).contents ⊆ (s'.shared.disks n).contents ∨
        (n = r ∧ s.shared.record.storageNodeId ≠ some r)) := by
  rcases hs.around.shared_step h with ⟨i, ch, rfl, hmove⟩ | ⟨e, _, hw⟩
  · rcases hmove.diskStep (m := n) with hkeep | ⟨hrep, hconn⟩
    · exact ⟨(hkeep (hs.attached n)).attached, .inl (hkeep (hs.attached n)).subset⟩
    -- a file is replaced: on the replica, before it is the storage node
    · obtain ⟨hst, hclosed⟩ := hC n hrep
      obtain rfl := (hs.around.procs i).replacing hrep
      exact ⟨Disk.attached_of_closed (hconn.trans hclosed), .inr ⟨rfl, hst⟩⟩
  · rw [hw]
    by_cases hn : n = e.node
    · subst hn
      have hkeep := (hs.attached e.node).keeps_crash
      exact ⟨by simpa [World.restart] using hkeep.attached,
        .inl (by simpa [World.restart] using hkeep.subset)⟩
    · exact ⟨by simpa [World.restart, hn] using hs.attached n, .inl (by simp [World.restart, hn])⟩

lemma Durable.kept (hR : Promotable R r) (hs : Durable R r s) (hC : Tidy s l)
    (h : step s l = some s') : Durable R r s' := by
  refine ⟨hs.around.kept hR h, fun n => (hs.disk_step hC h n).1, fun j n hj => ?_⟩
  -- a write that had been acknowledged before the step
  have hold : (s.procs j).ackedByPrimary = some n → j ∈ (s'.shared.disks n).contents ∧
      (n = r → s'.shared.record.storageNodeId = some r) := by
    intro hj
    obtain ⟨hmem, hst⟩ := hs.acked j n hj
    refine ⟨?_, fun hn => hs.around.storage_kept hR h (hst hn)⟩
    -- nothing is lost, or it is lost on the replica, which had acknowledged nothing yet
    rcases (hs.disk_step hC h n).2 with hsub | ⟨hn, hnst⟩
    · exact hsub hmem
    · exact absurd (hst hn) hnst
  rcases hs.around.seen_step (fun _ hp => hp.not_acked) h hj with hj | ⟨ch, _, hmove⟩
  · exact hold hj
  · obtain ⟨hst, hmem⟩ := hmove.ackedByPrimary hj
    exact ⟨hmem, fun hn => hn ▸ hst⟩

end Safety

/-- **Pulls destroy no acknowledged write on tidy runs.** What a node has acknowledged as the
storage node is readable there, also for a new connection. -/
theorem acked_writes_survive_pulls {R : DatabaseRecord} {r n : NodeId} {s₀ s : System}
    {ls : List Label} (hready : Ready R r s₀) (hdisks : ∀ n, (s₀.shared.disks n).Attached)
    (h : exec step s₀ ls = some s) (hC : Meets step Tidy s₀ ls) (i : Nat)
    (hi : (s.procs i).ackedByPrimary = some n) :
    i ∈ (s.shared.disks n).contents ∧ i ∈ (s.shared.disks n).onDisk := by
  have hdur₀ : Durable R r s₀ := by
    refine ⟨hready.around, hdisks, fun j m hj => ?_⟩
    have hidle := hready.procs j
    generalize s₀.procs j = p at hj hidle
    unfold Proc.ackedByPrimary at hj
    split at hj
    · exact hidle.elim
    · cases hj
  have hdur : Durable R r s :=
    inv_of_exec (fun hs hC h => hs.kept hready.promotable hC h) hdur₀ hC h
  have hmem := (hdur.acked i n hi).1
  exact ⟨hmem, (hdur.attached n).contents_eq ▸ hmem⟩

/-! ## A stale duty list -/

/-- The primary has archived the empty database; a write, a failover and a replica loop are ready.
-/
def archivedCell : System where
  shared := { newCell with store := newCell.store.insert (.snapshot 5) ⟨[], ⟨1⟩, 0⟩ }
  procs := fun i => match i with
    | 1 => .failover 1 .start
    | 2 => .replicaLoop ⟨2⟩ .idle
    | _ => .write 0 .start

lemma archivedCell_ready : Ready archivedCell.shared.record ⟨2⟩ archivedCell where
  promotable := ⟨rfl, by decide, by decide⟩
  record := rfl
  fences := by simp [archivedCell, newCell]
  clients := by simp [archivedCell, newCell]
  procs
    | 0 => trivial
    | 1 => trivial
    | 2 => trivial
    | _ + 3 => trivial

/-- The replica loop reads the duty list; then node 2 is promoted and takes a write. -/
def promoteAndWrite : List Label :=
  .proc 2 {} :: List.replicate 13 (.proc 1 {}) ++ List.replicate 5 (.proc 0 {})

/-- The pull that the loop had on its list removes the acknowledged write from the new primary. -/
theorem pull_loses_write : ∃ s₁ s₂,
    exec step archivedCell promoteAndWrite = some s₁ ∧
    (s₁.procs 0).ackedByPrimary = some ⟨2⟩ ∧ s₁.shared.record.storageNodeId = some ⟨2⟩ ∧
    0 ∈ (s₁.shared.disks ⟨2⟩).contents ∧
    exec step s₁ (List.replicate 5 (.proc 2 {})) = some s₂ ∧
    0 ∉ (s₂.shared.disks ⟨2⟩).contents ∧ 0 ∉ (s₂.shared.disks ⟨2⟩).onDisk := by
  refine ⟨_, _, rfl, rfl, rfl, ?_, rfl, ?_, ?_⟩ <;> decide

/-- A test for `Tidy`. -/
def tidyTest (s : System) : Label → Bool
  | .proc i _ => (s.procs i).replacing.all fun n =>
    s.shared.record.storageNodeId != some n && (s.shared.disks n).conn.isNone
  | .env _ => true

lemma tidy_of_test {s : System} {l : Label} (h : tidyTest s l = true) : Tidy s l := by
  cases l with
  | env => trivial
  | proc i ch =>
    intro n hn
    simpa [tidyTest, hn] using h

theorem acked_writes_survive_pulls_promoted : ∃ s,
    exec step archivedCell promoteAndWrite = some s ∧ 0 ∈ (s.shared.disks ⟨2⟩).onDisk := by
  obtain ⟨s, hs, hacked⟩ : ∃ s, exec step archivedCell promoteAndWrite = some s ∧
      (s.procs 0).ackedByPrimary = some ⟨2⟩ := ⟨_, rfl, rfl⟩
  have htidy : Meets step Tidy archivedCell promoteAndWrite := meets_of_check tidy_of_test rfl
  exact ⟨s, hs, (acked_writes_survive_pulls archivedCell_ready
    (fun _ => Disk.attached_blank) hs htidy 0 hacked).2⟩

end Combee.Cluster
