import Combee.Cluster.SplitBrain

/-!
# DemotedArchives — what the old primary goes on uploading

The incremental-backup loop of a node goes over the databases that are open there, whatever the
node's role is, and `latest_incr` picks the greatest millisecond, whoever wrote it. So the old
primary of a failover goes on publishing the state it was left with, next to the archives of the new
one.
-/

namespace Combee.Cluster

open Foundation Storage

def revOf : ObjKey → Option Nat
  | .full _ _ => none
  | .snapshot rev => some rev
  | .wal rev => some rev

/-- The object `k` was uploaded by the node `o` when the record's generation was `g` or more. -/
def UploadedSince (w : World) (o : NodeId) (g : Int) (k : ObjKey) : Prop :=
  ∃ obj, w.store.lookup k = some obj ∧ obj.node = o ∧ g ≤ obj.generation

/-- A part of the archive that `latest_incr` chooses is the object `k`. -/
def Chosen (w : World) (k : ObjKey) : Prop :=
  ∃ snap wal, latestIncr w.store = some (snap, wal) ∧ (k = snap ∨ wal = some k)

def Proc.putting : Proc → Option (NodeId × Nat)
  | .backupLoop n (.stamped _ _ rev) => some (n, rev)
  | .backupLoop n (.snapped _ rev) => some (n, rev)
  | _ => none

/-- Where `o` is not the Cell's storage node, its puts are under milliseconds that a main file has
overtaken. -/
def Overtaken (o : NodeId) (s : System) : Label → Prop
  | .proc i _ => ∀ rev, (s.procs i).putting = some (o, rev) →
      s.shared.record.storageNodeId ≠ some o → ∃ rev', .snapshot rev' ∈ s.shared.store ∧ rev < rev'
  | .env _ => True

/-! ## What a move does to the store -/

lemma ProcMove.store {w w' : World} {i : Nat} {p p' : Proc} (h : ProcMove w i p w' p') :
    w'.store = w.store ∨ ∃ k obj rev, p.putting = some (obj.node, rev) ∧ revOf k = some rev ∧
      obj.generation = w.record.generation ∧ w'.store = w.store.insert k obj := by
  cases h with
  | write h => exact .inl h.frame.2.2
  | failover h =>
    cases h with
    | pull h | pulled h | broken h =>
      obtain ⟨d, c, rfl⟩ := h.frame
      exact .inl rfl
    | _ => exact .inl rfl
  | replicaLoop h =>
    cases h with
    | wait | duty => exact .inl rfl
    | pull h =>
      obtain ⟨d, c, rfl⟩ := h.frame
      exact .inl rfl
  | backupLoop h =>
    cases h with
    | @putSnap snap wal rev => exact .inr ⟨.snapshot rev, _, rev, rfl, rfl, rfl, rfl⟩
    | @putWal bytes rev => exact .inr ⟨.wal rev, _, rev, rfl, rfl, rfl, rfl⟩
    | _ => exact .inl rfl

/-! ## The old primary's archives stay behind -/

section Safety

variable {R : DatabaseRecord} {r o : NodeId} {s s' : System} {l : Label}

/-- The invariant: what `o` has uploaded since the promotion has been overtaken. -/
structure Behind (R : DatabaseRecord) (r o : NodeId) (s : System) : Prop where
  around : Around R r s
  overtaken : ∀ k rev, UploadedSince s.shared o (R.generation + 1) k → revOf k = some rev →
    ∃ rev', .snapshot rev' ∈ s.shared.store ∧ rev < rev'

lemma Behind.kept (hR : Promotable R r) (ho : o ≠ r) (hs : Behind R r o s)
    (hC : Overtaken o s l) (h : step s l = some s') : Behind R r o s' := by
  refine ⟨hs.around.kept hR h, ?_⟩
  rcases hs.around.shared_step h with ⟨i, ch, rfl, hmove⟩ | ⟨e, _, hw⟩
  · rcases hmove.store with hstore | ⟨k, obj, rev, hput, hrev, hgen, hstore⟩
    · simpa only [UploadedSince, hstore] using hs.overtaken
    · intro k' rev' ⟨obj', hlook, hnode, hlate⟩ hrev'
      -- what has overtaken an object is still in the store
      suffices hover : ∃ top, .snapshot top ∈ s.shared.store ∧ rev' < top by
        obtain ⟨top, htop, hlt⟩ := hover
        exact ⟨top, by rw [hstore]; exact (AList.mem_insert _).mpr (.inr htop), hlt⟩
      by_cases hk : k' = k
      · subst hk
        rw [hstore, AList.lookup_insert] at hlook
        obtain rfl := Option.some.inj hlook
        obtain rfl : rev = rev' := Option.some.inj (hrev.symm.trans hrev')
        refine hC rev (by rw [hput, hnode]) fun hst => ?_
        -- a put before the promotion carries the older generation;
        -- after it, the storage node is another one
        rcases hs.around.shared.record with hrec | hrec
        · rw [hgen, hrec] at hlate
          omega
        · rw [hrec] at hst
          exact ho (Option.some.inj hst).symm
      · rw [hstore, AList.lookup_insert_ne hk] at hlook
        exact hs.overtaken k' rev' ⟨obj', hlook, hnode, hlate⟩ hrev'
  · rw [hw]
    exact hs.overtaken

lemma Behind.not_chosen (hs : Behind R r o s) {k : ObjKey} (hk : Chosen s.shared k) :
    ¬ UploadedSince s.shared o (R.generation + 1) k := by
  intro hup
  obtain ⟨snap, wal, hl, hpart⟩ := hk
  obtain ⟨rev, rfl, _, hmax, rfl⟩ := latestIncr_eq_some.mp hl
  have hrev : revOf k = some rev := by
    rcases hpart with rfl | hpart
    · rfl
    · split at hpart
      · obtain rfl := Option.some.inj hpart
        rfl
      · cases hpart
  obtain ⟨top, htop, hlt⟩ := hs.overtaken k rev hup hrev
  have := hmax top htop
  omega

end Safety

/-- **The archives of a demoted primary are not used on overtaken runs.** After a failover from `o`,
`latest_incr` chooses nothing that `o` has uploaded since the promotion. -/
theorem demoted_archives_unused {R : DatabaseRecord} {r o : NodeId} {s₀ s : System}
    {ls : List Label} (hready : Ready R r s₀)
    (hstore : ∀ k obj, s₀.shared.store.lookup k = some obj → obj.generation ≤ R.generation)
    (h : exec step s₀ ls = some s) (hd : Demoted s o) (hC : Meets step (Overtaken o) s₀ ls)
    {k : ObjKey} (hk : Chosen s.shared k) :
    ¬ UploadedSince s.shared o s.shared.record.generation k := by
  have haround : Around R r s :=
    inv_of_exec_all (fun hs h => hs.kept hready.promotable h) hready.around h
  obtain ⟨j, r', hj, ho⟩ := hd
  obtain ⟨rfl, hrec⟩ := (haround.procs j).promotion (.inr hj)
  have hbehind : Behind R r' o s := by
    refine inv_of_exec (fun hs hC h => hs.kept hready.promotable ho hC h)
      ⟨hready.around, fun k rev hup => ?_⟩ hC h
    obtain ⟨obj, hlook, _, hlate⟩ := hup
    have := hstore k obj hlook
    omega
  rw [hrec]
  exact hbehind.not_chosen hk

/-! ## Both primaries upload -/

/-- A failover as process 1, the backup loops of node 1 and node 2, and client writes. -/
def uploading : System where
  shared := newCell
  procs := fun i => match i with
    | 1 => .failover 1 .start
    | 2 => .backupLoop ⟨1⟩ .idle
    | 3 => .backupLoop ⟨2⟩ .idle
    | 4 => .write 2 .start
    | _ => .write 0 .start

lemma uploading_ready : Ready uploading.shared.record ⟨2⟩ uploading where
  promotable := ⟨rfl, by decide, by decide⟩
  record := rfl
  fences := by simp [uploading, newCell]
  clients := by simp [uploading, newCell]
  procs
    | 0 => trivial
    | 1 => trivial
    | 2 => trivial
    | 3 => trivial
    | 4 => trivial
    | _ + 5 => trivial

/-- Node 1 takes a write, and then node 2 is promoted, with both fences in place. -/
def writeAndPromote : List Label :=
  List.replicate 5 (.proc 0 {}) ++ List.replicate 9 (.proc 1 {})

/-- Node 2 takes a write and uploads at millisecond 10; node 1 uploads at millisecond `ms`. -/
def bothUpload (ms : Nat) : List Label :=
  List.replicate 5 (.proc 4 {}) ++ List.replicate 5 (.proc 3 { ms := 10 }) ++
    List.replicate 5 (.proc 2 { ms := ms })

/-- The old primary uploads last, and its archive is the one that is chosen. -/
theorem demoted_archive_chosen : ∃ s₁ s₂,
    exec step uploading writeAndPromote = some s₁ ∧ Demoted s₁ ⟨1⟩ ∧
    exec step s₁ (bothUpload 20) = some s₂ ∧
    (s₂.procs 4).ackedBy = some ⟨2⟩ ∧
    Chosen s₂.shared (.snapshot 20) ∧
    UploadedSince s₂.shared ⟨1⟩ s₂.shared.record.generation (.snapshot 20) :=
  ⟨_, _, rfl, ⟨1, ⟨2⟩, rfl, by decide⟩, rfl, rfl, ⟨_, _, rfl, .inl rfl⟩, ⟨_, rfl, rfl, by decide⟩⟩

/-- A test for `Overtaken` at node 1. -/
def overtakenTest (s : System) : Label → Bool
  | .proc i _ => (s.procs i).putting.all fun (n, rev) =>
    n != ⟨1⟩ || s.shared.record.storageNodeId == some ⟨1⟩ ||
      s.shared.store.keys.any fun
        | .snapshot rev' => decide (rev < rev')
        | _ => false
  | .env _ => true

lemma overtaken_of_test {s : System} {l : Label} (h : overtakenTest s l = true) :
    Overtaken ⟨1⟩ s l := by
  cases l with
  | env => trivial
  | proc i ch =>
    intro rev hput hst
    simp only [overtakenTest, hput, Option.all_some, bne_self_eq_false, Bool.false_or,
      Bool.or_eq_true, beq_iff_eq, hst, false_or, List.any_eq_true] at h
    obtain ⟨k, hk, htest⟩ := h
    cases k with
    | snapshot rev' => exact ⟨rev', AList.mem_keys.mpr hk, of_decide_eq_true htest⟩
    | full | wal => cases htest

/-- If the clock of the old primary is behind, the new primary's archive is chosen. -/
theorem demoted_archives_unused_behind : ∃ s,
    exec step uploading (writeAndPromote ++ bothUpload 5) = some s ∧
    Chosen s.shared (.snapshot 10) ∧
    ¬ UploadedSince s.shared ⟨1⟩ s.shared.record.generation (.snapshot 10) := by
  obtain ⟨s, hs, hd, hk⟩ : ∃ s, exec step uploading (writeAndPromote ++ bothUpload 5) = some s ∧
      Demoted s ⟨1⟩ ∧ Chosen s.shared (.snapshot 10) :=
    ⟨_, rfl, ⟨1, ⟨2⟩, rfl, by decide⟩, ⟨_, _, rfl, .inl rfl⟩⟩
  have hC : Meets step (Overtaken ⟨1⟩) uploading (writeAndPromote ++ bothUpload 5) :=
    meets_of_check overtaken_of_test rfl
  exact ⟨s, hs, hk,
    demoted_archives_unused uploading_ready (by simp [uploading, newCell]) hs hd hC hk⟩

end Combee.Cluster
