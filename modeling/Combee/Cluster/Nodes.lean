import Combee.Cluster.World
import Combee.DataNode.Fencing

/-!
# Nodes — a data node as the cluster sees it

The cluster's model keeps of a data node's write path two points only: the moment at which the fence
lets a request in, and the later moment at which the request takes effect. Here the data node's own
machine, with its seven entry points, quota checks, locks and timeouts, is put next to it.

* `World.Shows` relates a data node to the world, and `Shows.kept_of_exec` keeps the relation along
  every run of the node, the world following its fence calls.
-/

namespace Combee.Cluster

open Foundation
open DataNode (Node Outcome Fence SqlCall)
open DataNode (step unfenced noSql)

namespace World

variable {U R : Type}

/-- The fence table of the data node is what the world has for the node `n`. -/
def Shows (w : World) (n : NodeId) (s : Node U) : Prop :=
  s.generations w.record.id = w.fences n

/-- What a step of the data node `n` means for the world: a fence call on the Cell. -/
def follow (n : NodeId) (w : World) : PoolLabel Nat Outcome Fence → World
  | .env f => if f.db = w.record.id then w.fenceCell n f.generation else w
  | .proc _ _ => w

lemma follow_record (n : NodeId) (w : World) (l : PoolLabel Nat Outcome Fence) :
    (w.follow n l).record = w.record := by
  cases l with
  | proc i o => rfl
  | env f =>
    simp only [follow]
    split <;> rfl

lemma foldl_follow_record (n : NodeId) (w : World) (ls : List (PoolLabel Nat Outcome Fence)) :
    (ls.foldl (follow n) w).record = w.record := by
  induction ls generalizing w with
  | nil => rfl
  | cons l ls ih => exact (ih _).trans (follow_record n w l)

namespace Shows

variable {w : World} {n : NodeId}

lemma admits_iff {s : Node U} (h : w.Shows n s) (g : Int) :
    w.admits n g = true ↔ s.checkGeneration w.record.id g = .ok () := by
  have hcur : s.generations w.record.id = w.fences n := h
  by_cases hg : g = (w.fences n).getD 0 <;> simp [admits, Node.checkGeneration, hcur, hg]

section Machine

variable {quota : QuotaConfig}
  {engine : SqlCall → Nat → Kv.KvTable × U → Result R × (Kv.KvTable × U)}
  {sqlTimeout : Option String} {s s' : Pool (Node U) Nat (DataNode.Task R)}

lemma kept {l : PoolLabel Nat Outcome Fence} (h : w.Shows n s.shared)
    (hs : step quota engine sqlTimeout s l = some s') :
    (w.follow n l).Shows n s'.shared := by
  have hcur : s.shared.generations w.record.id = w.fences n := h
  cases hs using Pool.step_cases with
  | proc i o s1 t1 hact =>
    -- no request touches the fence table
    have hgen : s1.generations = s.shared.generations := (DataNode.act_spec hact).1
    exact (congrFun hgen _).trans hcur
  | env f s1 hf =>
    cases hf
    by_cases hdb : f.db = w.record.id
    · simp [Shows, follow, hdb, fenceCell, Node.fenceCell]
    · simpa [Shows, follow, hdb, Node.fenceCell, Function.update_of_ne (Ne.symm hdb)] using hcur

variable {ls : List (PoolLabel Nat Outcome Fence)}

lemma kept_of_exec (h : w.Shows n s.shared)
    (hs : exec (step quota engine sqlTimeout) s ls = some s') :
    (ls.foldl (follow n) w).Shows n s'.shared := by
  induction ls generalizing w s with
  | nil =>
    obtain rfl : s = s' := by simpa using hs
    exact h
  | cons l ls ih =>
    obtain ⟨u, hl, hs⟩ := exec_cons_eq_some.mp hs
    exact ih (h.kept hl) hs

/-- A change of the Cell on the node `n` comes from a request that the world has admitted. -/
theorem change_admitted_by_world
    {s0 : Pool (Node U) Nat (DataNode.Task R)} {i : Nat} {o : Outcome} (h : w.Shows n s0.shared)
    (h0 : ¬ (s0.procs i).InFlight)
    (hrun : exec (step quota engine sqlTimeout) s0 ls = some s)
    (hstep : step quota engine sqlTimeout s (.proc i o) = some s')
    (hchange : s'.shared.cell w.record.id ≠ s.shared.cell w.record.id) :
    ∃ pre post, ls = pre ++ post ∧
      (pre.foldl (follow n) w).admits n (s.procs i).request.generation = true := by
  obtain ⟨_, pre, post, u, hls, hu, hok⟩ :=
    DataNode.change_was_admitted h0 hrun hstep hchange
  have hshows : (pre.foldl (follow n) w).Shows n u.shared := h.kept_of_exec hu
  refine ⟨pre, post, hls, (hshows.admits_iff _).mpr ?_⟩
  rw [foldl_follow_record]
  exact hok

end Machine

/-- A write on an unfenced node that takes effect after a fence has come was let in before it. -/
theorem change_admitted_before_fence :
    ∃ w s s', w.Shows ⟨1⟩ unfenced.shared ∧
      exec (step {} noSql none) unfenced
        [.proc 0 {}, .env ⟨⟨0⟩, 1⟩, .proc 0 {}, .proc 0 {}] = some s ∧
      step {} noSql none s (.proc 0 {}) = some s' ∧
      ∃ pre post, [.proc 0 {}, .env ⟨⟨0⟩, 1⟩, .proc 0 {}, .proc 0 {}] = pre ++ post ∧
        (pre.foldl (follow ⟨1⟩) w).admits ⟨1⟩ (s.procs 0).request.generation = true := by
  let w : World := ⟨.create ⟨0⟩ (some ⟨1⟩), fun _ => none, fun _ => .blank, fun _ => [],
    fun _ => ⟨fun _ => none, none⟩, ∅, none⟩
  have hw : w.Shows ⟨1⟩ unfenced.shared := rfl
  refine ⟨w, _, _, hw, rfl, rfl, change_admitted_by_world hw id
    (rfl : exec (step {} noSql none) unfenced _ = some _)
    (rfl : step {} noSql none _ (.proc 0 {}) = some _) ?_⟩
  intro h
  exact absurd (congrArg (fun c => (c.table.lookup "k").isSome) h) (by decide)

end Shows

end World

end Combee.Cluster
