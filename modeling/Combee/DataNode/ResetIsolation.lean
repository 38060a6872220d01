import Combee.DataNode.Window

/-!
# ResetIsolation — what is left of a Cell's data after `reset_database`

`reset_database` holds the per-Cell lock while it closes the connection and not while it clears the
cache and removes the files. If no request gets in between (`Undisturbed`), what requests see
afterwards is what has been committed since the reset returned, and nothing of it is lost
(`reset_isolated`). If one does, its connection keeps the removed files, old rows and all
(`reset_reopened`).
-/

namespace Combee.DataNode.OneCell

open Foundation Kv Storage

section

variable {U R : Type} [Inhabited U] {quota : QuotaConfig}
  {engine : SqlCall → Nat → U → Result R × U} {db : DatabaseId}

/-! ## The steps of the reset -/

def ResetPhase (s : CellNode) : ResetPc → Prop
  | .clear => s.disk.conn = none ∧ s.holder = none
  | .invalidate keys => (s.disk.conn = none ∧ s.holder = none) ∧
      ∀ key v, s.cache key = some v → keys key = true
  | .removeMain => (s.disk.conn = none ∧ s.holder = none) ∧ ∀ key, s.cache key = none
  | .removeWal => (s.disk.conn = none ∧ s.holder = none) ∧ (∀ key, s.cache key = none) ∧
      s.disk.main = none
  | .returned => (s.disk.conn = none ∧ s.holder = none) ∧ (∀ key, s.cache key = none) ∧
      s.disk.main = none ∧ s.disk.wal = none
  | _ => True

variable {s s' : CellNode}

lemma Frozen.uncached (hf : Frozen s s') (h : ∀ key, s.cache key = none)
    (key : String) : s'.cache key = none := by
  cases hv : s'.cache key with
  | none => rfl
  | some v => exact absurd ((hf.cache key v hv).symm.trans (h key)) (by simp)

lemma ResetPhase.frozen {pc : ResetPc} (h : ResetPhase s pc)
    (hf : Frozen s s') : ResetPhase s' pc := by
  cases pc with
  | close | failed => trivial
  | clear =>
    simp only [ResetPhase, hf.disk, hf.holder] at h ⊢
    exact h
  | invalidate keys =>
    simp only [ResetPhase, hf.disk, hf.holder] at h ⊢
    exact ⟨h.1, fun key v hv => h.2 key v (hf.cache key v hv)⟩
  | removeMain =>
    simp only [ResetPhase, hf.disk, hf.holder] at h ⊢
    exact ⟨h.1, hf.uncached h.2⟩
  | removeWal | returned =>
    simp only [ResetPhase, hf.disk, hf.holder] at h ⊢
    exact ⟨h.1, hf.uncached h.2.1, h.2.2⟩

variable {o : Choice}

lemma ResetMove.phase {pc pc' : ResetPc}
    (h : ResetMove s o pc s' pc') (hp : ResetPhase s pc) : ResetPhase s' pc' := by
  cases h with
  | refused | stuckMain | stuckWal => trivial
  | closes free => exact ⟨s.disk.conn_shut o.checkpoint, free⟩
  | finds => exact ⟨hp, fun key v hv => by simp [CellNode.cached, hv]⟩
  | clears =>
    refine ⟨hp.1, fun key => ?_⟩
    cases hv : s.cache key with
    | none => simp [CellNode.invalidateAll, hv]
    | some v => simp [CellNode.invalidateAll, hp.2 key v hv]
  | removesMain => exact ⟨hp.1, hp.2, rfl⟩
  | removesWal => exact ⟨hp.1, hp.2.1, hp.2.2, rfl⟩

/-! ## Up to the return -/

/-- The reset `i` is under way, or it is over. -/
structure Resetting (i : Nat) (s : Pool CellNode Nat (Task R)) : Prop where
  orderly : Orderly i s
  phase : ∃ pc, s.procs i = .reset pc ∧ (pc = .returned ∨ ResetPhase s.shared pc)

variable {s s' : Pool CellNode Nat (Task R)}

lemma reset_own {i : Nat} {pc : ResetPc}
    (hpc : s.procs i = .reset pc) (h : step quota engine db s (.proc i o) = some s') :
    ∃ g pc', resetStep s.shared pc o = some (g, pc') ∧
      s' = ⟨g, Function.update s.procs i (.reset pc')⟩ := by
  obtain ⟨g, p, hact, rfl⟩ := Pool.step_proc_eq_some.mp h
  rw [hpc] at hact
  obtain ⟨pc', hr, rfl⟩ := of_map_step hact
  exact ⟨g, pc', hr, rfl⟩

lemma Resetting.step {i : Nat}
    {l : PoolLabel Nat Choice Event} (hs : Resetting i s) (hC : Undisturbed i s l)
    (h : OneCell.step quota engine db s l = some s') : Resetting i s' := by
  obtain ⟨pc, hpc, hphase⟩ := hs.phase
  refine ⟨hs.orderly.step h, ?_⟩
  by_cases hown : ∃ o, l = .proc i o
  · obtain ⟨o, rfl⟩ := hown
    obtain ⟨g, pc', hr, rfl⟩ := reset_own hpc h
    have hbefore : ResetPhase s.shared pc := hphase.resolve_left (by rintro rfl; cases hr)
    exact ⟨pc', Function.update_self _ _ _, .inr ((resetStep_move hr).phase hbefore)⟩
  · have hother : ∀ o, l ≠ .proc i o := fun o hl => hown ⟨o, hl⟩
    refine ⟨pc, (procs_other hother h).trans hpc, ?_⟩
    rcases hphase with rfl | hphase
    · exact .inl rfl
    -- in the window the others leave everything as it is
    · have hwindow : (s.procs i).window = true → s.shared.disk.conn = none →
          s.shared.holder = none → ResetPhase s'.shared pc := fun hwin hconn free =>
        hphase.frozen (window_other hs.orderly hC hwin hconn free hother h)
      rw [hpc] at hwindow
      cases pc with
      | close | failed => exact .inr trivial
      | returned => exact .inl rfl
      | clear => exact .inr (hwindow rfl hphase.1 hphase.2)
      | invalidate | removeMain | removeWal => exact .inr (hwindow rfl hphase.1.1 hphase.1.2)

lemma Resetting.returns {i : Nat} {u s₁ : Pool CellNode Nat (Task R)}
    (hu : Resetting i u) (hC : Undisturbed i u (.proc i o))
    (h : OneCell.step quota engine db u (.proc i o) = some s₁)
    (hret : s₁.procs i = .reset .returned) :
    InService engine db (fun _ => false) [] s₁.shared.log.length s₁ ∧
      ∀ j, (s₁.procs j).caught = false := by
  obtain ⟨pc, hpc, hphase⟩ := hu.phase
  have ho := hu.orderly.step h
  obtain ⟨g, pc', hr, rfl⟩ := reset_own hpc h
  have hbefore : ResetPhase u.shared pc := hphase.resolve_left (by rintro rfl; cases hr)
  obtain rfl : pc' = .returned := by simpa using hret
  have hmove := resetStep_move hr
  obtain ⟨⟨hconn, free⟩, hcache, hmain, hwal⟩ := hmove.phase hbefore
  constructor
  · have hempty := (Disk.empty_of_gone hconn hmain hwal).contents
    have hplaced : InService engine db (fun _ => false) g.disk.contents g.log.length
        ⟨g, Function.update u.procs i (.reset .returned)⟩ :=
      inService_of_placed ho hconn free
        fun key v hv => absurd ((hcache key).symm.trans hv) (by simp)
    rwa [hempty] at hplaced
  · have hclosing : (u.procs i).closing = true := by
      rw [hpc]
      cases hmove
      rfl
    exact hC.none_caught hclosing rfl

/-- Once an undisturbed reset has returned, requests see what has been committed since and nothing
else, and none of it is lost. -/
theorem reset_isolated {i : Nat} {o : Choice} {s₀ u s₁ s : Pool CellNode Nat (Task R)}
    {ls ls' : List (PoolLabel Nat Choice Event)} (h₀ : Fresh i (.reset .close) s₀)
    (hC : Meets (step quota engine db) (Undisturbed i) s₀ (ls ++ .proc i o :: ls'))
    (hrun : exec (step quota engine db) s₀ ls = some u)
    (hstep : step quota engine db u (.proc i o) = some s₁) (hret : s₁.procs i = .reset .returned)
    (hrun' : exec (step quota engine db) s₁ ls' = some s) : Serves engine db [] s₁ s := by
  obtain ⟨hC₁, hC₂⟩ := (meets_append hrun).mp hC
  obtain ⟨hCstep, hC₃⟩ := (meets_cons hstep).mp hC₂
  have hu : Resetting i u := by
    refine inv_of_exec (fun hs hc hl => hs.step hc hl) ⟨h₀.orderly rfl, ?_⟩ hC₁ hrun
    exact ⟨.close, h₀.job, .inr trivial⟩
  obtain ⟨hin, hdrained⟩ := hu.returns hCstep hstep hret
  have ho := hu.orderly.step hstep
  have hs₁ : Over engine db i s₁.shared.log.length [] s₁ := ⟨ho, by rw [hret]; rfl, hin⟩
  have hs := inv_of_exec (fun hs hc hl => hs.step hc hl) hs₁ hC₃ hrun'
  exact hs.inService.serves (exec_log hrun') ho.ledger hdrained

end

/-! ## A request in the window -/

/-- A reset of the Cell with `k = old`, with `GET k` and `SET k new` beside it. -/
def resetAndRequests : Pool CellNode Nat (Task Unit) :=
  ⟨oldCell, besideRequests (.reset .close)⟩

lemma resetAndRequests_fresh : Fresh 0 (.reset .close) resetAndRequests :=
  besideRequests_fresh _ rfl rfl

theorem reset_isolated_set :
    ∃ u s₁ s, exec (step {} noSql ⟨0⟩) resetAndRequests (times 4 0) = some u ∧
      step {} noSql ⟨0⟩ u (.proc 0 {}) = some s₁ ∧ s₁.procs 0 = .reset .returned ∧
      exec (step {} noSql ⟨0⟩) s₁ (times 11 3 ++ times 4 2) = some s ∧
      s.procs 2 = .answered (.ok (.inl (.entry (some ⟨"new", none⟩)))) ∧
      Serves noSql ⟨0⟩ [] s₁ s := by
  have hreset : exec (step {} noSql ⟨0⟩) resetAndRequests (times 5 0) = some _ := rfl
  have hmeets : Meets (step {} noSql ⟨0⟩) (Undisturbed 0) resetAndRequests
      (times 5 0 ++ (times 11 3 ++ times 4 2)) :=
    (meets_append hreset).mpr ⟨meets_times rfl resetAndRequests_fresh.not_caught 5,
      meets_of_check undisturbed_of_outsideWindow rfl⟩
  have hC : Meets (step {} noSql ⟨0⟩) (Undisturbed 0) resetAndRequests
      (times 4 0 ++ .proc 0 {} :: (times 11 3 ++ times 4 2)) := hmeets
  exact ⟨_, _, _, rfl, rfl, rfl, rfl, rfl, reset_isolated resetAndRequests_fresh hC rfl rfl rfl rfl⟩

/-- A `GET` between the close and the removal opens the old files again: later reads get the old
value, and an acknowledged `SET` goes to the removed file. -/
theorem reset_reopened :
    ∃ s, exec (step {} noSql ⟨0⟩) resetAndRequests
        (times 3 0 ++ times 11 1 ++ times 2 0 ++ times 4 2 ++ times 11 3) = some s ∧
      s.procs 0 = .reset .returned ∧
      s.procs 2 = .answered (.ok (.inl (.entry (some ⟨"old", none⟩)))) ∧
      s.procs 3 = .answered (.ok (.inl (.flag true))) ∧
      s.shared.disk.close.openConn.contents = [] :=
  ⟨_, rfl, rfl, rfl, rfl, rfl⟩

end Combee.DataNode.OneCell
