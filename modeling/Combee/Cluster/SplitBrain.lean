import Combee.Cluster.Promotion

/-!
# SplitBrain — what a demoted primary still acknowledges

After `failover_cell` has returned, the old primary is kept from acknowledging writes by its fence
alone. The fence call is made once, its outcome is ignored, and the fence is lost in a restart; so
a request that read the record before the promotion can still find the old primary ready to take it.
-/

namespace Combee.Cluster

open Foundation

/-! ## Finished failovers -/

namespace Proc

def returning : Proc → Option (NodeId × NodeId)
  | .failover _ (.returning (some o) r _) => some (o, r)
  | _ => none

def returned : Proc → Option (NodeId × NodeId)
  | .failover _ (.returned (some o) r _) => some (o, r)
  | _ => none

end Proc

/-- A failover has returned that took the Cell from the node `o`. -/
def Demoted (s : System) (o : NodeId) : Prop :=
  ∃ i r, (s.procs i).returned = some (o, r) ∧ o ≠ r

/-- The node carries the demotion mark and no client write is past its check. -/
def Sealed (s : System) (o : NodeId) : Prop :=
  s.shared.fences o = some i64Max ∧ ∀ i, (s.procs i).admittedAt ≠ some o

/-- The node `o` cannot be reached by an older request any more. -/
def Quiet (s : System) (o : NodeId) : Prop :=
  Sealed s o ∨ NoStale s

/-- A failover returns when its old primary is quiet, and a demoted node restarts only without older
writes. -/
def Careful (s : System) : Label → Prop
  | .proc i _ => ∀ o r, (s.procs i).returning = some (o, r) → o ≠ r → Quiet s o
  | .env e => Demoted s e.node → NoStale s

/-! ## Moves -/

section Moves

variable {w w' : World} {i : Nat} {p p' : Proc}

section

variable (h : ProcMove w i p w' p')
include h

lemma ProcMove.holds {g : Int} (hg : p'.holds = some g) :
    p.holds = some g ∨ g = w.record.generation := by
  cases h with
  | write h => exact h.holds hg
  | failover | replicaLoop | backupLoop => cases hg

lemma ProcMove.admittedAt {n : NodeId}
    (hn : p'.admittedAt = some n) : ∃ g, p.holds = some g ∧ w.admits n g = true := by
  cases h with
  | write h => exact h.admittedAt hn
  | failover | replicaLoop | backupLoop => cases hn

lemma ProcMove.ackedBy {n : NodeId} (hn : p'.ackedBy = some n) : p.admittedAt = some n := by
  cases h with
  | write h => exact h.ackedBy hn
  | failover | replicaLoop | backupLoop => cases hn

lemma ProcMove.returned {o r : NodeId}
    (hr : p'.returned = some (o, r)) : p.returning = some (o, r) := by
  cases h with
  | failover h =>
    cases h with
    | @finish old _ _ =>
      cases old with
      | none => cases hr
      | some => exact hr
    | _ => cases hr
  | write | replicaLoop | backupLoop => cases hr

lemma ProcMove.not_returned : p.returned = none := by
  cases h with
  | failover h =>
    cases h with
    | refused hpc =>
      rename_i pc
      cases pc with
      | returned => cases hpc
      | _ => rfl
    | _ => rfl
  | write | replicaLoop | backupLoop => rfl

end

end Moves

/-- A process that was cut off holds no generation and has neither acknowledged nor returned. -/
lemma Proc.Cut.silent {p : Proc} (h : p.Cut) :
    p.holds = none ∧ p.admittedAt = none ∧ p.ackedBy = none ∧ p.returned = none := by
  unfold Proc.Cut at h
  split at h <;> first | exact ⟨rfl, rfl, rfl, rfl⟩ | exact h.elim

lemma Proc.hit_of_returned (e : Restart) {p : Proc} {x : NodeId × NodeId}
    (h : p.returned = some x) : p.hit e = p := by
  unfold Proc.returned at h
  split at h
  · rfl
  · cases h

/-! ## The old primary stays quiet -/

section Safety

variable {R : DatabaseRecord} {r o : NodeId} {s s' : System} {l : Label}
  {w : World} {i : Nat} {p : Proc} {g : Int}

lemma ProcOk.issued (h : ProcOk R r w i p) (hg : p.holds = some g) : Issued R r w g := by
  unfold Proc.holds at hg
  split at hg
  · exact Option.some.inj hg ▸ h.1
  · exact Option.some.inj hg ▸ h.1
  · cases hg

lemma Issued.lt_max (hR : Promotable R r) (h : Issued R r w g) : g < i64Max := by
  have hlt := hR.lt
  rcases h with h | ⟨h, _⟩ <;> omega

lemma ProcMove.mark_kept {w' : World} {p' : Proc} (h : ProcMove w i p w' p')
    (hp : ProcOk R r w i p) (ho : o ≠ r) (hf : w.fences o = some i64Max) :
    w'.fences o = some i64Max := by
  cases h with
  | write h => rwa [h.frame.2.1]
  | failover h =>
    cases h with
    | fenceNew =>
      obtain ⟨_, _, hcn, _⟩ := hp
      simpa [World.fenceCell, hcn, ho] using hf
    | @fenceOld _ _ c _ =>
      by_cases hoc : o = c.node
      · simp [World.fenceCell, hoc]
      · simpa [World.fenceCell, hoc] using hf
    | pull h | pulled h | broken h => rwa [h.sameControl.fences]
    | _ => exact hf
  | replicaLoop h | backupLoop h => rwa [h.sameControl.fences]

section

variable (hs : Around R r s)
include hs

lemma Around.holds_step (h : step s l = some s') {j : Nat} (hg : (s'.procs j).holds = some g) :
    (s.procs j).holds = some g ∨ g = s.shared.record.generation := by
  rcases hs.seen_step (fun _ hp => hp.silent.1) h hg with hg | ⟨ch, _, hmove⟩
  · exact .inl hg
  · exact hmove.holds hg

variable (hR : Promotable R r)
include hR

lemma Around.noStale_step
    (hrec : s.shared.record = R.promotedTo r) (hstale : NoStale s) (h : step s l = some s') :
    NoStale s' := by
  intro j g hg
  have hgen : s.shared.record.generation = s'.shared.record.generation := by
    rw [hrec, hs.promoted_kept hR h hrec]
  rcases hs.holds_step h hg with hg | hg
  · exact (hstale j g hg).trans hgen
  · exact hg.trans hgen

/-- A sealed node other than the new primary stays sealed until it restarts. -/
lemma Around.sealed_step (ho : o ≠ r)
    (hsealed : Sealed s o) (hrestart : ∀ e, l = .env e → e.node ≠ o) (h : step s l = some s') :
    Sealed s' o := by
  obtain ⟨hf, hadm⟩ := hsealed
  refine ⟨?_, fun j hj => ?_⟩
  · rcases hs.shared_step h with ⟨i, ch, _, hmove⟩ | ⟨e, he, hw⟩
    · exact hmove.mark_kept (hs.procs i) ho hf
    · rw [hw]
      simpa [World.restart, (hrestart e he).symm] using hf
  · rcases hs.seen_step (fun _ hp => hp.silent.2.1) h hj with hj | ⟨ch, _, hmove⟩
    · exact hadm j hj
    · -- the generation it carries would have to be the demotion mark
      obtain ⟨g, hg, hadmits⟩ := hmove.admittedAt hj
      have hlt := ((hs.procs j).issued hg).lt_max hR
      simp only [World.admits, hf, Option.getD_some, beq_iff_eq] at hadmits
      omega

/-- A quiet node stays so if it restarts only when no client write carries an older generation. -/
lemma Around.quiet_step
    (hrec : s.shared.record = R.promotedTo r) (ho : o ≠ r) (hq : Quiet s o)
    (hrestart : ∀ e, l = .env e → e.node = o → NoStale s) (h : step s l = some s') :
    Quiet s' o := by
  rcases hq with hsealed | hstale
  -- a restart takes the mark away; then no older request may still be on its way there
  · by_cases hl : ∃ e, l = .env e ∧ e.node = o
    · obtain ⟨e, he, heo⟩ := hl
      exact .inr (hs.noStale_step hR hrec (hrestart e he heo) h)
    · exact .inl (hs.sealed_step hR ho hsealed (fun e he heo => hl ⟨e, he, heo⟩) h)
  · exact .inr (hs.noStale_step hR hrec hstale h)

end

lemma ProcOk.promotion {r' : NodeId} (h : ProcOk R r w i p)
    (hp : p.returning = some (o, r') ∨ p.returned = some (o, r')) :
    r' = r ∧ w.record = R.promotedTo r := by
  rcases hp with hp | hp
  · unfold Proc.returning at hp
    split at hp
    · obtain ⟨_, hrep, _, hrec⟩ := h
      obtain ⟨_, hr'⟩ : _ ∧ _ = r' := by simpa using hp
      exact ⟨hr'.symm.trans hrep, hrec⟩
    · cases hp
  · unfold Proc.returned at hp
    split at hp
    · obtain ⟨_, hrep, _, hrec⟩ := h
      obtain ⟨_, hr'⟩ : _ ∧ _ = r' := by simpa using hp
      exact ⟨hr'.symm.trans hrep, hrec⟩
    · cases hp

lemma Around.demoted_step (hs : Around R r s) (h : step s l = some s') (hd : Demoted s' o) :
    Demoted s o ∨ ∃ i ch r', l = .proc i ch ∧ (s.procs i).returning = some (o, r') ∧ o ≠ r' := by
  obtain ⟨j, r', hj, ho⟩ := hd
  rcases hs.seen_step (fun _ hp => hp.silent.2.2.2) h hj with hj | ⟨ch, hl, hmove⟩
  · exact .inl ⟨j, r', hj, ho⟩
  · exact .inr ⟨j, ch, r', hl, hmove.returned hj, ho⟩

lemma Around.demoted_kept (hs : Around R r s) (h : step s l = some s') (hd : Demoted s o) :
    Demoted s' o := by
  obtain ⟨j, r', hj, ho⟩ := hd
  refine ⟨j, r', ?_, ho⟩
  rcases hs.proc_step h j with heq | ⟨ch, _, hmove⟩ | ⟨e, _, heq⟩
  · rwa [heq]
  · rw [hmove.not_returned] at hj
    cases hj
  · rwa [heq, Proc.hit_of_returned e hj]

structure Safe (R : DatabaseRecord) (r : NodeId) (s : System) : Prop where
  around : Around R r s
  quiet : ∀ o, Demoted s o → Quiet s o

lemma Safe.kept (hR : Promotable R r) (hs : Safe R r s) (hC : Careful s l)
    (h : step s l = some s') : Safe R r s' := by
  refine ⟨hs.around.kept hR h, fun o hd => ?_⟩
  rcases hs.around.demoted_step h hd with hd | ⟨i, ch, r', rfl, hret, ho⟩
  · obtain ⟨j, r', hj, ho⟩ := id hd
    obtain ⟨rfl, hrec⟩ := (hs.around.procs j).promotion (.inr hj)
    refine hs.around.quiet_step hR hrec ho (hs.quiet o hd) ?_ h
    rintro e rfl rfl
    exact hC hd
  · obtain ⟨rfl, hrec⟩ := (hs.around.procs i).promotion (.inl hret)
    exact hs.around.quiet_step hR hrec ho (hC o r' hret ho) (by rintro e ⟨⟩) h

lemma Safe.not_admitted (hs : Safe R r s) (hd : Demoted s o) (i : Nat) :
    (s.procs i).admittedAt ≠ some o := by
  intro hi
  rcases hs.quiet o hd with ⟨_, hadm⟩ | hstale
  · exact hadm i hi
  · obtain ⟨j, r', hj, ho⟩ := hd
    obtain ⟨rfl, hrec⟩ := (hs.around.procs j).promotion (.inr hj)
    -- with no stale request, whoever is past a check there carries the promoted generation
    have hok := hs.around.procs i
    generalize hp : s.procs i = p at hi hok
    unfold Proc.admittedAt at hi
    split at hi
    · rename_i a g n
      obtain rfl := Option.some.inj hi
      have hg := hstale i g (by rw [hp]; rfl)
      rw [hrec] at hg
      exact ho (hok.2 hg)
    · cases hi

/-- After a failover has returned, a careful step lets the old primary acknowledge nothing. -/
lemma Safe.acked_step (hs : Safe R r s) (hd : Demoted s o) (h : step s l = some s') (i : Nat)
    (hi : (s'.procs i).ackedBy = some o) : (s.procs i).ackedBy = some o := by
  rcases hs.around.seen_step (fun _ hp => hp.silent.2.2.1) h hi with hi | ⟨ch, _, hmove⟩
  · exact hi
  · exact absurd (hmove.ackedBy hi) (hs.not_admitted hd i)

end Safety

/-- **No split brain on careful runs.** Once a failover has returned, the old primary acknowledges
nothing new. -/
theorem no_ack_by_demoted {R : DatabaseRecord} {r o : NodeId} {s₀ s₁ s₂ : System}
    {before after : List Label} (hready : Ready R r s₀)
    (h₁ : exec step s₀ before = some s₁) (hd : Demoted s₁ o)
    (h₂ : exec step s₁ after = some s₂) (hC : Meets step Careful s₀ (before ++ after)) (i : Nat)
    (hi : (s₂.procs i).ackedBy = some o) : (s₁.procs i).ackedBy = some o := by
  obtain ⟨hC₁, hC₂⟩ := (meets_append h₁).mp hC
  have hR := hready.promotable
  have hsafe₀ : Safe R r s₀ := by
    refine ⟨hready.around, ?_⟩
    rintro o ⟨j, r', hj, _⟩
    have hidle := hready.procs j
    generalize s₀.procs j = p at hj hidle
    unfold Proc.returned at hj
    split at hj
    · exact hidle.elim
    · cases hj
  have hsafe₁ : Safe R r s₁ := inv_of_exec (fun hs hC h => hs.kept hR hC h) hsafe₀ hC₁ h₁
  -- from here on the set of writes that the old primary has acknowledged does not grow
  have hinv : Safe R r s₂ ∧ Demoted s₂ o ∧
      ∀ i, (s₂.procs i).ackedBy = some o → (s₁.procs i).ackedBy = some o := by
    refine inv_of_exec (I := fun s => Safe R r s ∧ Demoted s o ∧
      ∀ i, (s.procs i).ackedBy = some o → (s₁.procs i).ackedBy = some o) ?_
      ⟨hsafe₁, hd, fun _ h => h⟩ hC₂ h₂
    rintro s l s' ⟨hs, hd, hacked⟩ hC h
    exact ⟨hs.kept hR hC h, hs.around.demoted_kept h hd,
      fun i hi => hacked i (hs.acked_step hd h i hi)⟩
  exact hinv.2.2 i hi

/-! ## A fence that is lost -/

def oneFailover : System where
  shared := newCell
  procs := fun i => if i = 1 then .failover 1 .start else .write 0 .start

lemma oneFailover_ready : Ready newCell.record ⟨2⟩ oneFailover where
  promotable := ⟨rfl, by decide, by decide⟩
  record := rfl
  fences := by simp [oneFailover, newCell]
  clients := by simp [oneFailover, newCell]
  procs := by
    intro i
    by_cases hi : i = 1 <;> simp [oneFailover, hi, Proc.Idle]

/-- A client write picks its route; then the failover runs, up to its last look at the old primary.
-/
def staleThenFailover : List Label :=
  [.proc 0 {}, .proc 0 {}, .proc 0 {},
    .proc 1 {}, .proc 1 {}, .proc 1 {}, .proc 1 {}, .proc 1 {}, .proc 1 {}]

/-- The old primary cannot be fenced, and takes the write after the failover has returned. -/
theorem fence_lost_acks : ∃ s₁ s₂,
    exec step oneFailover
      (staleThenFailover ++ [.proc 1 { healthy := fun n => n != ⟨1⟩ }, .proc 1 {}]) = some s₁ ∧
    Demoted s₁ ⟨1⟩ ∧
    exec step s₁ [.proc 0 {}, .proc 0 {}] = some s₂ ∧
    (s₁.procs 0).ackedBy = none ∧ (s₂.procs 0).ackedBy = some ⟨1⟩ :=
  ⟨_, _, rfl, ⟨1, ⟨2⟩, rfl, by decide⟩, rfl, rfl, rfl⟩

/-- The same failover with both calls to the old primary going through, up to its return. -/
def staleThenFenced : List Label :=
  staleThenFailover ++ [.proc 1 {}, .proc 1 {}]

lemma staleThenFenced_sealed {s : System} (hs : exec step oneFailover staleThenFenced = some s) :
    Sealed s ⟨1⟩ ∧ (s.procs 0).returning = none := by
  have hobs : (exec step oneFailover staleThenFenced).map
      (fun s => (s.shared.fences ⟨1⟩, s.procs 0, s.procs 1)) =
      some (some i64Max, .write 0 (.route 0 (.done ⟨⟨1⟩, true⟩)),
        .failover 1 (.returning (some ⟨1⟩) ⟨2⟩ 1)) := rfl
  simp only [hs, Option.map_some, Option.some.injEq, Prod.mk.injEq] at hobs
  obtain ⟨hfence, h0, h1⟩ := hobs
  refine ⟨⟨hfence, fun i => ?_⟩, by rw [h0]; rfl⟩
  by_cases hi0 : i = 0
  · subst hi0
    simp [h0, Proc.admittedAt]
  by_cases hi1 : i = 1
  · subst hi1
    simp [h1, Proc.admittedAt]
  have hrest : s.procs i = oneFailover.procs i := by
    refine procs_of_exec (fun l hl => ?_) hs
    simp only [staleThenFenced, staleThenFailover, List.cons_append, List.nil_append, List.mem_cons,
      List.not_mem_nil, or_false] at hl
    rcases hl with rfl | rfl | rfl | rfl | rfl | rfl | rfl | rfl | rfl | rfl | rfl <;>
      exact ⟨_, _, rfl, by omega⟩
  simp [hrest, oneFailover, hi1, Proc.admittedAt]

/-- A test for `Careful` at the steps at which no failover returns. -/
def carefulTest (s : System) : Label → Bool
  | .proc i _ => (s.procs i).returning.isNone
  | .env _ => false

lemma careful_of_test {s : System} {l : Label} (h : carefulTest s l = true) : Careful s l := by
  cases l with
  | env => cases h
  | proc i ch =>
    intro o r hret
    simp [carefulTest, hret] at h

lemma staleThenFenced_careful :
    Meets step Careful oneFailover (staleThenFenced ++ [.proc 1 {}] ++ [.proc 0 {}]) := by
  obtain ⟨s, hs⟩ : ∃ s, exec step oneFailover staleThenFenced = some s := ⟨_, rfl⟩
  obtain ⟨hsealed, h0⟩ := staleThenFenced_sealed hs
  rw [List.append_assoc]
  refine (meets_append hs).mpr ⟨?_, fun s₁ h₁ => ⟨?_, fun s₂ h₂ => ⟨?_, trivial⟩⟩⟩
  · exact meets_of_check careful_of_test rfl
  · rintro o r' hret -
    have hobs : (exec step oneFailover staleThenFenced).map (fun s => (s.procs 1).returning) =
        some (some (⟨1⟩, ⟨2⟩)) := rfl
    simp only [hs, Option.map_some, Option.some.injEq, hret, Prod.mk.injEq] at hobs
    rw [hobs.1]
    exact .inl hsealed
  · obtain ⟨w', p', _, rfl⟩ := Pool.step_proc_eq_some.mp h₁
    rintro o r' (hret : (Function.update s.procs 1 p' 0).returning = some (o, r'))
    rw [Function.update_of_ne Nat.zero_ne_one, h0] at hret
    cases hret

/-- With the fence call going through, the write of the run above is rejected. -/
theorem no_ack_by_demoted_fenced : ∃ s₁ s₂,
    exec step oneFailover (staleThenFenced ++ [.proc 1 {}]) = some s₁ ∧ Demoted s₁ ⟨1⟩ ∧
    exec step s₁ [.proc 0 {}] = some s₂ ∧ (s₂.procs 0).ackedBy ≠ some ⟨1⟩ := by
  have hrun : ∃ s₁ s₂, exec step oneFailover (staleThenFenced ++ [.proc 1 {}]) = some s₁ ∧
      Demoted s₁ ⟨1⟩ ∧ (s₁.procs 0).ackedBy ≠ some ⟨1⟩ ∧
      exec step s₁ [.proc 0 {}] = some s₂ :=
    ⟨_, _, rfl, ⟨1, ⟨2⟩, rfl, by decide⟩, nofun, rfl⟩
  obtain ⟨s₁, s₂, h₁, hd, hnot, h₂⟩ := hrun
  refine ⟨s₁, s₂, h₁, hd, h₂, fun hi => hnot ?_⟩
  exact no_ack_by_demoted oneFailover_ready h₁ hd h₂ staleThenFenced_careful 0 hi

end Combee.Cluster
