import Combee.DataNode.Timeouts

/-!
# Interrupts — whose statement a timeout aborts

`interrupt` looks the handle up by the Cell and not by the request, so it aborts whatever statement
is running on the connection at that moment. The workers take turns by `conns`, so at most one of
them is in a statement (`Owns`): the interrupt of a request spares all the others exactly if none of
them is in a statement when it comes (`interrupt_spares_others_iff`). A request that is still
waiting for the lock of the Cell aborts the statement of the one that has it
(`interrupt_hits_neighbour`).
-/

namespace Combee.DataNode.ActiveDb

open Foundation Storage

section

variable {U R : Type} [Inhabited U] {engine : String → Nat → U → Result (R × U)}
  {path : String} {limit : Option String}

/-! ## Statements that are hit by an interrupt -/

/-- The call whose interrupt is the step `l`: its future has expired and is polled once more. -/
def interrupter (s : Pool Manager Nat (Call R)) : PoolLabel Nat Choice Event → Option Nat
  | .proc i c =>
    match c.side, (s.procs i).future with
    | .future, .expired _ => some i
    | _, _ => none
  | .env _ => none

def Underway (s : Pool Manager Nat (Call R)) (j : Nat) : Prop :=
  (s.procs j).worker.isRunning = true ∧ s.shared.interrupted = false

/-- The call is in a statement that ends with the error `interrupted`. -/
def Aborting (s : Pool Manager Nat (Call R)) (j : Nat) : Prop :=
  (s.procs j).worker.isRunning = true ∧ s.shared.interrupted = true

/-! ## Who is in a statement -/

variable {g g' : Manager} {i : Nat} {w w' : Worker R} {job : Job R}

lemma Owns.polls {f f' : Future R}
    (h : Owns g i w) (hp : Polls g i job f w g' f' w') : Owns g' i w' := by
  have hkeep : Owns g' i w := by
    apply h.frame
    intro _
    exact ⟨hp.frame.1, hp.frame.2.1⟩
  cases hp with
  | tick | acquired => exact .idle rfl
  | _ => exact hkeep

def AllOwn (s : Pool Manager Nat (Call R)) : Prop :=
  ∀ i, Owns s.shared i (s.procs i).worker

variable {s s' : Pool Manager Nat (Call R)} {l : PoolLabel Nat Choice Event}

lemma AllOwn.step
    (hs : AllOwn s) (h : ActiveDb.step engine path limit s l = some s') : AllOwn s' := by
  cases h using Pool.step_cases with
  | proc i c g t hact =>
    -- the call that moves, and the others under the new shared state
    have hassemble : Owns g i t.worker → (∀ j, j ≠ i → Owns g j (s.procs j).worker) →
        AllOwn ⟨g, Function.update s.procs i t⟩ :=
      fun hown hothers => (Function.forall_update_iff _ fun j (u : Call R) =>
        Owns g j u.worker).mpr ⟨hown, hothers⟩
    rcases (act_cases _ _ _ hact).2 with ⟨_, hp⟩ | ⟨_, _, hw⟩ | ⟨_, hworker, he⟩
    · apply hassemble ((hs i).polls hp)
      intro j _
      apply (hs j).frame
      intro _
      exact ⟨hp.frame.1, hp.frame.2.1⟩
    · have hworks := runWorker_works engine path hw
      apply hassemble ((hs i).works hworks)
      intro j hj
      apply (hs j).frame
      intro he
      have hkeep := (hs i).works_other ((hs j).conns he) hj hworks
      exact ⟨hkeep.1, hkeep.2.1⟩
    · have hkeep : ∀ j, Owns g j (s.procs j).worker := by
        intro j
        apply (hs j).frame
        intro _
        exact ⟨he.frame.1, he.frame.2.1⟩
      exact hassemble (hworker ▸ hkeep i) fun j _ => hkeep j
  | env e g henv =>
    rcases env_cases henv with ⟨_, _, rfl⟩
    exact fun j => (hs j).frame fun _ => ⟨rfl, rfl⟩

lemma Start.allOwn (h : Start s) : AllOwn s := by
  intro i
  have hworker : (s.procs i).worker = .unspawned := h.worker i
  rw [hworker]
  exact .idle rfl

/-! ## What an interrupt hits -/

lemma interrupt_step (hint : interrupter s l = some i) (h : step engine path limit s l = some s')
    : s'.shared = s.shared.interrupt ∧ ∀ j, (s'.procs j).worker = (s.procs j).worker := by
  cases l with
  | env e => cases hint
  | proc k c =>
    rcases Pool.step_proc_eq_some.mp h with ⟨g, t, hact, rfl⟩
    simp only [interrupter] at hint
    split at hint
    · rename_i d hside hfuture
      have hpoll : pollFuture s.shared k (s.procs k) = some (g, t) := by
        simpa [act, hside] using hact
      have hp := (pollFuture_polls hpoll).2
      rw [hfuture] at hp
      generalize hw : t.worker = w at hp
      generalize hf : t.future = f at hp
      cases hp with
      | interrupts =>
        refine ⟨rfl, ?_⟩
        intro j
        by_cases hj : j = k
        · subst hj
          simpa using hw
        · simp [Function.update_of_ne hj]
    · cases hint

/-- An interrupt aborts the statement that is under way, whosever it is. -/
lemma aborting_of_interrupt {j : Nat} (hs : AllOwn s) (hint : interrupter s l = some i)
    (h : step engine path limit s l = some s') (hj : Underway s j) : Aborting s' j := by
  rcases interrupt_step hint h with ⟨hshared, hworkers⟩
  have hstatement : s.shared.statement = some j := (hs j).statement hj.1
  constructor
  · simpa [hworkers j] using hj.1
  · simp [hshared, Manager.interrupt, hstatement]

/-- The interrupt of a request that times out aborts no statement of others exactly if no other call
is in one. -/
theorem interrupt_spares_others_iff {s₀ s s' : Pool Manager Nat (Call R)}
    {ls : List (PoolLabel Nat Choice Event)} {l : PoolLabel Nat Choice Event} {i : Nat}
    (h₀ : Start s₀) (hrun : exec (step engine path limit) s₀ ls = some s)
    (hint : interrupter s l = some i) (hstep : step engine path limit s l = some s') :
    (∀ j, Underway s j → Aborting s' j → j = i) ↔ ∀ j, j ≠ i → ¬ Underway s j := by
  have hs : AllOwn s := inv_of_exec_all (fun hs hl => hs.step hl) h₀.allOwn hrun
  constructor
  · intro hspares j hji hj
    exact hji (hspares j hj (aborting_of_interrupt hs hint hstep hj))
  · intro hnone j hj _
    by_contra hji
    exact hnone j hji hj

end

/-- The interrupt comes while its own request is in a statement, and nobody else is. -/
theorem interrupt_spares_others_iff_own :
    ∃ s s', exec (step noEngine "cell" (some "30s")) inserts
        [poll 0, poll 0, work 0, work 0, poll 1, expire 0] = some s ∧
      interrupter s (poll 0) = some 0 ∧
      step noEngine "cell" (some "30s") s (poll 0) = some s' ∧
      Underway s 0 ∧ Aborting s' 0 ∧ ∀ j, Underway s j → Aborting s' j → j = 0 := by
  have hreach : ∃ s s', exec (step noEngine "cell" (some "30s")) inserts
        [poll 0, poll 0, work 0, work 0, poll 1, expire 0] = some s ∧
      interrupter s (poll 0) = some 0 ∧
      step noEngine "cell" (some "30s") s (poll 0) = some s' ∧
      Underway s 0 ∧ Aborting s' 0 ∧ ∀ j, j ≠ 0 → (s.procs j).worker.isRunning = false := by
    refine ⟨_, _, rfl, rfl, rfl, ⟨rfl, rfl⟩, ⟨rfl, rfl⟩, ?_⟩
    intro j hj
    by_cases hj1 : j = 1
    · subst hj1
      rfl
    · simp [Function.update_of_ne hj, Function.update_of_ne hj1, inserts, Worker.isRunning]
  rcases hreach with ⟨s, s', hrun, hint, hstep, hunder, habort, hothers⟩
  refine ⟨s, s', hrun, hint, hstep, hunder, habort, ?_⟩
  apply (interrupt_spares_others_iff inserts_start hrun hint hstep).mpr
  intro j hj hunder'
  exact absurd (hothers j hj ▸ hunder'.1) (by simp)

/-- Request `1` waits for the lock of request `0` when its timeout fires, and interrupts the
statement of request `0`. -/
theorem interrupt_hits_neighbour :
    ∃ s s' t, exec (step noEngine "cell" (some "30s")) inserts
        [poll 0, poll 0, work 0, work 0, poll 1, expire 1] = some s ∧
      interrupter s (poll 1) = some 1 ∧
      step noEngine "cell" (some "30s") s (poll 1) = some s' ∧
      Underway s 0 ∧ Aborting s' 0 ∧
      exec (step noEngine "cell" (some "30s")) s' [work 0, work 0, poll 0] = some t ∧
      (t.procs 0).future = .answered (.error (.sql "interrupted")) :=
  ⟨_, _, _, rfl, rfl, rfl, ⟨rfl, rfl⟩, ⟨rfl, rfl⟩, rfl, rfl⟩

end Combee.DataNode.ActiveDb
