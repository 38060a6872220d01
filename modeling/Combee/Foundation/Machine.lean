import Mathlib.Tactic.Common

/-!
# Machine — labelled machines, their runs, and pools of processes

A machine is a step function `S → L → Option S`: the label says who moves and what the environment
answers, and `none` means that the label is not enabled. A run is a list of labels, so a run can be
evaluated, cut and extended like any other list.

* `exec step s ls` is the state after the run `ls`;
* `Meets step C s ls` says that every step of the run meets the condition `C` in the state in which
  it is taken;
* `Pool` interleaves the steps of indexed processes over a shared state, and `Pool.step_inv` is the
  non-interference rule for invariants that speak about the shared state and each single process.
-/

namespace Combee.Foundation

/-! ## Runs -/

section Runs

variable {S L : Type*} (step : S → L → Option S)

/-- The state reached from `s` by the run `ls`, if every step of it is enabled. -/
def exec : S → List L → Option S
  | s, [] => some s
  | s, l :: ls => (step s l).bind fun s' => exec s' ls

/-- Every step of the run that is taken meets `C` in the state before it. -/
def Meets (C : S → L → Prop) : S → List L → Prop
  | _, [] => True
  | s, l :: ls => ∀ s', step s l = some s' → C s l ∧ Meets C s' ls

variable {step} {s : S}

@[simp] lemma exec_nil : exec step s [] = some s := rfl

variable {t : S} {ls : List L}

lemma exec_cons_eq_some {l : L} :
    exec step s (l :: ls) = some t ↔ ∃ s', step s l = some s' ∧ exec step s' ls = some t := by
  simp [exec, Option.bind_eq_some_iff]

lemma exec_cons {s' : S} {l : L} (hl : step s l = some s') (ht : exec step s' ls = some t) :
    exec step s (l :: ls) = some t :=
  exec_cons_eq_some.mpr ⟨s', hl, ht⟩

lemma exec_append_eq_some {ms : List L} :
    exec step s (ls ++ ms) = some t ↔
      ∃ u, exec step s ls = some u ∧ exec step u ms = some t := by
  induction ls generalizing s with
  | nil => simp
  | cons l ls ih =>
    simp only [List.cons_append, exec_cons_eq_some, ih]
    constructor
    · rintro ⟨s', hs, u, hu, ht⟩
      exact ⟨u, ⟨s', hs, hu⟩, ht⟩
    · rintro ⟨u, ⟨s', hs, hu⟩, ht⟩
      exact ⟨s', hs, u, hu, ht⟩

/-- A step that is made of the step of a part. -/
lemma of_map_step {α β : Type*} {x : Option (S × α)} {g : S × α → S × β} {b : β}
    (h : x.map g = some (s, b)) (hg : ∀ p, (g p).1 = p.1 := by intro; rfl) :
    ∃ a, x = some (s, a) ∧ (g (s, a)).2 = b := by
  obtain ⟨⟨t, a⟩, hx, ht⟩ := Option.map_eq_some_iff.mp h
  obtain rfl : t = s := (hg _).symm.trans (congrArg Prod.fst ht)
  exact ⟨a, hx, congrArg Prod.snd ht⟩

variable {C : S → L → Prop}

lemma meets_cons {s' : S} {l : L} (hs : step s l = some s') :
    Meets step C s (l :: ls) ↔ C s l ∧ Meets step C s' ls := by
  simp [Meets, hs]

lemma meets_append {u : S} {ms : List L} (hu : exec step s ls = some u) :
    Meets step C s (ls ++ ms) ↔ Meets step C s ls ∧ Meets step C u ms := by
  induction ls generalizing s with
  | nil =>
    obtain rfl : s = u := by simpa using hu
    simp [Meets]
  | cons l ls ih =>
    obtain ⟨s', hs, hu⟩ := exec_cons_eq_some.mp hu
    simp only [List.cons_append, Meets, hs, Option.some.injEq, forall_eq', ih hu, and_assoc]

variable {I : S → Prop}

/-- The invariant rule: what every step that meets `C` keeps holds at the end of every run that
meets `C`. -/
lemma inv_of_exec (hstep : ∀ {s l s'}, I s → C s l → step s l = some s' → I s') (hs : I s)
    (hC : Meets step C s ls) (ht : exec step s ls = some t) : I t := by
  induction ls generalizing s with
  | nil =>
    obtain rfl : s = t := by simpa using ht
    exact hs
  | cons l ls ih =>
    obtain ⟨s', hl, ht⟩ := exec_cons_eq_some.mp ht
    exact ih (hstep hs (hC s' hl).1 hl) (hC s' hl).2 ht

/-- The invariant rule with an account of whether the run has met `C`. -/
lemma inv_meets_of_exec {J : Prop → S → Prop} {p : Prop}
    (hstep : ∀ {p s l s'}, J p s → step s l = some s' → J (p ∧ C s l) s') (hs : J p s)
    (ht : exec step s ls = some t) : J (p ∧ Meets step C s ls) t := by
  induction ls generalizing s p with
  | nil =>
    obtain rfl : s = t := by simpa using ht
    simpa [Meets] using hs
  | cons l ls ih =>
    obtain ⟨s', hl, ht⟩ := exec_cons_eq_some.mp ht
    rw [meets_cons hl, ← and_assoc]
    exact ih (hstep hs hl) ht

variable {P : S → Prop}

/-- Where each step decides by `C` whether `P` is kept, `P` holds all along exactly if the run meets
`C`. -/
lemma always_iff_meets
    (hstep : ∀ {s l s'}, I s → P s → step s l = some s' → I s' ∧ (P s' ↔ C s l)) (hI : I s)
    (hP : P s) : (∀ pre t, pre <+: ls → exec step s pre = some t → P t) ↔ Meets step C s ls := by
  induction ls generalizing s with
  | nil =>
    refine ⟨fun _ => trivial, fun _ pre t hpre ht => ?_⟩
    obtain rfl := List.prefix_nil.mp hpre
    obtain rfl : s = t := by simpa using ht
    exact hP
  | cons l ls ih =>
    constructor
    · intro h s' hs
      obtain ⟨hI', hiff⟩ := hstep hI hP hs
      -- the run of this one label is a prefix too
      have hP' : P s' := h [l] s' (by simp) (exec_cons hs exec_nil)
      -- every later prefix is the label in front of a prefix of the rest
      refine ⟨hiff.mp hP', (ih hI' hP').mp fun pre t hpre ht => ?_⟩
      exact h (l :: pre) t (List.cons_prefix_cons.mpr ⟨rfl, hpre⟩)
        (exec_cons hs ht)
    · intro h pre t hpre ht
      cases pre with
      | nil =>
        obtain rfl : s = t := by simpa using ht
        exact hP
      | cons k pre =>
        obtain ⟨rfl, htail⟩ := List.cons_prefix_cons.mp hpre
        obtain ⟨s', hs, ht⟩ := exec_cons_eq_some.mp ht
        obtain ⟨hI', hiff⟩ := hstep hI hP hs
        exact (ih hI' (hiff.mpr (h s' hs).1)).mpr (h s' hs).2 pre t htail ht

lemma always_iff_meets_next (hs : P s) :
    (∀ pre t, pre <+: ls → exec step s pre = some t → P t) ↔
      Meets step (fun s l => ∀ s', step s l = some s' → P s') s ls := by
  refine always_iff_meets (I := fun _ => True) ?_ trivial hs
  intro s l s' _ _ h
  refine ⟨trivial, fun hs' t ht => ?_, fun hnext => hnext s' h⟩
  rw [h] at ht
  exact Option.some.inj ht ▸ hs'

lemma forall_steps_iff_meets {R : S → L → S → Prop} :
    (∀ pre l u u', pre ++ [l] <+: ls → exec step s pre = some u → step u l = some u' →
      R u l u') ↔
      Meets step (fun u l => ∀ u', step u l = some u' → R u l u') s ls := by
  induction ls generalizing s with
  | nil =>
    refine iff_of_true ?_ trivial
    intro pre l u u' hpre
    have hnil := List.prefix_nil.mp hpre
    simp at hnil
  | cons k ls ih =>
    constructor
    · intro h s' hs
      refine ⟨fun u' hu' => h [] k s u' (by simp) exec_nil hu', ih.mp ?_⟩
      intro pre l u u' hpre hu hu'
      exact h (k :: pre) l u u' (List.cons_prefix_cons.mpr ⟨rfl, hpre⟩)
        (exec_cons hs hu) hu'
    · intro h pre l u u' hpre hu hu'
      cases pre with
      | nil =>
        rcases List.cons_prefix_cons.mp hpre with ⟨rfl, _⟩
        obtain rfl : s = u := by simpa using hu
        exact (h u' hu').1 u' hu'
      | cons m pre =>
        rcases List.cons_prefix_cons.mp hpre with ⟨rfl, htail⟩
        rcases exec_cons_eq_some.mp hu with ⟨s', hs, hu⟩
        exact ih.mpr (h s' hs).2 pre l u u' htail hu hu'

lemma meets_of_forall (h : ∀ s, ∀ l ∈ ls, C s l) : Meets step C s ls := by
  induction ls generalizing s with
  | nil => trivial
  | cons l ls ih =>
    intro s' _
    exact ⟨h s l (by simp), ih fun s l hl => h s l (by simp [hl])⟩

lemma Meets.mono {D : S → L → Prop} (hCD : ∀ {s l}, C s l → D s l)
    (h : Meets step C s ls) : Meets step D s ls := by
  induction ls generalizing s with
  | nil => trivial
  | cons l ls ih =>
    intro s' hs
    exact ⟨hCD (h s' hs).1, ih (h s' hs).2⟩

def check (step : S → L → Option S) (c : S → L → Bool) : S → List L → Bool
  | _, [] => true
  | s, l :: ls => c s l && ((step s l).map fun s' => check step c s' ls).getD true

/-- A condition that follows from a Boolean test can be checked by evaluation. -/
lemma meets_of_check {c : S → L → Bool} (hc : ∀ {s l}, c s l = true → C s l)
    (h : check step c s ls = true) : Meets step C s ls := by
  induction ls generalizing s with
  | nil => trivial
  | cons l ls ih =>
    intro s' hs
    simp only [check, hs, Option.map_some, Option.getD_some, Bool.and_eq_true] at h
    exact ⟨hc h.1, ih h.2⟩

/-- The invariant rule for runs without side conditions. -/
lemma inv_of_exec_all (hstep : ∀ {s l s'}, I s → step s l = some s' → I s') (hs : I s)
    (ht : exec step s ls = some t) : I t :=
  inv_of_exec (C := fun _ _ => True) (fun hI _ h => hstep hI h) hs
    (meets_of_forall fun _ _ _ => trivial) ht

lemma exists_step_of_exec (hs : ¬ P s) (ht : P t) (h : exec step s ls = some t) :
    ∃ pre l post u u', ls = pre ++ l :: post ∧ exec step s pre = some u ∧ step u l = some u' ∧
      exec step u' post = some t ∧ ¬ P u ∧ P u' := by
  induction ls generalizing s with
  | nil =>
    obtain rfl : s = t := by simpa using h
    exact absurd ht hs
  | cons l ls ih =>
    obtain ⟨s', hl, h⟩ := exec_cons_eq_some.mp h
    -- either this step brings it about, or a later one
    by_cases hs' : P s'
    · exact ⟨[], l, ls, s, s', rfl, exec_nil, hl, h, hs, hs'⟩
    · obtain ⟨pre, k, post, u, u', rfl, hu, hk, hpost, hnot, hP⟩ := ih hs' h
      exact ⟨l :: pre, k, post, u, u', rfl, exec_cons hl hu, hk, hpost, hnot,
        hP⟩

end Runs

/-! ## Pools of processes over a shared state -/

/-- A shared state together with one local state for every process index. -/
structure Pool (G ι P : Type*) where
  shared : G
  procs : ι → P

/-- Who moves: the process `i`, with the answers `c` it is given, or the environment. -/
inductive PoolLabel (ι C E : Type*) where
  | proc (i : ι) (c : C)
  | env (e : E)
  deriving DecidableEq

namespace Pool

variable {G ι P C E : Type*} [DecidableEq ι]

/-- A process step changes the shared state and the process; an environment step may touch every
process (`hit`), as a crash does. -/
def step (act : G → ι → P → C → Option (G × P)) (env : G → E → Option G) (hit : E → P → P)
    (s : Pool G ι P) : PoolLabel ι C E → Option (Pool G ι P)
  | .proc i c => (act s.shared i (s.procs i) c).map fun r =>
    ⟨r.1, Function.update s.procs i r.2⟩
  | .env e => (env s.shared e).map fun g => ⟨g, fun i => hit e (s.procs i)⟩

variable {act : G → ι → P → C → Option (G × P)} {env : G → E → Option G} {hit : E → P → P}
  {s s' : Pool G ι P} {i : ι}

lemma step_proc_eq_some {c : C} :
    step act env hit s (.proc i c) = some s' ↔
      ∃ g p, act s.shared i (s.procs i) c = some (g, p) ∧
        s' = ⟨g, Function.update s.procs i p⟩ := by
  simp only [step, Option.map_eq_some_iff, Prod.exists, eq_comm (a := s')]

lemma step_env_eq_some {e : E} :
    step act env hit s (.env e) = some s' ↔
      ∃ g, env s.shared e = some g ∧ s' = ⟨g, fun i => hit e (s.procs i)⟩ := by
  simp only [step, Option.map_eq_some_iff, eq_comm (a := s')]

variable {l : PoolLabel ι C E}

/-- A step of the pool is one of a process or one of the environment. -/
lemma step_cases {motive : ∀ l s', step act env hit s l = some s' → Prop}
    (h : step act env hit s l = some s')
    (proc : ∀ i c g p (hact : act s.shared i (s.procs i) c = some (g, p)),
      motive (.proc i c) _ (step_proc_eq_some.mpr ⟨g, p, hact, rfl⟩))
    (env : ∀ e g (henv : env s.shared e = some g),
      motive (.env e) _ (step_env_eq_some.mpr ⟨g, henv, rfl⟩)) : motive l s' h := by
  cases l with
  | proc i c =>
    obtain ⟨g, p, hact, rfl⟩ := step_proc_eq_some.mp h
    exact proc i c g p hact
  | env e =>
    obtain ⟨g, henv, rfl⟩ := step_env_eq_some.mp h
    exact env e g henv

variable {ls : List (PoolLabel ι C E)}

/-- A process that does not move in a run of process steps stays as it is. -/
lemma procs_of_exec {j : ι} (hls : ∀ l ∈ ls, ∃ i c, l = .proc i c ∧ i ≠ j)
    (h : exec (step act env hit) s ls = some s') : s'.procs j = s.procs j := by
  induction ls generalizing s with
  | nil =>
    obtain rfl : s = s' := by simpa using h
    rfl
  | cons l ls ih =>
    obtain ⟨u, hu, h⟩ := exec_cons_eq_some.mp h
    obtain ⟨i, c, rfl, hij⟩ := hls l (by simp)
    obtain ⟨g, p, _, rfl⟩ := step_proc_eq_some.mp hu
    rw [ih (fun l hl => hls l (by simp [hl])) h]
    exact Function.update_of_ne hij.symm _ _

lemma exec_of_act {g : G} {p : P} {cs : List C}
    (h : exec (fun (x : G × P) c => act x.1 i x.2 c) (s.shared, s.procs i) cs = some (g, p)) :
    exec (step act env hit) s (cs.map (.proc i)) = some ⟨g, Function.update s.procs i p⟩ := by
  induction cs generalizing s with
  | nil =>
    obtain ⟨rfl, rfl⟩ : s.shared = g ∧ s.procs i = p := by simpa using h
    simp
  | cons c cs ih =>
    obtain ⟨⟨g', p'⟩, hact, hrest⟩ := exec_cons_eq_some.mp h
    refine exec_cons (step_proc_eq_some.mpr ⟨g', p', hact, rfl⟩) ?_
    -- the rest is a run of the same process from the pool after its first step
    have hnext := ih (s := ⟨g', Function.update s.procs i p'⟩) (by simpa using hrest)
    simpa using hnext

/-- An invariant given by a part `J` on the shared state and a part `K` on each process. -/
structure Inv (J : G → Prop) (K : G → ι → P → Prop) (s : Pool G ι P) : Prop where
  shared : J s.shared
  procs : ∀ i, K s.shared i (s.procs i)

/-- The non-interference rule: the moving process keeps `J` and its own `K`, its step does not break
the `K` of others, and the environment keeps both. -/
lemma step_inv {J : G → Prop} {K : G → ι → P → Prop}
    (hown : ∀ {i c g p}, l = .proc i c → act s.shared i (s.procs i) c = some (g, p) →
      J g ∧ K g i p)
    (hother : ∀ {i c g p}, l = .proc i c → act s.shared i (s.procs i) c = some (g, p) →
      ∀ j, j ≠ i → K s.shared j (s.procs j) → K g j (s.procs j))
    (henv : ∀ {e g}, l = .env e → env s.shared e = some g →
      J g ∧ ∀ j, K s.shared j (s.procs j) → K g j (hit e (s.procs j)))
    (hs : Inv J K s) (h : step act env hit s l = some s') : Inv J K s' := by
  cases h using step_cases with
  | proc i c g p hact =>
    -- the others have not moved, but they are now judged against the new shared state
    have hothers : ∀ j, j ≠ i → K g j (s.procs j) :=
      fun j hj => hother rfl hact j hj (hs.procs j)
    exact ⟨(hown rfl hact).1, (Function.forall_update_iff _ _).mpr ⟨(hown rfl hact).2, hothers⟩⟩
  | env e g henv' =>
    exact ⟨(henv rfl henv').1, fun j => (henv rfl henv').2 j (hs.procs j)⟩

variable {K : G → P → Prop}

/-- What holds of one process is kept by a run if its own steps, those of the others and the
environment keep it; `D` is what is known of its answers. -/
lemma proc_of_exec_given {D : C → Prop}
    (hown : ∀ {g p c g' p'}, K g p → D c → act g i p c = some (g', p') → K g' p')
    (hother : ∀ {g p j q c g' q'}, K g p → act g j q c = some (g', q') → K g' p)
    (henv : ∀ {g p e g'}, K g p → env g e = some g' → K g' (hit e p)) (hs : K s.shared (s.procs i))
    (hD : ∀ c, .proc i c ∈ ls → D c)
    (h : exec (step act env hit) s ls = some s') : K s'.shared (s'.procs i) := by
  have hmeets : Meets (step act env hit) (fun _ l => ∀ c, l = .proc i c → D c) s ls :=
    meets_of_forall fun _ l hl c hc => hD c (hc ▸ hl)
  refine inv_of_exec (I := fun t => K t.shared (t.procs i)) ?_ hs hmeets h
  intro t l t' ht hallowed hl
  cases hl using step_cases with
  | proc j c g p hact =>
    by_cases hij : i = j
    · subst hij
      simpa using hown ht (hallowed c rfl) hact
    · simpa [Function.update_of_ne hij] using hother ht hact
  | env e g hg =>
    exact henv ht hg

lemma proc_of_exec
    (hown : ∀ {g p c g' p'}, K g p → act g i p c = some (g', p') → K g' p')
    (hother : ∀ {g p j q c g' q'}, K g p → act g j q c = some (g', q') → K g' p)
    (henv : ∀ {g p e g'}, K g p → env g e = some g' → K g' (hit e p)) (hs : K s.shared (s.procs i))
    (h : exec (step act env hit) s ls = some s') : K s'.shared (s'.procs i) := by
  refine proc_of_exec_given (K := K) (D := fun _ => True) ?_ hother ?_ hs (fun _ _ => trivial) h
  · exact fun hK _ hact => hown hK hact
  · exact fun hK hg => henv hK hg

end Pool

end Combee.Foundation
