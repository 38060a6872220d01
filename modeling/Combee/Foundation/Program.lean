import Combee.Foundation.Machine

/-!
# Program — programs as trees of calls, and running them under interference

A program is a tree: it has returned, or it makes one call and continues with the answer. Each call
is one atomic step, so a program can be run to its end in one go (`Prog.run`) or one call at a time
with other processes moving in between (`Prog.Secure`).

`Prog.Secure` is the rely condition: before every call the state may change by a step of `Rely`, the
call must then establish `Inv`, and the value returned must satisfy the postcondition.
-/

namespace Combee.Foundation

/-- Programs over the calls `Op`; `Res op` is the type of the answer to `op`. -/
inductive Prog (Op : Type) (Res : Op → Type) (α : Type) : Type where
  | ret (a : α)
  | call (op : Op) (k : Res op → Prog Op Res α)

namespace Prog

variable {Op : Type} {Res : Op → Type} {α β : Type}

/-! ## Sequencing -/

def bind : Prog Op Res α → (α → Prog Op Res β) → Prog Op Res β
  | .ret a, f => f a
  | .call op k, f => .call op fun r => bind (k r) f

instance : Monad (Prog Op Res) where
  pure := .ret
  bind := bind

@[simp] lemma pure_eq_ret (a : α) : (pure a : Prog Op Res α) = .ret a := rfl

/-! ## Running a program to its end -/

variable {σ ω : Type} (answer : σ → (op : Op) → ω → Res op × σ)

/-- Runs a program without interference; the `n`-th call is given the `n`-th outside answer. -/
def run : (Nat → ω) → σ → Prog Op Res α → α × σ
  | _, s, .ret a => (a, s)
  | os, s, .call op k =>
    run (fun n => os (n + 1)) (answer s op (os 0)).2 (k (answer s op (os 0)).1)

variable {answer}

/-- A reflexive and transitive relation that every single call respects is respected by the run. -/
lemma run_rel {R : σ → σ → Prop} (hrefl : ∀ s, R s s) (htrans : ∀ {s t u}, R s t → R t u → R s u)
    (hcall : ∀ s op o, R s (answer s op o).2) (os : Nat → ω) (s : σ) (p : Prog Op Res α) :
    R s (run answer os s p).2 := by
  induction p generalizing os s with
  | ret a => exact hrefl s
  | call op k ih => exact htrans (hcall s op (os 0)) (ih _ _ _)

/-- With the same outside answer at every call, a sequence is run part by part. -/
lemma run_bind_const (o : ω) (s : σ) (p : Prog Op Res α) (f : α → Prog Op Res β) :
    run answer (fun _ => o) s (p >>= f) =
      run answer (fun _ => o) (run answer (fun _ => o) s p).2
        (f (run answer (fun _ => o) s p).1) := by
  induction p generalizing s with
  | ret a => rfl
  | call op k ih => exact ih _ _

lemma run_bind_ret (os : Nat → ω) (s : σ) (p : Prog Op Res α) (f : α → β) :
    run answer os s (p >>= fun a => .ret (f a)) =
      (f (run answer os s p).1, (run answer os s p).2) := by
  induction p generalizing os s with
  | ret a => rfl
  | call op k ih => exact ih _ _ _

variable {f : α → Prog Op Res β}

/-- If the value of the rest of a program is known, whatever it does, so is that of the whole. -/
lemma run_bind_fst {g : α → β}
    (hf : ∀ a os s, (run answer os s (f a)).1 = g a) (os : Nat → ω) (s : σ) (p : Prog Op Res α) :
    (run answer os s (p >>= f)).1 = g (run answer os s p).1 := by
  induction p generalizing os s with
  | ret a => exact hf a os s
  | call op k ih => exact ih _ _ _

/-! ## The calls of a program -/

/-- Every call that the program can make satisfies `P`. -/
def Only (P : Op → Prop) : Prog Op Res α → Prop
  | .ret _ => True
  | .call op k => P op ∧ ∀ r, Only P (k r)

def transcript (answer : σ → (op : Op) → ω → Res op × σ) :
    (Nat → ω) → σ → Prog Op Res α → List (Σ op, Res op)
  | _, _, .ret _ => []
  | os, s, .call op k =>
    ⟨op, (answer s op (os 0)).1⟩ ::
      transcript answer (fun n => os (n + 1)) (answer s op (os 0)).2 (k (answer s op (os 0)).1)

variable {P : Op → Prop} {p : Prog Op Res α}

lemma Only.mono {P' : Op → Prop} (h : p.Only P) (hP : ∀ op, P op → P' op) : p.Only P' := by
  induction p with
  | ret a => trivial
  | call op k ih => exact ⟨hP op h.1, fun r => ih r (h.2 r)⟩

lemma only_bind (hp : p.Only P) (hf : ∀ a, (f a).Only P) : (p >>= f).Only P := by
  induction p with
  | ret a => exact hf a
  | call op k ih => exact ⟨hp.1, fun r => ih r (hp.2 r)⟩

lemma only_exceptT_bind {ε : Type} {p : ExceptT ε (Prog Op Res) α}
    {f : α → ExceptT ε (Prog Op Res) β} (hp : p.run.Only P) (hf : ∀ a, (f a).run.Only P) :
    (p >>= f).run.Only P := by
  refine only_bind hp fun r => ?_
  cases r with
  | ok a => exact hf a
  | error e => trivial

lemma Only.transcript (h : p.Only P) (os : Nat → ω) (s : σ) :
    ∀ e ∈ Prog.transcript answer os s p, P e.1 := by
  induction p generalizing os s with
  | ret a => exact fun e he => by cases he
  | call op k ih => exact List.forall_mem_cons.mpr ⟨h.1, ih _ (h.2 _) _ _⟩

lemma Only.run_snd (h : p.Only P) (hP : ∀ s op o, P op → (answer s op o).2 = s) (os : Nat → ω)
    (s : σ) : (run answer os s p).2 = s := by
  induction p generalizing os s with
  | ret a => rfl
  | call op k ih =>
    have hrest := ih _ (h.2 (answer s op (os 0)).1) (fun n => os (n + 1)) (answer s op (os 0)).2
    exact hrest.trans (hP s op (os 0) h.1)

/-- An invariant that the calls of the program keep is kept by the run. -/
lemma Only.run_inv {I : σ → Prop} (h : p.Only P) (hP : ∀ s op o, P op → I s → I (answer s op o).2)
    (os : Nat → ω) {s : σ} (hs : I s) : I (run answer os s p).2 := by
  induction p generalizing os s with
  | ret a => exact hs
  | call op k ih => exact ih _ (h.2 _) _ (hP s op (os 0) h.1 hs)

/-- Every value that the program can return satisfies `P`. -/
def Returns (P : α → Prop) : Prog Op Res α → Prop
  | .ret a => P a
  | .call _ k => ∀ r, Returns P (k r)

lemma returns_true (p : Prog Op Res α) : p.Returns fun _ => True := by
  induction p with
  | ret a => trivial
  | call op k ih => exact ih

lemma returns_bind {P : α → Prop} {Q : β → Prop}
    (hp : p.Returns P) (hf : ∀ a, P a → (f a).Returns Q) : (p >>= f).Returns Q := by
  induction p with
  | ret a => exact hf a hp
  | call op k ih => exact fun r => ih r (hp r)

lemma Returns.run {P : α → Prop} (h : p.Returns P) (os : Nat → ω) (s : σ) :
    P (Prog.run answer os s p).1 := by
  induction p generalizing os s with
  | ret a => exact h
  | call op k ih => exact ih _ (h _) _ _

/-- Up to the first answer as `done` says, calls satisfy `P` and a result `Q`; the rest satisfies
`After`. -/
def Until (P : Op → Prop) (Q : α → Prop) (done : (op : Op) → Res op → Prop)
    (After : Prog Op Res α → Prop) : Prog Op Res α → Prop
  | .ret a => Q a
  | .call op k => P op ∧ ∀ r, (done op r → After (k r)) ∧
      (¬ done op r → Until P Q done After (k r))

lemma Until.answered {Q : α → Prop} {done : (op : Op) → Res op → Prop}
    {After : Prog Op Res α → Prop} {op : Op} {k : Res op → Prog Op Res α}
    (h : Until P Q done After (.call op k)) (r : Res op) :
    done op r ∧ After (k r) ∨ Until P Q done After (k r) := by
  by_cases hr : done op r
  · exact .inl ⟨hr, (h.2 r).1 hr⟩
  · exact .inr ((h.2 r).2 hr)

/-! ## Running a program under interference -/

section Secure

variable (answer) (Rely : σ → σ → Prop) (Allowed : σ → Op → ω → Prop) (Inv : σ → Prop)

/-- `p` may be run from `s` call by call: `Rely` holds between calls, `Allowed` calls establish
`Inv`, and the result satisfies `Q`. -/
def Secure (Q : α → σ → Prop) : Prog Op Res α → σ → Prop
  | .ret a, s => Q a s
  | .call op k, s => ∀ s', Rely s s' → ∀ o, Allowed s' op o →
      Inv (answer s' op o).2 ∧ Secure Q (k (answer s' op o).1) (answer s' op o).2

variable {answer Rely Allowed Inv} {Q : α → σ → Prop} {s : σ}

lemma secure_ret {a : α} (h : Q a s) : Secure answer Rely Allowed Inv Q (.ret a) s := h

lemma Secure.call {op : Op} {k : Res op → Prog Op Res α} {o : ω}
    (h : Secure answer Rely Allowed Inv Q (.call op k) s) (hrefl : Rely s s) (ho : Allowed s op o) :
    Inv (answer s op o).2 ∧
      Secure answer Rely Allowed Inv Q (k (answer s op o).1) (answer s op o).2 :=
  h s hrefl o ho

variable {p : Prog Op Res α}

lemma Secure.rely (htrans : ∀ {s t u}, Rely s t → Rely t u → Rely s u)
    (hQ : ∀ {a s s'}, Q a s → Rely s s' → Q a s') {s' : σ}
    (h : Secure answer Rely Allowed Inv Q p s) (hs : Rely s s') :
    Secure answer Rely Allowed Inv Q p s' := by
  cases p with
  | ret a => exact hQ h hs
  | call op k =>
    intro s'' hs'' o ho
    -- two changes from outside are one
    exact h s'' (htrans hs hs'') o ho

/-- Every call of the run is given an outside answer that is `Allowed` in the state of the call. -/
def Permits (answer : σ → (op : Op) → ω → Res op × σ) (Allowed : σ → Op → ω → Prop) :
    (Nat → ω) → σ → Prog Op Res α → Prop
  | _, _, .ret _ => True
  | os, s, .call op k =>
    Allowed s op (os 0) ∧ Permits answer Allowed (fun n => os (n + 1)) (answer s op (os 0)).2
      (k (answer s op (os 0)).1)

variable {os : Nat → ω}

/-- A program that is run to its end without interference satisfies its postcondition. -/
lemma Secure.run (hrefl : ∀ s, Rely s s) (hos : Permits answer Allowed os s p)
    (h : Secure answer Rely Allowed Inv Q p s) :
    Q (Prog.run answer os s p).1 (Prog.run answer os s p).2 := by
  induction p generalizing os s with
  | ret a => exact h
  | call op k ih =>
    rcases hos with ⟨hallowed, hrest⟩
    have hnext := (h s (hrefl s) (os 0) hallowed).2
    exact ih _ hrest hnext

lemma Permits.mono {Allowed' : σ → Op → ω → Prop} (hle : ∀ {s op o}, Allowed s op o →
    Allowed' s op o)
    (h : Permits answer Allowed os s p) : Permits answer Allowed' os s p := by
  induction p generalizing os s with
  | ret a => trivial
  | call op k ih => exact ⟨hle h.1, ih _ h.2⟩

lemma Permits.and_forall {P : ω → Prop} (hP : ∀ n, P (os n)) (h : Permits answer Allowed os s p) :
    Permits answer (fun s op o => Allowed s op o ∧ P o) os s p := by
  induction p generalizing os s with
  | ret a => trivial
  | call op k ih => exact ⟨⟨h.1, hP 0⟩, ih _ (fun n => hP (n + 1)) h.2⟩

lemma permits_of_forall (h : ∀ n s op, Allowed s op (os n)) (s : σ)
    (p : Prog Op Res α) : Permits answer Allowed os s p := by
  induction p generalizing os s with
  | ret a => trivial
  | call op k ih => exact ⟨h 0 s op, ih _ (fun n => h (n + 1)) _⟩

/-- The rule for sequencing: the rest of the program is the postcondition of its first part. -/
lemma secure_bind {Q : β → σ → Prop} {f : α → Prog Op Res β} (h : Secure answer Rely Allowed Inv
      (fun a s => Secure answer Rely Allowed Inv Q (f a) s) p s) :
    Secure answer Rely Allowed Inv Q (p >>= f) s := by
  induction p generalizing s with
  | ret a => exact h
  | call op k ih =>
    intro s' hs o ho
    exact ⟨(h s' hs o ho).1, ih _ (h s' hs o ho).2⟩

lemma Secure.mono {Q' : α → σ → Prop} (hQ : ∀ {a s}, Q a s → Q' a s)
    (h : Secure answer Rely Allowed Inv Q p s) : Secure answer Rely Allowed Inv Q' p s := by
  induction p generalizing s with
  | ret a => exact hQ h
  | call op k ih =>
    intro s' hs o ho
    exact ⟨(h s' hs o ho).1, ih _ (h s' hs o ho).2⟩

lemma secure_exceptT_bind {ε : Type} {Q : Except ε β → σ → Prop}
    {p : ExceptT ε (Prog Op Res) α} {f : α → ExceptT ε (Prog Op Res) β}
    (h : Secure answer Rely Allowed Inv (fun r s => match r with
      | .ok a => Secure answer Rely Allowed Inv Q (f a).run s
      | .error e => Q (.error e) s) p.run s) :
    Secure answer Rely Allowed Inv Q (p >>= f).run s := by
  -- the postcondition of the first part is the rest of the program, case by case
  refine secure_bind (h.mono fun {r s} hr => ?_)
  cases r with
  | ok | error => exact hr

end Secure

end Prog

end Combee.Foundation
