import Mathlib.Data.List.Forall2

/-!
# Lockstep — two implementations of the same operations

An implementation is a function `S → Op → O × S`: the answer to an operation and the next state.
Two of them get the same operations. `Agree` says that the answers are related at every step.

If a relation between the states, which may know the operations to come, makes the answers agree
exactly under a condition on the first state, and is kept under that condition, then a whole
sequence of answers agrees exactly if the condition holds all along (`agree_iff_always`).

The last section has what is needed where the states are lists with related entries.
-/

namespace Combee.Foundation

section Runs

variable {S T Op O P : Type*} (perform : S → Op → O × S) (perform' : T → Op → P × T)

def Agree (A : O → P → Prop) : S → T → List Op → Prop
  | _, _, [] => True
  | s, t, op :: ops => A (perform s op).1 (perform' t op).1 ∧
      Agree A (perform s op).2 (perform' t op).2 ops

/-- The condition holds of every operation in the state that it finds. -/
def Always (C : S → Op → Prop) : S → List Op → Prop
  | _, [] => True
  | s, op :: ops => C s op ∧ Always C (perform s op).2 ops

variable {perform perform'}

lemma agree_iff_always {A : O → P → Prop} {C : S → Op → Prop} {R : S → T → List Op → Prop}
    (hagree : ∀ {s t op ops}, R s t (op :: ops) → (A (perform s op).1 (perform' t op).1 ↔ C s op))
    (hkeep : ∀ {s t op ops}, R s t (op :: ops) → C s op →
      R (perform s op).2 (perform' t op).2 ops)
    {s : S} {t : T} {ops : List Op} (h : R s t ops) :
    Agree perform perform' A s t ops ↔ Always perform C s ops := by
  induction ops generalizing s t with
  | nil => exact Iff.rfl
  | cons op ops ih =>
    rw [Agree, Always, hagree h]
    exact and_congr_right fun hC => ih (hkeep h hC)

end Runs

/-! ## Lists with related entries -/

section Lists

variable {α β : Type*} {R : α → β → Prop} {p : α → Bool} {q : β → Bool} {l : List α} {m : List β}

lemma find_related (h : List.Forall₂ R l m) (hpq : ∀ a b, R a b → p a = q b) :
    (l.find? p = none ∧ m.find? q = none) ∨
      ∃ a b, l.find? p = some a ∧ m.find? q = some b ∧ R a b := by
  induction h with
  | nil => exact .inl ⟨rfl, rfl⟩
  | cons hab _ ih =>
    rename_i a b l m _
    by_cases hp : p a = true
    · have hq : q b = true := hpq a b hab ▸ hp
      exact .inr ⟨a, b, by simp [hp], by simp [hq], hab⟩
    · have hq : ¬ q b = true := hpq a b hab ▸ hp
      simpa [hp, hq] using ih

lemma any_related (h : List.Forall₂ R l m) (hpq : ∀ a b, R a b → p a = q b) :
    l.any p = m.any q := by
  induction h with
  | nil => rfl
  | cons hab _ ih => rw [List.any_cons, List.any_cons, hpq _ _ hab, ih]

end Lists

end Combee.Foundation
