import Mathlib.Algebra.Order.Ring.Int
import Mathlib.Data.List.Chain
import Mathlib.Tactic.Ring

/-!
# Tiling — lists of half-open integer ranges without gaps and overlaps

`Tiles lo hi n a b ws` says that the ranges `[lo w, hi w)` of the list `ws` follow each other
without a gap from `a` to `b`, and that their lengths are positive multiples of `n`.
-/

namespace Combee.Foundation

open List

section Tiling

variable {α : Type*} (lo hi : α → ℤ) (n a : ℤ)

inductive Tiles : ℤ → List α → Prop
  | nil : Tiles a []
  | concat {ws : List α} {w : α} (h : Tiles (lo w) ws) (hlt : lo w < hi w)
      (hdvd : n ∣ hi w - lo w) : Tiles (hi w) (ws ++ [w])

variable {lo hi n a} {b x : ℤ} {ws : List α} {w w' : α}

namespace Tiles

section

variable (h : Tiles lo hi n a b ws)
include h

lemma le : a ≤ b := by
  induction h with
  | nil => exact le_refl _
  | concat _ hlt _ ih => exact ih.trans hlt.le

lemma dvd : n ∣ b - a := by
  induction h with
  | nil => simp
  | @concat ws w _ _ hdvd ih =>
    have hsum : hi w - a = (hi w - lo w) + (lo w - a) := by ring
    rw [hsum]
    exact Int.dvd_add hdvd ih

lemma bounds (hw : w ∈ ws) : a ≤ lo w ∧ lo w < hi w ∧ hi w ≤ b := by
  induction h with
  | nil => simp at hw
  | @concat ws v hprev hlt _ ih =>
    rcases mem_append.mp hw with hw | hw
    · rcases ih hw with ⟨hlo, hlen, hhi⟩
      exact ⟨hlo, hlen, hhi.trans hlt.le⟩
    · rcases mem_singleton.mp hw with rfl
      exact ⟨hprev.le, hlt, le_refl _⟩

lemma pairwise : ws.Pairwise fun w w' => hi w ≤ lo w' := by
  induction h with
  | nil => exact List.Pairwise.nil
  | @concat ws v hprev _ _ ih =>
    refine pairwise_append.mpr ⟨ih, pairwise_singleton _ _, ?_⟩
    intro w hw w' hw'
    rcases mem_singleton.mp hw' with rfl
    exact (hprev.bounds hw).2.2

lemma last (hw : w ∈ ws.getLast?) : hi w = b := by
  induction h with
  | nil => simp at hw
  | @concat ws v _ _ _ _ =>
    obtain rfl : v = w := by simpa using hw
    rfl

lemma head (hw : w ∈ ws.head?) : lo w = a := by
  have hend : ∀ {c us}, Tiles lo hi n a c us → us = [] → c = a := by
    intro c us hus hnil
    cases hus with
    | nil => rfl
    | concat => simp at hnil
  induction h with
  | nil => simp at hw
  | @concat ws v hprev _ _ ih =>
    cases ws with
    | nil =>
      obtain rfl : v = w := by simpa using hw
      exact hend hprev rfl
    | cons u us => exact ih hw

lemma isChain : ws.IsChain fun w w' => hi w = lo w' := by
  induction h with
  | nil => exact List.IsChain.nil
  | @concat ws v hprev _ _ ih =>
    refine isChain_append.mpr ⟨ih, isChain_singleton _, ?_⟩
    intro w hw w' hw'
    obtain rfl : v = w' := by simpa using hw'
    exact hprev.last hw

lemma filter_eq_singleton (ha : a ≤ x) (hb : x < b) :
    ∃ w, ws.filter (fun w => decide (lo w ≤ x ∧ x < hi w)) = [w] := by
  induction h with
  | nil => omega
  | @concat ws v hprev _ _ ih =>
    rw [filter_append]
    by_cases hx : x < lo v
    · rcases ih hx with ⟨w, hw⟩
      have hlast : [v].filter (fun w => decide (lo w ≤ x ∧ x < hi w)) = [] := by
        simp [not_le.mpr hx]
      exact ⟨w, by rw [hw, hlast, append_nil]⟩
    · have hbefore : ws.filter (fun w => decide (lo w ≤ x ∧ x < hi w)) = [] := by
        rw [filter_eq_nil_iff]
        intro w hw
        have hend := (hprev.bounds hw).2.2
        simp only [decide_eq_true_eq]
        omega
      have hlast : [v].filter (fun w => decide (lo w ≤ x ∧ x < hi w)) = [v] := by
        simp [not_lt.mp hx, hb]
      exact ⟨v, by rw [hbefore, hlast, nil_append]⟩

/-- All ranges begin and end on the grid through `a`. -/
lemma grid (hw : w ∈ ws) : n ∣ lo w - a ∧ n ∣ hi w - a := by
  induction h with
  | nil => simp at hw
  | @concat ws v hprev hlt hdvd ih =>
    rcases mem_append.mp hw with hw | hw
    · exact ih hw
    · rcases mem_singleton.mp hw with rfl
      exact ⟨hprev.dvd, (hprev.concat hlt hdvd).dvd⟩

lemma lt_iff_le_sub (hw : w ∈ ws) (hn : 0 < n) (hx : n ∣ x - a) : x < hi w ↔ x ≤ hi w - n := by
  have hdiff : n ∣ hi w - x := by
    have hsub := Int.dvd_sub (h.grid hw).2 hx
    have heq : hi w - a - (x - a) = hi w - x := by ring
    rwa [heq] at hsub
  constructor
  · intro hlt
    have hle : n ≤ hi w - x := Int.le_of_dvd (by omega) hdiff
    omega
  · intro hle
    omega

end

end Tiles

end Tiling

end Combee.Foundation
