import Mathlib.Algebra.BigOperators.Group.List.Basic
import Mathlib.Algebra.Ring.Int.Defs
import Mathlib.Data.List.Pairwise

/-!
# Journal — append-only lists whose entries carry an optional key

An entry with a key is posted at most once; an entry without a key is always posted.

* `Distinct key rows` says that no two entries of `rows` carry the same key;
* `lookup key rows k` is the entry with the key `k`;
* `Unposted key rows a` says that the key of `a` is not in use;
* `Along P rows` says that every entry satisfies `P` together with those before it;
* `total owner amount rows t` adds up the amounts of the entries that belong to `t`.
-/

namespace Combee.Foundation.Journal

/-! ## Keys -/

section Keys

variable {α κ : Type*} (key : α → Option κ)

def Distinct (rows : List α) : Prop :=
  rows.Pairwise fun a b => ∀ k, key a = some k → key b ≠ some k

/-- No entry of `rows` carries the key of `a`. -/
def Unposted (rows : List α) (a : α) : Prop :=
  ∀ k, key a = some k → ∀ b ∈ rows, key b ≠ some k

variable {key} {rows : List α} {a b : α} {k : κ}

@[simp] lemma distinct_nil : Distinct key [] := List.Pairwise.nil

lemma distinct_concat : Distinct key (rows ++ [a]) ↔ Distinct key rows ∧ Unposted key rows a := by
  simp only [Distinct, Unposted, List.pairwise_append, List.pairwise_singleton, true_and,
    List.mem_singleton, forall_eq]
  constructor
  · intro ⟨hrows, hnew⟩
    exact ⟨hrows, fun k ha b hb hbk => hnew b hb k hbk ha⟩
  · intro ⟨hrows, hnew⟩
    exact ⟨hrows, fun b hb k hbk ha => hnew k ha b hb hbk⟩

lemma Distinct.eq (h : Distinct key rows) (ha : a ∈ rows) (hb : b ∈ rows)
    (hka : key a = some k) (hkb : key b = some k) : a = b := by
  have hsymm : Std.Symm fun a b => ∀ k, key a = some k → key b ≠ some k :=
    ⟨fun _ _ hab k hb ha => hab k ha hb⟩
  by_contra hne
  exact List.Pairwise.forall h ha hb hne k hka hkb

variable (key) [DecidableEq κ]

/-- The entry with the key `k`. -/
def lookup (rows : List α) (k : κ) : Option α :=
  rows.find? fun a => key a = some k

variable {key}

lemma lookup_eq_none : lookup key rows k = none ↔ ∀ a ∈ rows, key a ≠ some k := by
  simp [lookup]

lemma mem_of_lookup (h : lookup key rows k = some a) : a ∈ rows ∧ key a = some k := by
  have hkey : key a = some k := by simpa using List.find?_some h
  exact ⟨List.mem_of_find?_eq_some h, hkey⟩

lemma Distinct.lookup_eq_some (h : Distinct key rows) :
    lookup key rows k = some a ↔ a ∈ rows ∧ key a = some k := by
  constructor
  · exact mem_of_lookup
  · intro ⟨ha, hka⟩
    cases hl : lookup key rows k with
    | none => exact absurd hka (lookup_eq_none.mp hl a ha)
    | some b =>
      have hb := mem_of_lookup hl
      exact congrArg some (h.eq hb.1 ha hb.2 hka)

lemma unposted_iff : Unposted key rows a ↔ (key a).bind (lookup key rows) = none := by
  cases ha : key a with
  | none => simp [Unposted, ha]
  | some k => simp [Unposted, ha, lookup_eq_none]

end Keys

/-! ## Entries judged by those before them -/

section Along

variable {α : Type*} (P : List α → α → Prop)

/-- Every entry satisfies `P` together with the entries before it. -/
def Along (rows : List α) : Prop :=
  ∀ pre a post, rows = pre ++ a :: post → P pre a

variable {P} {rows : List α} {a : α}

@[simp] lemma along_nil : Along P [] := by
  intro pre a post h
  simp at h

lemma along_concat : Along P (rows ++ [a]) ↔ Along P rows ∧ P rows a := by
  constructor
  · intro h
    refine ⟨?_, h rows a [] rfl⟩
    intro pre b post hrows
    exact h pre b (post ++ [a]) (by simp [hrows])
  · intro ⟨hrows, ha⟩ pre b post hsplit
    -- the entry is the new one at the end, or it is followed by it
    rcases List.eq_nil_or_concat post with rfl | ⟨post', last, rfl⟩
    · rcases List.append_inj' hsplit rfl with ⟨rfl, hlast⟩
      rcases List.singleton_inj.mp hlast with rfl
      exact ha
    · have hsplit' : rows ++ [a] = (pre ++ b :: post') ++ [last] := by simpa using hsplit
      rcases List.append_inj' hsplit' rfl with ⟨hrows', _⟩
      exact hrows pre b post' hrows'

end Along

/-! ## Amounts -/

section Amounts

variable {α τ : Type*} [DecidableEq τ] (owner : α → τ) (amount : α → ℤ)

/-- The sum of the amounts of the entries that belong to `t`. -/
def total (rows : List α) (t : τ) : ℤ :=
  ((rows.filter fun a => owner a = t).map amount).sum

variable {owner amount} {rows : List α} {a : α} {t : τ}

@[simp] lemma total_nil : total owner amount [] t = 0 := rfl

@[simp] lemma total_append {rows' : List α} :
    total owner amount (rows ++ rows') t =
      total owner amount rows t + total owner amount rows' t := by
  simp [total]

@[simp] lemma total_cons : total owner amount (a :: rows) t =
    (if owner a = t then amount a else 0) + total owner amount rows t := by
  by_cases h : owner a = t
  · simp [total, h]
  · simp [total, h]

lemma total_perm {rows' : List α} (h : rows.Perm rows') :
    total owner amount rows t = total owner amount rows' t :=
  ((h.filter _).map _).sum_eq

lemma total_eq_zero (h : ∀ a ∈ rows, owner a ≠ t) : total owner amount rows t = 0 := by
  have hnone : rows.filter (fun a => owner a = t) = [] := by simpa using h
  simp [total, hnone]

lemma total_concat_self (h : owner a = t) :
    total owner amount (rows ++ [a]) t = total owner amount rows t + amount a := by
  simp [total, h]

lemma total_concat_of_ne (h : owner a ≠ t) :
    total owner amount (rows ++ [a]) t = total owner amount rows t := by
  simp [total, h]

end Amounts

end Combee.Foundation.Journal
