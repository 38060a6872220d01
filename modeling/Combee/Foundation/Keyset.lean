import Combee.Foundation.Paging
import Mathlib.Data.Finset.Sort

/-!
# Keyset — walking through a changing ordered set page by page

A walk reads a set in pages of at most `n` elements: each page has the least elements beyond the
cursor, and its last element is the cursor of the next page. The set may be another one at each
page, so a walk is a fold over the sets that its pages have seen. For every list of sets:

* `Walk.sorted` — what has been read is strictly increasing;
* `Walk.sound` — each element was in one of the sets;
* `Walk.complete` — a finished walk has read whatever was in all of them.
-/

namespace Combee.Foundation

open List

variable {α : Type*} [LinearOrder α]

def ahead (S : Finset α) (cursor : Option α) : Finset α :=
  S.filter fun a => ∀ c ∈ cursor, c < a

variable {S : Finset α} {a : α}

@[simp] lemma mem_ahead {cursor : Option α} : a ∈ ahead S cursor ↔ a ∈ S ∧ ∀ c ∈ cursor, c < a :=
  Finset.mem_filter

def rowsAhead (S : Finset α) (cursor : Option α) : List α :=
  (ahead S cursor).sort (· ≤ ·)

@[simp] lemma mem_rowsAhead {cursor : Option α} :
    a ∈ rowsAhead S cursor ↔ a ∈ S ∧ ∀ c ∈ cursor, c < a := by
  rw [rowsAhead, Finset.mem_sort, mem_ahead]

lemma rowsAhead_pairwise (S : Finset α) (cursor : Option α) :
    (rowsAhead S cursor).Pairwise (· < ·) :=
  (Finset.sortedLT_sort (ahead S cursor)).pairwise

lemma le_getLast_of_pairwise {l : List α} (h : l.Pairwise (· < ·)) (ha : a ∈ l) :
    ∃ c ∈ l.getLast?, a ≤ c := by
  have hne : l ≠ [] := ne_nil_of_mem ha
  exact ⟨l.getLast hne, getLast?_eq_some_getLast hne, (h.imp le_of_lt).rel_getLast ha⟩

lemma exists_rowsAhead_eq_cons (ha : a ∈ S) :
    ∃ cursor rest, (∀ c ∈ cursor, c ∈ S) ∧ rowsAhead S cursor = a :: rest := by
  have hall : ∀ {b : α}, b ∈ rowsAhead S none ↔ b ∈ S := by simp
  rcases append_of_mem (hall.mpr ha) with ⟨before, rest, hrows⟩
  have hpair : (before ++ a :: rest).Pairwise (· < ·) := hrows ▸ rowsAhead_pairwise S none
  rcases pairwise_append.mp hpair with ⟨hbefore, hrest, hlt⟩
  refine ⟨before.getLast?, rest, fun c hc => ?_, ?_⟩
  · have hmem : c ∈ before := mem_of_getLast? hc
    exact hall.mp (hrows ▸ mem_append_left _ hmem)
  · refine (rowsAhead_pairwise S _).eq_of_mem_iff hrest fun b => ?_
    rw [mem_rowsAhead, ← hall, hrows, mem_append]
    constructor
    · rintro ⟨hb | hb, hcursor⟩
      · rcases le_getLast_of_pairwise hbefore hb with ⟨c, hc, hle⟩
        exact absurd (lt_of_le_of_lt hle (hcursor c hc)) (lt_irrefl b)
      · exact hb
    · intro hb
      exact ⟨.inr hb, fun c hc => hlt c (mem_of_getLast? hc) b hb⟩

/-- A walk: the cursor, what has been read so far, and whether the last page was reached. -/
structure Walk (α : Type*) where
  cursor : Option α := none
  got : List α := []
  finished : Bool := false

namespace Walk

variable {n : Nat} {w : Walk α}

/-- One page. There is a next one if the set has more elements than the page takes. -/
def turn (n : Nat) (w : Walk α) (S : Finset α) : Walk α :=
  if w.finished then w
  else
    let rows := rowsAhead S w.cursor
    let keys := rows.take n
    if n < rows.length then ⟨keys.getLast?, w.got ++ keys, false⟩
    else ⟨w.cursor, w.got ++ keys, true⟩

/-- The pages that have seen the sets `Ss`. -/
def turns (n : Nat) (w : Walk α) (Ss : List (Finset α)) : Walk α :=
  Ss.foldl (turn n) w

@[simp] lemma turns_nil : w.turns n [] = w := rfl

@[simp] lemma turns_cons (S : Finset α) (Ss : List (Finset α)) :
    w.turns n (S :: Ss) = (w.turn n S).turns n Ss := rfl

lemma turns_append (Ss Ts : List (Finset α)) : w.turns n (Ss ++ Ts) = (w.turns n Ss).turns n Ts :=
  foldl_append

lemma turn_of_finished (h : w.finished = true) (S : Finset α) : w.turn n S = w := by
  simp [turn, h]

lemma turns_of_finished (h : w.finished = true) (Ss : List (Finset α)) : w.turns n Ss = w := by
  induction Ss with
  | nil => rfl
  | cons S Ss ih => rw [turns_cons, turn_of_finished h, ih]

/-- What a page can do: nothing after the end, a full page with more behind it, or the last one. -/
inductive Turned (n : Nat) (w : Walk α) (S : Finset α) : Walk α → Prop where
  | ended (h : w.finished = true) : Turned n w S w
  | more {keys rest : List α} {last : α} (h : w.finished = false) (hn : (keys ++ [last]).length = n)
      (hrows : rowsAhead S w.cursor = keys ++ last :: rest) :
      Turned n w S ⟨some last, w.got ++ (keys ++ [last]), false⟩
  | last (h : w.finished = false) (hn : (rowsAhead S w.cursor).length ≤ n) :
      Turned n w S ⟨w.cursor, w.got ++ rowsAhead S w.cursor, true⟩

lemma turned (hn : 0 < n) (w : Walk α) (S : Finset α) : Turned n w S (w.turn n S) := by
  by_cases hfin : w.finished = true
  · rw [turn_of_finished hfin]
    exact .ended hfin
  · have hopen : w.finished = false := by simpa using hfin
    unfold turn
    rw [if_neg hfin]
    dsimp only
    by_cases hmore : n < (rowsAhead S w.cursor).length
    · obtain ⟨keys, last, rest, hrows, hlen, -⟩ := Paging.exists_split hn hmore
      rw [if_pos hmore, hrows, Paging.take_split hlen, getLast?_concat]
      exact .more hopen (by simpa using hlen) hrows
    · rw [if_neg hmore, take_of_length_le (Nat.le_of_not_lt hmore)]
      exact .last hopen (Nat.le_of_not_lt hmore)

/-! ## What has been read is strictly increasing -/

/-- Increasing so far, and nothing read lies beyond the cursor of an unfinished walk. -/
structure Ordered (w : Walk α) : Prop where
  pairwise : w.got.Pairwise (· < ·)
  upto : w.finished = false → ∀ a ∈ w.got, ∃ c ∈ w.cursor, a ≤ c

lemma ordered_start : Ordered ({} : Walk α) :=
  ⟨List.Pairwise.nil, fun _ a h => by cases h⟩

variable {S : Finset α}

/-- What an unfinished walk has read comes before the rows of its next page. -/
lemma Ordered.append (h : Ordered w) (hopen : w.finished = false) {keys : List α}
    (hkeys : keys.Sublist (rowsAhead S w.cursor)) : (w.got ++ keys).Pairwise (· < ·) := by
  refine pairwise_append.mpr ⟨h.pairwise, (rowsAhead_pairwise S w.cursor).sublist hkeys, ?_⟩
  intro a ha b hb
  rcases h.upto hopen a ha with ⟨c, hc, hle⟩
  exact lt_of_le_of_lt hle ((mem_rowsAhead.mp (hkeys.subset hb)).2 c hc)

lemma Ordered.turn (hn : 0 < n) (h : Ordered w) (S : Finset α) : Ordered (w.turn n S) := by
  have hturned := turned hn w S
  generalize w.turn n S = w' at hturned ⊢
  cases hturned with
  | ended _ => exact h
  | last hopen _ => exact ⟨h.append hopen (List.Sublist.refl _), fun hfin => by cases hfin⟩
  | @more keys rest last hopen _ hrows =>
    have hsub : (keys ++ [last]).Sublist (rowsAhead S w.cursor) := by
      rw [hrows]
      exact List.Sublist.append_left (by simp) keys
    have hpair := h.append hopen hsub
    refine ⟨hpair, fun _ a ha => ?_⟩
    simpa using le_getLast_of_pairwise hpair ha

lemma Ordered.turns (hn : 0 < n) (h : Ordered w) (Ss : List (Finset α)) :
    Ordered (w.turns n Ss) := by
  induction Ss generalizing w with
  | nil => exact h
  | cons S Ss ih => exact ih (h.turn hn S)

lemma sorted (hn : 0 < n) (Ss : List (Finset α)) :
    (turns n ({} : Walk α) Ss).got.Pairwise (· < ·) :=
  (ordered_start.turns hn Ss).pairwise

/-! ## Nothing else is read, and nothing that stays is missed -/

variable {a : α}

lemma mem_got_turn (hn : 0 < n) (h : a ∈ (w.turn n S).got) : a ∈ w.got ∨ a ∈ S := by
  have hturned := turned hn w S
  generalize w.turn n S = w' at hturned h
  cases hturned with
  | ended _ => exact .inl h
  | last _ _ => exact (mem_append.mp h).imp_right fun ha => (mem_rowsAhead.mp ha).1
  | @more keys rest last _ _ hrows =>
    refine (mem_append.mp h).imp_right fun ha => ?_
    have hmem : a ∈ rowsAhead S w.cursor := by
      rw [hrows, append_cons]
      exact mem_append_left rest ha
    exact (mem_rowsAhead.mp hmem).1

lemma mem_got_turns (hn : 0 < n) (Ss : List (Finset α)) (h : a ∈ (w.turns n Ss).got) :
    a ∈ w.got ∨ ∃ S ∈ Ss, a ∈ S := by
  induction Ss generalizing w with
  | nil => exact .inl h
  | cons S Ss ih =>
    rcases ih h with h | ⟨T, hT, ha⟩
    · exact (mem_got_turn hn h).imp_right fun ha => ⟨S, by simp, ha⟩
    · exact .inr ⟨T, mem_cons_of_mem _ hT, ha⟩

lemma sound (hn : 0 < n) (Ss : List (Finset α))
    (h : a ∈ (turns n ({} : Walk α) Ss).got) : ∃ S ∈ Ss, a ∈ S :=
  (mem_got_turns hn Ss h).resolve_left not_mem_nil

def Covers (w : Walk α) (a : α) : Prop :=
  a ∈ w.got ∨ w.finished = false ∧ ∀ c ∈ w.cursor, c < a

lemma Covers.turn (hn : 0 < n) (ha : a ∈ S) (h : Covers w a) : Covers (w.turn n S) a := by
  have hturned := turned hn w S
  generalize w.turn n S = w' at hturned ⊢
  cases hturned with
  | ended _ => exact h
  | last _ _ =>
    rcases h with h | ⟨_, h⟩
    · exact .inl (mem_append_left _ h)
    · exact .inl (mem_append_right _ (mem_rowsAhead.mpr ⟨ha, h⟩))
  | @more keys rest last _ _ hrows =>
    rcases h with h | ⟨_, h⟩
    · exact .inl (mem_append_left _ h)
    -- beyond the old cursor: on this page, or behind its last element
    · have hmem : a ∈ keys ++ last :: rest := hrows ▸ mem_rowsAhead.mpr ⟨ha, h⟩
      have hpair : (keys ++ last :: rest).Pairwise (· < ·) :=
        hrows ▸ rowsAhead_pairwise S w.cursor
      rcases mem_append.mp hmem with hmem | hmem
      · exact .inl (mem_append_right _ (mem_append_left _ hmem))
      · rcases mem_cons.mp hmem with rfl | hmem
        · exact .inl (by simp)
        · refine .inr ⟨rfl, fun c hc => ?_⟩
          cases hc
          exact (pairwise_cons.mp (pairwise_append.mp hpair).2.1).1 a hmem

variable {Ss : List (Finset α)}

lemma Covers.turns (hn : 0 < n) (ha : ∀ S ∈ Ss, a ∈ S)
    (h : Covers w a) : Covers (w.turns n Ss) a := by
  induction Ss generalizing w with
  | nil => exact h
  | cons S Ss ih =>
    exact ih (forall_mem_cons.mp ha).2 (h.turn hn (ha S mem_cons_self))

lemma complete (hn : 0 < n) (ha : ∀ S ∈ Ss, a ∈ S)
    (hfin : (turns n ({} : Walk α) Ss).finished = true) : a ∈ (turns n ({} : Walk α) Ss).got := by
  have hstart : Covers ({} : Walk α) a := .inr ⟨rfl, fun c hc => by cases hc⟩
  rcases hstart.turns hn ha with h | ⟨h, _⟩
  · exact h
  · rw [hfin] at h
    cases h

/-! ## The end -/

/-- A full page takes its elements from those that can still come. -/
lemma card_ahead_of_more {S A : Finset α} {keys rest : List α} {last : α}
    (hn : (keys ++ [last]).length = n) (hrows : rowsAhead S w.cursor = keys ++ last :: rest)
    (hA : ahead S w.cursor ⊆ A) : (ahead A (some last)).card + n ≤ A.card := by
  have hpair : (keys ++ last :: rest).Pairwise (· < ·) := hrows ▸ rowsAhead_pairwise S w.cursor
  rw [append_cons] at hpair
  have hnodup : (keys ++ [last]).Nodup :=
    (pairwise_append.mp hpair).1.imp fun h => ne_of_lt h
  have hsub : (keys ++ [last]).toFinset ⊆ A := by
    intro a ha
    refine hA (mem_ahead.mpr (mem_rowsAhead.mp ?_))
    rw [hrows, append_cons]
    exact mem_append_left _ (mem_toFinset.mp ha)
  have hdisjoint : Disjoint (ahead A (some last)) (keys ++ [last]).toFinset := by
    rw [Finset.disjoint_left]
    intro a ha hmem
    have hlt := (mem_ahead.mp ha).2 last rfl
    rcases mem_append.mp (mem_toFinset.mp hmem) with hmem | hmem
    · have hbelow : a < last :=
        (pairwise_append.mp (pairwise_append.mp hpair).1).2.2 a hmem last (by simp)
      exact lt_asymm hlt hbelow
    · exact lt_irrefl last (mem_singleton.mp hmem ▸ hlt)
  calc (ahead A (some last)).card + n
      = (ahead A (some last) ∪ (keys ++ [last]).toFinset).card := by
        rw [Finset.card_union_of_disjoint hdisjoint, toFinset_card_of_nodup hnodup, hn]
    _ ≤ A.card := Finset.card_le_card (Finset.union_subset (Finset.filter_subset _ _) hsub)

/-- If no page sees an element outside `A` beyond the cursor, the walk ends within `A.card / n + 1`
pages. -/
lemma ends (hn : 0 < n) {A : Finset α} (hA : ∀ S ∈ Ss, ahead S w.cursor ⊆ A)
    (hlen : A.card < Ss.length * n) : (w.turns n Ss).finished = true := by
  induction Ss generalizing w A with
  | nil => simp at hlen
  | cons S Ss ih =>
    have hturned := turned hn w S
    rw [turns_cons]
    generalize w.turn n S = w' at hturned ⊢
    cases hturned with
    | ended hfin => rw [turns_of_finished hfin, hfin]
    | last _ _ => rw [turns_of_finished rfl]
    | @more keys rest last _ hkeys hrows =>
      have hcard := card_ahead_of_more hkeys hrows (hA S mem_cons_self)
      refine ih (A := ahead A (some last)) (fun T hT a ha => ?_) ?_
      -- beyond the new cursor is beyond the old one
      · have hlast : ∀ c ∈ w.cursor, c < last :=
          (mem_rowsAhead.mp (hrows ▸ by simp : last ∈ rowsAhead S w.cursor)).2
        have hlt := (mem_ahead.mp ha).2
        refine mem_ahead.mpr ⟨hA T (mem_cons_of_mem _ hT) (mem_ahead.mpr ⟨?_, ?_⟩), hlt⟩
        · exact (mem_ahead.mp ha).1
        · exact fun c hc => lt_trans (hlast c hc) (hlt last rfl)
      · rw [length_cons, Nat.succ_mul] at hlen
        omega

end Walk

end Combee.Foundation
