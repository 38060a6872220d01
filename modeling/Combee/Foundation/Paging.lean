import Mathlib.Data.List.Nodup
import Mathlib.Order.Lattice

/-!
# Paging — reading a list page by page

A page has items and, if there is more to read, a cursor for the next page. `follow` reads on from
a cursor to the page that has none, and `Yields` says what comes out in the end.

With keyset paging the cursor is the key of the last item of a page, and the next page has rows with
smaller keys only. The rows come in an order of their own, which need not be that of the keys.
`yields_rows_iff` says when all rows are read once, in their order: every page that is not the last
must end with a row whose key is below those of the page and above all that come later (`Aligned`).
-/

namespace Combee.Foundation.Paging

open List

structure Page (α κ : Type*) where
  items : List α
  next : Option κ

/-! ## Reading on to the end -/

section Follow

variable {α κ : Type*} (fetch : Option κ → Page α κ)

/-- The items of the pages from a cursor on, if the last page is among the first `n`. -/
def follow : Nat → Option κ → Option (List α)
  | 0, _ => none
  | n + 1, c =>
    match (fetch c).next with
    | none => some (fetch c).items
    | some c' => (follow n (some c')).map ((fetch c).items ++ ·)

/-- Reading on from the cursor ends, with these items. -/
def Yields (c : Option κ) (items : List α) : Prop :=
  ∃ n, follow fetch n c = some items

variable {fetch} {c : Option κ} {c' : κ} {items items' : List α}

lemma yields_of_last (h : (fetch c).next = none) :
    Yields fetch c items ↔ items = (fetch c).items := by
  constructor
  · rintro ⟨n, hn⟩
    cases n with
    | zero => cases hn
    | succ n =>
      simp only [follow, h] at hn
      exact (Option.some.inj hn).symm
  · rintro rfl
    exact ⟨1, by simp only [follow, h]⟩

lemma yields_of_next (h : (fetch c).next = some c') :
    Yields fetch c items ↔
      ∃ rest, Yields fetch (some c') rest ∧ items = (fetch c).items ++ rest := by
  constructor
  · rintro ⟨n, hn⟩
    cases n with
    | zero => cases hn
    | succ n =>
      simp only [follow, h] at hn
      rcases Option.map_eq_some_iff.mp hn with ⟨rest, hrest, rfl⟩
      exact ⟨rest, ⟨n, hrest⟩, rfl⟩
  · rintro ⟨rest, ⟨n, hn⟩, rfl⟩
    refine ⟨n + 1, ?_⟩
    simp only [follow, h, hn, Option.map_some]

/-- Reading ends if something gets smaller with every cursor. -/
lemma exists_yields (μ : Option κ → Nat)
    (hμ : ∀ c c', (fetch c).next = some c' → μ (some c') < μ c) (c : Option κ) :
    ∃ items, Yields fetch c items := by
  induction h : μ c using Nat.strongRecOn generalizing c with
  | ind m ih =>
    cases hnext : (fetch c).next with
    | none => exact ⟨_, (yields_of_last hnext).mpr rfl⟩
    | some c' =>
      rcases ih _ (h ▸ hμ c c' hnext) (some c') rfl with ⟨rest, hrest⟩
      exact ⟨_, (yields_of_next hnext).mpr ⟨rest, hrest, rfl⟩⟩

lemma Yields.unique (h : Yields fetch c items) (h' : Yields fetch c items') : items = items' := by
  rcases h with ⟨n, hn⟩
  induction n generalizing c items items' with
  | zero => cases hn
  | succ n ih =>
    cases hnext : (fetch c).next with
    | none =>
      rw [(yields_of_last hnext).mp h']
      exact (yields_of_last hnext).mp ⟨n + 1, hn⟩
    | some c' =>
      simp only [follow, hnext] at hn
      rcases Option.map_eq_some_iff.mp hn with ⟨rest, hrest, rfl⟩
      rcases (yields_of_next hnext).mp h' with ⟨rest', hrest', rfl⟩
      rw [ih hrest' hrest]

end Follow

/-! ## One page with a look-ahead -/

section Lookahead

variable {α κ : Type*} (key : α → κ)

/-- The page of the first `size` rows, with the key of the last one if there are more. -/
def pageOf (size : Nat) (rows : List α) : Page α κ where
  items := rows.take size
  next := if size < rows.length then (rows.take size).getLast?.map key else none

variable {key} {size : Nat} {rows : List α}

lemma exists_split (hsize : 0 < size) (h : size < rows.length) :
    ∃ page last rest, rows = page ++ last :: rest ∧ page.length + 1 = size ∧ rest ≠ [] := by
  have hlen : size - 1 < rows.length := by omega
  refine ⟨rows.take (size - 1), rows.get ⟨size - 1, hlen⟩, rows.drop size, ?_, ?_, ?_⟩
  · have hdrop := drop_eq_getElem_cons hlen
    rw [Nat.sub_add_cancel hsize] at hdrop
    calc
      rows = rows.take (size - 1) ++ rows.drop (size - 1) := (take_append_drop _ _).symm
      _ = _ := by rw [hdrop]; rfl
  · simp only [length_take]
    omega
  · intro hnil
    have hle := drop_eq_nil_iff.mp hnil
    omega

lemma pageOf_last (h : rows.length ≤ size) : pageOf key size rows = ⟨rows, none⟩ := by
  simp [pageOf, take_of_length_le h, Nat.not_lt.mpr h]

variable {page rest : List α} {last : α} (hsize : page.length + 1 = size)
include hsize

lemma take_split : (page ++ last :: rest).take size = page ++ [last] := by
  rw [← hsize, take_length_add_append]
  rfl

lemma pageOf_split (hrest : rest ≠ []) :
    pageOf key size (page ++ last :: rest) = ⟨page ++ [last], some (key last)⟩ := by
  have hlen : size < (page ++ last :: rest).length := by
    have hpos := length_pos_iff.mpr hrest
    simp only [length_append, length_cons]
    omega
  simp only [pageOf, take_split hsize, if_pos hlen, getLast?_concat, Option.map_some]

end Lookahead

/-! ## Keyset paging -/

section Keyset

variable {α κ : Type*} [LinearOrder κ] (key : α → κ)

def below (c : Option κ) (rows : List α) : List α :=
  rows.filter fun x => c.all fun b => decide (key x < b)

/-- A page of `size` rows out of the first `window` rows below the cursor. -/
def fetchBelow (size window : Nat) (rows : List α) (c : Option κ) : Page α κ :=
  pageOf key size ((below key c rows).take window)

/-- Each page but the last ends with a row whose key is below those of its page and above all later
ones. -/
inductive Aligned (size : Nat) : List α → Prop where
  | short {rows : List α} (h : rows.length ≤ size) : Aligned size rows
  | page {rows rest : List α} {last : α} (hsize : rows.length + 1 = size)
      (habove : ∀ x ∈ rows, key last < key x) (hbelow : ∀ x ∈ rest, key x < key last)
      (hrest : Aligned size rest) : Aligned size (rows ++ last :: rest)

variable {key} {size window : Nat} {rows : List α} {c : Option κ}

lemma below_none : below key none rows = rows := by
  simp [below]

lemma mem_below {x : α} : x ∈ below key c rows ↔ x ∈ rows ∧ ∀ b, c = some b → key x < b := by
  cases c <;> simp [below]

variable {b : κ}

lemma below_below (hb : ∀ a, c = some a → b < a) :
    below key (some b) (below key c rows) = below key (some b) rows := by
  simp only [below, filter_filter]
  congr 1
  funext x
  cases c with
  | none => simp
  | some a =>
    have hlt := hb a rfl
    by_cases hx : key x < b
    · simp [hx, lt_trans hx hlt]
    · simp [hx]

section

variable (h : (fetchBelow key size window rows c).next = some b)
include h

lemma key_of_next :
    ∃ x ∈ below key c rows, key x = b := by
  simp only [fetchBelow, pageOf] at h
  split at h
  · rcases Option.map_eq_some_iff.mp h with ⟨x, hx, hb⟩
    exact ⟨x, mem_of_mem_take (mem_of_mem_take (mem_of_getLast? hx)), hb⟩
  · cases h

lemma lt_of_next :
    ∀ a, c = some a → b < a := by
  rcases key_of_next h with ⟨x, hx, rfl⟩
  exact (mem_below.mp hx).2

end

/-- Whatever the keys are, reading comes to an end. -/
lemma exists_yields_below (key : α → κ) (size window : Nat) (rows : List α) :
    ∃ items, Yields (fetchBelow key size window rows) none items := by
  refine exists_yields (fun c => (below key c rows).length) (fun c b h => ?_) none
  rcases key_of_next h with ⟨x, hx, rfl⟩
  -- the row of the cursor is not below it
  have hsub : (below key (some (key x)) (below key c rows)).length < (below key c rows).length :=
    length_filter_lt_length_iff_exists.mpr ⟨x, hx, by simp⟩
  rwa [below_below (lt_of_next h)] at hsub

lemma mem_below_of_yields {items : List α} (h : Yields (fetchBelow key size window rows) c items)
    : ∀ x ∈ items, x ∈ below key c rows := by
  rcases h with ⟨n, hn⟩
  induction n generalizing c items with
  | zero => cases hn
  | succ n ih =>
    have hpage : ∀ x ∈ (fetchBelow key size window rows c).items, x ∈ below key c rows :=
      fun x hx => mem_of_mem_take (mem_of_mem_take hx)
    simp only [follow] at hn
    split at hn
    · cases hn
      exact hpage
    · rename_i b hnext
      rcases Option.map_eq_some_iff.mp hn with ⟨rest, hrest, rfl⟩
      refine forall_mem_append.mpr ⟨hpage, fun x hx => ?_⟩
      have hlater := ih hrest x hx
      rw [← below_below (lt_of_next hnext)] at hlater
      exact (mem_below.mp hlater).1

variable {rest : List α}

lemma head_of_yields {items : List α} {x : α} (hsize : 0 < size) (hwindow : 0 < window)
    (h : Yields (fetchBelow key size window rows) c items) (hrows : below key c rows = x :: rest) :
    x ∈ items := by
  have hpage : x ∈ (fetchBelow key size window rows c).items := by
    rcases Nat.exists_eq_succ_of_ne_zero (Nat.ne_of_gt hsize) with ⟨m, rfl⟩
    rcases Nat.exists_eq_succ_of_ne_zero (Nat.ne_of_gt hwindow) with ⟨w, rfl⟩
    simp [fetchBelow, pageOf, hrows]
  cases hnext : (fetchBelow key size window rows c).next with
  | none =>
    rw [(yields_of_last hnext).mp h]
    exact hpage
  | some b =>
    rcases (yields_of_next hnext).mp h with ⟨later, _, rfl⟩
    exact mem_append_left _ hpage

variable {page : List α} {last : α}

lemma keys_of_yields_rest (hsize : 0 < size)
    (hwindow : 0 < window) (hrows : below key c rows = page ++ last :: rest)
    (hkeys : ((page ++ last :: rest).map key).Nodup)
    (h : Yields (fetchBelow key size window rows) (some (key last)) rest) :
    (∀ x ∈ page, key last < key x) ∧ ∀ x ∈ rest, key x < key last := by
  have hrest : ∀ x ∈ rest, key x < key last :=
    fun x hx => (mem_below.mp (mem_below_of_yields h x hx)).2 _ rfl
  have hlast : last ∈ below key c rows := by simp [hrows]
  have hdisjoint : ∀ x ∈ page, ∀ y ∈ last :: rest, key x ≠ key y := by
    rw [map_append, nodup_append] at hkeys
    exact fun x hx y hy =>
      hkeys.2.2 _ (mem_map_of_mem hx) _ (mem_map_of_mem hy)
  -- the rows of the page that would come again come first
  have hbelow : below key (some (key last)) rows =
      below key (some (key last)) page ++ below key (some (key last)) (last :: rest) := by
    rw [← below_below (mem_below.mp hlast).2, hrows]
    simp [below]
  refine ⟨fun x hx => ?_, hrest⟩
  by_contra hle
  have hlt : key x < key last :=
    lt_of_le_of_ne (not_lt.mp hle) (hdisjoint x hx last mem_cons_self)
  cases hagain : below key (some (key last)) page with
  | nil =>
    have hmem : x ∈ below key (some (key last)) page :=
      mem_below.mpr ⟨hx, fun b hb => Option.some.inj hb ▸ hlt⟩
    simp [hagain] at hmem
  | cons y ys =>
    rw [hagain, cons_append] at hbelow
    have hy : y ∈ page := (mem_below.mp (hagain ▸ mem_cons_self :
      y ∈ below key (some (key last)) page)).1
    have hy' := head_of_yields hsize hwindow h hbelow
    exact hdisjoint y hy y (mem_cons_of_mem _ hy') rfl

lemma below_of_keys
    (hrows : below key c rows = page ++ last :: rest) (habove : ∀ x ∈ page, key last < key x)
    (hbelow : ∀ x ∈ rest, key x < key last) : below key (some (key last)) rows = rest := by
  have hlast : last ∈ below key c rows := by simp [hrows]
  rw [← below_below (mem_below.mp hlast).2, hrows]
  have hpage : below key (some (key last)) page = [] :=
    filter_eq_nil_iff.mpr fun x hx => by simpa using le_of_lt (habove x hx)
  have hrest : below key (some (key last)) rest = rest :=
    filter_eq_self.mpr fun x hx => by simpa using hbelow x hx
  calc
    below key (some (key last)) (page ++ last :: rest)
        = below key (some (key last)) page ++ below key (some (key last)) rest := by simp [below]
    _ = rest := by rw [hpage, hrest, nil_append]

lemma aligned_append_iff (hsize : page.length + 1 = size) (hrest : rest ≠ []) :
    Aligned key size (page ++ last :: rest) ↔
      (∀ x ∈ page, key last < key x) ∧ (∀ x ∈ rest, key x < key last) ∧ Aligned key size rest := by
  constructor
  · intro h
    generalize hall : page ++ last :: rest = all at h
    cases h with
    | short h =>
      have hpos := length_pos_iff.mpr hrest
      rw [← hall] at h
      simp only [length_append, length_cons] at h
      omega
    | page hsize' habove hbelow h =>
      rename_i page' rest' last'
      rcases append_inj hall (by omega) with ⟨rfl, htail⟩
      cases htail
      exact ⟨habove, hbelow, h⟩
  · rintro ⟨habove, hbelow, h⟩
    exact .page hsize habove hbelow h

lemma fetchBelow_split (hwindow : size < window) (hrows : below key c rows = page ++ last :: rest)
    (hsize : page.length + 1 = size) (hrest : rest ≠ []) :
    fetchBelow key size window rows c = ⟨page ++ [last], some (key last)⟩ := by
  have htake : (page ++ last :: rest).take window =
      page ++ last :: rest.take (window - size) := by
    have hw : window = page.length + ((window - size) + 1) := by omega
    conv_lhs => rw [hw, take_length_add_append, take_succ_cons]
  have hmore : rest.take (window - size) ≠ [] := by
    intro h
    rcases take_eq_nil_iff.mp h with h | h
    · omega
    · exact hrest h
  rw [fetchBelow, hrows, htake, pageOf_split hsize hmore]

/-- All rows below the cursor are read once and in order exactly if there is one page, or a
look-ahead and the pages are aligned. -/
lemma yields_below_iff (hsize : 0 < size) (hwindow : size ≤ window)
    (hkeys : (rows.map key).Nodup) (c : Option κ) :
    Yields (fetchBelow key size window rows) c (below key c rows) ↔
      (below key c rows).length ≤ size ∨ size < window ∧ Aligned key size (below key c rows) := by
  induction hn : (below key c rows).length using Nat.strongRecOn generalizing c with
  | ind n ih =>
    by_cases hshort : (below key c rows).length ≤ size
    · have hfetch : fetchBelow key size window rows c = ⟨below key c rows, none⟩ := by
        rw [fetchBelow, take_of_length_le (Nat.le_trans hshort hwindow), pageOf_last hshort]
      rw [yields_of_last (by rw [hfetch]), hfetch]
      exact iff_of_true rfl (.inl (hn ▸ hshort))
    · have hlong := Nat.not_le.mp hshort
      have hnot : ¬ n ≤ size := hn ▸ hshort
      rcases Nat.lt_or_eq_of_le hwindow with hmore | rfl
      · rcases exists_split hsize hlong with ⟨page, last, rest, hrows, hpage, hrest⟩
        have hfetch := fetchBelow_split hmore hrows hpage hrest
        have hkeys' : ((page ++ last :: rest).map key).Nodup :=
          hrows ▸ hkeys.sublist (filter_sublist.map key)
        have hlt : rest.length < n := by
          rw [← hn, hrows]
          simp only [length_append, length_cons]
          omega
        have hwhole : Yields (fetchBelow key size window rows) c (below key c rows) ↔
            Yields (fetchBelow key size window rows) (some (key last)) rest := by
          have hnext : (fetchBelow key size window rows c).next = some (key last) := by
            rw [hfetch]
          rw [yields_of_next hnext, hfetch, hrows]
          simp
        rw [hwhole, hrows, aligned_append_iff hpage hrest]
        -- the next page begins with the rest exactly if the last row separates it
        constructor
        · intro h
          rcases keys_of_yields_rest hsize (by omega) hrows hkeys' h with ⟨habove, hbelow⟩
          have hnext := below_of_keys hrows habove hbelow
          have hih := (ih rest.length hlt (some (key last)) (by rw [hnext])).mp (hnext ▸ h)
          rw [hnext] at hih
          refine .inr ⟨hmore, habove, hbelow, ?_⟩
          rcases hih with hle | ⟨_, haligned⟩
          · exact .short hle
          · exact haligned
        · rintro (hle | ⟨_, habove, hbelow, haligned⟩)
          · exact absurd hle hnot
          · have hnext := below_of_keys hrows habove hbelow
            have hih := (ih rest.length hlt (some (key last)) (by rw [hnext])).mpr
              (.inr ⟨hmore, hnext ▸ haligned⟩)
            exact hnext ▸ hih
      · -- without a look-ahead every full page is taken for the last one
        have hlen : ((below key c rows).take size).length ≤ size := length_take_le _ _
        have hfetch : fetchBelow key size size rows c = ⟨(below key c rows).take size, none⟩ :=
          pageOf_last hlen
        rw [yields_of_last (by rw [hfetch]), hfetch]
        refine iff_of_false (fun h => ?_) ?_
        · have heq := congrArg length h
          simp only [length_take] at heq
          omega
        · rintro (hle | ⟨hlt, _⟩)
          · exact hnot hle
          · exact absurd hlt (Nat.lt_irrefl size)

lemma yields_rows_iff (hsize : 0 < size) (hwindow : size ≤ window)
    (hkeys : (rows.map key).Nodup) :
    Yields (fetchBelow key size window rows) none rows ↔
      rows.length ≤ size ∨ size < window ∧ Aligned key size rows := by
  simpa only [below_none] using yields_below_iff hsize hwindow hkeys none

lemma aligned_of_pairwise (hsize : 0 < size) (h : rows.Pairwise fun x y => key y < key x) :
    Aligned key size rows := by
  induction hn : rows.length using Nat.strongRecOn generalizing rows with
  | ind n ih =>
    by_cases hshort : rows.length ≤ size
    · exact .short hshort
    · rcases exists_split hsize (Nat.not_le.mp hshort) with ⟨page, last, rest, rfl, hpage, _⟩
      rcases pairwise_append.mp h with ⟨_, hlast, hcross⟩
      rcases pairwise_cons.mp hlast with ⟨hbelow, hrest⟩
      refine .page hpage (fun x hx => hcross x hx last mem_cons_self) hbelow ?_
      refine ih rest.length ?_ hrest rfl
      rw [← hn]
      simp only [length_append, length_cons]
      omega

end Keyset

end Combee.Foundation.Paging
