import Combee.Billing.InMemory
import Combee.Billing.Postgres
import Combee.Foundation.Paging
import Mathlib.Data.List.Sort

/-!
# History — the transactions of a tenant, page by page

`GET /v1/credits/transactions` lists the transactions of a tenant newest first, but the cursor is an
id alone: the next page has the transactions with smaller ids, which are random UUIDs. The handler
asks for one row more than it returns, and both stores clamp that number to 1000. So the pages make
up the history if it has one page, or if each page ends with an id that separates it from the later
ones (`history_complete_iff`).
-/

namespace Combee.Billing

open Foundation Paging List
open CreditTransaction

/-! ## The stores -/

/-- The order of the history: by time and then by id, both descending. -/
def CreditTransaction.Newer (a b : CreditTransaction) : Prop :=
  b.createdAt < a.createdAt ∨ (a.createdAt = b.createdAt ∧ b.id ≤ a.id)

instance : DecidableRel Newer := fun _ _ =>
  inferInstanceAs (Decidable (_ ∨ (_ ∧ _)))

def clampLimit (limit : Int) : Nat :=
  (max 1 (min limit 1000)).toNat

/-- The rows of the tenant below the cursor, newest first, as many as the clamped limit. -/
def listRows (rows : List CreditTransaction) (tenant : TenantId) (limit : Int)
    (before : Option Nat) : List CreditTransaction :=
  ((rows.filter fun t => t.tenantId = tenant && before.all fun b => decide (t.id < b)).insertionSort
    Newer).take (clampLimit limit)

/-- The values of a hash map are sorted, so their order in the map does not matter. -/
def InMemoryStore.listCreditTransactions (s : InMemoryStore) (tenant : TenantId) (limit : Int)
    (before : Option Nat) : List CreditTransaction :=
  listRows s.creditTransactions tenant limit before

/-- `SELECT … ORDER BY created_at DESC, id DESC LIMIT …`. -/
def Postgres.Tables.listCreditTransactions (db : Postgres.Tables) (tenant : TenantId) (limit : Int)
    (before : Option Nat) : List CreditTransaction :=
  listRows db.creditTransactions tenant limit before

/-! ## The handler -/

def creditsTransactions (list : Int → Option Nat → List CreditTransaction) (limit : Option Int)
    (cursor : Option Nat) : Page CreditTransaction Nat :=
  let limit := clampLimit (limit.getD 100)
  let items := list (limit + 1) cursor
  ⟨items.take limit, if limit < items.length then (items.take limit).getLast?.map (·.id) else none⟩

/-! ## The pages of a ledger -/

def history (rows : List CreditTransaction) (tenant : TenantId) : List CreditTransaction :=
  (rows.filter (·.tenantId = tenant)).insertionSort Newer

structure Complete (rows : List CreditTransaction) (tenant : TenantId)
    (items : List CreditTransaction) : Prop where
  perm : items.Perm (rows.filter (·.tenantId = tenant))
  newest_first : items.Pairwise Newer

lemma newer_total (a b : CreditTransaction) : a.Newer b ∨ b.Newer a := by
  unfold Newer
  omega

lemma newer_trans {a b c : CreditTransaction} (h : a.Newer b) (h' : b.Newer c) : a.Newer c := by
  unfold Newer at h h' ⊢
  omega

instance : Std.Total Newer := ⟨newer_total⟩

instance : IsTrans CreditTransaction Newer := ⟨fun _ _ _ => newer_trans⟩

section Pages

variable {rows : List CreditTransaction} {tenant : TenantId}

section

variable (hids : (rows.map (·.id)).Nodup)
include hids

/-- With distinct ids there is one way to put rows in order. -/
lemma eq_of_newest_first {rows1 rows2 : List CreditTransaction}
    (hsub : ∀ t ∈ rows1, t ∈ rows) (hperm : rows1.Perm rows2)
    (h1 : rows1.Pairwise Newer) (h2 : rows2.Pairwise Newer) :
    rows1 = rows2 := by
  refine hperm.eq_of_pairwise (fun a b ha hb hab hba => ?_) h1 h2
  have hid : a.id = b.id := by
    unfold Newer at hab hba
    omega
  exact inj_on_of_nodup_map hids (hsub a ha) (hsub b (hperm.mem_iff.mpr hb)) hid

lemma complete_iff {items : List CreditTransaction} :
    Complete rows tenant items ↔ items = history rows tenant := by
  have hsorted := pairwise_insertionSort Newer
    (rows.filter (·.tenantId = tenant))
  have hperm := perm_insertionSort Newer (rows.filter (·.tenantId = tenant))
  constructor
  · rintro ⟨hitems, hnewest⟩
    refine eq_of_newest_first hids (fun t ht => ?_) (hitems.trans hperm.symm) hnewest hsorted
    exact (mem_filter.mp (hitems.mem_iff.mp ht)).1
  · rintro rfl
    exact ⟨hperm, hsorted⟩

lemma listRows_eq (limit : Int) (before : Option Nat) : listRows rows tenant limit before =
      (below (·.id) before (history rows tenant)).take (clampLimit limit) := by
  have hsorted := pairwise_insertionSort Newer
    (rows.filter (·.tenantId = tenant))
  unfold listRows
  congr 1
  refine eq_of_newest_first hids (fun t ht => ?_) ?_
    (pairwise_insertionSort Newer _) (hsorted.sublist filter_sublist)
  · exact (mem_filter.mp ((mem_insertionSort _).mp ht)).1
  · have hboth : (rows.filter (·.tenantId = tenant)).filter
        (fun t => before.all fun b => decide (t.id < b)) =
        rows.filter fun t => t.tenantId = tenant && before.all fun b => decide (t.id < b) := by
      rw [filter_filter]
      exact filter_congr fun t _ => Bool.and_comm _ _
    refine (perm_insertionSort _ _).trans ?_
    rw [← hboth]
    exact ((perm_insertionSort Newer _).filter _).symm

end

lemma clampLimit_bounds (limit : Int) : 0 < clampLimit limit ∧ clampLimit limit ≤ 1000 := by
  unfold clampLimit
  omega

/-- The number of rows that the store is asked for, which it clamps again. -/
lemma clampLimit_succ (limit : Int) :
    clampLimit (clampLimit limit + 1) = min (clampLimit limit + 1) 1000 := by
  unfold clampLimit
  omega

lemma creditsTransactions_eq (hids : (rows.map (·.id)).Nodup) (limit : Option Int) :
    creditsTransactions (listRows rows tenant) limit =
      fetchBelow (·.id) (clampLimit (limit.getD 100))
        (clampLimit (clampLimit (limit.getD 100) + 1)) (history rows tenant) := by
  funext c
  rw [fetchBelow, ← listRows_eq hids]
  rfl

/-- All transactions are on one page, or there is a look-ahead and every page ends with an id below
those of its page and above all later ones. -/
def Pageable (rows : List CreditTransaction) (tenant : TenantId) (size : Nat) : Prop :=
  (history rows tenant).length ≤ size ∨
    size < 1000 ∧ Aligned (·.id) size (history rows tenant)

/-- The pages end, and they make up the history exactly if it is `Pageable`. -/
def CompleteIffPageable (list : Int → Option Nat → List CreditTransaction)
    (rows : List CreditTransaction) (tenant : TenantId) (limit : Option Int) : Prop :=
  ∃ items, Yields (creditsTransactions list limit) none items ∧
    (Complete rows tenant items ↔ Pageable rows tenant (clampLimit (limit.getD 100)))

lemma listRows_complete (hids : (rows.map (·.id)).Nodup) (limit : Option Int) :
    CompleteIffPageable (listRows rows tenant) rows tenant limit := by
  have hsub : ((history rows tenant).map (·.id)).Nodup := by
    have hperm := (perm_insertionSort Newer
      (rows.filter (·.tenantId = tenant))).map (·.id)
    exact hperm.nodup_iff.mpr (hids.sublist (filter_sublist.map _))
  rcases clampLimit_bounds (limit.getD 100) with ⟨hpos, hmax⟩
  have hwindow : clampLimit (clampLimit (limit.getD 100) + 1) =
      min (clampLimit (limit.getD 100) + 1) 1000 := clampLimit_succ _
  unfold CompleteIffPageable
  rw [creditsTransactions_eq hids]
  rcases exists_yields_below (·.id) (clampLimit (limit.getD 100))
    (clampLimit (clampLimit (limit.getD 100) + 1)) (history rows tenant) with ⟨items, hitems⟩
  refine ⟨items, hitems, ?_⟩
  -- reading yields one list only, so it is the history or something else
  have hle : clampLimit (limit.getD 100) ≤ clampLimit (clampLimit (limit.getD 100) + 1) := by omega
  have hyields := yields_rows_iff hpos hle hsub
  rw [complete_iff hids, Pageable]
  constructor
  · rintro rfl
    rcases hyields.mp hitems with hone | ⟨hlt, haligned⟩
    · exact .inl hone
    · exact .inr ⟨by omega, haligned⟩
  · intro h
    refine hitems.unique (hyields.mpr ?_)
    rcases h with hone | ⟨hlt, haligned⟩
    · exact .inl hone
    · exact .inr ⟨by omega, haligned⟩

end Pages

/-- Following the cursors ends, and the pages are the history exactly if it is `Pageable`, as it is
with a limit below 1000 if newer transactions have greater ids. -/
theorem history_complete_iff (tenant : TenantId) (limit : Option Int) :
    (∀ s : InMemoryStore, (s.creditTransactions.map (·.id)).Nodup →
      CompleteIffPageable (s.listCreditTransactions tenant) s.creditTransactions tenant limit) ∧
    (∀ db : Postgres.Tables, (db.creditTransactions.map (·.id)).Nodup →
      CompleteIffPageable (db.listCreditTransactions tenant) db.creditTransactions tenant limit) ∧
    ∀ rows : List CreditTransaction, clampLimit (limit.getD 100) < 1000 →
      (history rows tenant).Pairwise (fun a b => b.id < a.id) →
      Pageable rows tenant (clampLimit (limit.getD 100)) := by
  refine ⟨fun s hids => listRows_complete hids limit, fun db hids => listRows_complete hids limit,
    fun rows hlt hids => .inr ⟨hlt, aligned_of_pairwise (clampLimit_bounds _).1 hids⟩⟩

/-! ## Two ledgers -/

def exampleTransaction (id : Nat) (createdAt : Int) : CreditTransaction :=
  ⟨id, ⟨1⟩, .grant, 5, none, none, none, createdAt, none⟩

def storeOf (rows : List CreditTransaction) : InMemoryStore :=
  ⟨fun _ => none, rows, fun _ => none, fun _ => none, fun _ => none⟩

def exampleLedger : List CreditTransaction :=
  [exampleTransaction 3 10, exampleTransaction 5 20, exampleTransaction 9 30]

theorem history_complete_iff_three :
    CompleteIffPageable ((storeOf exampleLedger).listCreditTransactions ⟨1⟩) exampleLedger ⟨1⟩
        (some 2) ∧
      Pageable exampleLedger ⟨1⟩ (clampLimit 2) ∧
      follow (creditsTransactions ((storeOf exampleLedger).listCreditTransactions ⟨1⟩) (some 2)) 2
        none = some exampleLedger.reverse :=
  ⟨(history_complete_iff ⟨1⟩ (some 2)).1 (storeOf exampleLedger) (by decide),
    (history_complete_iff ⟨1⟩ (some 2)).2.2 exampleLedger (by decide) (by decide), by decide⟩

/-- With one row on a page the older row is lost; with two the newest one comes twice. -/
theorem history_incomplete :
    follow (creditsTransactions ((storeOf [exampleTransaction 9 10,
        exampleTransaction 5 20]).listCreditTransactions ⟨1⟩) (some 1)) 2 none =
      some [exampleTransaction 5 20] ∧
    follow (creditsTransactions ((storeOf [exampleTransaction 5 10, exampleTransaction 9 20,
        exampleTransaction 1 30]).listCreditTransactions ⟨1⟩) (some 2)) 2 none =
      some [exampleTransaction 1 30, exampleTransaction 9 20, exampleTransaction 1 30,
        exampleTransaction 5 10] := by
  decide

end Combee.Billing
