import Combee.Common
import Combee.Foundation.Machine
import Mathlib.Data.List.AList
import Mathlib.Data.List.Dedup
import Mathlib.Data.List.MinMax
import Mathlib.Data.List.Rotate

/-!
# ConnectionPool — the connections that a data node keeps open

`with_conn` holds the mutex of the connection table from the lookup to the end of its closure, and
the other operations take it for their change of the table, so a history is a list of whole
operations. A connection is its entry in the table.

* `length_perform` bounds the table over every history;
* `Recent` says that the table holds the Cells last used, and `Recent.serve` that a successful call
  keeps that.
-/

namespace Combee.DataNode

open Foundation List

/-! ## The manager -/

structure ActiveDbManager where
  maxActive : Nat
  idleTimeout : Nat
  pos : 0 < maxActive

def ActiveDbManager.new (maxActiveDbs dbIdleTimeout : Nat) : ActiveDbManager where
  maxActive := max maxActiveDbs 1
  idleTimeout := dbIdleTimeout
  pos := Nat.lt_of_lt_of_le Nat.one_pos (le_max_right ..)

/-- The open Cells, each with the reading of the clock at which it was last used. -/
abbrev Conns := AList fun _ : DatabaseId => Nat

/-- A call of `with_conn`: its two clock readings, where the search for a victim enters the hash
map, how the open and the check of the format end, and the answer of the closure. -/
structure PoolCall (R : Type) where
  db : DatabaseId
  now : Nat
  done : Nat
  start : Nat := 0
  opened : Except CombeeError Unit := .ok ()
  answer : Except CombeeError R

inductive PoolOp (R : Type) where
  | withConn (c : PoolCall R)
  | closeDatabase (db : DatabaseId)
  | deleteDatabase (db : DatabaseId)
  | maintenance (now : Nat)

def evictLru (start : Nat) (conns : Conns) : Conns :=
  -- of several oldest entries the first one in the order of the hash map goes
  match (conns.entries.rotate start).argmin (·.2) with
  | some e => conns.erase e.1
  | none => conns

namespace ActiveDbManager

variable {R : Type} (mgr : ActiveDbManager)

/-- The table with room for one more connection. -/
def room (start : Nat) (conns : Conns) : Conns :=
  if mgr.maxActive ≤ conns.keys.length then evictLru start conns else conns

def withConn (conns : Conns) (c : PoolCall R) : Except CombeeError R × Conns :=
  if c.db ∈ conns then (c.answer, conns.insert c.db c.done)
  else
    let conns := mgr.room c.start conns
    match c.opened with
    -- the victim is closed all the same
    | .error e => (.error e, conns)
    | .ok () => (c.answer, (conns.insert c.db c.now).insert c.db c.done)

/-- A round of `spawn_maintenance`; the TTL GC of the other connections leaves the table alone. -/
def maintenance (conns : Conns) (now : Nat) : Conns :=
  let idle := (conns.entries.filter fun e => mgr.idleTimeout < now - e.2).map (·.1)
  idle.foldl (fun conns id => conns.erase id) conns

def perform (conns : Conns) : PoolOp R → Conns
  | .withConn c => (mgr.withConn conns c).2
  | .closeDatabase db | .deleteDatabase db => conns.erase db
  | .maintenance now => mgr.maintenance conns now

/-- A call of `with_conn` that succeeds. -/
def serve (conns : Conns) (c : PoolCall R) : Option Conns :=
  if (mgr.withConn conns c).1.isOk then some (mgr.withConn conns c).2 else none

end ActiveDbManager

/-! ## The bound -/

section Bound

variable {R : Type} (mgr : ActiveDbManager) (conns : Conns) (start : Nat)

lemma length_erase_le (db : DatabaseId) :
    (conns.erase db).keys.length ≤ conns.keys.length := by
  rw [AList.keys_erase]
  exact List.length_erase_le

lemma length_insert_le (db : DatabaseId) (t : Nat) :
    (conns.insert db t).keys.length ≤ conns.keys.length + 1 :=
  Nat.succ_le_succ (length_erase_le conns db)

lemma length_foldl_erase_le (ids : List DatabaseId) :
    (ids.foldl (fun conns id => conns.erase id) conns).keys.length ≤ conns.keys.length := by
  induction ids generalizing conns with
  | nil => exact le_rfl
  | cons id ids ih => exact (ih _).trans (length_erase_le conns id)

lemma length_evictLru : (evictLru start conns).keys.length = conns.keys.length - 1 := by
  unfold evictLru
  split
  · rename_i e he
    have hmem : e.1 ∈ conns.keys :=
      mem_keys_of_mem (mem_rotate.mp (argmin_mem he))
    rw [AList.keys_erase, length_erase_of_mem hmem]
  · rename_i hnone
    have hnil : conns.entries = [] := by simpa using hnone
    simp [AList.keys, hnil]

variable {mgr conns}

lemma length_room (h : conns.keys.length ≤ mgr.maxActive) :
    (mgr.room start conns).keys.length < mgr.maxActive := by
  have hpos := mgr.pos
  unfold ActiveDbManager.room
  split_ifs
  · rw [length_evictLru]
    omega
  · omega

lemma length_withConn (c : PoolCall R) (h : conns.keys.length ≤ mgr.maxActive) :
    (mgr.withConn conns c).2.keys.length ≤ mgr.maxActive := by
  have hroom := length_room c.start h
  simp only [ActiveDbManager.withConn]
  split_ifs with hdb
  · have hlen : 0 < conns.keys.length := length_pos_of_mem hdb
    rw [AList.keys_insert, length_cons, length_erase_of_mem hdb]
    omega
  · split
    · exact hroom.le
    · rw [AList.insert_insert]
      exact (length_insert_le ..).trans hroom

lemma length_perform (ops : List (PoolOp R)) (h : conns.keys.length ≤ mgr.maxActive) :
    (ops.foldl mgr.perform conns).keys.length ≤ mgr.maxActive := by
  induction ops generalizing conns with
  | nil => exact h
  | cons op ops ih =>
    refine ih ?_
    cases op with
    | withConn c => exact length_withConn c h
    | closeDatabase db | deleteDatabase db => exact (length_erase_le conns db).trans h
    | maintenance now => exact (length_foldl_erase_le conns _).trans h

end Bound

/-! ## The order of use -/

section Order

variable {α : Type} [DecidableEq α] {a : α}

/-- The distinct elements of a history, the last used first. -/
def recent (uses : List α) : List α :=
  uses.dedup.reverse

/-- A use moves the element to the front. -/
lemma recent_concat (uses : List α) : recent (uses ++ [a]) = a :: (recent uses).erase a := by
  have hdedup : (uses ++ [a]).dedup = uses.dedup.filter (· != a) ++ [a] := by
    induction uses with
    | nil => simp
    | cons x uses ih =>
      rw [cons_append, dedup_cons', dedup_cons', ih]
      rcases eq_or_ne x a with rfl | hxa <;> by_cases hx : x ∈ uses <;> simp [*]
  have hnodup : (recent uses).Nodup := nodup_reverse.mpr (nodup_dedup uses)
  rw [hnodup.erase_eq_filter]
  simp [recent, hdedup]

lemma take_erase (l : List α) (k : Nat) :
    (l.erase a).take k = ((l.take (k + 1)).erase a).take k := by
  induction l generalizing k with
  | nil => rfl
  | cons x l ih =>
    rcases eq_or_ne x a with rfl | hxa
    · simp [take_take]
    · cases k with
      | zero => simp
      | succ k => simp [hxa, ih k]

end Order

/-- The connections are in the order of their last use, the last used first. -/
def Conns.Sorted (conns : Conns) : Prop :=
  conns.entries.Pairwise fun x y => y.2 < x.2

lemma keys_evictLru {conns : Conns} (start : Nat) (h : conns.Sorted) :
    (evictLru start conns).keys = conns.keys.dropLast := by
  rcases eq_nil_or_concat' conns.entries with hnil | ⟨front, last, hlast⟩
  · simp [evictLru, AList.keys, hnil]
  have hnd := conns.keys_nodup
  have hmem : last ∈ conns.entries := by simp [hlast]
  unfold evictLru
  split
  · rename_i e he
    have hmin := le_of_mem_argmin (mem_rotate.mpr hmem) he
    -- an entry in front of the last one is younger than it
    obtain rfl : e = last := by
      have hin := mem_rotate.mp (argmin_mem he)
      rw [Conns.Sorted, hlast, pairwise_append] at h
      rw [hlast] at hin
      rcases mem_append.mp hin with hfront | hl
      · exact absurd hmin (Nat.not_le.mpr (h.2.2 e hfront last (by simp)))
      · simpa using hl
    rw [AList.keys_erase]
    simp only [AList.keys, keys, hlast, map_append, map_cons, map_nil] at hnd ⊢
    rw [dropLast_concat, erase_append_right, erase_cons_head, append_nil]
    exact fun hmem => (nodup_append.mp hnd).2.2 _ hmem _ (by simp) rfl
  · simp_all

lemma keys_room {mgr : ActiveDbManager} {conns : Conns} (start : Nat) (h : conns.Sorted)
    (hlen : conns.keys.length ≤ mgr.maxActive) :
    (mgr.room start conns).keys = conns.keys.take (mgr.maxActive - 1) := by
  unfold ActiveDbManager.room
  split_ifs
  · rw [keys_evictLru start h, dropLast_eq_take]
    congr 1
    omega
  · rw [take_of_length_le (by omega)]

section Runs

variable {R : Type} {mgr : ActiveDbManager} {calls : List (PoolCall R)} {c : PoolCall R}
  {conns conns' : Conns}

/-- The table holds the Cells last used, in the order of their last use. -/
structure Recent (mgr : ActiveDbManager) (calls : List (PoolCall R)) (conns : Conns) : Prop where
  keys : conns.keys = (recent (calls.map (·.db))).take mgr.maxActive
  times : (conns.entries.map (·.2)).Sublist (calls.map (·.done)).reverse

lemma Recent.sorted (h : Recent mgr calls conns)
    (hclock : (calls.map (·.done)).Pairwise (· < ·)) : conns.Sorted :=
  pairwise_map.mp ((pairwise_reverse.mpr hclock).sublist h.times)

lemma serve_eq (h : mgr.serve conns c = some conns') :
    conns' = (if c.db ∈ conns then conns else mgr.room c.start conns).insert c.db c.done := by
  unfold ActiveDbManager.serve at h
  split_ifs at h with hok
  obtain rfl := Option.some.inj h
  revert hok
  simp only [ActiveDbManager.withConn]
  split_ifs
  · exact fun _ => rfl
  · split
    · exact fun h => by cases h
    · exact fun _ => AList.insert_insert _

lemma room_sublist (start : Nat) : (mgr.room start conns).entries.Sublist conns.entries := by
  unfold ActiveDbManager.room evictLru
  split_ifs
  · split
    · exact kerase_sublist ..
    · exact .refl _
  · exact .refl _

lemma Recent.serve (h : Recent mgr calls conns) (hsorted : conns.Sorted)
    (hc : mgr.serve conns c = some conns') : Recent mgr (calls ++ [c]) conns' := by
  have hlen : conns.keys.length ≤ mgr.maxActive := by
    rw [h.keys]
    exact length_take_le ..
  have hpos := Nat.sub_add_cancel mgr.pos
  rw [serve_eq hc]
  constructor
  · -- what falls out of the `maxActive` last used Cells is the victim
    rw [AList.keys_insert, map_append, map_singleton, recent_concat, ← hpos,
      take_succ_cons, take_erase, hpos, ← h.keys]
    congr 1
    split_ifs with hdb
    · rw [take_of_length_le]
      rw [length_erase_of_mem hdb]
      omega
    · have hout : c.db ∉ conns.keys := hdb
      rw [keys_room c.start hsorted hlen, erase_of_not_mem hout,
        erase_of_not_mem fun h => hout (mem_of_mem_take h)]
  · rw [AList.entries_insert, map_append, reverse_append]
    refine (List.Sublist.trans ?_ h.times).cons_cons c.done
    refine ((kerase_sublist ..).trans ?_).map _
    split_ifs
    · exact .refl _
    · exact room_sublist c.start

lemma recent_of_exec (h : exec mgr.serve ∅ calls = some conns)
    (hclock : (calls.map (·.done)).Pairwise (· < ·)) : Recent mgr calls conns := by
  induction calls using reverseRecOn generalizing conns with
  | nil =>
    cases h
    exact ⟨by simp [recent], .slnil⟩
  | append_singleton calls c ih =>
    obtain ⟨u, hu, hc⟩ := exec_append_eq_some.mp h
    obtain ⟨t, hc, ht⟩ := exec_cons_eq_some.mp hc
    cases ht
    rw [map_append, pairwise_append] at hclock
    exact (ih hu hclock.1).serve ((ih hu hclock.1).sorted hclock.1) hc

end Runs

/-- The pool is a bounded LRU. -/
theorem conns_bounded_lru (R : Type) (mgr : ActiveDbManager) :
    (∀ ops : List (PoolOp R), (ops.foldl mgr.perform ∅).keys.length ≤ max mgr.maxActive 1) ∧
    ∀ (calls : List (PoolCall R)) (conns : Conns), exec mgr.serve ∅ calls = some conns →
      (calls.map (·.done)).Pairwise (· < ·) →
      ∀ db, db ∈ conns ↔ db ∈ (recent (calls.map (·.db))).take mgr.maxActive := by
  refine ⟨fun ops => ?_, fun calls conns h hclock db => ?_⟩
  · exact (length_perform ops (Nat.zero_le _)).trans (le_max_left ..)
  · rw [AList.mem_keys, (recent_of_exec h hclock).keys]

def briefCall (db : DatabaseId) (now : Nat) : PoolCall Unit :=
  { db, now, done := now + 1, answer := .ok () }

/-- With room for two, the third Cell takes the place of the one that was not used again. -/
theorem conns_bounded_lru_third :
    ∃ conns, exec (ActiveDbManager.new 2 60).serve ∅
        [briefCall ⟨1⟩ 0, briefCall ⟨2⟩ 2, briefCall ⟨1⟩ 4, briefCall ⟨3⟩ 6] = some conns ∧
      ∀ db, db ∈ conns ↔ db ∈ [⟨3⟩, ⟨1⟩] :=
  ⟨_, rfl, (conns_bounded_lru Unit (.new 2 60)).2
    [briefCall ⟨1⟩ 0, briefCall ⟨2⟩ 2, briefCall ⟨1⟩ 4, briefCall ⟨3⟩ 6] _ rfl (by decide)⟩

end Combee.DataNode
