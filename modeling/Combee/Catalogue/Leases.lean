import Combee.Common
import Mathlib.Data.List.Basic
import Mathlib.Data.List.Induction

/-!
# Leases — one leader for the background work of several API servers

`try_acquire_lease` answers whether the caller holds the lease of a name from now on. The in-memory
store looks at its map and writes to it under one lock; PostgreSQL does it in one upsert.

`granted` lists the calls that have succeeded, which is all that the callers know. What the stores
keep is the last of them for each name (`get_leases`), so a call is judged by that one
(`accepts_iff`), and every owner but the last one has an expired lease (`Displaced`).
-/

namespace Combee.Catalogue

open List

/-- A call of `try_acquire_lease`; the owner is a UUID. -/
structure LeaseCall where
  name : String
  owner : Nat
  now : Int
  ttlSecs : Int
  deriving DecidableEq, Repr

def LeaseCall.expires (call : LeaseCall) : Int :=
  wrapI64 (call.now + call.ttlSecs)

/-! ## The two stores -/

/-- The map of the in-memory store, from a name to the owner and the expiry. -/
structure Leases where
  get : String → Option (Nat × Int)

namespace Leases

def empty : Leases := ⟨fun _ => none⟩

def insert (leases : Leases) (name : String) (lease : Nat × Int) : Leases :=
  ⟨Function.update leases.get name (some lease)⟩

def tryAcquireLease (leases : Leases) (call : LeaseCall) : Bool × Leases :=
  let held :=
    match leases.get call.name with
    | some (cur, exp) => decide (cur = call.owner) || decide (exp < call.now)
    | none => true
  if held then (held, leases.insert call.name (call.owner, call.expires))
  else (held, leases)

variable {leases : Leases} {call : LeaseCall}

lemma tryAcquireLease_snd : (leases.tryAcquireLease call).2 =
    if (leases.tryAcquireLease call).1 then
      leases.insert call.name (call.owner, call.expires)
    else leases := by
  unfold tryAcquireLease
  dsimp only
  split_ifs with hheld
  · rfl
  · rfl

lemma tryAcquireLease_fst_iff : (leases.tryAcquireLease call).1 = true ↔
    ∀ cur exp, leases.get call.name = some (cur, exp) → cur = call.owner ∨ exp < call.now := by
  unfold tryAcquireLease
  cases h : leases.get call.name with
  | none => simp
  | some lease =>
    rcases lease with ⟨cur, exp⟩
    by_cases hheld : cur = call.owner ∨ exp < call.now
    · simp [hheld]
    · simp [hheld]

end Leases

/-- A row of `leader_leases`; `name` is the primary key. -/
structure LeaseRow where
  owner : Nat
  expiresAt : Int
  deriving DecidableEq, Repr

structure LeaderLeases where
  get : String → Option LeaseRow

namespace LeaderLeases

def empty : LeaderLeases := ⟨fun _ => none⟩

/-- `INSERT … ON CONFLICT (name) DO UPDATE … WHERE … RETURNING owner`. -/
def upsert (table : LeaderLeases) (name : String) (excluded : LeaseRow)
    (condition : LeaseRow → Bool) : Option Nat × LeaderLeases :=
  match table.get name with
  | none => (some excluded.owner, ⟨Function.update table.get name (some excluded)⟩)
  | some row =>
    if condition row then
      (some excluded.owner, ⟨Function.update table.get name (some excluded)⟩)
    else (none, table)

def tryAcquireLease (table : LeaderLeases) (call : LeaseCall) : Bool × LeaderLeases :=
  let (row, table') := table.upsert call.name ⟨call.owner, call.expires⟩ fun row =>
    decide (row.expiresAt < call.now) || decide (row.owner = call.owner)
  (row.isSome, table')

def Matches (table : LeaderLeases) (leases : Leases) : Prop :=
  ∀ name, table.get name = (leases.get name).map fun lease => ⟨lease.1, lease.2⟩

variable {table : LeaderLeases} {leases : Leases}

/-- The upsert does to the table what the locked section does to the map. -/
lemma Matches.tryAcquireLease (h : table.Matches leases) (call : LeaseCall) :
    (table.tryAcquireLease call).1 = (leases.tryAcquireLease call).1 ∧
    (table.tryAcquireLease call).2.Matches (leases.tryAcquireLease call).2 := by
  have hwrite : Matches ⟨Function.update table.get call.name (some ⟨call.owner, call.expires⟩)⟩
      (leases.insert call.name (call.owner, call.expires)) := by
    intro name
    by_cases hname : name = call.name
    · subst hname
      simp [Leases.insert]
    · simpa [Leases.insert, hname] using h name
  have hname := h call.name
  cases hlease : leases.get call.name with
  | none =>
    simp only [hlease, Option.map_none] at hname
    simpa [LeaderLeases.tryAcquireLease, Leases.tryAcquireLease, upsert, hname, hlease] using
      hwrite
  | some lease =>
    simp only [hlease, Option.map_some] at hname
    rcases lease with ⟨cur, exp⟩
    by_cases howner : cur = call.owner
    · simpa [LeaderLeases.tryAcquireLease, Leases.tryAcquireLease, upsert, hname, hlease,
        howner] using hwrite
    · by_cases hexp : exp < call.now
      · simpa [LeaderLeases.tryAcquireLease, Leases.tryAcquireLease, upsert, hname, hlease,
          howner, hexp] using hwrite
      · simpa [LeaderLeases.tryAcquireLease, Leases.tryAcquireLease, upsert, hname, hlease,
          howner, hexp] using h

end LeaderLeases

/-! ## Sequences of calls -/

def Leases.after (calls : List LeaseCall) : Leases :=
  calls.foldl (fun leases call => (leases.tryAcquireLease call).2) Leases.empty

def LeaderLeases.after (calls : List LeaseCall) : LeaderLeases :=
  calls.foldl (fun table call => (table.tryAcquireLease call).2) LeaderLeases.empty

/-- The answer of the in-memory store to a call that comes after the others. -/
def accepts (calls : List LeaseCall) (call : LeaseCall) : Bool :=
  ((Leases.after calls).tryAcquireLease call).1

def granted (calls : List LeaseCall) : List LeaseCall :=
  (calls.foldl (fun (x : Leases × List LeaseCall) call =>
    let (held, leases) := x.1.tryAcquireLease call
    (leases, if held then x.2 ++ [call] else x.2)) (Leases.empty, [])).2

def lastCall (p : LeaseCall → Bool) (calls : List LeaseCall) : Option LeaseCall :=
  (calls.filter p).getLast?

def holder (calls : List LeaseCall) (name : String) : Option LeaseCall :=
  lastCall (fun call => call.name = name) (granted calls)

def ownGrant (calls : List LeaseCall) (name : String) (owner : Nat) : Option LeaseCall :=
  lastCall (fun call => call.name = name && call.owner = owner) (granted calls)

/-- The owner has a lease that has not expired at the time `t`, as far as its own calls tell. -/
def HoldsAt (calls : List LeaseCall) (name : String) (t : Int) (owner : Nat) : Prop :=
  ∃ grant, ownGrant calls name owner = some grant ∧ t ≤ grant.expires

variable {calls : List LeaseCall} {call : LeaseCall} {name : String} {p q : LeaseCall → Bool}

lemma lastCall_concat :
    lastCall p (calls ++ [call]) = if p call then some call else lastCall p calls := by
  by_cases h : p call
  · simp [lastCall, h]
  · simp [lastCall, h]

lemma lastCall_of_imp (h : lastCall p calls = some call) (hq : q call = true)
    (himp : ∀ c, q c = true → p c = true) : lastCall q calls = some call := by
  induction calls using reverseRecOn with
  | nil => simp [lastCall] at h
  | append_singleton calls c ih =>
    rw [lastCall_concat] at h ⊢
    by_cases hc : p c = true
    · obtain rfl : c = call := by simpa [hc] using h
      simp [hq]
    · have hqc : ¬ q c = true := fun hqc => hc (himp c hqc)
      rw [if_neg hc] at h
      rw [if_neg hqc]
      exact ih h

lemma lastCall_mem (h : lastCall p calls = some call) : call ∈ calls ∧ p call = true :=
  mem_filter.mp (mem_of_getLast? h)

/-! ### One call more -/

@[simp] lemma Leases.after_concat :
    Leases.after (calls ++ [call]) = ((Leases.after calls).tryAcquireLease call).2 := by
  simp [Leases.after]

@[simp] lemma LeaderLeases.after_concat :
    LeaderLeases.after (calls ++ [call]) = ((LeaderLeases.after calls).tryAcquireLease call).2 := by
  simp [LeaderLeases.after]

lemma granted_concat :
    granted (calls ++ [call]) = if accepts calls call then granted calls ++ [call]
      else granted calls := by
  -- the map that `granted` carries along is the map after the calls
  have hmap : ∀ cs : List LeaseCall, (cs.foldl (fun (x : Leases × List LeaseCall) call =>
      let (held, leases) := x.1.tryAcquireLease call
      (leases, if held then x.2 ++ [call] else x.2)) (Leases.empty, [])).1 = Leases.after cs := by
    intro cs
    induction cs using reverseRecOn with
    | nil => rfl
    | append_singleton cs c ih =>
      rw [foldl_append, Leases.after_concat, ← ih]
      rfl
  rw [granted, foldl_append]
  simp only [foldl_cons, foldl_nil, hmap]
  rfl

lemma granted_subset : granted calls ⊆ calls := by
  induction calls using reverseRecOn with
  | nil => exact List.Subset.refl _
  | append_singleton calls call ih =>
    rw [granted_concat]
    have hsub := List.Subset.trans ih (subset_append_left calls [call])
    split_ifs
    · exact append_subset.mpr ⟨hsub, subset_append_right _ _⟩
    · exact hsub

lemma get_leases : (Leases.after calls).get name =
    (holder calls name).map fun call => (call.owner, call.expires) := by
  induction calls using reverseRecOn with
  | nil => rfl
  | append_singleton calls call ih =>
    rw [holder, granted_concat, Leases.after_concat, Leases.tryAcquireLease_snd]
    rw [← accepts]
    by_cases hheld : accepts calls call = true
    · rw [if_pos hheld, if_pos hheld, lastCall_concat]
      by_cases hname : call.name = name
      · simp [Leases.insert, hname]
      · simpa [Leases.insert, hname, Function.update_of_ne (Ne.symm hname), holder] using ih
    · rw [if_neg hheld, if_neg hheld]
      exact ih

lemma accepts_iff : accepts calls call = true ↔
    ∀ grant, holder calls call.name = some grant →
      grant.owner = call.owner ∨ grant.expires < call.now := by
  rw [accepts, Leases.tryAcquireLease_fst_iff, get_leases]
  constructor
  · intro h grant hgrant
    exact h grant.owner grant.expires (by rw [hgrant]; rfl)
  · intro h cur exp hlease
    rcases Option.map_eq_some_iff.mp hlease with ⟨grant, hgrant, heq⟩
    cases heq
    exact h grant hgrant

lemma matches_after : (LeaderLeases.after calls).Matches (Leases.after calls) := by
  induction calls using reverseRecOn with
  | nil => exact fun _ => rfl
  | append_singleton calls call ih =>
    rw [LeaderLeases.after_concat, Leases.after_concat]
    exact (ih.tryAcquireLease call).2

/-! ### Exclusion -/

/-- The clocks of the calls for the name never go back. -/
def Clocked (name : String) (calls : List LeaseCall) : Prop :=
  calls.Pairwise fun c c' => c.name = name → c'.name = name → c.now ≤ c'.now

/-- The leases of all owners but the last one had expired when the last one called. -/
def Displaced (name : String) (calls : List LeaseCall) : Prop :=
  ∀ last owner grant, holder calls name = some last → ownGrant calls name owner = some grant →
    owner ≠ last.owner → grant.expires < last.now

lemma ownGrant_of_holder {last : LeaseCall} (h : holder calls name = some last) :
    ownGrant calls name last.owner = some last := by
  have hname : last.name = name := by simpa using (lastCall_mem h).2
  exact lastCall_of_imp h (by simp [hname]) (by simp +contextual)

lemma ownGrant_eq_none {owner : Nat} (h : holder calls name = none) :
    ownGrant calls name owner = none := by
  by_contra hsome
  rcases Option.ne_none_iff_exists'.mp hsome with ⟨grant, hgrant⟩
  rcases lastCall_mem hgrant with ⟨hmem, hname⟩
  have hname : grant.name = name := by
    simp only [Bool.and_eq_true, decide_eq_true_eq] at hname
    exact hname.1
  have hnone : (granted calls).filter (fun call => call.name = name) = [] :=
    getLast?_eq_none_iff.mp h
  have hin : grant ∈ (granted calls).filter fun call => call.name = name :=
    mem_filter.mpr ⟨hmem, by simpa using hname⟩
  simp [hnone] at hin

lemma displaced (hclock : Clocked name calls) : Displaced name calls := by
  induction calls using reverseRecOn with
  | nil =>
    intro last owner grant hlast
    cases hlast
  | append_singleton calls call ih =>
    rcases pairwise_append.mp hclock with ⟨hbefore, _, hnow⟩
    intro last owner grant hlast hgrant hne
    rw [holder, granted_concat] at hlast
    rw [ownGrant, granted_concat] at hgrant
    by_cases hheld : accepts calls call = true
    · rw [if_pos hheld, lastCall_concat] at hlast hgrant
      by_cases hname : call.name = name
      · -- the call is the last one now, and the owner is another one
        obtain rfl : call = last := by simpa [hname] using hlast
        rw [if_neg (by simp [hname, hne.symm])] at hgrant
        cases hold : holder calls name with
        | none =>
          have hnone := hgrant.symm.trans (ownGrant_eq_none hold)
          cases hnone
        | some old =>
          rcases lastCall_mem hold with ⟨hmem, hname'⟩
          have hlater : old.now ≤ call.now :=
            hnow old (granted_subset hmem) call (by simp) (by simpa using hname') hname
          by_cases howner : owner = old.owner
          · -- it held the lease, and the call has waited for its end
            subst howner
            obtain rfl : old = grant :=
              Option.some.inj ((ownGrant_of_holder hold).symm.trans hgrant)
            rcases accepts_iff.mp hheld old (hname ▸ hold) with hsame | hexpired
            · exact absurd hsame hne
            · exact hexpired
          · have hexpired : grant.expires < old.now :=
              ih hbefore old owner grant hold hgrant howner
            omega
      · rw [if_neg (by simpa using hname)] at hlast
        rw [if_neg (by simp [hname])] at hgrant
        exact ih hbefore last owner grant hlast hgrant hne
    · rw [if_neg hheld] at hlast hgrant
      exact ih hbefore last owner grant hlast hgrant hne

/-- If the clocks for the name do not go back, both stores give the same answers, a call succeeds
exactly if the lease is free, the caller's or expired, and no two owners have an unexpired lease
from the last call on. -/
theorem lease_exclusion (name : String) (calls : List LeaseCall) (hclock : Clocked name calls) :
    (∀ call, ((LeaderLeases.after calls).tryAcquireLease call).1 =
      ((Leases.after calls).tryAcquireLease call).1) ∧
    (∀ call, call.name = name → (((Leases.after calls).tryAcquireLease call).1 = true ↔
      ∀ last, holder calls name = some last →
        last.owner = call.owner ∨ last.expires < call.now)) ∧
    (∀ t, (∀ call ∈ calls, call.name = name → call.now ≤ t) →
      ∀ owner owner', HoldsAt calls name t owner → HoldsAt calls name t owner' →
        owner = owner') := by
  refine ⟨fun call => (matches_after.tryAcquireLease call).1, ?_, ?_⟩
  · intro call hname
    subst hname
    exact accepts_iff
  · intro t ht
    -- whoever holds an unexpired lease made the last successful call
    have hlast : ∀ last owner, holder calls name = some last → HoldsAt calls name t owner →
        owner = last.owner := by
      intro last owner hlast ⟨grant, hgrant, hunexpired⟩
      by_contra hne
      rcases lastCall_mem hlast with ⟨hmem, hname⟩
      have hnow : last.now ≤ t := ht last (granted_subset hmem) (by simpa using hname)
      have hexpired := displaced hclock last owner grant hlast hgrant hne
      omega
    intro owner owner' hown hown'
    cases hholder : holder calls name with
    | none =>
      rcases hown with ⟨grant, hgrant, _⟩
      rw [ownGrant_eq_none hholder] at hgrant
      cases hgrant
    | some last => rw [hlast last owner hholder hown, hlast last owner' hholder hown']

/-- Another server is refused at the expiry of a renewed lease and succeeds a second later. -/
theorem lease_exclusion_sampler :
    Clocked "storage_sampler" [⟨"storage_sampler", 1, 0, 60⟩, ⟨"storage_sampler", 1, 30, 60⟩] ∧
    ((Leases.after [⟨"storage_sampler", 1, 0, 60⟩, ⟨"storage_sampler", 1, 30, 60⟩]).tryAcquireLease
      ⟨"storage_sampler", 2, 90, 60⟩).1 = false ∧
    ((LeaderLeases.after
      [⟨"storage_sampler", 1, 0, 60⟩, ⟨"storage_sampler", 1, 30, 60⟩]).tryAcquireLease
      ⟨"storage_sampler", 2, 91, 60⟩).1 = true := by
  have hclock : Clocked "storage_sampler"
      [⟨"storage_sampler", 1, 0, 60⟩, ⟨"storage_sampler", 1, 30, 60⟩] := by
    simp [Clocked]
  refine ⟨hclock, by decide, ?_⟩
  rw [(lease_exclusion "storage_sampler" _ hclock).1]
  decide

end Combee.Catalogue
