import Mathlib.Data.List.AList
import Combee.Common

/-!
# Archive — the backups of a Cell in the object store

The objects under the prefix `backups/{db}/` of one Cell. A full backup is one object, named by a
timestamp and a UUID. An incremental backup is up to two objects, a copy of the main file and a
copy of the WAL, which have nothing in common but the millisecond in their names.

`latestIncr` is the selection that every later restore, replica pull and failover goes through; its
two specification lemmas say that it looks at the greatest millisecond that has a main file.
-/

namespace Combee.Storage

inductive ObjKey where
  /-- `{ts}-{uuid}.sqlite` -/
  | full (ts uid : Nat)
  /-- `incr/snapshot-{rev}.sqlite` -/
  | snapshot (rev : Nat)
  /-- `incr/wal-{rev}.sqlite-wal` -/
  | wal (rev : Nat)
  deriving DecidableEq, Repr

/-- The objects of one Cell; puts are atomic and listings consistent. -/
abbrev ObjectStore (O : Type) := AList fun _ : ObjKey => O

/-! ## `list_snapshots` -/

/-- Full backups by timestamp and UUID, then the incremental objects, which stand under `incr/`. -/
def nameBefore : ObjKey → ObjKey → Bool
  | .full ts uid, .full ts' uid' => ts < ts' || (ts == ts' && uid ≤ uid')
  | .full _ _, _ => true
  | .snapshot rev, .snapshot rev' => rev ≤ rev'
  | .snapshot _, .wal _ => true
  | .wal rev, .wal rev' => rev ≤ rev'
  | _, _ => false

/-- The last entry of `list_snapshots`, which lists everything under the prefix. -/
def lastListed {O : Type} (s : ObjectStore O) : Option ObjKey :=
  s.keys.foldl (fun best k => match best with
    | none => some k
    | some b => if nameBefore b k then some k else some b) none

/-! ## `latest_incr` -/

/-- What `latest_incr` collects for one revision. -/
structure IncrMeta where
  snap : Option ObjKey := none
  wal : Option ObjKey := none
  deriving DecidableEq, Repr

abbrev ByRev := AList fun _ : Nat => IncrMeta

/-- The entry of a revision, as `entry(rev).or_default()`. -/
def ByRev.entry (m : ByRev) (rev : Nat) : IncrMeta :=
  (m.lookup rev).getD {}

/-- One listed object; full backups are not under the listed prefix. -/
def record (m : ByRev) (k : ObjKey) : ByRev :=
  match k with
  | .full _ _ => m
  | .snapshot rev => m.insert rev { m.entry rev with snap := some k }
  | .wal rev => m.insert rev { m.entry rev with wal := some k }

def byRev (keys : List ObjKey) : ByRev :=
  keys.foldl record ∅

def ByRev.revs (m : ByRev) : List Nat :=
  m.keys.filter fun rev => (m.entry rev).snap.isSome

/-- The pair of the greatest revision that has a main file. -/
def latestOf (m : ByRev) : Option (ObjKey × Option ObjKey) :=
  m.revs.max?.bind fun rev => (m.entry rev).snap.map fun snap => (snap, (m.entry rev).wal)

def latestIncr {O : Type} (s : ObjectStore O) : Option (ObjKey × Option ObjKey) :=
  latestOf (byRev s.keys)

lemma entry_record (m : ByRev) (k : ObjKey) (rev : Nat) :
    (record m k).entry rev =
      { snap := if k = .snapshot rev then some k else (m.entry rev).snap
        wal := if k = .wal rev then some k else (m.entry rev).wal } := by
  cases k with
  | full ts uid => simp [record]
  | snapshot r | wal r =>
    by_cases hr : rev = r
    · subst hr
      simp [record, ByRev.entry]
    · simp [record, ByRev.entry, AList.lookup_insert_ne hr, Ne.symm hr]

lemma entry_foldl_record (keys : List ObjKey) (m : ByRev) (rev : Nat) :
    (keys.foldl record m).entry rev =
      { snap := if .snapshot rev ∈ keys then some (.snapshot rev) else (m.entry rev).snap
        wal := if .wal rev ∈ keys then some (.wal rev) else (m.entry rev).wal } := by
  induction keys generalizing m with
  | nil => simp
  | cons k keys ih =>
    rw [List.foldl_cons, ih, entry_record]
    by_cases hs : .snapshot rev ∈ keys <;> by_cases hw : .wal rev ∈ keys <;>
      by_cases hks : k = .snapshot rev <;> by_cases hkw : k = .wal rev <;>
      simp_all [eq_comm]

lemma entry_byRev (keys : List ObjKey) (rev : Nat) :
    (byRev keys).entry rev =
      { snap := if .snapshot rev ∈ keys then some (.snapshot rev) else none
        wal := if .wal rev ∈ keys then some (.wal rev) else none } := by
  rw [byRev, entry_foldl_record]
  simp [ByRev.entry]

section Listed

variable {keys : List ObjKey}

lemma mem_revs {rev : Nat} : rev ∈ (byRev keys).revs ↔ .snapshot rev ∈ keys := by
  have hsome : ((byRev keys).entry rev).snap.isSome ↔ .snapshot rev ∈ keys := by
    rw [entry_byRev]
    by_cases h : .snapshot rev ∈ keys <;> simp [h]
  rw [ByRev.revs, List.mem_filter, hsome]
  -- a revision with a main file has an entry in the map
  refine ⟨fun h => h.2, fun h => ⟨?_, h⟩⟩
  cases hl : (byRev keys).lookup rev with
  | none => simp [ByRev.entry, hl, h] at hsome
  | some e => exact AList.lookup_isSome.mp (by simp [hl])

lemma latestOf_byRev_eq_some {snap : ObjKey} {wal : Option ObjKey} :
    latestOf (byRev keys) = some (snap, wal) ↔
      ∃ rev, snap = .snapshot rev ∧ .snapshot rev ∈ keys ∧ (∀ r, .snapshot r ∈ keys → r ≤ rev) ∧
        wal = if .wal rev ∈ keys then some (.wal rev) else none := by
  simp only [latestOf, Option.bind_eq_some_iff, List.max?_eq_some_iff, mem_revs]
  constructor
  · rintro ⟨rev, ⟨hrev, hmax⟩, hpair⟩
    rw [entry_byRev, if_pos hrev] at hpair
    obtain ⟨rfl, rfl⟩ : .snapshot rev = snap ∧ _ = wal := by simpa using hpair
    exact ⟨rev, rfl, hrev, hmax, rfl⟩
  · rintro ⟨rev, rfl, hrev, hmax, rfl⟩
    refine ⟨rev, ⟨hrev, hmax⟩, ?_⟩
    rw [entry_byRev, if_pos hrev]
    rfl

lemma latestOf_byRev_eq_none : latestOf (byRev keys) = none ↔ ∀ rev, .snapshot rev ∉ keys := by
  constructor
  · intro hnone rev hrev
    have hrevs := mem_revs.mpr hrev
    obtain ⟨top, htop⟩ : ∃ top, (byRev keys).revs.max? = some top := by
      cases hmax : (byRev keys).revs.max? with
      | none => simp [List.max?_eq_none_iff.mp hmax] at hrevs
      | some top => exact ⟨top, rfl⟩
    have hmem : .snapshot top ∈ keys := mem_revs.mp (List.max?_mem htop)
    simp [latestOf, htop, entry_byRev, hmem] at hnone
  · intro h
    cases hl : latestOf (byRev keys) with
    | none => rfl
    | some pair =>
      obtain ⟨rev, _, hrev, _⟩ := latestOf_byRev_eq_some.mp hl
      exact absurd hrev (h rev)

end Listed

variable {O : Type} {s : ObjectStore O}

/-- The greatest revision with a main file, and the WAL object of the same revision if there is one.
-/
lemma latestIncr_eq_some {snap : ObjKey} {wal : Option ObjKey} :
    latestIncr s = some (snap, wal) ↔
      ∃ rev, snap = .snapshot rev ∧ .snapshot rev ∈ s ∧ (∀ r, .snapshot r ∈ s → r ≤ rev) ∧
        wal = if .wal rev ∈ s then some (.wal rev) else none := by
  simp only [latestIncr, latestOf_byRev_eq_some, AList.mem_keys]

lemma latestIncr_eq_none : latestIncr s = none ↔ ∀ rev, .snapshot rev ∉ s :=
  latestOf_byRev_eq_none

end Combee.Storage
