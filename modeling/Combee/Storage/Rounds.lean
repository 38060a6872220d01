import Combee.Foundation.Machine
import Combee.Storage.Archive

/-!
# Rounds — incremental backups as rounds of two puts

`incremental_backup` copies the main file and the WAL under the lock of the Cell, so the two belong
together. `upload_incr` then reads the millisecond clock and puts the copies one after the other.
Any number of uploads interleave here, every put may fail, and two uploads may read the same
millisecond.

The main result says when the pair that `latest_incr` selects is what one upload has copied: if the
uploads of a millisecond follow one another, or have no WAL to mix up, exactly unless the newest
main file still waits for its WAL or has lost it.
-/

namespace Combee.Storage

open Foundation
open Function (update update_of_ne update_self)

/-! ## Uploads -/

/-- The copies made under the lock: the main file, and the WAL if the file exists. -/
structure Copy (β : Type) where
  snap : List β
  wal : Option (List β)

def Copy.walBytes {β : Type} (c : Copy β) : Option (List β) :=
  c.wal.filter fun w => !w.isEmpty

/-- An object, with the upload that put it (ghost). -/
structure Part (β : Type) where
  bytes : List β
  round : Nat

/-- An `incremental_backup` after the copy, through `upload_incr`. -/
inductive Upload (β : Type) where
  | copied (c : Copy β)
  | stamped (c : Copy β) (rev : Nat)
  | snapped (c : Copy β) (rev : Nat)
  | finished (c : Copy β) (rev : Nat)
  | snapFailed (c : Copy β) (rev : Nat)
  | walFailed (c : Copy β) (rev : Nat)

namespace Upload

variable {β : Type}

def copy : Upload β → Copy β
  | copied c | stamped c _ | snapped c _ | finished c _ | snapFailed c _ | walFailed c _ => c

def rev : Upload β → Option Nat
  | copied _ => none
  | stamped _ r | snapped _ r | finished _ r | snapFailed _ r | walFailed _ r => some r

/-- It has read the clock and has an object to put. -/
def Pending : Upload β → Prop
  | stamped _ _ => True
  | snapped c _ => c.walBytes ≠ none
  | _ => False

/-- Its main file is up, its WAL is due and is not. -/
def MissingWal : Upload β → Prop
  | snapped c _ | walFailed c _ => c.walBytes ≠ none
  | _ => False

end Upload

/-- What the outside decides: the millisecond that is read, and whether a put succeeds. -/
structure PutChoice where
  ms : Nat := 0
  ok : Bool := true
  deriving DecidableEq, Repr

abbrev Uploads (β : Type) := Pool (ObjectStore (Part β)) Nat (Upload β)

section Machine

variable {β : Type}

def upload (s : ObjectStore (Part β)) (i : Nat) (u : Upload β) (ch : PutChoice) :
    Option (ObjectStore (Part β) × Upload β) :=
  match u with
  | .copied c => some (s, .stamped c ch.ms)
  | .stamped c rev =>
    if ch.ok then some (s.insert (.snapshot rev) ⟨c.snap, i⟩, .snapped c rev)
    else some (s, .snapFailed c rev)
  | .snapped c rev =>
    match c.walBytes with
    | none => some (s, .finished c rev)
    | some w =>
      if ch.ok then some (s.insert (.wal rev) ⟨w, i⟩, .finished c rev)
      else some (s, .walFailed c rev)
  | .finished _ _ => none
  | .snapFailed _ _ => none
  | .walFailed _ _ => none

def uploads (s : Uploads β) (l : PoolLabel Nat PutChoice Empty) : Option (Uploads β) :=
  Pool.step upload (fun _ e => e.elim) (fun _ u => u) s l

structure NothingUp (s : Uploads β) : Prop where
  empty : s.shared = ∅
  copied : ∀ i, ∃ c, s.procs i = .copied c

/-- An upload that reads the clock meets no other one of this millisecond that has an object to put,
unless neither has a WAL; and without a WAL of its own it meets no WAL there. -/
def Apart (s : Uploads β) : PoolLabel Nat PutChoice Empty → Prop
  | .proc i ch => ∀ c, s.procs i = .copied c →
      (∀ j, (s.procs j).rev = some ch.ms → (s.procs j).Pending →
        c.walBytes = none ∧ (s.procs j).copy.walBytes = none) ∧
      (c.walBytes = none → s.shared.lookup (.wal ch.ms) = none)
  | .env e => e.elim

/-- The selected pair is the main file and the WAL of one upload: all of its copy, and nothing
else. -/
def OneRound (s : Uploads β) (snap : ObjKey) (wal : Option ObjKey) : Prop :=
  ∃ i, s.shared.lookup snap = some ⟨(s.procs i).copy.snap, i⟩ ∧
    wal.bind s.shared.lookup = (s.procs i).copy.walBytes.map fun w => ⟨w, i⟩

/-- The main file of upload `i` stands under the greatest millisecond. -/
def Newest (s : Uploads β) (i : Nat) : Prop :=
  ∃ rev bytes, s.shared.lookup (.snapshot rev) = some ⟨bytes, i⟩ ∧
    ∀ r, .snapshot r ∈ s.shared → r ≤ rev

/-! ## The invariant -/

/-- A main file that upload `i` has put stands next to its own WAL, unless that one is missing; only
an upload that has finished has put a WAL. -/
structure Holds (store : ObjectStore (Part β)) (i : Nat) (u : Upload β) : Prop where
  bare : ∀ c rev, u = .stamped c rev → c.walBytes = none → store.lookup (.wal rev) = none
  due : ∀ c rev, u = .snapped c rev → c.walBytes ≠ none →
    store.lookup (.snapshot rev) = some ⟨c.snap, i⟩
  main : ∀ rev bytes, store.lookup (.snapshot rev) = some ⟨bytes, i⟩ →
    u.rev = some rev ∧ (∀ c, u ≠ .stamped c rev) ∧ bytes = u.copy.snap ∧
      (¬ u.MissingWal → store.lookup (.wal rev) = u.copy.walBytes.map fun w => ⟨w, i⟩)
  wal : ∀ rev w, store.lookup (.wal rev) = some ⟨w, i⟩ → ∃ c, u = .finished c rev

structure Rounds (s : Uploads β) : Prop where
  holds : ∀ i, Holds s.shared i (s.procs i)
  apart : ∀ i j rev, (s.procs i).rev = some rev → (s.procs j).rev = some rev →
    (s.procs i).Pending → (s.procs j).Pending → i = j ∨ (s.procs i).copy.walBytes = none

section Step

variable {s : Uploads β} {i : Nat} {u' : Upload β} {store : ObjectStore (Part β)} {c : Copy β}
  {rev : Nat}

/-- A step that leaves what the upload has copied and read, and gives it nothing more to put. -/
lemma Rounds.updated (hs : Rounds s) (hi : Holds store i u')
    (hothers : ∀ j, j ≠ i → Holds store j (s.procs j)) (hrev : u'.rev = (s.procs i).rev)
    (hcopy : u'.copy = (s.procs i).copy) (hpending : u'.Pending → (s.procs i).Pending) :
    Rounds ⟨store, update s.procs i u'⟩ := by
  have hsame : ∀ j, (update s.procs i u' j).rev = (s.procs j).rev ∧
      (update s.procs i u' j).copy = (s.procs j).copy ∧
      ((update s.procs i u' j).Pending → (s.procs j).Pending) := by
    intro j
    by_cases hj : j = i
    · subst hj
      simpa using ⟨hrev, hcopy, hpending⟩
    · simp [hj]
  refine ⟨(Function.forall_update_iff _ _).mpr ⟨hi, hothers⟩, fun j k r hj hk hpj hpk => ?_⟩
  simp only [(hsame _).1, (hsame _).2.1] at hj hk ⊢
  exact hs.apart j k r hj hk ((hsame j).2.2 hpj) ((hsame k).2.2 hpk)

lemma Rounds.of_stamp (hs : Rounds s) {ms : Nat} (hu : s.procs i = .copied c)
    (hothers : ∀ j, (s.procs j).rev = some ms → (s.procs j).Pending →
      c.walBytes = none ∧ (s.procs j).copy.walBytes = none)
    (hbare : c.walBytes = none → s.shared.lookup (.wal ms) = none) :
    Rounds ⟨s.shared, update s.procs i (.stamped c ms)⟩ := by
  have hi := hs.holds i
  rw [hu] at hi
  refine ⟨(Function.forall_update_iff _ _).mpr ⟨⟨?_, ?_, ?_, ?_⟩, fun j _ => hs.holds j⟩, ?_⟩
  · rintro c rev heq
    cases heq
    exact hbare
  · rintro c rev heq
    cases heq
  · intro rev bytes hmain
    exact absurd (hi.main rev bytes hmain).1 (by simp [Upload.rev])
  · intro rev w hwal
    obtain ⟨c, hc⟩ := hi.wal rev w hwal
    cases hc
  · intro j k r hj hk hpj hpk
    by_cases hji : j = i <;> by_cases hki : k = i
    · exact .inl (hji.trans hki.symm)
    · subst hji
      simp only [update_self, update_of_ne hki, Upload.rev] at hj hk hpk ⊢
      obtain rfl := Option.some.inj hj
      exact .inr (hothers k hk hpk).1
    · subst hki
      simp only [update_self, update_of_ne hji, Upload.rev] at hj hk hpj ⊢
      obtain rfl := Option.some.inj hk
      exact .inr (hothers j hj hpj).2
    · simp only [update_of_ne hji, update_of_ne hki] at hj hk hpj hpk ⊢
      exact hs.apart j k r hj hk hpj hpk

lemma lookup_insert_eq (store : ObjectStore (Part β)) (k : ObjKey) (part : Part β) (k' : ObjKey) :
    (store.insert k part).lookup k' = if k' = k then some part else store.lookup k' := by
  by_cases h : k' = k
  · subst h
    simp
  · simp [AList.lookup_insert_ne h, h]

lemma Rounds.of_snap (hs : Rounds s) (hu : s.procs i = .stamped c rev) :
    Rounds ⟨s.shared.insert (.snapshot rev) ⟨c.snap, i⟩,
      update s.procs i (.snapped c rev)⟩ := by
  have hi := hs.holds i
  rw [hu] at hi
  have hlookup := lookup_insert_eq s.shared (.snapshot rev) ⟨c.snap, i⟩
  refine hs.updated ⟨?_, ?_, ?_, ?_⟩ (fun j hj => ?_) (by rw [hu]; rfl) (by rw [hu]; rfl)
    fun _ => by rw [hu]; trivial
  · grind
  · grind
  · grind [Upload.rev, Upload.copy, Upload.MissingWal, hi.main, hi.bare]
  · grind [hi.wal]
  -- an upload that still has to put its WAL has not let this one begin
  · have hjs := hs.holds j
    have hapart := hs.apart j i rev
    refine ⟨?_, ?_, ?_, ?_⟩
    · grind [hjs.bare]
    · grind [hjs.due, Upload.rev, Upload.copy, Upload.Pending]
    · grind [hjs.main]
    · grind [hjs.wal]

lemma Rounds.of_wal (hs : Rounds s) (hu : s.procs i = .snapped c rev) {w : List β}
    (hw : c.walBytes = some w) :
    Rounds ⟨s.shared.insert (.wal rev) ⟨w, i⟩, update s.procs i (.finished c rev)⟩ := by
  have hi := hs.holds i
  rw [hu] at hi
  have hlookup := lookup_insert_eq s.shared (.wal rev) ⟨w, i⟩
  have hown := hi.due c rev rfl (by simp [hw])
  refine hs.updated ⟨?_, ?_, ?_, fun r w' h => ⟨c, ?_⟩⟩ (fun j hj => ?_) (by rw [hu]; rfl)
    (by rw [hu]; rfl) fun h => h.elim
  · grind
  · grind
  · grind [Upload.rev, Upload.copy, hi.main]
  · grind [hi.wal]
  -- the main file here is its own, and no upload without a WAL has begun
  · have hjs := hs.holds j
    have hapart := hs.apart i j rev
    refine ⟨?_, ?_, ?_, ?_⟩
    · grind [hjs.bare, Upload.rev, Upload.copy, Upload.Pending]
    · grind [hjs.due]
    · grind [hjs.main]
    · grind [hjs.wal]

end Step

lemma step_rounds {s s' : Uploads β} {l : PoolLabel Nat PutChoice Empty} (hs : Rounds s)
    (hC : Apart s l) (h : uploads s l = some s') : Rounds s' := by
  cases h using Pool.step_cases with
  | env e => exact e.elim
  | proc i ch store u' hact =>
    have hi := hs.holds i
    -- the last step of an upload that puts nothing
    have hend : Holds s.shared i u' → u'.rev = (s.procs i).rev → u'.copy = (s.procs i).copy →
        ¬ u'.Pending → Rounds ⟨s.shared, update s.procs i u'⟩ := fun hi' hrev hcopy hp =>
      hs.updated hi' (fun j _ => hs.holds j) hrev hcopy fun h => absurd h hp
    cases hu : s.procs i with
    | copied c =>
      rw [hu] at hact
      cases hact
      exact hs.of_stamp hu (hC c hu).1 (hC c hu).2
    | stamped c rev =>
      rw [hu] at hi hend hact
      simp only [upload] at hact
      split at hact <;> cases hact
      · exact hs.of_snap hu
      · refine hend ⟨?_, ?_, ?_, ?_⟩ rfl rfl id <;> grind [hi.main, hi.wal, Upload.rev, Upload.copy]
    | snapped c rev =>
      rw [hu] at hi hend hact
      cases hw : c.walBytes with
      | none =>
        simp only [upload, hw] at hact
        cases hact
        refine hend ⟨?_, ?_, ?_, ?_⟩ rfl rfl id <;>
          grind [hi.main, hi.wal, Upload.rev, Upload.copy, Upload.MissingWal]
      | some w =>
        simp only [upload, hw] at hact
        split at hact <;> cases hact
        · exact hs.of_wal hu hw
        · refine hend ⟨?_, ?_, ?_, ?_⟩ rfl rfl id <;>
            grind [hi.main, hi.wal, Upload.rev, Upload.copy, Upload.MissingWal]
    | finished | snapFailed | walFailed =>
      rw [hu] at hact
      cases hact

lemma NothingUp.rounds {s : Uploads β} (h : NothingUp s) : Rounds s := by
  refine ⟨fun i => ?_, fun i j rev hi => ?_⟩
  · obtain ⟨c, hc⟩ := h.copied i
    rw [h.empty, hc]
    exact ⟨nofun, nofun, fun rev bytes hmain => by simp at hmain, fun rev w hwal => by simp at hwal⟩
  · obtain ⟨c, hc⟩ := h.copied i
    rw [hc] at hi
    cases hi

/-- The WAL object that `latest_incr` returns is looked up under the revision of the main file. -/
lemma bind_lookup_wal (store : ObjectStore (Part β)) (rev : Nat) :
    (if .wal rev ∈ store then some (ObjKey.wal rev) else none).bind store.lookup =
      store.lookup (.wal rev) := by
  by_cases hw : .wal rev ∈ store
  · simp [hw]
  · simp [hw, AList.lookup_eq_none.mpr hw]

lemma oneRound_iff_of_rounds {s : Uploads β} {snap : ObjKey} {wal : Option ObjKey} (hs : Rounds s)
    (hl : latestIncr s.shared = some (snap, wal)) :
    OneRound s snap wal ↔ ∀ i, Newest s i → ¬ (s.procs i).MissingWal := by
  obtain ⟨rev, rfl, hmem, hmax, rfl⟩ := latestIncr_eq_some.mp hl
  obtain ⟨⟨bytes, i⟩, hmain⟩ := Option.isSome_iff_exists.mp (AList.lookup_isSome.mpr hmem)
  obtain ⟨hrev, -, rfl, hwal⟩ := (hs.holds i).main rev bytes hmain
  rw [OneRound]
  simp only [bind_lookup_wal]
  constructor
  · rintro ⟨j, hj, hjwal⟩ k ⟨r, bytes, hk, hr⟩ hmiss
    -- the greatest millisecond is the selected one
    obtain rfl : r = rev :=
      le_antisymm (hmax r (AList.lookup_isSome.mp (by simp [hk]))) (hr rev hmem)
    obtain rfl : j = i := by simpa using congrArg (Option.map Part.round) (hj.symm.trans hmain)
    obtain rfl : k = j := by simpa using congrArg (Option.map Part.round) (hk.symm.trans hmain)
    cases hw : (s.procs k).copy.walBytes with
    | none => cases hu : s.procs k <;> simp_all [Upload.MissingWal, Upload.copy]
    | some w =>
      obtain ⟨c, hc⟩ := (hs.holds k).wal r w (by rw [hjwal, hw]; rfl)
      rw [hc] at hmiss
      exact hmiss
  · intro hnot
    exact ⟨i, hmain, hwal (hnot i ⟨rev, _, hmain, hmax⟩)⟩

/-! ## Uploads that are not kept apart -/

/-- The selected pair is not of one upload, although the newest main file is not missing its WAL. -/
def Mixed (s : Uploads β) : Prop :=
  (∃ snap wal, latestIncr s.shared = some (snap, wal) ∧ ¬ OneRound s snap wal) ∧
    ∀ i, Newest s i → ¬ (s.procs i).MissingWal

section Mixed

variable {s : Uploads β} {i j rev : Nat} {c d : Copy β} {w : List β}

lemma mixed_of_lookup {x y : Part β}
    (hmain : s.shared.lookup (.snapshot rev) = some x)
    (hwal : s.shared.lookup (.wal rev) = some y) (hne : x.round ≠ y.round)
    (hmiss : ¬ (s.procs x.round).MissingWal) (hmax : ∀ r, .snapshot r ∈ s.shared → r ≤ rev) :
    Mixed s := by
  have hmem : ObjKey.snapshot rev ∈ s.shared := AList.lookup_isSome.mp (by simp [hmain])
  have hmem' : ObjKey.wal rev ∈ s.shared := AList.lookup_isSome.mp (by simp [hwal])
  have hl := latestIncr_eq_some.mpr ⟨rev, rfl, hmem, hmax, (if_pos hmem').symm⟩
  refine ⟨⟨_, _, hl, ?_⟩, ?_⟩
  · rintro ⟨k, hk, hkwal⟩
    cases hw : (s.procs k).copy.walBytes <;> grind
  · rintro k ⟨r, bytes, hk, hr⟩
    have hr : r = rev := le_antisymm (hmax r (AList.lookup_isSome.mp (by simp [hk]))) (hr rev hmem)
    grind

variable {store : ObjectStore (Part β)}

lemma snapshot_le_of_insert {k : ObjKey} {part : Part β} (hk : k = .snapshot rev ∨ k = .wal rev)
    (hmax : ∀ r, .snapshot r ∈ store → r ≤ rev) (r : Nat)
    (hr : .snapshot r ∈ store.insert k part) : r ≤ rev := by
  grind [AList.mem_insert]

lemma uploads_proc {u : Upload β} {ch : PutChoice}
    (h : upload s.shared i (s.procs i) ch = some (store, u)) :
    uploads s (.proc i ch) = some ⟨store, update s.procs i u⟩ :=
  Pool.step_proc_eq_some.mpr ⟨store, u, h, rfl⟩

section Stamped

variable (hi : s.procs i = .stamped c rev) (hmax : ∀ r, .snapshot r ∈ s.shared → r ≤ rev)
include hi hmax

/-- An upload makes its puts without a break. -/
lemma exists_puts : ∃ s', exec uploads s [.proc i {}, .proc i {}] = some s' ∧
    s'.procs = update s.procs i (.finished c rev) ∧
    s'.shared.lookup (.snapshot rev) = some ⟨c.snap, i⟩ ∧
    ∀ r, .snapshot r ∈ s'.shared → r ≤ rev := by
  obtain ⟨s₁, hs₁, hfirst⟩ : ∃ s₁ : Uploads β, s₁ = ⟨s.shared.insert (.snapshot rev) ⟨c.snap, i⟩,
      update s.procs i (.snapped c rev)⟩ ∧ uploads s (.proc i {}) = some s₁ :=
    ⟨_, rfl, uploads_proc (by rw [hi]; rfl)⟩
  have hi₁ : s₁.procs i = .snapped c rev := by simp [hs₁]
  have hmax₁ : ∀ r, .snapshot r ∈ s₁.shared → r ≤ rev := by
    rw [hs₁]
    exact snapshot_le_of_insert (.inl rfl) hmax
  cases hw : c.walBytes with
  | none =>
    have hsecond : uploads s₁ (.proc i {}) = some ⟨s₁.shared, _⟩ :=
      uploads_proc (by rw [hi₁, upload, hw])
    refine ⟨_, exec_cons hfirst (exec_cons hsecond (exec_nil ..)), ?_⟩
    exact ⟨by simp [hs₁], by simp [hs₁], hmax₁⟩
  | some w =>
    have hsecond : uploads s₁ (.proc i {}) = some ⟨s₁.shared.insert (.wal rev) ⟨w, i⟩, _⟩ :=
      uploads_proc (by rw [hi₁, upload, hw]; rfl)
    refine ⟨_, exec_cons hfirst (exec_cons hsecond (exec_nil ..)), ?_⟩
    exact ⟨by simp [hs₁], by simp [hs₁], snapshot_le_of_insert (.inr rfl) hmax₁⟩

/-- The upload whose WAL is due puts it behind all the puts of the other one. -/
lemma exists_mixed_of_due (hj : s.procs j = .snapped d rev) (hd : d.walBytes ≠ none) :
    ∃ ls s', exec uploads s ls = some s' ∧ Mixed s' := by
  have hij : i ≠ j := by grind
  obtain ⟨s₁, hrun, hprocs, hmain, hmax⟩ := exists_puts hi hmax
  obtain ⟨w, hw⟩ := Option.ne_none_iff_exists'.mp hd
  have hlast : uploads s₁ (.proc j {}) = some ⟨s₁.shared.insert (.wal rev) ⟨w, j⟩, _⟩ :=
    uploads_proc (u := .finished d rev) (by simp [hprocs, hij.symm, hj, upload, hw])
  refine ⟨_, _, exec_append_eq_some.mpr ⟨s₁, hrun, exec_cons hlast (exec_nil ..)⟩, ?_⟩
  exact mixed_of_lookup (x := ⟨c.snap, i⟩) (y := ⟨w, j⟩) (by simp [hmain]) (by simp) hij
    (by simp [hij, hprocs, Upload.MissingWal]) (snapshot_le_of_insert (.inr rfl) hmax)

lemma exists_mixed_of_stamped (hj : s.procs j = .stamped d rev) (hij : i ≠ j)
    (hd : d.walBytes ≠ none) : ∃ ls s', exec uploads s ls = some s' ∧ Mixed s' := by
  have hfirst : uploads s (.proc j {}) = some _ := uploads_proc (by rw [hj]; rfl)
  obtain ⟨ls, s', hls, hmixed⟩ := exists_mixed_of_due (i := i) (j := j) (c := c)
    (s := ⟨s.shared.insert (.snapshot rev) ⟨d.snap, j⟩,
      update s.procs j (.snapped d rev)⟩) (by simpa [hij] using hi)
    (snapshot_le_of_insert (.inl rfl) hmax) (by simp) hd
  exact ⟨_, s', exec_cons hfirst hls, hmixed⟩

lemma exists_mixed_of_wal {part : Part β} (hnone : c.walBytes = none)
    (hwal : s.shared.lookup (.wal rev) = some part) (hpart : i ≠ part.round) :
    ∃ ls s', exec uploads s ls = some s' ∧ Mixed s' := by
  have hfirst : uploads s (.proc i {}) = some _ := uploads_proc (by rw [hi]; rfl)
  refine ⟨_, _, exec_cons hfirst (exec_nil ..), ?_⟩
  exact mixed_of_lookup (x := ⟨c.snap, i⟩) (by simp) (by simp [hwal]) hpart
    (by simp [Upload.MissingWal, hnone]) (snapshot_le_of_insert (.inl rfl) hmax)

end Stamped

lemma exists_mixed_of_not_apart {ch : PutChoice} (hs : Rounds s) (h : ¬ Apart s (.proc i ch))
    (hmax : ∀ r, .snapshot r ∈ s.shared → r ≤ ch.ms) :
    ∃ ls s', exec uploads s (.proc i ch :: ls) = some s' ∧ Mixed s' := by
  obtain ⟨c, hc, hbad⟩ : ∃ c, s.procs i = .copied c ∧
      ((∃ j, (s.procs j).rev = some ch.ms ∧ (s.procs j).Pending ∧
        (c.walBytes = none → (s.procs j).copy.walBytes ≠ none)) ∨
      c.walBytes = none ∧ s.shared.lookup (.wal ch.ms) ≠ none) := by
    simp only [Apart] at h
    grind
  have hstamp : uploads s (.proc i ch) = some ⟨s.shared, _⟩ := uploads_proc (by rw [hc]; rfl)
  suffices hrest : ∃ ls s', exec uploads
      ⟨s.shared, update s.procs i (.stamped c ch.ms)⟩ ls = some s' ∧ Mixed s' by
    obtain ⟨ls, s', hls, hmixed⟩ := hrest
    exact ⟨ls, s', exec_cons hstamp hls, hmixed⟩
  have hi : update s.procs i (.stamped c ch.ms) i = .stamped c ch.ms := by simp
  rcases hbad with ⟨j, hrev, hpending, hwal⟩ | ⟨hnone, hwal⟩
  · have hij : j ≠ i := by
      rintro rfl
      simp [hc, Upload.rev] at hrev
    have hsame : update s.procs i (.stamped c ch.ms) j = s.procs j := by simp [hij]
    cases hj : s.procs j with
    | stamped d r =>
      obtain rfl : r = ch.ms := by simpa [hj, Upload.rev] using hrev
      by_cases hnone : c.walBytes = none
      · rw [hj] at hwal
        exact exists_mixed_of_stamped hi hmax (hsame.trans hj) hij.symm (hwal hnone)
      · exact exists_mixed_of_stamped (hsame.trans hj) hmax hi hij hnone
    | snapped d r =>
      obtain rfl : r = ch.ms := by simpa [hj, Upload.rev] using hrev
      rw [hj] at hpending
      exact exists_mixed_of_due hi hmax (hsame.trans hj) hpending
    | copied | finished | snapFailed | walFailed => simp [hj, Upload.Pending] at hpending
  · -- the WAL that is there is of an upload that has finished
    obtain ⟨⟨w, k⟩, hw⟩ := Option.ne_none_iff_exists'.mp hwal
    refine exists_mixed_of_wal hi hmax hnone hw ?_
    rintro rfl
    obtain ⟨d, hd⟩ := (hs.holds i).wal _ _ hw
    simp [hc] at hd

end Mixed

/-- If the uploads of a millisecond do not get in each other's way, `latest_incr` selects the copy
of one upload exactly if the upload with the newest main file is not missing its WAL. An upload
that does get in the way, in the newest millisecond, can go on to a selection that is mixed. -/
theorem latestIncr_oneRound_iff {s₀ s : Uploads β} {ls : List (PoolLabel Nat PutChoice Empty)}
    (h₀ : NothingUp s₀) (hC : Meets uploads Apart s₀ ls) (h : exec uploads s₀ ls = some s) :
    (∀ snap wal, latestIncr s.shared = some (snap, wal) →
      (OneRound s snap wal ↔ ∀ i, Newest s i → ¬ (s.procs i).MissingWal)) ∧
    ∀ i ch, ¬ Apart s (.proc i ch) → (∀ r, .snapshot r ∈ s.shared → r ≤ ch.ms) →
      ∃ ls' s', exec uploads s (.proc i ch :: ls') = some s' ∧ Mixed s' := by
  have hs : Rounds s := inv_of_exec (fun hs hc hl => step_rounds hs hc hl) h₀.rounds hC h
  exact ⟨fun snap wal hl => oneRound_iff_of_rounds hs hl,
    fun i ch hi hmax => exists_mixed_of_not_apart hs hi hmax⟩

end Machine

/-! ## Two uploads -/

/-- Two backups of a Cell that have made their copies; each has a main file and a WAL. -/
def twoCopied : Pool (ObjectStore (Part Nat)) Nat (Upload Nat) where
  shared := ∅
  procs := fun i => .copied (if i = 0 then ⟨[1], some [2]⟩ else ⟨[1, 2], some [3]⟩)

lemma twoCopied_nothingUp : NothingUp twoCopied :=
  ⟨rfl, fun _ => ⟨_, rfl⟩⟩

/-- Upload `i` reads millisecond 5 and makes its puts. -/
def uploadAtFive (i : Nat) : List (PoolLabel Nat PutChoice Empty) :=
  [.proc i { ms := 5 }, .proc i {}, .proc i {}]

/-- Of two uploads in one millisecond that follow one another, the second is selected as a whole. -/
theorem latestIncr_oneRound_in_turn :
    ∃ s, exec uploads twoCopied (uploadAtFive 0 ++ uploadAtFive 1) = some s ∧
      latestIncr s.shared = some (.snapshot 5, some (.wal 5)) ∧
      OneRound s (.snapshot 5) (some (.wal 5)) := by
  have hlater : ∀ {s : Uploads Nat} {i ch}, (∀ c, s.procs i ≠ .copied c) → Apart s (.proc i ch) :=
    fun h c hc => absurd hc (h c)
  have hmeets : Meets uploads Apart twoCopied (uploadAtFive 0 ++ uploadAtFive 1) := by
    refine (meets_cons rfl).mpr ⟨fun c hc => ⟨fun j hj => ?_, fun h => ?_⟩, ?_⟩
    · simp [twoCopied, Upload.rev] at hj
    · cases hc
      cases h
    refine (meets_cons rfl).mpr ⟨hlater (by simp), (meets_cons rfl).mpr ⟨hlater (by simp), ?_⟩⟩
    refine (meets_cons rfl).mpr ⟨fun c hc => ⟨fun j hj hp => ?_, fun h => ?_⟩, ?_⟩
    · by_cases hj0 : j = 0 <;> simp [hj0, twoCopied, Upload.rev, Upload.Pending] at hj hp
    · cases hc
      cases h
    exact (meets_cons rfl).mpr ⟨hlater (by simp), (meets_cons rfl).mpr ⟨hlater (by simp), trivial⟩⟩
  refine ⟨_, rfl, rfl, ((latestIncr_oneRound_iff twoCopied_nothingUp hmeets rfl).1 _ _ rfl).mpr ?_⟩
  intro i _ hmiss
  by_cases h0 : i = 0 <;> by_cases h1 : i = 1 <;>
    simp [h0, h1, twoCopied, Upload.MissingWal] at hmiss

/-- Both uploads read millisecond 5, and the WAL of the first is paired with the main file of the
second; or an upload has put its main file only. -/
theorem latestIncr_mixed :
    (∃ s, exec uploads twoCopied (uploadAtFive 0 ++ (uploadAtFive 1).take 2) = some s ∧
      latestIncr s.shared = some (.snapshot 5, some (.wal 5)) ∧
      ¬ OneRound s (.snapshot 5) (some (.wal 5))) ∧
    (∃ s, exec uploads twoCopied ((uploadAtFive 0).take 2) = some s ∧
      latestIncr s.shared = some (.snapshot 5, none) ∧ ¬ OneRound s (.snapshot 5) none) := by
  refine ⟨⟨_, rfl, rfl, ?_⟩, ⟨_, rfl, rfl, ?_⟩⟩
  · rintro ⟨i, hsnap, hwal⟩
    obtain rfl : 1 = i := congrArg Part.round (Option.some.inj hsnap)
    exact absurd (congrArg (Option.map Part.round) hwal) (by decide)
  · rintro ⟨i, hsnap, hwal⟩
    obtain rfl : 0 = i := congrArg Part.round (Option.some.inj hsnap)
    exact absurd (congrArg Option.isSome hwal) (by decide)

end Combee.Storage
