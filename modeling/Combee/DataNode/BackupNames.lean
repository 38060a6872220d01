import Combee.Kv.Counter
import Combee.Storage.Archive

/-!
# BackupNames — the names of the incremental backups

`upload_incr` writes the revision into the names of its objects, and `latest_incr` reads it back out
of a listing of names, which comes in any order and may hold other objects. `Archive` has the keys
in place of their names: `Renders` ties the map built from the names to the one built from the keys.
-/

namespace Combee.DataNode.Names

open Storage List

/-! ## Names and revisions -/

/-- What comes after the first occurrence of a pattern, which is not empty. -/
def after (pat : List Char) : List Char → Option (List Char)
  | [] => none
  | c :: cs =>
    if pat.isPrefixOf (c :: cs) then some ((c :: cs).drop pat.length) else after pat cs

def contains (name pat : List Char) : Bool :=
  (after pat name).isSome

def snapshotTag : List Char := "snapshot-".toList

def walTag : List Char := "wal-".toList

/-- `str::parse::<u128>` -/
def parseU128 : List Char → Option Nat
  | '+' :: ds => (Kv.parseDigits ds).filter (· < 2 ^ 128)
  | ds => (Kv.parseDigits ds).filter (· < 2 ^ 128)

def parseRev (name : List Char) : Option Nat :=
  ([snapshotTag, walTag].findSome? fun pat => after pat name).bind fun rest =>
    parseU128 (rest.takeWhile (· ≠ '.'))

def incrName (db : DatabaseId) (tag : List Char) (rev : Nat) (ext : List Char) : List Char :=
  "backups/".toList ++ (uuidText db.raw ++ "/incr/".toList ++
    (tag ++ (Nat.toDigits 10 rev ++ '.' :: ext)))

def objectName (db : DatabaseId) : ObjKey → List Char
  | .full ts uid => "backups/".toList ++ (uuidText db.raw ++ '/' :: (Nat.toDigits 10 ts ++
      '-' :: (uuidText uid ++ ".sqlite".toList)))
  | .snapshot rev => incrName db snapshotTag rev "sqlite".toList
  | .wal rev => incrName db walTag rev "sqlite-wal".toList

section Text

variable {db : DatabaseId} {rev : Nat} {pat l rest : List Char} {p : Char}

lemma after_append_of_notMem (h : p ∉ l) :
    after (p :: pat) (l ++ rest) = after (p :: pat) rest := by
  induction l with
  | nil => rfl
  | cons c l ih =>
    obtain ⟨hc, hl⟩ := not_or.mp (mt mem_cons.mpr h)
    simp [after, hc, ih hl]

lemma after_self : after (p :: pat) (p :: pat ++ rest) = some rest := by
  simp [after]

/-- In front of the tag there is no `w`, and no `s` but the one of `backups/`. -/
lemma after_dir {tag : List Char} (htag : tag = snapshotTag ∨ tag = walTag) :
    after tag ("backups/".toList ++ (uuidText db.raw ++ "/incr/".toList ++ rest)) =
      after tag rest := by
  have hdir : ∀ c ∈ uuidText db.raw ++ "/incr/".toList, c ≠ 's' ∧ c ≠ 'w' :=
    forall_mem_append.mpr ⟨forall_mem_uuidText (by decide) (by decide), by simp⟩
  rcases htag with rfl | rfl
  · exact after_append_of_notMem fun h => (hdir 's' h).1 rfl
  · exact after_append_of_notMem fun h => (hdir 'w' h).2 rfl

lemma parseU128_takeWhile (h : rev < 2 ^ 128) :
    parseU128 ((Nat.toDigits 10 rev ++ '.' :: rest).takeWhile (· ≠ '.')) = some rev := by
  have hdot : (Nat.toDigits 10 rev ++ '.' :: rest).takeWhile (· ≠ '.') = Nat.toDigits 10 rev := by
    rw [takeWhile_append_of_pos, takeWhile_cons_of_neg (by simp), append_nil]
    intro c hc
    simpa using fun heq : c = '.' => Kv.notMem_toDigits rfl (heq ▸ hc)
  rw [hdot]
  unfold parseU128
  -- the first character is a digit, hence no sign
  split
  · rename_i heq
    have hplus : '+' ∉ Nat.toDigits 10 rev := Kv.notMem_toDigits rfl
    exact absurd (heq ▸ mem_cons_self) hplus
  · rw [Kv.parseDigits_toDigits, Option.filter_some, if_pos (by simpa using h)]

lemma after_snapshotName : after snapshotTag (objectName db (.snapshot rev)) =
    some (Nat.toDigits 10 rev ++ ".sqlite".toList) :=
  (after_dir (.inl rfl)).trans after_self

lemma after_walName : after snapshotTag (objectName db (.wal rev)) = none ∧
    after walTag (objectName db (.wal rev)) =
      some (Nat.toDigits 10 rev ++ ".sqlite-wal".toList) := by
  refine ⟨(after_dir (.inl rfl)).trans ?_, (after_dir (.inr rfl)).trans after_self⟩
  have hs : 's' ∉ walTag ++ Nat.toDigits 10 rev := by
    rw [mem_append, not_or]
    exact ⟨by decide, Kv.notMem_toDigits rfl⟩
  rw [← append_assoc]
  exact after_append_of_notMem hs

lemma parseRev_snapshot (h : rev < 2 ^ 128) :
    parseRev (objectName db (.snapshot rev)) = some rev := by
  rw [parseRev, findSome?_cons, after_snapshotName]
  exact parseU128_takeWhile h

lemma parseRev_wal (h : rev < 2 ^ 128) : parseRev (objectName db (.wal rev)) = some rev := by
  rw [parseRev, findSome?_cons, after_walName.1, findSome?_cons, after_walName.2]
  exact parseU128_takeWhile h

end Text

/-! ## `latest_incr` -/

structure IncrMeta where
  snap : Option (List Char) := none
  wal : Option (List Char) := none

abbrev ByRev := AList fun _ : Nat => IncrMeta

def ByRev.entry (m : ByRev) (rev : Nat) : IncrMeta :=
  (m.lookup rev).getD {}

/-- One listed object. -/
def record (m : ByRev) (name : List Char) : ByRev :=
  match parseRev name with
  | none => m
  | some rev => m.insert rev <|
    if contains name snapshotTag then { m.entry rev with snap := some name }
    else if contains name walTag then { m.entry rev with wal := some name }
    else m.entry rev

def ByRev.revs (m : ByRev) : List Nat :=
  m.keys.filter fun rev => (m.entry rev).snap.isSome

def ByRev.latest (m : ByRev) : Option (List Char × Option (List Char)) :=
  m.revs.max?.bind fun rev => (m.entry rev).snap.map fun snap => (snap, (m.entry rev).wal)

def latestIncr (listing : List (List Char)) : Option (List Char × Option (List Char)) :=
  (listing.foldl record ∅).latest

/-- The name is that of an incremental backup as far as `latest_incr` can see. -/
def isIncr (name : List Char) : Bool :=
  contains name snapshotTag || contains name walTag

/-- The keys that `upload_incr` writes. -/
def Uploaded : ObjKey → Prop
  | .full _ _ => False
  | .snapshot rev => rev < 2 ^ 128
  | .wal rev => rev < 2 ^ 128

section Selection

variable {db : DatabaseId}

/-- The map from the names is the map from the keys, with names for keys. -/
structure Renders (db : DatabaseId) (m : Storage.ByRev) (n : ByRev) : Prop where
  keys : n.keys = m.keys
  entry : ∀ rev, n.entry rev =
    ⟨(m.entry rev).snap.map (objectName db), (m.entry rev).wal.map (objectName db)⟩

variable {m : Storage.ByRev} {n : ByRev}

lemma ByRev.entry_insert (n : ByRev) (r rev : Nat) (e : IncrMeta) :
    ByRev.entry (n.insert r e) rev = if rev = r then e else n.entry rev := by
  by_cases hr : rev = r
  · subst hr
    simp [ByRev.entry]
  · simp [ByRev.entry, AList.lookup_insert_ne hr, hr]

lemma Renders.record (h : Renders db m n) {k : ObjKey} (hk : Uploaded k) :
    Renders db (Storage.record m k) (Names.record n (objectName db k)) := by
  cases k with
  | full => exact hk.elim
  | snapshot rev | wal rev =>
    simp only [Names.record, parseRev_snapshot hk, parseRev_wal hk, contains, after_snapshotName,
      after_walName]
    refine ⟨by simp [Storage.record, h.keys], fun r => ?_⟩
    rw [ByRev.entry_insert, entry_record]
    by_cases hr : r = rev
    · simp [hr, h.entry]
    · simp [hr, h.entry, Ne.symm hr]

lemma record_of_not_isIncr {name : List Char} (h : isIncr name = false) : record n name = n := by
  obtain ⟨hsnap, hwal⟩ : after snapshotTag name = none ∧ after walTag name = none := by
    simpa [isIncr, contains] using h
  simp [record, parseRev, hsnap, hwal]

variable {listing : List (List Char)}

lemma Renders.foldl {keys : List ObjKey} (h : Renders db m n)
    (hkeys : ∀ k ∈ keys, Uploaded k)
    (hlisting : listing.filter isIncr = keys.map (objectName db)) :
    Renders db (keys.foldl Storage.record m) (listing.foldl Names.record n) := by
  induction listing generalizing keys m n with
  | nil =>
    obtain rfl : keys = [] := by simpa using hlisting.symm
    exact h
  | cons name listing ih =>
    cases hname : isIncr name with
    | false =>
      rw [foldl_cons, record_of_not_isIncr hname]
      exact ih h hkeys (by simpa [hname] using hlisting)
    | true =>
      rw [filter_cons_of_pos hname] at hlisting
      obtain ⟨k, keys, rfl, rfl, hrest⟩ := map_eq_cons_iff.mp hlisting.symm
      rw [foldl_cons, foldl_cons]
      exact ih (h.record (hkeys k mem_cons_self))
        (forall_mem_cons.mp hkeys).2 hrest.symm

lemma Renders.latest (h : Renders db m n) : n.latest =
    (latestOf m).map fun p => (objectName db p.1, p.2.map (objectName db)) := by
  have hrevs : n.revs = m.revs := by
    simp only [ByRev.revs, Storage.ByRev.revs, h.keys, h.entry, Option.isSome_map]
  rw [ByRev.latest, latestOf, hrevs, Option.map_bind]
  refine congrArg _ (funext fun rev => ?_)
  simp only [h.entry, Function.comp_apply]
  cases (m.entry rev).snap <;> rfl

/-- What `latest_incr` finds in the names is what it would find in the keys. -/
lemma latestIncr_eq {keys : List ObjKey}
    (hkeys : ∀ k ∈ keys, Uploaded k)
    (hlisting : listing.filter isIncr = keys.map (objectName db)) : latestIncr listing =
      (latestOf (byRev keys)).map fun p => (objectName db p.1, p.2.map (objectName db)) := by
  have hempty : Renders db ∅ ∅ := ⟨rfl, fun _ => rfl⟩
  exact (hempty.foldl hkeys hlisting).latest

end Selection

/-- The revision can be read back out of the names; and of the objects listed, among others in whose
names neither tag occurs, those of the greatest revision with a main file are chosen. -/
theorem latest_incr_names (db : DatabaseId) :
    (∀ rev < 2 ^ 128, parseRev (objectName db (.snapshot rev)) = some rev ∧
      parseRev (objectName db (.wal rev)) = some rev) ∧
    ∀ (keys : List ObjKey) (listing : List (List Char)), (∀ k ∈ keys, Uploaded k) →
      listing.filter isIncr = keys.map (objectName db) →
      (∀ rev, .snapshot rev ∈ keys → (∀ r, .snapshot r ∈ keys → r ≤ rev) →
        latestIncr listing = some (objectName db (.snapshot rev),
          if .wal rev ∈ keys then some (objectName db (.wal rev)) else none)) ∧
      (latestIncr listing = none ↔ ∀ rev, .snapshot rev ∉ keys) := by
  refine ⟨fun rev h => ⟨parseRev_snapshot h, parseRev_wal h⟩, fun keys listing hkeys hlisting => ?_⟩
  rw [latestIncr_eq hkeys hlisting]
  refine ⟨fun rev hrev hmax => ?_, Option.map_eq_none_iff.trans latestOf_byRev_eq_none⟩
  rw [latestOf_byRev_eq_some.mpr ⟨rev, rfl, hrev, hmax, rfl⟩]
  split_ifs <;> rfl

/-- The last round has no WAL, and a manifest is listed before it. -/
theorem latest_incr_names_last :
    latestIncr [objectName ⟨7⟩ (.wal 5), "backups/manifest".toList, objectName ⟨7⟩ (.snapshot 12),
      objectName ⟨7⟩ (.snapshot 5)] = some (objectName ⟨7⟩ (.snapshot 12), none) :=
  ((latest_incr_names ⟨7⟩).2 [.wal 5, .snapshot 12, .snapshot 5] _ (by simp [Uploaded])
    (by decide)).1 12 (by simp) (by simp)

end Combee.DataNode.Names
