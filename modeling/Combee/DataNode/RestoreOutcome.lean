import Combee.DataNode.RestoreVisibility

/-!
# RestoreOutcome — what a failed restore leaves, and what a successful one does not end

`restore` replaces the main file and the WAL in two steps and checks them afterwards, so a failure
can come when the old data is gone. `restore_failed_iff` says for which points of failure and which
archives the Cell is what it was. The read-only flag of a Cell is set when the Cell cannot be
opened and nothing takes it back: `restored_writable_iff` says after which runs a write is let
through.
-/

namespace Combee.DataNode.OneCell

open Foundation Kv Storage Disk

section

variable {U R : Type} [Inhabited U]
  {engine : SqlCall → Nat → U → Result R × U} {db : DatabaseId}

/-! ## A restore with nobody else on the Cell -/

def restoreAlone (db : DatabaseId) (x : CellNode × RestorePc) (o : Choice) :
    Option (CellNode × RestorePc) :=
  restoreStep db x.1 x.2 o

/-- The database is the same, and so is the answer to every read. -/
def Unchanged (engine : SqlCall → Nat → U → Result R × U) (db : DatabaseId)
    (s s' : CellNode) : Prop :=
  database engine s'.disk.contents = database engine s.disk.contents ∧
    ∀ r, (serve db (s'.kv engine db) r).1 = (serve db (s.kv engine db) r).1

structure FilesOnly (s s' : CellNode) : Prop where
  cache : s'.cache = s.cache
  clock : s'.clock = s.clock

lemma FilesOnly.refl (s : CellNode) : FilesOnly s s :=
  ⟨rfl, rfl⟩

variable {s s' : CellNode}

lemma FilesOnly.closeConn (h : FilesOnly s s') (checkpoint : Bool) :
    FilesOnly s (s'.closeConn checkpoint) :=
  ⟨h.cache, h.clock⟩

lemma FilesOnly.openConn (h : FilesOnly s s') (o : Choice) : FilesOnly s (s'.openConn o).2 := by
  unfold CellNode.openConn
  split
  · exact h
  · split
    · exact ⟨h.cache, h.clock⟩
    · exact h
    · exact ⟨h.cache, h.clock⟩

lemma unchanged_iff (h : FilesOnly s s') :
    Unchanged engine db s s' ↔
      database engine s'.disk.contents = database engine s.disk.contents := by
  refine ⟨fun hu => hu.1, fun hd => ⟨hd, fun r => ?_⟩⟩
  have hkv : s'.kv engine db = s.kv engine db := by
    simp only [CellNode.kv, CellNode.kvNode, hd, h.cache, h.clock]
  rw [hkv]

/-- The removal of the old WAL, whose failure is ignored, succeeds. -/
def RemovesWal (x : CellNode × RestorePc) (o : Choice) : Prop :=
  ∀ main, x.2 = .dropWal main → o.fault = none

/-- What a restore of `version` has made of the closed Cell `s`, by where it stands; `clean` says
that no old WAL was left behind. -/
def Leaves (s : CellNode) (version : Option Version) (clean : Prop) (s' : CellNode) :
    RestorePc → Prop
  | .close _ => False
  | .listIncr | .listFull | .getMain _ _ | .renameMain _ _ => s' = s ∧ clean
  | .getWal _ _ | .renameWal _ _ | .dropWal _ =>
    FilesOnly s s' ∧ s'.disk.walFile = s.disk.walFile ∧ clean
  | .check _ | .closeBad _ => FilesOnly s s' ∧ s'.disk.Attached ∧
      ∃ c, backup s.store version = some c ∧ (clean → s'.disk.contents = c) ∧
        (¬ clean → s'.disk.contents = c ++ s.disk.walFile)
  | _ => True

variable {version : Option Version} {clean : Prop} {s₁ s₂ : CellNode} {pc pc' : RestorePc}
  {o : Choice} {os : List Choice}

lemma RestoreMove.leaves (h : RestoreMove s₁ o pc s₂ pc')
    (hp : RestorePhase s.store version s₁ pc) (hl : Leaves s version clean s₁ pc) :
    Leaves s version (clean ∧ RemovesWal (s₁, pc) o) s₂ pc' := by
  have hother : (∀ main, pc ≠ .dropWal main) → (clean ∧ RemovesWal (s₁, pc) o) = clean :=
    fun hpc => propext (and_iff_left fun main heq => absurd heq (hpc main))
  cases h with
  | closesForLatest | closesForVersion => exact hl.elim
  | incr | noIncr | full | gotMain | gotWal => rwa [hother (by rintro _ ⟨⟩)]
  | placesMain | placesAll =>
    obtain ⟨rfl, hclean⟩ := hl
    rw [hother (by rintro _ ⟨⟩)]
    exact ⟨⟨rfl, rfl⟩, rfl, hclean⟩
  | placesWal =>
    obtain ⟨hfiles, -, hclean⟩ := hl
    obtain ⟨⟨hconn, -⟩, hmain, -, hbackup⟩ := hp
    rw [hother (by rintro _ ⟨⟩)]
    exact ⟨⟨hfiles.cache, hfiles.clock⟩, attached_of_closed hconn, _, hbackup,
      fun _ => contents_renameWal hconn hmain _, absurd hclean⟩
  | dropsWal hfault =>
    obtain ⟨hfiles, -, hclean⟩ := hl
    obtain ⟨⟨hconn, -⟩, hmain, hbackup⟩ := hp
    exact ⟨⟨hfiles.cache, hfiles.clock⟩, attached_of_closed hconn, _, hbackup,
      fun _ => contents_removeWal hconn hmain, absurd ⟨hclean, fun _ _ => hfault⟩⟩
  | keepsWal hfault =>
    obtain ⟨hfiles, hwal, -⟩ := hl
    obtain ⟨⟨hconn, -⟩, hmain, hbackup⟩ := hp
    refine ⟨hfiles, attached_of_closed hconn, _, hbackup,
      fun hclean => absurd (hclean.2 _ rfl) hfault, fun _ => ?_⟩
    rw [contents_of_main hconn hmain, hwal]
  | corrupt _ =>
    obtain ⟨hfiles, hattached, c, hbackup, hcontents⟩ := hl
    obtain ⟨hattached', hsame⟩ := (Calm.openConn s₁ o).disk hattached
    rw [hother (by rintro _ ⟨⟩)]
    exact ⟨hfiles.openConn o, hattached', c, hbackup, by rwa [hsame]⟩
  | _ => trivial

/-- The invariant of a restore from the closed Cell `s`. -/
structure Underway (s : CellNode) (version : Option Version) (clean : Prop)
    (x : CellNode × RestorePc) : Prop where
  store : x.1.store = s.store
  phase : RestorePhase s.store version x.1 x.2
  leaves : Leaves s version clean x.1 x.2

lemma Underway.step {x x' : CellNode × RestorePc} (h : Underway s version clean x)
    (hx : restoreAlone db x o = some x') :
    Underway s version (clean ∧ RemovesWal x o) x' := by
  have hmove := restoreStep_move hx
  exact ⟨hmove.frame.2.2.2.trans h.store, hmove.phase h.store h.phase,
    hmove.leaves h.phase h.leaves⟩

/-- A restore that has begun to run and has not failed has closed the Cell and is underway. -/
lemma underway_of_exec {o₁ : Choice} (hpc : ∀ e, pc ≠ .failed e)
    (hrun : exec (restoreAlone db) (s, .close version) (o₁ :: os) = some (s₁, pc)) :
    Underway (s.closeConn o₁.checkpoint) version
      (Meets (restoreAlone db) RemovesWal (s, .close version) (o₁ :: os)) (s₁, pc) := by
  obtain ⟨⟨s₂, pc₂⟩, hfirst, hrest⟩ := exec_cons_eq_some.mp hrun
  have hmove := restoreStep_move hfirst
  have hnever : ∀ {e}, pc₂ ≠ .failed e := by
    rintro e rfl
    cases os with
    | nil =>
      cases hrest
      exact hpc e rfl
    | cons o₂ os =>
      obtain ⟨_, hnext, _⟩ := exec_cons_eq_some.mp hrest
      cases hnext
  have hstart : s₂ = s.closeConn o₁.checkpoint ∧
      Leaves (s.closeConn o₁.checkpoint) version True s₂ pc₂ := by
    cases hmove with
    | closesForLatest | closesForVersion => exact ⟨rfl, rfl, trivial⟩
    | refused | foreign => exact absurd rfl hnever
  obtain ⟨rfl, hleaves⟩ := hstart
  have hbegun : Underway (s.closeConn o₁.checkpoint) version True
      (s.closeConn o₁.checkpoint, pc₂) := ⟨rfl, hmove.phase rfl rfl, hleaves⟩
  have hend := inv_meets_of_exec Underway.step hbegun hrest
  have hmeets : Meets (restoreAlone db) RemovesWal (s, .close version) (o₁ :: os) ↔
      Meets (restoreAlone db) RemovesWal (s.closeConn o₁.checkpoint, pc₂) os := by
    rw [meets_cons hfirst]
    exact and_iff_right (by rintro _ ⟨⟩)
  rw [hmeets]
  rwa [true_and] at hend

/-- `P` holds of what the closed Cell `s` is left with by a failure at `pc`. -/
def Left (P : List Commit → Prop) (s : CellNode) (version : Option Version) (clean : Prop) :
    RestorePc → Prop
  | .getWal _ _ | .renameWal _ _ =>
    ∃ c, mainObject s.store version = some c ∧ P (c ++ s.disk.walFile)
  | .check _ | .closeBad _ =>
    ∃ c, backup s.store version = some c ∧ (clean → P c) ∧ (¬ clean → P (c ++ s.disk.walFile))
  | _ => P s.disk.contents

lemma RestoreMove.fails {e : CombeeError} (h : RestoreMove s₁ o pc s₂ (.failed e))
    (hp : RestorePhase s.store version s₁ pc) (hl : Leaves s version clean s₁ pc)
    (P : List Commit → Prop) :
    FilesOnly s s₂ ∧ (P s₂.disk.contents ↔ Left P s version clean pc) := by
  have hlate : ∀ {s₂ : CellNode}, s₂.disk.contents = s₁.disk.contents →
      (∃ c, backup s.store version = some c ∧ (clean → s₁.disk.contents = c) ∧
        (¬ clean → s₁.disk.contents = c ++ s.disk.walFile)) →
      (P s₂.disk.contents ↔ ∃ c, backup s.store version = some c ∧ (clean → P c) ∧
        (¬ clean → P (c ++ s.disk.walFile))) := by
    rintro s₂ hsame ⟨c, hbackup, hclean, hkept⟩
    rw [hsame]
    by_cases h : clean
    · simp [hbackup, h, hclean h]
    · simp [hbackup, h, hkept h]
  cases h with
  | refused | foreign => exact hl.elim
  | noIncrList | noFull | noMain | noRename =>
    obtain ⟨rfl, -⟩ := hl
    exact ⟨.refl _, .rfl⟩
  | noWal =>
    rename_i main w
    obtain ⟨hfiles, hwal, -⟩ := hl
    obtain ⟨⟨hconn, -⟩, hmain, k, hchosen, hlookup⟩ := hp
    have hobject : mainObject s.store version = some main := by
      simp only [mainObject, hchosen, hlookup, Option.bind_some]
    rw [contents_of_main hconn hmain, hwal]
    exact ⟨hfiles, by simp [Left, hobject]⟩
  | noWalRename =>
    obtain ⟨hfiles, hwal, -⟩ := hl
    obtain ⟨⟨hconn, -⟩, hmain, hobject, -⟩ := hp
    rw [contents_of_main hconn hmain, hwal]
    exact ⟨hfiles, by simp [Left, hobject]⟩
  | noCheck _ =>
    obtain ⟨hfiles, hattached, hcontents⟩ := hl
    exact ⟨hfiles.openConn o, hlate ((Calm.openConn s₁ o).disk hattached).2 hcontents⟩
  | closesBad =>
    obtain ⟨hfiles, hattached, hcontents⟩ := hl
    exact ⟨hfiles.closeConn _, hlate ((Calm.closeConn s₁ o.checkpoint).disk hattached).2 hcontents⟩
  | stuckBad => exact ⟨hl.1, hlate rfl hl.2.2⟩

/-- Nothing was lost when the connection was closed; or, at the WAL, the archived main file with the
old WAL is the same database; or, at the check, the backup is, with the old WAL if that could not be
removed. -/
def Harmless (engine : SqlCall → Nat → U → Result R × U) (db : DatabaseId) (s : CellNode)
    (version : Option Version) (os : List Choice) (o : Choice) (pc : RestorePc) : Prop :=
  (pc = .close version ∧ (s.store = none ∨ o.fault ≠ none)) ∨
    Left (fun c => database engine c = database engine s.disk.contents)
      (s.closeConn (os.headD o).checkpoint) version
      (Meets (restoreAlone db) RemovesWal (s, .close version) os) pc

end

/-- The Cell with `k = old` and an incremental backup of two files with `k = saved`. -/
def backedUp : CellNode :=
  { oldCell with
    store := some (AList.insert (.wal 1) [⟨none, .kv (.upsert "j" "saved" none)⟩]
      (AList.insert (.snapshot 1) [⟨none, .kv (.upsert "k" "saved" none)⟩] ∅)) }

section

variable {U R : Type} [Inhabited U] {quota : QuotaConfig}
  {engine : SqlCall → Nat → U → Result R × U} {db : DatabaseId}

/-- The next step looks for an open connection and opens one otherwise. -/
def Task.connects : Task R → Bool
  | .restore (.check _) => true
  | t => t.opens

/-- The step opens the Cell, and `storage::open` fails. -/
def OpenFails (s : Pool CellNode Nat (Task R)) : PoolLabel Nat Choice Event → Prop
  | .proc i o => (s.procs i).connects = true ∧ s.shared.holder = none ∧
      s.shared.disk.conn = none ∧ ∃ e, o.openFault = some (e, true)
  | .env _ => False

lemma openConn_readonly (s : CellNode) (o : Choice) :
    (s.openConn o).2.readonly = true ↔
      s.readonly = true ∨ s.disk.conn = none ∧ ∃ e, o.openFault = some (e, true) := by
  unfold CellNode.openConn
  split
  · rename_i hconn
    simp [hconn]
  · rename_i hconn
    split <;> rename_i hfault <;> simp [hconn, hfault]

variable {s s' : CellNode} {i : Nat} {t' : Task R} {o : Choice}

lemma ResetMove.readonly {pc pc' : ResetPc}
    (h : ResetMove s o pc s' pc') : s'.readonly = s.readonly := by
  cases h <;> rfl

/-- A restore can set the flag, in its own check, and does not take it back. -/
lemma RestoreMove.readonly {pc pc' : RestorePc} (h : RestoreMove s o pc s' pc') :
    ((Task.restore pc : Task R).connects = true ∧ s.holder = none ∧
        s'.readonly = (s.openConn o).2.readonly) ∨
      (Task.restore pc : Task R).connects = false ∧ s'.readonly = s.readonly := by
  cases h with
  | passes free | corrupt free | noCheck free => exact .inl ⟨rfl, free, rfl⟩
  | _ => exact .inr ⟨rfl, rfl⟩

/-- A step sets the flag if it fails to open the Cell, and no step takes it back. -/
lemma act_readonly {t : Task R} (h : act quota engine db s i t o = some (s', t')) :
    s'.readonly = true ↔ s.readonly = true ∨ t.connects = true ∧ s.holder = none ∧
      s.disk.conn = none ∧ ∃ e, o.openFault = some (e, true) := by
  -- a call of `with_conn` decides by the mutex and the connection
  have hconnects : t.connects = true → s.holder = none ∧
      s'.readonly = (s.openConn o).2.readonly → (s'.readonly = true ↔ s.readonly = true ∨
      t.connects = true ∧ s.holder = none ∧ s.disk.conn = none ∧
        ∃ e, o.openFault = some (e, true)) := by
    rintro ht ⟨free, hopen⟩
    simp [hopen, openConn_readonly, ht, free]
  have hquiet : t.connects = false → s'.readonly = s.readonly → (s'.readonly = true ↔
      s.readonly = true ∨ t.connects = true ∧ s.holder = none ∧ s.disk.conn = none ∧
        ∃ e, o.openFault = some (e, true)) := by
    intro ht hsame
    simp [hsame, ht]
  unfold act at h
  split at h
  case h_6 => exact hconnects rfl (withConn_readonly h fun _ => rfl)
  case h_11 => exact hconnects rfl (withConn_readonly h fun _ => rfl)
  case h_12 => exact hconnects rfl (withConn_readonly h fun _ => rfl)
  case h_16 => cases h
  case h_17 =>
    obtain ⟨r, hr, rfl⟩ := of_map_step h
    exact hquiet rfl (resetStep_move hr).readonly
  case h_18 =>
    obtain ⟨r, hr, rfl⟩ := of_map_step h
    rcases (restoreStep_move hr).readonly with ⟨ht, hopen⟩ | ⟨ht, hsame⟩
    · exact hconnects ht hopen
    · exact hquiet ht hsame
  all_goals
    cases h
    exact hquiet rfl rfl

variable {s s' : Pool CellNode Nat (Task R)}

lemma step_readonly {l : PoolLabel Nat Choice Event} (h : step quota engine db s l = some s') :
    s'.shared.readonly = false ↔ s.shared.readonly = false ∧ ¬ OpenFails s l := by
  cases h using Pool.step_cases with
  | proc i o g p hact =>
    rw [← Bool.not_eq_true, act_readonly hact, not_or, Bool.not_eq_true]
    rfl
  | env e g henv =>
    have hsame : g.readonly = s.shared.readonly := by
      cases e with
      | sleep checkpoint =>
        simp only [env] at henv
        split at henv <;> cases henv
        rfl
      | gc keys =>
        simp only [env] at henv
        split at henv
        · obtain ⟨t, _, rfl⟩ := Option.map_eq_some_iff.mp henv
          rfl
        · cases henv
      | _ =>
        cases henv
        rfl
    simp [hsame, OpenFails]

/-- The flag is down exactly if it was down at the start and no step has failed to open the Cell. -/
lemma exec_readonly
    {ls : List (PoolLabel Nat Choice Event)} (h : exec (step quota engine db) s ls = some s') :
    s'.shared.readonly = false ↔ s.shared.readonly = false ∧
      Meets (step quota engine db) (fun s l => ¬ OpenFails s l) s ls := by
  induction ls generalizing s with
  | nil =>
    cases h
    simp [Meets]
  | cons l ls ih =>
    obtain ⟨u, hl, h⟩ := exec_cons_eq_some.mp h
    rw [ih h, step_readonly hl, meets_cons hl, and_assoc]

/-- As long as no later open fails, writes are let through after a restore exactly if no open has
failed before. -/
theorem restored_writable_iff {i : Nat} {placed : List Commit}
    {s₀ s₁ s : Pool CellNode Nat (Task R)} {ls ls' : List (PoolLabel Nat Choice Event)}
    (h₀ : s₀.shared.readonly = false) (hrun : exec (step quota engine db) s₀ ls = some s₁)
    (_hdone : s₁.procs i = .restore (.done placed))
    (hlater : Meets (step quota engine db) (fun s l => ¬ OpenFails s l) s₁ ls')
    (hrun' : exec (step quota engine db) s₁ ls' = some s) :
    (s.shared.asNode engine db).checkWritable db = .ok () ↔
      Meets (step quota engine db) (fun s l => ¬ OpenFails s l) s₀ ls := by
  have hwritable : (s.shared.asNode engine db).checkWritable db = .ok () ↔
      s.shared.readonly = false := by
    cases hr : s.shared.readonly <;> simp [Node.checkWritable, CellNode.asNode, hr]
  rw [hwritable, exec_readonly hrun', exec_readonly hrun]
  exact ⟨fun h => h.1.2, fun h => ⟨⟨h₀, h⟩, hlater⟩⟩

end

/-- With no failure to open, the flag is down after the restore. -/
theorem restored_writable_iff_healthy :
    ∃ s₁, exec (step {} noSql ⟨0⟩) restoreAndRequests (times 9 0) = some s₁ ∧
      (s₁.shared.asNode noSql ⟨0⟩).checkWritable ⟨0⟩ = .ok () := by
  have hmeets : Meets (step {} noSql ⟨0⟩) (fun s l => ¬ OpenFails s l) restoreAndRequests
      (times 9 0) := by
    refine meets_of_forall fun s l hl hfails => ?_
    obtain rfl := List.eq_of_mem_replicate hl
    obtain ⟨_, _, _, e, he⟩ := hfails
    cases he
  obtain ⟨s₁, hrun, hdone⟩ : ∃ s₁, exec (step {} noSql ⟨0⟩) restoreAndRequests (times 9 0) =
      some s₁ ∧ s₁.procs 0 = .restore (.done [⟨none, .kv (.upsert "k" "saved" none)⟩]) :=
    ⟨_, rfl, rfl⟩
  have hlater : Meets (step {} noSql ⟨0⟩) (fun s l => ¬ OpenFails s l) s₁ [] := trivial
  exact ⟨s₁, hrun, (restored_writable_iff rfl hrun hdone hlater rfl).mpr hmeets⟩

/-- A `GET` fails to open the Cell; the restore returns, and a `SET` is still rejected. -/
theorem restored_readonly :
    ∃ s e, exec (step {} noSql ⟨0⟩) restoreAndRequests
        (times 4 1 ++ .proc 1 { openFault := some (.internal "disk image is malformed", true) } ::
          times 9 0 ++ times 4 3) = some s ∧
      s.procs 0 = .restore (.done [⟨none, .kv (.upsert "k" "saved" none)⟩]) ∧
      s.procs 3 = .answered (.error e) ∧ e = .internal ("cell " ++ toString (⟨0⟩ : DatabaseId) ++
        " is read-only (integrity check failed); contact operator to restore from backup") :=
  ⟨_, _, rfl, rfl, rfl, rfl⟩

end Combee.DataNode.OneCell
