import Combee.DataNode.Window

/-!
# RestoreVisibility — what a Cell holds after `restore`

`restore` closes the connection under the per-Cell lock, and then selects a backup, puts its files
in place, checks them through a new connection and clears the cache. If no request gets in between
(`Undisturbed`), the Cell holds the selected backup followed by what has been committed since the
replacement, and nothing of it is lost (`restore_visible`). If one does, its connection keeps the
old files, and the integrity check is a check of those (`restore_reopened`).
-/

namespace Combee.DataNode.OneCell

open Foundation Kv Storage

section

variable {U R : Type} [Inhabited U] {quota : QuotaConfig}
  {engine : SqlCall → Nat → U → Result R × U} {db : DatabaseId}

/-! ## The selected backup -/

/-- The main file and the WAL that a restore reads. -/
def chosen (store : Option (ObjectStore (List Commit))) :
    Option Version → Option (ObjKey × Option ObjKey)
  | some (.own k) => some (k, none)
  | some (.foreign _) => none
  | none =>
    match store.bind latestIncr with
    | some pair => some pair
    | none => (store.bind lastListed).map fun k => (k, none)

def mainObject (store : Option (ObjectStore (List Commit))) (version : Option Version) :
    Option (List Commit) :=
  (chosen store version).bind fun (k, _) => store.bind fun st => st.lookup k

def backup (store : Option (ObjectStore (List Commit))) (version : Option Version) :
    Option (List Commit) :=
  (chosen store version).bind fun (k, wal) =>
    (store.bind fun st => st.lookup k).bind fun main =>
      match wal with
      | none => some main
      | some w => (store.bind fun st => st.lookup w).map fun tail => main ++ tail

/-! ## The steps up to the replacement -/

/-- What a restore of `version` has achieved before the files are replaced, by where it stands. -/
def RestorePhase (store : Option (ObjectStore (List Commit))) (version : Option Version)
    (s : CellNode) : RestorePc → Prop
  | .close v => v = version
  | .listIncr => (s.disk.conn = none ∧ s.holder = none) ∧ version = none
  | .listFull => (s.disk.conn = none ∧ s.holder = none) ∧ version = none ∧
      store.bind latestIncr = none
  | .getMain k wal => (s.disk.conn = none ∧ s.holder = none) ∧ chosen store version = some (k, wal)
  | .renameMain main wal => (s.disk.conn = none ∧ s.holder = none) ∧
      ∃ k, chosen store version = some (k, wal) ∧ (store.bind fun st => st.lookup k) = some main
  | .getWal main w => (s.disk.conn = none ∧ s.holder = none) ∧
      s.disk.main.map s.disk.mains = some main ∧
      ∃ k, chosen store version = some (k, some w) ∧ (store.bind fun st => st.lookup k) = some main
  | .renameWal main tail => (s.disk.conn = none ∧ s.holder = none) ∧
      s.disk.main.map s.disk.mains = some main ∧ mainObject store version = some main ∧
      backup store version = some (main ++ tail)
  | .dropWal main => (s.disk.conn = none ∧ s.holder = none) ∧
      s.disk.main.map s.disk.mains = some main ∧ backup store version = some main
  | _ => True

variable {store : Option (ObjectStore (List Commit))} {version : Option Version} {s s' : CellNode}
  {pc : RestorePc}

lemma RestorePhase.frozen (h : RestorePhase store version s pc) (hf : Frozen s s') :
    RestorePhase store version s' pc := by
  have heq : RestorePhase store version s' pc = RestorePhase store version s pc := by
    cases pc <;> simp only [RestorePhase, hf.disk, hf.holder]
  exact heq ▸ h

/-- Before the replacement the connection is closed and the mutex is free. -/
lemma RestorePhase.closed {s : CellNode} (h : RestorePhase store version s pc)
    (hwin : (Task.restore pc : Task R).window = true) : s.disk.conn = none ∧ s.holder = none := by
  cases pc with
  | listIncr | listFull | getMain | renameMain | getWal | renameWal | dropWal => exact h.1
  | _ => cases hwin

variable {o : Choice}

lemma RestoreMove.phase {pc pc' : RestorePc} (h : RestoreMove s o pc s' pc')
    (hstore : s.store = store) (hp : RestorePhase store version s pc) :
    RestorePhase store version s' pc' := by
  subst hstore
  have hclosed := s.disk.conn_shut o.checkpoint
  cases h with
  | closesForLatest free _ => exact ⟨⟨hclosed, free⟩, Eq.symm hp⟩
  | closesForVersion free _ =>
    obtain rfl : _ = version := hp
    exact ⟨⟨hclosed, free⟩, rfl⟩
  | incr hlatest =>
    obtain ⟨hfree, rfl⟩ := hp
    exact ⟨hfree, by simp [chosen, hlatest]⟩
  | noIncr hlatest => exact ⟨hp.1, hp.2, hlatest⟩
  | full hlast =>
    obtain ⟨hfree, rfl, hlatest⟩ := hp
    exact ⟨hfree, by simp [chosen, hlatest, hlast]⟩
  | gotMain hmain => exact ⟨hp.1, _, hp.2, hmain⟩
  | placesMain =>
    obtain ⟨hfree, k, hchosen, hmain⟩ := hp
    exact ⟨hfree, Disk.main_renameMain _ _, k, hchosen, hmain⟩
  | placesAll =>
    obtain ⟨hfree, k, hchosen, hmain⟩ := hp
    exact ⟨hfree, Disk.main_renameMain _ _, by simp [backup, hchosen, hmain]⟩
  | gotWal htail =>
    obtain ⟨hfree, hfile, k, hchosen, hmain⟩ := hp
    refine ⟨hfree, hfile, ?_, ?_⟩
    · simp only [mainObject, hchosen, hmain, Option.bind_some]
    · simp only [backup, hchosen, hmain, htail, Option.bind_some, Option.map_some]
  | _ => trivial

lemma RestoreMove.placed {placed : List Commit}
    (h : RestoreMove s o pc s' (.check placed)) (hp : RestorePhase store version s pc)
    (hdrop : ∀ main, pc = .dropWal main → o.fault = none ∨ s.disk.walFile = []) :
    (Task.restore pc : Task R).closing = true ∧ (s'.disk.conn = none ∧ s'.holder = none) ∧
      s'.disk.contents = placed ∧ backup store version = some placed := by
  cases h with
  | placesWal =>
    obtain ⟨hclosed, hmain, _, hbackup⟩ := hp
    exact ⟨rfl, hclosed, Disk.contents_renameWal hclosed.1 hmain _, hbackup⟩
  | dropsWal =>
    obtain ⟨hclosed, hmain, hbackup⟩ := hp
    exact ⟨rfl, hclosed, Disk.contents_removeWal hclosed.1 hmain, hbackup⟩
  | keepsWal hfault =>
    rename_i main
    obtain ⟨hclosed, hmain, hbackup⟩ := hp
    have hwal : s.disk.walFile = [] := (hdrop main rfl).resolve_left hfault
    exact ⟨rfl, hclosed, Disk.contents_of_main hclosed.1 hmain,
      by rw [hwal, List.append_nil, hbackup]⟩

lemma RestoreMove.done {placed : List Commit}
    (h : RestoreMove s o pc s' (.done placed)) : (Task.restore pc : Task R).closing = true := by
  cases h
  rfl

/-! ## Up to the replacement -/

/-- The restore `i` of `version` is under way. -/
structure Restoring (store : Option (ObjectStore (List Commit))) (version : Option Version)
    (i : Nat) (s : Pool CellNode Nat (Task R)) : Prop where
  orderly : Orderly i s
  stored : s.shared.store = store
  phase : ∃ pc, s.procs i = .restore pc ∧ RestorePhase store version s.shared pc

lemma restore_own {i : Nat} {s s' : Pool CellNode Nat (Task R)}
    (hpc : s.procs i = .restore pc) (h : step quota engine db s (.proc i o) = some s') :
    ∃ g pc', restoreStep db s.shared pc o = some (g, pc') ∧
      s' = ⟨g, Function.update s.procs i (.restore pc')⟩ := by
  obtain ⟨g, p, hact, rfl⟩ := Pool.step_proc_eq_some.mp h
  rw [hpc] at hact
  obtain ⟨pc', hr, rfl⟩ := of_map_step hact
  exact ⟨g, pc', hr, rfl⟩

variable {l : PoolLabel Nat Choice Event}

lemma Restoring.step {i : Nat} {s s' : Pool CellNode Nat (Task R)}
    (hs : Restoring store version i s) (hC : Undisturbed i s l)
    (h : OneCell.step quota engine db s l = some s') : Restoring store version i s' := by
  obtain ⟨pc, hpc, hphase⟩ := hs.phase
  refine ⟨hs.orderly.step h, (step_store h).trans hs.stored, ?_⟩
  by_cases hown : ∃ o, l = .proc i o
  · obtain ⟨o, rfl⟩ := hown
    obtain ⟨g, pc', hr, rfl⟩ := restore_own hpc h
    exact ⟨pc', Function.update_self _ _ _, (restoreStep_move hr).phase hs.stored hphase⟩
  · have hother : ∀ o, l ≠ .proc i o := fun o hl => hown ⟨o, hl⟩
    refine ⟨pc, (procs_other hother h).trans hpc, ?_⟩
    cases hwin : (Task.restore pc : Task R).window with
    | true =>
      -- in the window the others leave everything as it is
      obtain ⟨hconn, free⟩ := hphase.closed hwin
      exact hphase.frozen (window_other hs.orderly hC (hpc ▸ hwin) hconn free hother h)
    | false =>
      cases pc with
      | close v => exact hphase
      | check | closeBad | clear | invalidate | done | failed => trivial
      | _ => cases hwin

/-- With the replacement the backup is in service; what is in the cache is masked. -/
lemma Restoring.replaces {i : Nat} {placed : List Commit} {u s₁ : Pool CellNode Nat (Task R)}
    (hu : Restoring store version i u) (hC : Undisturbed i u (.proc i o))
    (h : OneCell.step quota engine db u (.proc i o) = some s₁)
    (hplaced : s₁.procs i = .restore (.check placed)) :
    backup store version = some placed ∧
      (∃ old, InService engine db old placed s₁.shared.log.length s₁) ∧
      ∀ j, (s₁.procs j).caught = false := by
  obtain ⟨pc, hpc, hphase⟩ := hu.phase
  have ho := hu.orderly.step h
  obtain ⟨g, pc', hr, rfl⟩ := restore_own hpc h
  obtain rfl : pc' = .check placed := by simpa using hplaced
  obtain ⟨hclosing, ⟨hconn, free⟩, hcontents, hbackup⟩ :=
    (restoreStep_move hr).placed hphase fun main hm => hC.dropped o main rfl (hm ▸ hpc)
  refine ⟨hbackup, ⟨g.cached, ?_⟩, hC.none_caught (hpc ▸ hclosing) rfl⟩
  have hcached : ∀ key v, g.cache key = some v → g.cached key = true :=
    fun key v hv => by simp [CellNode.cached, hv]
  have hin : InService engine db g.cached g.disk.contents g.log.length
      ⟨g, Function.update u.procs i (.restore (.check placed))⟩ :=
    inService_of_placed ho hconn free hcached
  rwa [hcontents] at hin

/-! ## From the replacement on -/

/-- What is known of the masked cache entries, by where the restore stands. -/
def ClearPhase (old : String → Bool) (s : CellNode) : RestorePc → Prop
  | .check _ => True
  | .closeBad _ => True
  | .clear _ => True
  | .failed _ => True
  | .invalidate _ keys => ∀ key v, old key = true → s.cache key = some v → keys key = true
  | .done _ => ∀ key, old key = true → s.cache key = none
  | _ => False

lemma ClearPhase.remains {old old' : String → Bool}
    (h : ClearPhase old s pc) (hr : InService.Remains old old' s s') : ClearPhase old' s' pc := by
  cases pc with
  | invalidate placed keys => exact fun key v hk hv => h key v (hr key hk).1 ((hr key hk).2 v hv)
  | done placed =>
    intro key hk
    cases hv : s'.cache key with
    | none => rfl
    | some v =>
      have hgone := h key (hr key hk).1
      exact absurd (hgone.symm.trans ((hr key hk).2 v hv)) (by simp)
  | _ => exact h

variable {old : String → Bool}

lemma RestoreMove.clearPhase {pc pc' : RestorePc} (h : RestoreMove s o pc s' pc')
    (hp : ClearPhase old s pc) :
    ClearPhase old s' pc' := by
  cases h with
  | passes | corrupt | noCheck | closesBad | stuckBad => trivial
  | finds => exact fun key v _ hv => by simp [CellNode.cached, hv]
  | clears =>
    intro key hk
    cases hv : s.cache key with
    | none => simp [CellNode.invalidateAll, hv]
    | some v => simp [CellNode.invalidateAll, hp key v hk hv]
  | _ => exact hp.elim

lemma InService.unmasked {base : List Commit} {n : Nat}
    {s : Pool CellNode Nat (Task R)} (hs : InService engine db old base n s)
    (hgone : ∀ key, old key = true → s.shared.cache key = none) :
    InService engine db (fun _ => false) base n s := by
  have hmask : CellNode.mask db (fun _ => false) s.shared.cache =
      CellNode.mask db old s.shared.cache := by
    funext k
    cases hk : old k.key with
    | false => simp [CellNode.mask, hk]
    | true => simp [CellNode.mask, hk, hgone k.key hk]
  have hnode : s.shared.kvNode engine db (fun _ => false) = s.shared.kvNode engine db old := by
    simp only [CellNode.kvNode, hmask]
  refine ⟨⟨hs.sound.attached, hs.sound.since, hs.sound.contents, ?_⟩, fun j => ?_⟩
  · rw [hnode]
    exact hs.sound.steady
  · rw [hnode]
    exact hs.keeps j

/-- The restore `i` has put `placed` in place, with `n` changes committed by then. -/
structure Replaced (engine : SqlCall → Nat → U → Result R × U) (db : DatabaseId)
    (i n : Nat) (placed : List Commit) (s : Pool CellNode Nat (Task R)) : Prop where
  orderly : Orderly i s
  phase : ∃ old pc, s.procs i = .restore pc ∧ InService engine db old placed n s ∧
    ClearPhase old s.shared pc

lemma Replaced.step {i n : Nat} {placed : List Commit} {s s' : Pool CellNode Nat (Task R)}
    (hs : Replaced engine db i n placed s) (hC : Undisturbed i s l)
    (h : OneCell.step quota engine db s l = some s') : Replaced engine db i n placed s' := by
  obtain ⟨old, pc, hpc, hin, hphase⟩ := hs.phase
  refine ⟨hs.orderly.step h, ?_⟩
  by_cases hown : ∃ o, l = .proc i o
  · obtain ⟨o, rfl⟩ := hown
    obtain ⟨g, pc', hr, rfl⟩ := restore_own hpc h
    have hfiles : (Task.restore pc : Task R).changesFiles = false := by
      cases pc with
      | renameMain | renameWal | dropWal => exact hphase.elim
      | _ => rfl
    have hmove := restoreStep_move hr
    have hidle : Move engine db s.shared i o.outside (s.procs i) g (.restore pc') := by
      rw [hpc]
      exact .idle rfl rfl (hmove.calm hfiles)
    obtain ⟨old', hold, hin'⟩ := hin.move hC.sameSecond hidle
    refine ⟨old', pc', Function.update_self _ _ _, hin', ?_⟩
    exact (hmove.clearPhase hphase).remains fun key hk => ⟨(hold key hk).1, fun _ hv => hv⟩
  · have hother : ∀ o, l ≠ .proc i o := fun o hl => hown ⟨o, hl⟩
    obtain ⟨old', hold, hin'⟩ := hin.other hs.orderly hC.sameSecond hother h
    exact ⟨old', pc, (procs_other hother h).trans hpc, hin', hphase.remains hold⟩

/-- No old entry is left in the cache, and nobody who has seen one is unanswered. -/
lemma Replaced.returns {i n : Nat} {placed placed' : List Commit}
    {u s₂ : Pool CellNode Nat (Task R)} (hu : Replaced engine db i n placed u)
    (hC : Undisturbed i u (.proc i o)) (h : OneCell.step quota engine db u (.proc i o) = some s₂)
    (hdone : s₂.procs i = .restore (.done placed')) :
    Over engine db i n placed s₂ ∧ ∀ j, (s₂.procs j).caught = false := by
  obtain ⟨old, pc2, hpc2, hin, hgone⟩ := (hu.step hC h).phase
  obtain rfl : pc2 = .done placed' := by simpa using hpc2.symm.trans hdone
  refine ⟨⟨hu.orderly.step h, by rw [hdone]; rfl, hin.unmasked hgone⟩, ?_⟩
  obtain ⟨_, pc, hpc, _, _⟩ := hu.phase
  obtain ⟨g, pc', hr, rfl⟩ := restore_own hpc h
  obtain rfl : pc' = .done placed' := by simpa using hdone
  exact hC.none_caught (hpc ▸ (restoreStep_move hr).done) rfl

/-- Once an undisturbed restore has returned, requests see the backup and what has been committed
since, none of it is lost, and later answers have not looked at anything older. -/
theorem restore_visible {i : Nat} {o o' : Choice} {version : Option Version}
    {placed placed' : List Commit} {s₀ u s₁ u' s₂ s : Pool CellNode Nat (Task R)}
    {ls ls' ls'' : List (PoolLabel Nat Choice Event)}
    (h₀ : Fresh i (.restore (.close version)) s₀)
    (hC : Meets (step quota engine db) (Undisturbed i) s₀
      (ls ++ .proc i o :: (ls' ++ .proc i o' :: ls'')))
    (hrun : exec (step quota engine db) s₀ ls = some u)
    (hreplace : step quota engine db u (.proc i o) = some s₁)
    (hplaced : s₁.procs i = .restore (.check placed))
    (hrun' : exec (step quota engine db) s₁ ls' = some u')
    (hreturn : step quota engine db u' (.proc i o') = some s₂)
    (hdone : s₂.procs i = .restore (.done placed'))
    (hrun'' : exec (step quota engine db) s₂ ls'' = some s) :
    backup s₀.shared.store version = some placed ∧
      Serves engine db placed s₁ s ∧ ∀ j, (s₂.procs j).caught = false := by
  obtain ⟨hC₁, hC⟩ := (meets_append hrun).mp hC
  obtain ⟨hCreplace, hC⟩ := (meets_cons hreplace).mp hC
  obtain ⟨hC₂, hC⟩ := (meets_append hrun').mp hC
  obtain ⟨hCreturn, hC₃⟩ := (meets_cons hreturn).mp hC
  have hu : Restoring s₀.shared.store version i u := by
    refine inv_of_exec (fun hs hc hl => hs.step hc hl) ⟨h₀.orderly rfl, rfl, ?_⟩ hC₁ hrun
    exact ⟨.close version, h₀.job, rfl⟩
  obtain ⟨hbackup, ⟨old, hin⟩, hdrained⟩ := hu.replaces hCreplace hreplace hplaced
  have ho := hu.orderly.step hreplace
  have hs₁ : Replaced engine db i s₁.shared.log.length placed s₁ :=
    ⟨ho, old, .check placed, hplaced, hin, trivial⟩
  have hu' : Replaced engine db i s₁.shared.log.length placed u' :=
    inv_of_exec (fun hs hc hl => hs.step hc hl) hs₁ hC₂ hrun'
  obtain ⟨hs₂, hdrained₂⟩ := hu'.returns hCreturn hreturn hdone
  have hs := inv_of_exec (fun hs hc hl => hs.step hc hl) hs₂ hC₃ hrun''
  have hlog : s₁.shared.log <+: s.shared.log :=
    (exec_log hrun').trans ((step_log hreturn).trans (exec_log hrun''))
  exact ⟨hbackup, hs.inService.serves hlog ho.ledger hdrained, hdrained₂⟩

end

/-! ## A request in the window -/

/-- A restore of `k = old` from a backup with `k = saved`, with `GET k` and `SET k new` beside it.
-/
def restoreAndRequests : Pool CellNode Nat (Task Unit) :=
  ⟨{ oldCell with
      store := some (AList.insert (.full 1 1) [⟨none, .kv (.upsert "k" "saved" none)⟩] ∅) },
    besideRequests (.restore (.close none))⟩

lemma restoreAndRequests_fresh : Fresh 0 (.restore (.close none)) restoreAndRequests :=
  besideRequests_fresh _ rfl rfl

theorem restore_visible_get :
    ∃ u s₁ u' s₂ s placed, exec (step {} noSql ⟨0⟩) restoreAndRequests (times 5 0) = some u ∧
      step {} noSql ⟨0⟩ u (.proc 0 {}) = some s₁ ∧ s₁.procs 0 = .restore (.check placed) ∧
      exec (step {} noSql ⟨0⟩) s₁ (times 2 0) = some u' ∧
      step {} noSql ⟨0⟩ u' (.proc 0 {}) = some s₂ ∧ s₂.procs 0 = .restore (.done placed) ∧
      exec (step {} noSql ⟨0⟩) s₂ (times 11 1 ++ times 11 3 ++ times 4 2) = some s ∧
      s.procs 1 = .answered (.ok (.inl (.entry (some ⟨"saved", none⟩)))) ∧
      s.procs 2 = .answered (.ok (.inl (.entry (some ⟨"new", none⟩)))) ∧
      Serves noSql ⟨0⟩ placed s₁ s := by
  have hrestore : exec (step {} noSql ⟨0⟩) restoreAndRequests (times 9 0) = some _ := rfl
  have hmeets : Meets (step {} noSql ⟨0⟩) (Undisturbed 0) restoreAndRequests
      (times 9 0 ++ (times 11 1 ++ times 11 3 ++ times 4 2)) :=
    (meets_append hrestore).mpr ⟨meets_times rfl restoreAndRequests_fresh.not_caught 9,
      meets_of_check undisturbed_of_outsideWindow rfl⟩
  have hC : Meets (step {} noSql ⟨0⟩) (Undisturbed 0) restoreAndRequests
      (times 5 0 ++ .proc 0 {} :: (times 2 0 ++ .proc 0 {} ::
        (times 11 1 ++ times 11 3 ++ times 4 2))) := hmeets
  refine ⟨_, _, _, _, _, _, rfl, rfl, rfl, rfl, rfl, rfl, rfl, rfl, rfl, ?_⟩
  exact (restore_visible restoreAndRequests_fresh hC rfl rfl rfl rfl rfl rfl rfl).2.1

/-- A `GET` between the close and the replacement opens the old files again: the restore returns, a
read gets the old value, and an acknowledged `SET` goes to the replaced file. -/
theorem restore_reopened :
    ∃ s, exec (step {} noSql ⟨0⟩) restoreAndRequests
        (times 1 0 ++ times 11 1 ++ times 8 0 ++ times 11 2 ++ times 11 3) = some s ∧
      s.procs 0 = .restore (.done [⟨none, .kv (.upsert "k" "saved" none)⟩]) ∧
      s.procs 2 = .answered (.ok (.inl (.entry (some ⟨"old", none⟩)))) ∧
      s.procs 3 = .answered (.ok (.inl (.flag true))) ∧
      s.shared.disk.close.openConn.contents = [⟨none, .kv (.upsert "k" "saved" none)⟩] :=
  ⟨_, rfl, rfl, rfl, rfl, rfl⟩

end Combee.DataNode.OneCell
