import Combee.DataNode.OneCell
import Combee.Kv.Readers

/-!
# InService — a Cell in regular service

What holds on a Cell from the moment its files are in place until somebody replaces or removes them:
the connection has the files at the paths open, the database is what was put in place followed by
everything committed since, and the cache is coherent with it. Entries from before the files were
put in place may still be in the cache; they are masked until the cache is cleared.

* `act_cases` says what one step of a request can do, `restore_cases` what a restore does once it
  has put its files in place;
* `InService.step` is the step lemma.
-/

namespace Combee.DataNode.OneCell

open Foundation Kv Storage
open Function (update update_of_ne update_self)
open CellNode (mask committed call commitAll kv kvNode)

section

variable {U R : Type} [Inhabited U] {quota : QuotaConfig}
  {engine : SqlCall → Nat → U → Result R × U} {db : DatabaseId}

/-! ## Calls of a closure -/

/-- The keys whose entries stay masked: a call that writes an entry makes it a new one. -/
def unmask (op : KvOp) (old : String → Bool) : String → Bool :=
  match op with
  | .put key _ => update old key false
  | .invalidate key => update old key false
  | _ => old

-- what a call does to the parts of a node
attribute [local simp] unmask call kvNode commitAll committed
  KvState.tick KvState.setEntry Disk.contents_commit database_append_singleton

variable {old : String → Bool}

lemma unmask_le {op : KvOp} {key : String}
    (h : unmask op old key = true) : old key = true := by
  cases op with
  | put key' | invalidate key' =>
    by_cases hk : key = key' <;> simp_all
  | now | readRow | execute => exact h

lemma call_fst (s : CellNode) (old : String → Bool) (i : Nat) (op : KvOp) (o : Outside) :
    (s.call engine db i op o).1 = ((s.kvNode engine db old).call db op o).1 := by
  cases op with
  | readRow | execute =>
    cases ho : o.fault <;> simp [KvNode.call, answer, ho] <;> rfl
  | now | put | invalidate => rfl

@[local simp] lemma mask_none (cache : String → Option CachedValue) (key : String) :
    mask db (fun _ => false) cache ⟨db, key⟩ = cache key := by
  simp [mask]

lemma mask_update (old : String → Bool) (cache : String → Option CachedValue) (key : String)
    (v : Option CachedValue) :
    mask db (update old key false) (fun key' => update
        (mask db (fun _ => false) cache) ⟨db, key⟩ v ⟨db, key'⟩) =
      update (mask db old cache) ⟨db, key⟩ v := by
  funext ⟨db', key'⟩
  by_cases hdb : db' = db
  · subst hdb
    by_cases hkey : key' = key
    · subst hkey
      simp [mask]
    · simp [mask, hkey]
  · simp [mask, hdb]

lemma kvNode_call (s : CellNode) (old : String → Bool) (i : Nat) (op : KvOp) (o : Outside) :
    (s.call engine db i op o).2.kvNode engine db (unmask op old) =
      ((s.kvNode engine db old).call db op o).2 := by
  cases op with
  | now => simp [KvNode.call_now]
  | readRow key =>
    cases ho : o.fault with
    | some e => simp [KvNode.call_readRow_fault ho]
    | none => simp [KvNode.call_readRow_ok ho]
  | execute st =>
    cases ho : o.fault with
    | some e => simp [KvNode.call_execute_fault ho, ho]
    | none =>
      -- the statement is committed, and replaying it is executing it
      simp [KvNode.call_execute_ok ho, KvState.setTable, ho, Change.apply, KvNode.staleAfter,
        KvState.live, KvState.row]
  | put key v => simp [KvNode.call_put, mask_update]
  | invalidate key => simp [KvNode.call_invalidate, mask_update]

/-! ## Steps that leave the database alone -/

/-- Time passes, entries go, the connection is opened or closed: the database is the same. -/
structure Calm (s s' : CellNode) : Prop where
  holder : s'.holder = s.holder
  reads : s'.reads = s.reads
  stale : s'.stale = s.stale
  log : s'.log = s.log
  store : s'.store = s.store
  clock : s.clock ≤ s'.clock
  cache : ∀ key v, s'.cache key = some v → s.cache key = some v
  disk : s.disk.Attached → s'.disk.Attached ∧ s'.disk.contents = s.disk.contents

namespace Calm

variable {s s' : CellNode}

lemma refl (s : CellNode) : Calm s s :=
  ⟨rfl, rfl, rfl, rfl, rfl, le_rfl, fun _ _ h => h, fun h => ⟨h, rfl⟩⟩

lemma of_disk {d : Disk Commit} (h : s.disk.Attached → d.Attached ∧ d.contents = s.disk.contents)
    : Calm s { s with disk := d } :=
  ⟨rfl, rfl, rfl, rfl, rfl, le_rfl, fun _ _ h => h, h⟩

lemma openConn (s : CellNode) (o : Choice) : Calm s (s.openConn o).2 := by
  unfold CellNode.openConn
  split
  · exact refl s
  · split
    · exact ⟨rfl, rfl, rfl, rfl, rfl, le_rfl, fun _ _ h => h, fun h => ⟨h, rfl⟩⟩
    · exact refl s
    · exact of_disk fun h => ⟨h.openConn, Disk.contents_openConn _⟩

lemma closeConn (s : CellNode) (checkpoint : Bool) : Calm s (s.closeConn checkpoint) := by
  refine of_disk fun h => ?_
  cases checkpoint with
  | true => exact ⟨Disk.attached_of_closed s.disk.close_conn, h.contents_close⟩
  | false => exact ⟨Disk.attached_of_closed rfl, h.contents_crash⟩

lemma invalidateAll (s : CellNode) (keys : String → Bool) : Calm s (s.invalidateAll keys) := by
  refine ⟨rfl, rfl, rfl, rfl, rfl, le_rfl, fun key v hv => ?_, fun h => ⟨h, rfl⟩⟩
  simp only [CellNode.invalidateAll] at hv
  split at hv
  · cases hv
  · exact hv

lemma evict (s : CellNode) (key : String) :
    Calm s { s with cache := update s.cache key none } := by
  refine ⟨rfl, rfl, rfl, rfl, rfl, le_rfl, fun key' v hv => ?_, fun h => ⟨h, rfl⟩⟩
  by_cases hk : key' = key
  · simp [hk] at hv
  · simpa [hk] using hv

lemma callCache (s : CellNode) (op : CacheOp) (o : Outside) :
    Calm s (s.callCache engine db op o).2 := by
  have hclock : s.clock ≤ s.clock + o.elapsed := by omega
  refine ⟨rfl, rfl, rfl, rfl, rfl, ?_, fun key v hv => ?_, fun h => ⟨h, rfl⟩⟩
  · cases op <;> exact hclock
  · cases op with
    | now => simpa [CellNode.callCache, answerCache, kv] using hv
    | get key' => simpa [CellNode.callCache, answerCache, kv] using hv
    | invalidate key' =>
      by_cases hk : key = key'
      · simp [CellNode.callCache, answerCache, hk] at hv
      · simpa [CellNode.callCache, answerCache, kv, hk] using hv

lemma rely (h : Calm s s') (engine : SqlCall → Nat → U → Result R × U)
    (db : DatabaseId) (ha : s.disk.Attached) (old : String → Bool) :
    Rely (s.kvNode engine db old) (s'.kvNode engine db old) := by
  refine ⟨⟨?_, h.clock, fun k v hv => ?_⟩, h.reads, h.stale⟩
  · simp [(h.disk ha).2]
  · simp only [kvNode, mask] at hv ⊢
    split at hv
    · rename_i hk
      rw [if_pos hk]
      exact h.cache _ _ hv
    · cases hv

end Calm

/-! ## What one step can do -/

namespace Task

def isRunning : Task R → Bool
  | running _ _ _ => true
  | _ => false

/-- The next step is a call of `with_conn`. -/
def opens : Task R → Bool
  | query _ => true
  | entry _ (.call (.runClosure _) _) => true
  | entry _ (.call (.runSql _) _) => true
  | _ => false

def isRequest : Task R → Bool
  | reset _ => false
  | restore _ => false
  | _ => true

/-- The next step replaces or removes a file. -/
def changesFiles : Task R → Bool
  | reset .removeMain => true
  | reset .removeWal => true
  | restore (.renameMain _ _) => true
  | restore (.renameWal _ _) => true
  | restore (.dropWal _) => true
  | _ => false

/-- A request that has committed nothing: its closure has not started. -/
def pristine : Task R → Bool
  | arrived _ => true
  | fast _ => true
  | query _ => true
  | entry ran _ => !ran
  | _ => false

/-- A request that has looked at the cache or at the database and is not answered yet. -/
def caught : Task R → Bool
  | fast _ => true
  | query _ => true
  | running _ _ _ => true
  | entry ran _ => ran
  | _ => false

def isAnswered : Task R → Bool
  | answered _ => true
  | _ => false

/-- The command of `Serving` that a running closure is. -/
def kvTask (db : DatabaseId) : Task R → Kv.Task
  | running c p _ => .running db c p
  | _ => .done (.ok .unit)

lemma kvTask_isRunning (t : Task R) : (t.kvTask db).isRunning = t.isRunning := by
  cases t <;> rfl

end Task

/-- What a step can do that touches no file. -/
inductive Move (engine : SqlCall → Nat → U → Result R × U) (db : DatabaseId)
    (s : CellNode) (i : Nat) (o : Outside) : Task R → CellNode → Task R → Prop where
  | idle {t t' s'} (ht : t.isRunning = false) (ht' : t'.isRunning = false) (calm : Calm s s') :
      Move engine db s i o t s' t'
  /-- The closure starts, on a connection that was opened for it if there was none. -/
  | start {t s₁ c k} (ht : t.isRunning = false) (free : s.holder = none) (calm : Calm s s₁) :
      Move engine db s i o t { s₁ with holder := some i, reads := [], stale := none }
        (.running c c.prog.run k)
  | call {c op kc k} :
      Move engine db s i o (.running c (.call op kc) k) (s.call engine db i op o).2
        (.running c (kc (s.call engine db i op o).1) k)
  | finish {c r k} :
      Move engine db s i o (.running c (.ret r) k)
        { s with holder := none, reads := [], stale := none } (.entry true (k r))
  | sql {t t' s₁ q choice} (ht : t.isRunning = false) (ht' : t'.isRunning = false)
      (free : s.holder = none) (calm : Calm s s₁) :
      Move engine db s i o t (s₁.commitAll [⟨some i, .sql q choice⟩]) t'

variable {s s' : CellNode} {i : Nat} {t t' : Task R} {o : Choice}

section WithConn

variable {α : Type} {k : Result α → NodeProg R} {run : CellNode → CellNode × Task R}
  (h : withConn s k o run = some (s', t'))
include h

/-- A call of `with_conn` needs the mutex, and it has opened the connection or fails. -/
lemma withConn_cases : s.holder = none ∧ ((∃ e, s' = (s.openConn o).2 ∧
    t' = .entry true (k (.error e))) ∨ run (s.openConn o).2 = (s', t')) := by
  unfold withConn at h
  split at h
  · rename_i hfree
    split at h <;> rename_i hopen
    · cases h
      exact ⟨hfree, .inl ⟨_, by rw [hopen], rfl⟩⟩
    · exact ⟨hfree, .inr (by simpa [hopen] using h)⟩
  · cases h

lemma withConn_move (ht : t.isRunning = false) (hrun : ∀ s₁, s.holder = none → Calm s s₁ →
      Move engine db s i o.outside t (run s₁).1 (run s₁).2) :
    Move engine db s i o.outside t s' t' := by
  obtain ⟨hfree, ⟨e, rfl, rfl⟩ | hran⟩ := withConn_cases h
  · exact .idle ht rfl (.openConn s o)
  · simpa [hran] using hrun _ hfree (.openConn s o)

lemma withConn_caught (hrun : ∀ s₁, (run s₁).2.pristine = false ∧ (run s₁).2.isRequest = true) :
    t'.pristine = false ∧ t'.isRequest = true := by
  obtain ⟨_, ⟨e, rfl, rfl⟩ | hran⟩ := withConn_cases h
  · exact ⟨rfl, rfl⟩
  · simpa [hran] using hrun (s.openConn o).2

lemma withConn_readonly (hrun : ∀ s₁, (run s₁).1.readonly = s₁.readonly) :
    s.holder = none ∧ s'.readonly = (s.openConn o).2.readonly := by
  obtain ⟨hfree, ⟨e, rfl, rfl⟩ | hran⟩ := withConn_cases h
  · exact ⟨hfree, rfl⟩
  · exact ⟨hfree, by simpa [hran] using hrun (s.openConn o).2⟩

end WithConn

inductive ResetMove (s : CellNode) (o : Choice) : ResetPc → CellNode → ResetPc → Prop where
  | refused {e} : ResetMove s o .close s (.failed e)
  | closes (free : s.holder = none) : ResetMove s o .close (s.closeConn o.checkpoint) .clear
  | finds : ResetMove s o .clear s (.invalidate s.cached)
  | clears {keys} : ResetMove s o (.invalidate keys) (s.invalidateAll keys) .removeMain
  /-- A file that is not there is skipped. -/
  | removesMain (h : o.fault = none ∨ s.disk.main = none) :
      ResetMove s o .removeMain { s with disk := s.disk.removeMain } .removeWal
  | removesWal : ResetMove s o .removeWal { s with disk := s.disk.removeWal } .returned
  | stuckMain {e} (h : o.fault ≠ none) : ResetMove s o .removeMain s (.failed e)
  | stuckWal {e} : ResetMove s o .removeWal s (.failed e)

variable {fault : Option String}

lemma removeFile_ok {file : Option Nat} {removed d d' : Disk Commit}
    (hskip : file = none → removed = d) (h : removeFile file removed d fault = .ok d') :
    d' = removed ∧ (fault = none ∨ file = none) := by
  unfold removeFile at h
  split at h
  · exact ⟨(Except.ok.inj h).symm.trans (hskip rfl).symm, .inr rfl⟩
  · exact ⟨(Except.ok.inj h).symm, .inl rfl⟩
  · cases h

lemma removeFile_error {file : Option Nat} {removed d : Disk Commit} {e : CombeeError}
    (h : removeFile file removed d fault = .error e) : fault ≠ none := by
  unfold removeFile at h
  split at h <;> cases h
  simp

variable {pc pc' : ResetPc}

lemma resetStep_move
    (h : resetStep s pc o = some (s', pc')) : ResetMove s o pc s' pc' := by
  unfold resetStep at h
  cases pc with
  | close =>
    simp only at h
    split at h
    · rename_i free
      split at h <;> cases h
      · exact .refused
      · exact .closes free
    · cases h
  | clear =>
    cases h
    exact .finds
  | invalidate keys =>
    cases h
    exact .clears
  | removeMain =>
    simp only at h
    split at h <;> cases h
    · rename_i hd
      obtain ⟨rfl, hgone⟩ := removeFile_ok Disk.removeMain_of_none hd
      exact .removesMain hgone
    · rename_i hd
      exact .stuckMain (removeFile_error hd)
  | removeWal =>
    simp only at h
    split at h <;> cases h
    · rename_i hd
      obtain ⟨rfl, -⟩ := removeFile_ok Disk.removeWal_of_none hd
      exact .removesWal
    · exact .stuckWal
  | returned | failed => cases h

inductive RestoreMove (s : CellNode) (o : Choice) : RestorePc → CellNode → RestorePc → Prop where
  | refused {v e} (h : s.store = none ∨ o.fault ≠ none) :
      RestoreMove s o (.close v) s (.failed e)
  | closesForLatest (free : s.holder = none) (ready : s.store ≠ none ∧ o.fault = none) :
      RestoreMove s o (.close none) (s.closeConn o.checkpoint) .listIncr
  | closesForVersion {k} (free : s.holder = none) (ready : s.store ≠ none ∧ o.fault = none) :
      RestoreMove s o (.close (some (.own k))) (s.closeConn o.checkpoint) (.getMain k none)
  | foreign {key e} (ready : s.store ≠ none ∧ o.fault = none) :
      RestoreMove s o (.close (some (.foreign key))) (s.closeConn o.checkpoint) (.failed e)
  | incr {snap wal} (h : s.store.bind latestIncr = some (snap, wal)) :
      RestoreMove s o .listIncr s (.getMain snap wal)
  | noIncr (h : s.store.bind latestIncr = none) : RestoreMove s o .listIncr s .listFull
  | noIncrList {e} : RestoreMove s o .listIncr s (.failed e)
  | full {k} (h : s.store.bind lastListed = some k) : RestoreMove s o .listFull s (.getMain k none)
  | noFull {e} : RestoreMove s o .listFull s (.failed e)
  | gotMain {k wal main} (h : (s.store.bind fun st => st.lookup k) = some main) :
      RestoreMove s o (.getMain k wal) s (.renameMain main wal)
  | noMain {k wal e} : RestoreMove s o (.getMain k wal) s (.failed e)
  | placesMain {main w} :
      RestoreMove s o (.renameMain main (some w)) { s with disk := s.disk.renameMain main }
        (.getWal main w)
  | placesAll {main} :
      RestoreMove s o (.renameMain main none) { s with disk := s.disk.renameMain main }
        (.dropWal main)
  | noRename {main wal e} : RestoreMove s o (.renameMain main wal) s (.failed e)
  | gotWal {main tail w} (h : (s.store.bind fun st => st.lookup w) = some tail) :
      RestoreMove s o (.getWal main w) s (.renameWal main tail)
  | noWal {main w e} : RestoreMove s o (.getWal main w) s (.failed e)
  | placesWal {main tail} :
      RestoreMove s o (.renameWal main tail) { s with disk := s.disk.renameWal tail }
        (.check (main ++ tail))
  | noWalRename {main tail e} : RestoreMove s o (.renameWal main tail) s (.failed e)
  | dropsWal {main} (h : o.fault = none) :
      RestoreMove s o (.dropWal main) { s with disk := s.disk.removeWal } (.check main)
  | keepsWal {main} (h : o.fault ≠ none) :
      RestoreMove s o (.dropWal main) s (.check (main ++ s.disk.walFile))
  | passes {placed} (free : s.holder = none) :
      RestoreMove s o (.check placed) (s.openConn o).2 (.clear placed)
  | corrupt {placed res} (free : s.holder = none) :
      RestoreMove s o (.check placed) (s.openConn o).2 (.closeBad res)
  | noCheck {placed e} (free : s.holder = none) :
      RestoreMove s o (.check placed) (s.openConn o).2 (.failed e)
  | closesBad {res e} :
      RestoreMove s o (.closeBad res) (s.closeConn o.checkpoint) (.failed e)
  | stuckBad {res e} : RestoreMove s o (.closeBad res) s (.failed e)
  | finds {placed} : RestoreMove s o (.clear placed) s (.invalidate placed s.cached)
  | clears {placed keys} :
      RestoreMove s o (.invalidate placed keys) (s.invalidateAll keys) (.done placed)

lemma download_ok {k : ObjKey} {c : List Commit}
    (h : download s db k fault = .ok c) : (s.store.bind fun st => st.lookup k) = some c := by
  simp only [download] at h
  split at h
  · rename_i hlookup
    cases h
    exact hlookup
  · cases h
  · cases h

lemma restoreStep_move {pc pc' : RestorePc}
    (h : restoreStep db s pc o = some (s', pc')) : RestoreMove s o pc s' pc' := by
  unfold restoreStep at h
  cases pc with
  | close v =>
    simp only at h
    split at h
    · rename_i hstore
      cases h
      exact .refused (.inl hstore)
    · rename_i hstore
      have hstore : s.store ≠ none := by simp [hstore]
      split at h
      · rename_i free
        split at h <;> rename_i hfault <;> cases h
        · exact .refused (.inr (by simp [hfault]))
        · exact .closesForLatest free ⟨hstore, hfault⟩
        · exact .closesForVersion free ⟨hstore, hfault⟩
        · exact .foreign ⟨hstore, hfault⟩
      · cases h
  | listIncr =>
    simp only at h
    split at h <;> cases h
    · exact .noIncrList
    · rename_i hlatest
      exact .incr hlatest
    · rename_i hlatest
      exact .noIncr hlatest
  | listFull =>
    simp only at h
    split at h <;> cases h
    · exact .noFull
    · rename_i hlast
      exact .full hlast
    · exact .noFull
  | getMain k wal =>
    simp only at h
    split at h <;> cases h
    · rename_i hmain
      exact .gotMain (download_ok hmain)
    · exact .noMain
  | renameMain main wal =>
    simp only at h
    split at h <;> cases h
    · exact .noRename
    · exact .placesMain
    · exact .placesAll
  | getWal main w =>
    simp only at h
    split at h <;> cases h
    · rename_i htail
      exact .gotWal (download_ok htail)
    · exact .noWal
  | renameWal main tail =>
    simp only at h
    split at h <;> cases h
    · exact .noWalRename
    · exact .placesWal
  | dropWal main =>
    simp only at h
    split at h <;> rename_i hfault <;> cases h
    · exact .keepsWal (by simp [hfault])
    · exact .dropsWal hfault
  | check placed =>
    simp only at h
    split at h
    · rename_i free
      have hopened : ∀ s₁ r pc, s.openConn o = (r, s₁) →
          RestoreMove s o (.check placed) (s.openConn o).2 pc →
          RestoreMove s o (.check placed) s₁ pc := by
        intro s₁ r pc heq hmove
        rwa [heq] at hmove
      split at h <;> rename_i hopen
      · cases h
        exact hopened _ _ _ hopen (.noCheck free)
      · split at h
        · cases h
          exact hopened _ _ _ hopen (.noCheck free)
        · split at h <;> cases h
          · exact hopened _ _ _ hopen (.passes free)
          · exact hopened _ _ _ hopen (.corrupt free)
    · cases h
  | closeBad res =>
    simp only at h
    split at h
    · split at h <;> cases h
      · exact .stuckBad
      · exact .closesBad
    · cases h
  | clear placed =>
    cases h
    exact .finds
  | invalidate placed keys =>
    cases h
    exact .clears
  | done | failed => cases h

lemma ResetMove.calm (h : ResetMove s o pc s' pc')
    (hpc : (Task.reset pc : Task R).changesFiles = false) : Calm s s' := by
  cases h with
  | closes free => exact .closeConn s _
  | clears => exact .invalidateAll s _
  | removesMain | removesWal => cases hpc
  | _ => exact .refl s

lemma RestoreMove.calm {pc pc' : RestorePc} (h : RestoreMove s o pc s' pc')
    (hpc : (Task.restore pc : Task R).changesFiles = false) : Calm s s' := by
  cases h with
  | closesForLatest _ _ | closesForVersion _ _ | foreign _ | closesBad => exact .closeConn s _
  | placesMain | placesAll | placesWal | dropsWal => cases hpc
  | passes | corrupt | noCheck => exact .openConn s o
  | clears => exact .invalidateAll s _
  | _ => exact .refl s

lemma act_move (ht : t.changesFiles = false)
    (h : act quota engine db s i t o = some (s', t')) : Move engine db s i o.outside t s' t' := by
  unfold act at h
  split at h
  -- the calls of `with_conn`, one for KV reads and two for the entry points
  case h_6 => exact withConn_move h rfl fun _ => .start rfl
  case h_11 => exact withConn_move h rfl fun _ => .start rfl
  case h_12 => exact withConn_move h rfl fun _ => .sql rfl rfl
  case h_3 =>
    cases h
    exact .idle rfl rfl (.callCache s _ _)
  case h_14 =>
    cases h
    exact .call
  case h_15 =>
    cases h
    exact .finish
  case h_16 => cases h
  case h_17 =>
    obtain ⟨r, hr, rfl⟩ := of_map_step h
    exact .idle rfl rfl ((resetStep_move hr).calm ht)
  case h_18 =>
    obtain ⟨r, hr, rfl⟩ := of_map_step h
    exact .idle rfl rfl ((restoreStep_move hr).calm ht)
  all_goals
    cases h
    exact .idle rfl rfl (.refl s)

/-- One step of the environment: a garbage collection, or nothing that touches the database. -/
lemma env_cases {e : Event} (h : env engine s e = some s') :
    Calm s s' ∨ ∃ keys t, s.holder = none ∧ s.disk.conn ≠ none ∧
      gcExpired (database engine s.disk.contents).1 s.clock keys = some t ∧
      s' = s.commitAll [⟨none, .gc keys⟩] := by
  cases e with
  | tick elapsed =>
    cases h
    exact .inl ⟨rfl, rfl, rfl, rfl, rfl, by simp, fun _ _ h => h, fun h => ⟨h, rfl⟩⟩
  | evict key =>
    cases h
    exact .inl (.evict s key)
  | sleep checkpoint =>
    simp only [env] at h
    split at h <;> cases h
    exact .inl (.closeConn s checkpoint)
  | gc keys =>
    simp only [env] at h
    split at h
    · rename_i hfree
      obtain ⟨t, ht, rfl⟩ := Option.map_eq_some_iff.mp h
      exact .inr ⟨keys, t, hfree.1, hfree.2, ht, rfl⟩
    · cases h
  | fence generation =>
    cases h
    exact .inl ⟨rfl, rfl, rfl, rfl, rfl, le_rfl, fun _ _ h => h, fun h => ⟨h, rfl⟩⟩

/-! ## Regular service -/

/-- The second clock read for a key, if the step is one, shows the second of the first. -/
def SameSecond (s : Pool CellNode Nat (Task R)) : PoolLabel Nat Choice Event → Prop
  | .proc i o =>
    match s.procs i with
    | .running c (.call .now _) _ =>
      c.rereads s.shared.reads.length = true →
        s.shared.reads.head? = some (s.shared.clock + o.outside.elapsed)
    | _ => True
  | .env _ => True

/-- The part about the files and the cache: `base` was put in place when `n` changes had been
committed. -/
structure Sound (engine : SqlCall → Nat → U → Result R × U) (db : DatabaseId)
    (old : String → Bool) (base : List Commit) (n : Nat) (s : CellNode) : Prop where
  attached : s.disk.Attached
  since : n ≤ s.log.length
  contents : s.disk.contents = base ++ s.log.drop n
  steady : Steady (s.kvNode engine db old)

structure InService (engine : SqlCall → Nat → U → Result R × U) (db : DatabaseId)
    (old : String → Bool) (base : List Commit) (n : Nat) (s : Pool CellNode Nat (Task R)) :
    Prop where
  sound : Sound engine db old base n s.shared
  keeps : ∀ j, Keeps (s.shared.kvNode engine db old) j ((s.procs j).kvTask db)

namespace Sound

variable {old : String → Bool} {base : List Commit} {n : Nat} {s s' : CellNode}

lemma calm (hs : Sound engine db old base n s) (h : Calm s s') :
    Sound engine db old base n s' := by
  obtain ⟨hattached, hcontents⟩ := h.disk hs.attached
  refine ⟨hattached, h.log ▸ hs.since, ?_,
    hs.steady.rely (h.rely engine db hs.attached old) h.holder⟩
  rw [hcontents, h.log, hs.contents]

/-- A change is committed while no closure is running, and the KV side stays settled. -/
lemma commit (hs : Sound engine db old base n s) {c : Commit} (free : s.holder = none)
    (hkv : CoherentExcept none ((s.commitAll [c]).kvNode engine db old).kv) :
    Sound engine db old base n (s.commitAll [c]) := by
  refine ⟨hs.attached.commit c, ?_, ?_, hkv.weaken, fun _ => ⟨hkv, (hs.steady.2 free).stale⟩⟩
  · simpa using Nat.le_succ_of_le hs.since
  · simp [hs.contents, List.drop_append_of_le_length hs.since]

end Sound

lemma kvNode_commit_sql (s : CellNode) (old : String → Bool) (task : Option Nat) (q : SqlCall)
    (choice : Nat) :
    (s.commitAll [⟨task, .sql q choice⟩]).kvNode engine db old = s.kvNode engine db old := by
  simp [Change.apply]

lemma kvNode_commit_gc {keys : List String} {t : KvTable} (old : String → Bool)
    (task : Option Nat) (h : gcExpired (database engine s.disk.contents).1 s.clock keys = some t) :
    (s.commitAll [⟨task, .gc keys⟩]).kvNode engine db old =
      { s.kvNode engine db old with kv := (s.kvNode engine db old).kv.setTable db t } := by
  obtain rfl : keys.foldl (fun t key => t.erase key) (database engine s.disk.contents).1 = t := by
    unfold gcExpired at h
    split at h
    · exact Option.some.inj h
    · cases h
  simp [Change.apply, KvState.setTable]

lemma attached_call (h : s.disk.Attached) (i : Nat) (op : KvOp) (o : Outside) :
    (s.call engine db i op o).2.disk.Attached := by
  simp only [call, commitAll, committed]
  split
  · exact h.commit _
  · exact h

lemma contents_call (engine : SqlCall → Nat → U → Result R × U) (db : DatabaseId)
    (s : CellNode) (i : Nat) (op : KvOp) (o : Outside) :
    (s.call engine db i op o).2.disk.contents = s.disk.contents ++ committed i op o ∧
      (s.call engine db i op o).2.log = s.log ++ committed i op o := by
  simp only [call, commitAll, committed]
  split
  · exact ⟨Disk.contents_commit _ _, trivial⟩
  · simp

lemma cache_call {op : KvOp} {o : Outside} {key : String}
    (h : unmask op old key = true) : (s.call engine db i op o).2.cache key = s.cache key := by
  cases op with
  | now => exact mask_none _ _
  | readRow key' =>
    cases ho : o.fault <;>
      simp [KvNode.call, answer, ho]
  | execute st =>
    cases ho : o.fault <;>
      simp [KvNode.call, answer, ho, KvState.setTable]
  | put key' v =>
    have hk : key ≠ key' := by
      rintro rfl
      simp at h
    simp [KvNode.call_put, hk]
  | invalidate key' =>
    have hk : key ≠ key' := by
      rintro rfl
      simp at h
    simp [KvNode.call_invalidate, hk]

namespace InService

variable {old : String → Bool} {base : List Commit} {n : Nat} {s : Pool CellNode Nat (Task R)}

/-- The masked entries of the second state are masked entries of the first. -/
def Remains (old old' : String → Bool) (s s' : CellNode) : Prop :=
  ∀ key, old' key = true → old key = true ∧ ∀ v, s'.cache key = some v → s.cache key = some v

variable (hs : InService engine db old base n s)
include hs

lemma move {i : Nat} {o : Choice} {g : CellNode}
    {p : Task R} (hC : SameSecond s (.proc i o))
    (hm : Move engine db s.shared i o.outside (s.procs i) g p) :
    ∃ old', Remains old old' s.shared g ∧
      InService engine db old' base n ⟨g, update s.procs i p⟩ := by
  have hi := hs.keeps i
  -- it is enough to look at the shared state, at the task itself, and at the others
  have hassemble : ∀ old', Remains old old' s.shared g → Sound engine db old' base n g →
      Keeps (g.kvNode engine db old') i (p.kvTask db) →
      (∀ j, j ≠ i → Keeps (g.kvNode engine db old') j ((s.procs j).kvTask db)) →
      ∃ old', Remains old old' s.shared g ∧
        InService engine db old' base n ⟨g, update s.procs i p⟩ := by
    intro old' hold hsound hown hothers
    exact ⟨old', hold, hsound, (Function.forall_update_iff _ fun j (t : Task R) =>
      Keeps (g.kvNode engine db old') j (t.kvTask db)).mpr ⟨hown, hothers⟩⟩
  have hne : ∀ j, j ≠ i → some i ≠ some j := fun j hj => by simpa using Ne.symm hj
  generalize ht : s.procs i = t at hm hi
  cases hm with
  | idle hrun hrun' calm =>
    have hr := calm.rely engine db hs.sound.attached old
    refine hassemble old (fun key h => ⟨h, calm.cache key⟩) (hs.sound.calm calm) ?_ ?_
    · rw [keeps_of_not_running (by rw [Task.kvTask_isRunning, hrun'])]
      rw [keeps_of_not_running (by rw [Task.kvTask_isRunning, hrun])] at hi
      exact fun hn => hi (calm.holder.symm.trans hn)
    · exact fun j _ => (hs.keeps j).rely hr calm.holder
  | start hrun free calm =>
    -- nobody held the mutex, so the closure starts with everything settled
    rename_i s₁ c k
    have hs1 := hs.sound.calm calm
    have hsettled := hs1.steady.2 (calm.holder.trans free)
    refine hassemble old (fun key h => ⟨h, calm.cache key⟩) ?_ ?_ ?_
    · exact ⟨hs1.attached, hs1.since, hs1.contents, hsettled.coherent.weaken, by simp⟩
    · exact ⟨rfl, sec_prog c ⟨hsettled.coherent, rfl⟩ rfl⟩
    · exact fun j hj => (hs.keeps j).idle (by simp [free]) (hne j hj)
  | call =>
    rename_i c op kc k
    obtain ⟨hcontents, hlog⟩ := contents_call engine db s.shared i op o.outside
    have hallowed : Allowed c (s.shared.kvNode engine db old) op o.outside := by
      rintro rfl
      simp only [SameSecond, ht] at hC
      exact hC
    obtain ⟨hinv, hsec⟩ := hi.2.call (Rely.refl _) hallowed
    rw [← kvNode_call s.shared old i] at hinv hsec
    have hheld : ((s.shared.call engine db i op o.outside).2.kvNode engine db
        (unmask op old)).holder = some i := hi.1
    refine hassemble (unmask op old) (fun key h => ⟨unmask_le h, ?_⟩) ?_ ?_ ?_
    · rw [cache_call h]
      exact fun v hv => hv
    · refine ⟨attached_call hs.sound.attached i op o.outside, ?_, ?_, hinv, ?_⟩
      · simpa [hlog] using Nat.le_add_right_of_le hs.sound.since
      · rw [hcontents, hlog, hs.sound.contents, List.drop_append_of_le_length hs.sound.since,
          List.append_assoc]
      · exact fun hnone => absurd (hheld.symm.trans hnone) (by simp)
    · refine ⟨hheld, ?_⟩
      rw [call_fst s.shared old]
      exact hsec
    · exact fun j hj => (hs.keeps j).idle (hi.1 ▸ hne j hj) (hheld ▸ hne j hj)
  | finish =>
    -- the closure has returned, so everything is settled
    rename_i c r k
    have hsettled : Settled (s.shared.kvNode engine db old) := hi.2
    refine hassemble old (fun key h => ⟨h, fun v hv => hv⟩) ?_ ?_ ?_
    · exact ⟨hs.sound.attached, hs.sound.since, hs.sound.contents, hsettled.coherent.weaken,
        fun _ => ⟨hsettled.coherent, rfl⟩⟩
    · exact fun hn => absurd hn (by simp)
    · exact fun j hj => (hs.keeps j).idle (hi.1 ▸ hne j hj) (by simp)
  | sql hrun hrun' free calm =>
    rename_i s₁ q choice
    have hs1 := hs.sound.calm calm
    have hfree := calm.holder.trans free
    have hsettled := hs1.steady.2 hfree
    refine hassemble old (fun key h => ⟨h, calm.cache key⟩) ?_ ?_ ?_
    · refine hs1.commit hfree ?_
      rw [kvNode_commit_sql]
      exact hsettled.coherent
    · rw [keeps_of_not_running (by rw [Task.kvTask_isRunning, hrun']), kvNode_commit_sql]
      simp [hfree]
    · intro j hj
      rw [kvNode_commit_sql]
      exact (hs.keeps j).idle (by simp [free]) (by simp [hfree])

lemma environment {e : Event} {g : CellNode}
    (h : env engine s.shared e = some g) :
    Remains old old s.shared g ∧ InService engine db old base n ⟨g, s.procs⟩ := by
  rcases env_cases h with calm | ⟨keys, t, free, _, ht, rfl⟩
  · exact ⟨fun key h => ⟨h, calm.cache key⟩, hs.sound.calm calm, fun j =>
      (hs.keeps j).rely (calm.rely engine db hs.sound.attached old) calm.holder⟩
  · have hsettled := hs.sound.steady.2 free
    refine ⟨fun key h => ⟨h, fun v hv => hv⟩, hs.sound.commit free ?_, fun j => ?_⟩
    · rw [kvNode_commit_gc old none ht]
      exact hsettled.coherent.gc (by simpa using ht)
    -- nobody runs a closure, so no request depends on the table
    · exact (hs.keeps j).idle (by simp [free]) (by simp [free])

end InService

/-! ## Who has committed what -/

lemma ResetMove.frame (h : ResetMove s o pc s' pc') :
    s'.log = s.log ∧ s'.holder = s.holder ∧ s'.stale = s.stale ∧ s'.store = s.store := by
  cases h <;> exact ⟨rfl, rfl, rfl, rfl⟩

lemma RestoreMove.frame {pc pc' : RestorePc} (h : RestoreMove s o pc s' pc') :
    s'.log = s.log ∧ s'.holder = s.holder ∧ s'.stale = s.stale ∧ s'.store = s.store := by
  have hopen := Calm.openConn s o
  cases h with
  | passes | corrupt | noCheck => exact ⟨hopen.log, hopen.holder, hopen.stale, hopen.store⟩
  | _ => exact ⟨rfl, rfl, rfl, rfl⟩

/-- A step that replaces or removes a file leaves the rest alone. -/
lemma act_frame (ht : t.changesFiles = true) (h : act quota engine db s i t o = some (s', t')) :
    t'.isRunning = false ∧ s'.log = s.log ∧ s'.holder = s.holder ∧ s'.stale = s.stale ∧
      s'.store = s.store := by
  cases t with
  | reset pc =>
    obtain ⟨r, hr, rfl⟩ := of_map_step h
    exact ⟨rfl, (resetStep_move hr).frame⟩
  | restore pc =>
    obtain ⟨r, hr, rfl⟩ := of_map_step h
    exact ⟨rfl, (restoreStep_move hr).frame⟩
  | _ => cases ht

lemma act_log (h : act quota engine db s i t o = some (s', t')) :
    ∃ cs : List Commit, s'.log = s.log ++ cs ∧ ∀ c ∈ cs, c.task = some i := by
  have hsame : s'.log = s.log → ∃ cs : List Commit, s'.log = s.log ++ cs ∧
      ∀ c ∈ cs, c.task = some i := fun heq => ⟨[], by simp [heq], by simp⟩
  cases ht : t.changesFiles with
  | false =>
    cases act_move ht h with
    | idle _ _ calm | start _ _ calm => exact hsame calm.log
    | finish => exact hsame rfl
    | sql _ _ _ calm =>
      exact ⟨[_], congrArg (· ++ _) calm.log, by simp⟩
    | call =>
      rename_i c op kc k
      refine ⟨_, (contents_call engine db s i op o.outside).2, fun c hc => ?_⟩
      unfold committed at hc
      split at hc
      · obtain rfl := List.mem_singleton.mp hc
        rfl
      · cases hc
  | true => exact hsame (act_frame ht h).2.1

/-- A request that has committed nothing after a step had committed nothing before it. -/
lemma act_pristine (h : act quota engine db s i t o = some (s', t'))
    (ht' : t'.pristine = true) : t.pristine = true ∧ s'.log = s.log := by
  unfold act at h
  split at h
  case h_6 => simp [(withConn_caught h fun _ => ⟨rfl, rfl⟩).1] at ht'
  case h_11 => simp [(withConn_caught h fun _ => ⟨rfl, rfl⟩).1] at ht'
  case h_12 => simp [(withConn_caught h fun _ => ⟨rfl, rfl⟩).1] at ht'
  case h_16 => cases h
  case h_17 =>
    obtain ⟨r, _, rfl⟩ := of_map_step h
    cases ht'
  case h_18 =>
    obtain ⟨r, _, rfl⟩ := of_map_step h
    cases ht'
  all_goals
    cases h
    first
      | exact ⟨ht', rfl⟩
      | exact ⟨rfl, rfl⟩
      | cases ht'

/-- No request has committed anything before its closure starts. -/
def Ledger (s : Pool CellNode Nat (Task R)) : Prop :=
  ∀ j, (s.procs j).pristine = true → ∀ c ∈ s.shared.log, c.task ≠ some j

lemma env_log {e : Event} (h : env engine s e = some s') :
    ∃ cs : List Commit, s'.log = s.log ++ cs ∧ ∀ c ∈ cs, c.task = none := by
  rcases env_cases h with calm | ⟨keys, t, _, _, _, rfl⟩
  · exact ⟨[], by simp [calm.log], by simp⟩
  · exact ⟨_, rfl, by simp⟩

variable {l : PoolLabel Nat Choice Event} {s s' : Pool CellNode Nat (Task R)}

lemma step_log (h : step quota engine db s l = some s') : s.shared.log <+: s'.shared.log := by
  cases h using Pool.step_cases with
  | proc i o g p hact =>
    obtain ⟨cs, hcs, _⟩ := act_log hact
    exact ⟨cs, hcs.symm⟩
  | env e g henv =>
    obtain ⟨cs, hcs, _⟩ := env_log henv
    exact ⟨cs, hcs.symm⟩

lemma exec_log {ls : List (PoolLabel Nat Choice Event)}
    (h : exec (step quota engine db) s ls = some s') : s.shared.log <+: s'.shared.log :=
  inv_of_exec_all (I := fun t => s.shared.log <+: t.shared.log)
    (fun ht hl => ht.trans (step_log hl)) (List.prefix_refl _) h

lemma Ledger.step
    (hs : Ledger s) (h : OneCell.step quota engine db s l = some s') : Ledger s' := by
  intro j hj c hc
  cases h using Pool.step_cases with
  | proc i o g p hact =>
    obtain ⟨cs, hcs, hown⟩ := act_log hact
    by_cases hji : j = i
    · subst hji
      simp only [update_self] at hj
      obtain ⟨hpristine, hlog⟩ := act_pristine hact hj
      exact hs j hpristine c (hlog ▸ hc)
    · simp only [update_of_ne hji] at hj
      simp only [hcs, List.mem_append] at hc
      rcases hc with hc | hc
      · exact hs j hj c hc
      · rw [hown c hc]
        simpa using Ne.symm hji
  | env e g henv =>
    obtain ⟨cs, hcs, hown⟩ := env_log henv
    simp only [hcs, List.mem_append] at hc
    rcases hc with hc | hc
    · exact hs j hj c hc
    · rw [hown c hc]
      simp

/-! ## The mutex -/

/-- A closure runs under the mutex, and when the mutex is free no entry is behind its row. -/
structure Mutex (s : Pool CellNode Nat (Task R)) : Prop where
  held : ∀ j, (s.procs j).isRunning = true → s.shared.holder = some j
  settled : s.shared.holder = none → s.shared.stale = none

lemma Mutex.none_running {s : Pool CellNode Nat (Task R)} (hs : Mutex s)
    (free : s.shared.holder = none) (j : Nat) : (s.procs j).isRunning = false := by
  cases hj : (s.procs j).isRunning with
  | false => rfl
  | true => exact absurd ((hs.held j hj).symm.trans free) (by simp)

lemma Mutex.step (hs : Mutex s) (h : OneCell.step quota engine db s l = some s') : Mutex s' := by
  cases h using Pool.step_cases with
  | proc i o g p hact =>
    have hassemble : (p.isRunning = true → g.holder = some i) →
        (∀ j, j ≠ i → (s.procs j).isRunning = true → g.holder = some j) →
        (g.holder = none → g.stale = none) →
        Mutex ⟨g, update s.procs i p⟩ := by
      intro hown hothers hsettled
      refine ⟨fun j hj => ?_, hsettled⟩
      by_cases hji : j = i
      · subst hji
        exact hown (by simpa using hj)
      · exact hothers j hji (by simpa [update_of_ne hji] using hj)
    have hsame : p.isRunning = false → g.holder = s.shared.holder →
        g.stale = s.shared.stale → Mutex ⟨g, update s.procs i p⟩ := by
      intro hp hholder hstale
      exact hassemble (fun hrun => absurd (hp.symm.trans hrun) (by simp))
        (fun j _ hj => hholder.trans (hs.held j hj))
        (fun hn => hstale.trans (hs.settled (hholder.symm.trans hn)))
    have hi := hs.held i
    generalize ht : s.procs i = t at hact hi
    cases hfiles : t.changesFiles with
    | false =>
      cases act_move hfiles hact with
      | idle _ hp calm | sql _ hp _ calm => exact hsame hp calm.holder calm.stale
      | start _ free calm =>
        refine hassemble (fun _ => rfl) (fun j _ hj => ?_) (fun hn => by simp at hn)
        exact absurd ((hs.held j hj).symm.trans free) (by simp)
      | call =>
        refine hassemble (fun _ => hi rfl) (fun j _ hj => hs.held j hj) (fun hn => ?_)
        exact absurd ((hi rfl).symm.trans hn) (by simp)
      | finish =>
        refine hassemble (fun hrun => by cases hrun) (fun j hji hj => ?_) (fun _ => rfl)
        -- only the request itself held the mutex
        exact absurd ((hs.held j hj).symm.trans (hi rfl)) (by simpa using hji)
    | true =>
      obtain ⟨hp, _, hholder, hstale, _⟩ := act_frame hfiles hact
      exact hsame hp hholder hstale
  | env e g henv =>
    rcases env_cases henv with calm | ⟨keys, t, _, _, _, rfl⟩
    · exact ⟨fun j hj => calm.holder.trans (hs.held j hj), fun hn =>
        calm.stale.trans (hs.settled (calm.holder.symm.trans hn))⟩
    · exact ⟨hs.held, hs.settled⟩

/-! ## What requests get -/

/-- What requests get from the Cell in `s`, if the contents `base` were put in place in `s₁`. -/
structure Serves (engine : SqlCall → Nat → U → Result R × U) (db : DatabaseId)
    (base : List Commit) (s₁ s : Pool CellNode Nat (Task R)) : Prop where
  /-- The database is what was put in place, followed by everything committed since. -/
  contents : s.shared.disk.contents = base ++ s.shared.log.drop s₁.shared.log.length
  /-- Every unexpired entry agrees with that database, but for the key that a running closure is
  about to update. -/
  coherent : CoherentExcept s.shared.stale (s.shared.kv engine db)
  /-- So a read gets what is live in that database. -/
  reads : s.shared.holder = none → ∀ r reply, readReply db (s.shared.kv engine db) r = some reply →
    (serve db (s.shared.kv engine db) r).1 = .ok reply
  /-- Nothing of it is lost when the connection is closed and opened again. -/
  durable : ∀ checkpoint,
    (s.shared.closeConn checkpoint).disk.openConn.contents = s.shared.disk.contents
  /-- What a request has committed that is answered since `s₁` is in the database. -/
  acknowledged : ∀ j res, (s₁.procs j).isRequest = true → (s₁.procs j).isAnswered = false →
    s.procs j = .answered res → ∀ c ∈ s.shared.log, c.task = some j → c ∈ s.shared.disk.contents

lemma pristine_of_not_caught (hreq : t.isRequest = true)
    (hans : t.isAnswered = false) (hcaught : t.caught = false) : t.pristine = true := by
  cases t with
  | entry ran p =>
    cases ran with
    | false => rfl
    | true => cases hcaught
  | arrived | fast | query => rfl
  | running c p k => cases hcaught
  | answered res => cases hans
  | reset | restore => cases hreq

lemma InService.serves {base : List Commit} {s₁ s : Pool CellNode Nat (Task R)}
    (hs : InService engine db (fun _ => false) base s₁.shared.log.length s)
    (hlog : s₁.shared.log <+: s.shared.log) (hledger : Ledger s₁)
    (hdrained : ∀ j, (s₁.procs j).caught = false) : Serves engine db base s₁ s where
  contents := hs.sound.contents
  coherent := hs.sound.steady.1
  reads := fun free r reply hr => (serve_read (hs.sound.steady.2 free).coherent hr).2
  durable := fun checkpoint => by
    rw [Disk.contents_openConn]
    exact ((Calm.closeConn s.shared checkpoint).disk hs.sound.attached).2
  acknowledged := by
    intro j res hreq hans _ c hc htask
    obtain ⟨cs, hcs⟩ := hlog
    have hnot : c ∉ s₁.shared.log := fun hmem =>
      hledger j (pristine_of_not_caught hreq hans (hdrained j)) c hmem htask
    rw [hs.sound.contents, ← hcs, List.drop_left]
    rw [← hcs] at hc
    exact List.mem_append_right _ ((List.mem_append.mp hc).resolve_left hnot)

end

end Combee.DataNode.OneCell
