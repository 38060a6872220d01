import Combee.Cluster.Frames

/-!
# AdminFrames — the moves of restore, migration and reset

The counterpart of `Frames` for the requests that change a Cell as a whole: `restore` on a node and
its request, `admin_migrate_cell` and `reset_database`.
-/

namespace Combee.Cluster

open Foundation Storage

variable {w w' : World} {ch : Choice}

/-! ## `restore` -/

/-- What `restore` does first, with and without a version. -/
def RestorePc.afterClose : Option ObjKey → RestorePc
  | some k => .getFull k
  | none => .files .list

inductive RestoreMove (w : World) (n : NodeId) : RestorePc → World → RestorePc → Prop
  | close {version} :
      RestoreMove w n (.close version) (w.setDisk n (w.disks n).close) (.afterClose version)
  | files {pc pc' w'} (h : FilesMove w n pc w' pc') : RestoreMove w n (.files pc) w' pc'.restore
  | listed {k} (h : lastListed w.store = some k) : RestoreMove w n .listFull w (.getFull k)
  | getFull {k o} (h : w.store.lookup k = some o) :
      RestoreMove w n (.getFull k) w (.renameFull o.bytes)
  | renameFull {bytes} :
      RestoreMove w n (.renameFull bytes) (w.setDisk n ((w.disks n).renameMain bytes)) .removeWal
  | removeWal : RestoreMove w n .removeWal (w.setDisk n (w.disks n).removeWal) .check
  | keepWal : RestoreMove w n .removeWal w .check
  | check : RestoreMove w n .check (w.setDisk n (w.disks n).openConn) .clear
  | damaged : RestoreMove w n .check (w.setDisk n (w.disks n).openConn.close) .failed
  | clear : RestoreMove w n .clear (w.setCache n []) .done
  | fail {pc} : RestoreMove w n pc w .failed

lemma restoreStep_move {n : NodeId} {pc pc' : RestorePc}
    (h : restoreStep w n pc ch = some (w', pc')) : RestoreMove w n pc w' pc' := by
  cases pc with
  | close version =>
    simp only [restoreStep] at h
    split at h <;> cases h
    · cases version with
      | some | none => exact .close
    · exact .fail
  | files pc =>
    obtain ⟨pc1, hf, rfl⟩ := of_map_step h
    exact .files (filesStep_move hf)
  | listFull =>
    simp only [restoreStep] at h
    split at h
    · rename_i k _ hk
      cases h
      exact .listed hk
    · cases h
      exact .fail
  | getFull k =>
    simp only [restoreStep] at h
    split at h
    · rename_i o _ ho
      cases h
      exact .getFull ho
    · cases h
      exact .fail
  | renameFull bytes => exact of_ok h .renameFull fun _ => .fail
  | removeWal =>
    simp only [restoreStep] at h
    split at h <;> cases h
    · exact .removeWal
    · exact .keepWal
  | check => exact of_ok h .check fun _ => .damaged
  | clear =>
    cases h
    exact .clear
  | done => cases h
  | failed => cases h

lemma RestoreMove.frame {n : NodeId} {pc pc' : RestorePc} (h : RestoreMove w n pc w' pc') :
    ∃ d c, w' = (w.setDisk n d).setCache n c := by
  have hcache : ∀ v : World, v = v.setCache n (v.caches n) := fun v => by simp [World.setCache]
  have hdisk : w = w.setDisk n (w.disks n) := by simp [World.setDisk]
  cases h with
  | close | renameFull | removeWal | check | damaged => exact ⟨_, _, hcache _⟩
  | files h =>
    obtain ⟨d, rfl⟩ := h.frame
    exact ⟨d, _, hcache _⟩
  | clear => exact ⟨w.disks n, [], by rw [← hdisk]⟩
  | listed | getFull | keepWal | fail => exact ⟨w.disks n, w.caches n, by rw [← hdisk, ← hcache]⟩

inductive RestoreReqMove (w : World) (a : Nat) : RestoreReqPc → World → RestoreReqPc → Prop
  | begin : RestoreReqMove w a .start w (.route .cached)
  | route {r r' ch w'} (h : routeStep w a r ch = some (w', r')) :
      RestoreReqMove w a (.route r) w' (.route r')
  | send {c} : RestoreReqMove w a (.route (.done c)) w (.restoring c.node (.close none))
  | restore {n pc pc' w'} (h : RestoreMove w n pc w' pc') :
      RestoreReqMove w a (.restoring n pc) w' (.restoring n pc')
  | restored {n pc w'} (h : RestoreMove w n pc w' .done) :
      RestoreReqMove w a (.restoring n pc) w' .returned
  | broken {n pc w'} (h : RestoreMove w n pc w' .failed) :
      RestoreReqMove w a (.restoring n pc) w' .failed
  | lost {c} : RestoreReqMove w a (.route (.done c)) (w.setApi a ((w.apis a).rpcFailed c)) .failed
  | fail {pc} : RestoreReqMove w a pc w .failed

lemma restoreReqStep_move {a : Nat} {pc pc' : RestoreReqPc}
    (h : restoreReqStep w a pc ch = some (w', pc')) : RestoreReqMove w a pc w' pc' := by
  cases pc with
  | start =>
    simp only [restoreReqStep] at h
    split at h <;> cases h
    · exact .begin
    · exact .fail
  | route r =>
    cases r with
    | done c => exact of_ok h .send fun _ => .lost
    | failed =>
      cases h
      exact .fail
    | cached | resolving | retrying n =>
      obtain ⟨r', hr, rfl⟩ := of_map_step h
      exact .route hr
  | restoring n pc =>
    obtain ⟨pc1, hp, rfl⟩ := of_map_step h
    cases pc1 with
    | done => exact .restored (restoreStep_move hp)
    | failed => exact .broken (restoreStep_move hp)
    | _ =>
      exact .restore (restoreStep_move hp)
  | returned | failed => cases h

/-! ## `admin_migrate_cell` -/

/-- The moves of the migration `i` to `dest`; the choice of the step is kept where it decides. -/
inductive MigrateMove (w : World) (i a : Nat) (dest : NodeId) (ch : Choice) :
    MigratePc → World → MigratePc → Prop
  | read (h : w.record.storageNodeId ≠ some dest) :
      MigrateMove w i a dest ch .start w (.checkTarget w.record.storageNodeId)
  | target {source c p} (h : (w.apis a).clientForNode dest ch = (.ok c, p)) :
      MigrateMove w i a dest ch (.checkTarget source) (w.setApi a p) (.move source)
  | move {source} :
      MigrateMove w i a dest ch (.move source) (w.setRecord (w.record.migrateDatabase dest))
        (.route source (w.record.migrateDatabase dest).generation .cached)
  | route {source g r r' w'} (h : routeStep w a r ch = some (w', r')) :
      MigrateMove w i a dest ch (.route source g r) w' (.route source g r')
  | send {source g c} :
      MigrateMove w i a dest ch (.route source g (.done c)) w (.snapshot source g c)
  | lost {source g c} (hok : ch.ok = false) :
      MigrateMove w i a dest ch (.route source g (.done c)) (w.setApi a ((w.apis a).rpcFailed c))
        (.target source g none)
  | skipped {source g} :
      MigrateMove w i a dest ch (.route source g .failed) w (.target source g none)
  | snapshot {source g c} :
      MigrateMove w i a dest ch (.snapshot source g c) (w.setDisk c.node (w.disks c.node).openConn)
        (.upload source g c (w.disks c.node).openConn.contents)
  | noSnapshot {source g c} (hok : ch.ok = false) :
      MigrateMove w i a dest ch (.snapshot source g c) w (.target source g none)
  | upload {source g c bytes} :
      MigrateMove w i a dest ch (.upload source g c bytes)
        (w.putObject (.full ch.ms i) ⟨bytes, c.node, w.record.generation⟩)
        (.target source g (some (.full ch.ms i)))
  | noUpload {source g c bytes} (hok : ch.ok = false) :
      MigrateMove w i a dest ch (.upload source g c bytes) w (.target source g none)
  | connect {source g version c p} (h : (w.apis a).clientForNode dest ch = (.ok c, p)) :
      MigrateMove w i a dest ch (.target source g version) (w.setApi a p)
        (.restoring source g c (.close version))
  | restore {source g c pc pc' w'} (h : RestoreMove w c.node pc w' pc') :
      MigrateMove w i a dest ch (.restoring source g c pc) w' (.restoring source g c pc')
  | restored {source g c pc w'} (h : RestoreMove w c.node pc w' .done) :
      MigrateMove w i a dest ch (.restoring source g c pc) w' (.returned source g)
  | broken {source g c pc w'} (h : RestoreMove w c.node pc w' .failed) :
      MigrateMove w i a dest ch (.restoring source g c pc) w' .failed
  | refused (h : ch.ok = false ∨ w.record.storageNodeId = some dest) :
      MigrateMove w i a dest ch .start w .failed
  | noTarget {source} (h : ch.healthy dest = false) :
      MigrateMove w i a dest ch (.checkTarget source) w .failed
  | noMove {source} (hok : ch.ok = false) : MigrateMove w i a dest ch (.move source) w .failed
  | gone {source g version} (h : ch.healthy dest = false) :
      MigrateMove w i a dest ch (.target source g version) w .failed

lemma clientForNode_unhealthy {p p' : Provider} {n : NodeId} {e : CombeeError}
    (h : p.clientForNode n ch = (.error e, p')) : ch.healthy n = false := by
  unfold Provider.clientForNode at h
  split at h
  · split at h <;> cases h
  · rename_i hh
    simpa using hh

lemma migrateStep_move {i a : Nat} {dest : NodeId} {pc pc' : MigratePc}
    (h : migrateStep w i a dest pc ch = some (w', pc')) : MigrateMove w i a dest ch pc w' pc' := by
  cases pc with
  | start =>
    simp only [migrateStep] at h
    split at h <;> rename_i hs <;> cases h
    · exact .read hs.2
    · refine .refused ?_
      by_cases hok : ch.ok = true
      · exact .inr (by simpa [hok] using hs)
      · exact .inl (by simpa using hok)
  | checkTarget source =>
    simp only [migrateStep] at h
    split at h <;> rename_i hc <;> cases h
    · exact .target hc
    · rw [clientForNode_error hc, setApi_self]
      exact .noTarget (clientForNode_unhealthy hc)
  | move source => exact of_ok h .move .noMove
  | route source g r =>
    cases r with
    | done c => exact of_ok h .send .lost
    | failed =>
      cases h
      exact .skipped
    | cached | resolving | retrying n =>
      obtain ⟨r', hr, rfl⟩ := of_map_step h
      exact .route hr
  | snapshot source g c => exact of_ok h .snapshot .noSnapshot
  | upload source g c bytes => exact of_ok h .upload .noUpload
  | target source g version =>
    simp only [migrateStep] at h
    split at h <;> rename_i hc <;> cases h
    · exact .connect hc
    · rw [clientForNode_error hc, setApi_self]
      exact .gone (clientForNode_unhealthy hc)
  | restoring source g c pc =>
    obtain ⟨pc1, hp, rfl⟩ := of_map_step h
    cases pc1 with
    | done => exact .restored (restoreStep_move hp)
    | failed => exact .broken (restoreStep_move hp)
    | _ =>
      exact .restore (restoreStep_move hp)
  | returned | failed => cases h

/-! ## `reset_database` -/

inductive ResetMove (w : World) (a : Nat) (ch : Choice) : ResetPc → World → ResetPc → Prop
  | begin : ResetMove w a ch .start w (.route .cached)
  | route {r r' w'} (h : routeStep w a r ch = some (w', r')) :
      ResetMove w a ch (.route r) w' (.route r')
  | send {c} :
      ResetMove w a ch (.route (.done c)) (w.setDisk c.node (w.disks c.node).close) (.clear c.node)
  | clear {n} : ResetMove w a ch (.clear n) (w.setCache n []) (.removeMain n)
  | removeMain {n} :
      ResetMove w a ch (.removeMain n) (w.setDisk n (w.disks n).removeMain) (.removeWal n)
  | removeWal {n} : ResetMove w a ch (.removeWal n) (w.setDisk n (w.disks n).removeWal) .bump
  | bump : ResetMove w a ch .bump (w.setRecord w.record.resetDatabase) .returned
  | lost {c} (hok : ch.ok = false) :
      ResetMove w a ch (.route (.done c)) (w.setApi a ((w.apis a).rpcFailed c)) .failed
  | noRoute : ResetMove w a ch (.route .failed) w .failed
  | fail {pc} (hok : ch.ok = false) : ResetMove w a ch pc w .failed

lemma resetStep_move {a : Nat} {pc pc' : ResetPc} (h : resetStep w a pc ch = some (w', pc')) :
    ResetMove w a ch pc w' pc' := by
  cases pc with
  | start =>
    simp only [resetStep] at h
    split at h <;> rename_i hok <;> cases h
    · exact .begin
    · exact .fail (by simpa using hok)
  | route r =>
    cases r with
    | done c => exact of_ok h .send .lost
    | failed =>
      cases h
      exact .noRoute
    | cached | resolving | retrying n =>
      obtain ⟨r', hr, rfl⟩ := of_map_step h
      exact .route hr
  | clear n =>
    cases h
    exact .clear
  | removeMain n => exact of_ok h .removeMain .fail
  | removeWal n => exact of_ok h .removeWal .fail
  | bump => exact of_ok h .bump .fail
  | returned | failed => cases h

end Combee.Cluster
