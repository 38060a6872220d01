import Combee.Cluster.AdminFrames

/-!
# Reset — what can come back after a reset

`reset_database` removes the files of the Cell's storage node and keeps its archives: they are there
for a recovery. Whatever takes an archive later does not ask whether it is older than the reset.
-/

namespace Combee.Cluster

open Foundation Storage

/-! ## What is asked -/

/-- The object `k`, if it is there, holds no data. -/
def NoData (st : ObjectStore Archived) (k : ObjKey) : Prop :=
  ∀ o, st.lookup k = some o → o.bytes = []

/-- The archive that a restore without a version takes holds no data. -/
structure ArchiveEmpty (st : ObjectStore Archived) : Prop where
  incr : ∀ snap wal, latestIncr st = some (snap, wal) →
    NoData st snap ∧ ∀ k, wal = some k → NoData st k
  full : latestIncr st = none → ∀ k, lastListed st = some k → NoData st k

structure NodeEmpty (w : World) (n : NodeId) : Prop where
  disk : (w.disks n).Empty
  cache : w.caches n = []

lemma NodeEmpty.readable {w : World} {n : NodeId} (h : NodeEmpty w n) : w.readable n = [] := by
  simp [World.readable, h.disk.contents, h.cache]

def Proc.Later : Proc → Prop
  | .failover _ .start => True
  | .restore _ .start => True
  | .replicaLoop _ .idle => True
  | _ => False

/-- The clients of an API server are right, and its cached route is the node `p` or none. -/
structure Provider.Points (pr : Provider) (p : NodeId) : Prop where
  clients : ∀ n c, pr.clients n = some c → c.node = n
  route : pr.route = none ∨ pr.route = some p

/-- The state before the reset `m` of a Cell on the node `p`. -/
structure ResetReady (p : NodeId) (m a : Nat) (s : System) : Prop where
  storage : s.shared.record.storageNodeId = some p
  points : ∀ b, (s.shared.apis b).Points p
  replica : ∀ r, s.shared.record.replicaNodeId = some r → NodeEmpty s.shared r
  reset : s.procs m = .reset a .start
  later : ∀ i, i ≠ m → (s.procs i).Later
  restore : ∃ q b, s.procs q = .restore b .start

/-! ## Routing to the storage node -/

section Routes

variable {w w' : World} {p : NodeId} {a : Nat} {ch : Choice}

/-- The route is, or will be, the node `p`. -/
def Routing.Toward (p : NodeId) : Routing → Prop
  | .retrying n => n = p
  | .done c => c.node = p
  | _ => True

variable {pr : Provider}

section

variable (h : pr.Points p)
include h

lemma Provider.Points.makeClient :
    (pr.makeClient p p).2.Points p ∧ (pr.makeClient p p).1.node = p := by
  refine ⟨⟨fun n c hc => ?_, h.route⟩, rfl⟩
  rcases makeClient_clients hc with hc | ⟨hn, hc⟩
  · exact h.clients n c hc
  · exact hc.trans hn.symm

lemma Provider.Points.setRoute {route : Option NodeId}
    (hroute : route = none ∨ route = some p) : Provider.Points { pr with route := route } p :=
  ⟨h.clients, hroute⟩

lemma Provider.Points.lookupRoute (ch : Choice) :
    (pr.lookupRoute ch).2.Points p ∧ ∀ c, (pr.lookupRoute ch).1 = some c → c.node = p := by
  unfold Provider.lookupRoute
  split
  · exact ⟨h, nofun⟩
  · rename_i n hn
    obtain rfl : n = p := by simpa [hn] using h.route
    split
    · split
      · rename_i c hc
        exact ⟨h, fun c' hc' => Option.some.inj hc' ▸ h.clients n c hc⟩
      · split
        · exact ⟨h.makeClient.1, fun c hc => Option.some.inj hc ▸ rfl⟩
        · exact ⟨h.setRoute (.inl rfl), nofun⟩
    · exact ⟨h, nofun⟩

lemma Provider.Points.resolve (l : Option NodeId) (ch : Choice)
    {R : DatabaseRecord} (hst : R.storageNodeId = some p) :
    (pr.resolve l R ch).2.Points p ∧ (pr.resolve l R ch).1.routing.Toward p := by
  simp only [Provider.resolve, hst]
  split
  · exact ⟨(h.setRoute (.inr rfl)).makeClient.1, rfl⟩
  · exact ⟨h.setRoute (.inl rfl), rfl⟩

lemma Provider.Points.retry (ch : Choice) {R : DatabaseRecord} (hst : R.storageNodeId = some p) :
    (pr.retry p R ch).2.Points p ∧ (pr.retry p R ch).1.routing.Toward p := by
  simp only [Provider.retry, hst]
  split
  · exact ⟨(h.setRoute (.inr rfl)).makeClient.1, rfl⟩
  · exact ⟨h.setRoute (.inr rfl), trivial⟩

end

lemma points_setApi (h : ∀ b, (w.apis b).Points p) (hpr : pr.Points p) (b : Nat) :
    ((w.setApi a pr).apis b).Points p := by
  by_cases hb : b = a
  · simpa [World.setApi, hb] using hpr
  · simpa [World.setApi, hb] using h b

lemma routeStep_points {r r' : Routing} (hst : w.record.storageNodeId = some p)
    (hp : ∀ b, (w.apis b).Points p) (hr : r.Toward p) (h : routeStep w a r ch = some (w', r')) :
    (∀ b, (w'.apis b).Points p) ∧ r'.Toward p := by
  cases r with
  | cached =>
    obtain ⟨hpr, hc⟩ := (hp a).lookupRoute ch
    simp only [routeStep] at h
    split at h <;> rename_i hl <;> rw [hl] at hpr hc <;> cases h
    · exact ⟨points_setApi hp hpr, hc _ rfl⟩
    · exact ⟨points_setApi hp hpr, trivial⟩
  | resolving =>
    simp only [routeStep] at h
    split at h <;> cases h
    · obtain ⟨hpr, hres⟩ := (hp a).resolve w.localNode ch hst
      exact ⟨points_setApi hp hpr, hres⟩
    · exact ⟨hp, trivial⟩
  | retrying n =>
    obtain rfl : n = p := hr
    simp only [routeStep] at h
    split at h <;> cases h
    · obtain ⟨hpr, hres⟩ := (hp a).retry ch hst
      exact ⟨points_setApi hp hpr, hres⟩
    · exact ⟨hp, trivial⟩
  | done | failed => cases h

end Routes

/-! ## The reset -/

section Wiping

variable {w₀ w w' : World} {p : NodeId} {m a : Nat} {ch : Choice}

/-- What the reset of a Cell on `p` leaves as it is. -/
structure ResetKeeps (w₀ : World) (p : NodeId) (w : World) : Prop where
  points : ∀ b, (w.apis b).Points p
  storage : w.record.storageNodeId = some p
  replica : w.record.replicaNodeId = w₀.record.replicaNodeId
  store : w.store = w₀.store
  others : ∀ n, n ≠ p → w.disks n = w₀.disks n ∧ w.caches n = w₀.caches n

/-- How far the reset has come on `p`. -/
def ResetOk (p : NodeId) (w : World) : ResetPc → Prop
  | .route r => r.Toward p
  | .clear n => n = p ∧ (w.disks p).conn = none
  | .removeMain n => n = p ∧ (w.disks p).conn = none ∧ w.caches p = []
  | .removeWal n => n = p ∧ (w.disks p).conn = none ∧ w.caches p = [] ∧ (w.disks p).main = none
  | .bump => (w.disks p).conn = none ∧ w.caches p = [] ∧ (w.disks p).main = none ∧
      (w.disks p).wal = none
  | .returned => (w.disks p).conn = none ∧ w.caches p = [] ∧ (w.disks p).main = none ∧
      (w.disks p).wal = none
  | _ => True

lemma ResetKeeps.setDisk (h : ResetKeeps w₀ p w) (d : Disk Nat) :
    ResetKeeps w₀ p (w.setDisk p d) :=
  ⟨h.points, h.storage, h.replica, h.store, fun n hn => by
    simpa [World.setDisk, hn] using h.others n hn⟩

lemma ResetMove.wipes {pc pc' : ResetPc} (h : ResetMove w a ch pc w' pc') (hk : ResetKeeps w₀ p w)
    (hpc : ResetOk p w pc) : ResetKeeps w₀ p w' ∧ ResetOk p w' pc' := by
  cases h with
  | begin | noRoute | fail => exact ⟨hk, trivial⟩
  | route h =>
    obtain ⟨hpoints, hr⟩ := routeStep_points hk.storage hk.points hpc h
    have hw := (routeStep_spec h).1
    refine ⟨⟨hpoints, ?_, ?_, ?_, ?_⟩, hr⟩ <;> rw [hw]
    · exact hk.storage
    · exact hk.replica
    · exact hk.store
    · exact hk.others
  | @send c =>
    obtain rfl : c.node = p := hpc
    exact ⟨hk.setDisk _, rfl, by simp [World.setDisk, Disk.close_conn]⟩
  | clear =>
    obtain ⟨rfl, hconn⟩ := hpc
    refine ⟨⟨hk.points, hk.storage, hk.replica, hk.store, fun n hn => ?_⟩, rfl, hconn, ?_⟩
    · simpa [World.setCache, hn] using hk.others n hn
    · simp [World.setCache]
  | removeMain =>
    obtain ⟨rfl, hconn, hcache⟩ := hpc
    exact ⟨hk.setDisk _, rfl, by simpa [World.setDisk, Disk.removeMain] using hconn, hcache,
      by simp [World.setDisk, Disk.removeMain]⟩
  | removeWal =>
    obtain ⟨rfl, hconn, hcache, hmain⟩ := hpc
    exact ⟨hk.setDisk _, by simpa [World.setDisk, Disk.removeWal] using hconn, hcache,
      by simpa [World.setDisk, Disk.removeWal] using hmain,
      by simp [World.setDisk, Disk.removeWal]⟩
  | bump => exact ⟨⟨hk.points, hk.storage, hk.replica, hk.store, hk.others⟩, hpc⟩
  | @lost c =>
    refine ⟨⟨points_setApi hk.points ?_, hk.storage, hk.replica, hk.store, hk.others⟩, trivial⟩
    obtain ⟨hclients, hroute⟩ := hk.points a
    refine ⟨by rw [rpcFailed_clients]; exact hclients, ?_⟩
    unfold Provider.rpcFailed
    split
    · exact .inl rfl
    · exact hroute

/-- The storage node has no files, no connection and no cached entries, and everything else is as it
was. -/
lemma ResetReady.wiped {s₀ s₁ : System} {cs : List Choice} (h : ResetReady p m a s₀)
    (hrun : exec step s₀ (cs.map (.proc m)) = some s₁) (hret : s₁.procs m = .reset a .returned) :
    ResetKeeps s₀.shared p s₁.shared ∧ ResetOk p s₁.shared .returned ∧
      ∀ i, i ≠ m → s₁.procs i = s₀.procs i := by
  have hothers : ∀ i, i ≠ m → s₁.procs i = s₀.procs i := by
    refine fun i hi => procs_of_exec (fun l hl => ?_) hrun
    obtain ⟨c, _, rfl⟩ := List.mem_map.mp hl
    exact ⟨m, c, rfl, hi.symm⟩
  -- along the run: how far the reset is, what it has kept and what it has wiped so far
  have hinv : ∃ pc, s₁.procs m = .reset a pc ∧ ResetKeeps s₀.shared p s₁.shared ∧
      ResetOk p s₁.shared pc := by
    refine inv_of_exec (I := fun s => ∃ pc, s.procs m = .reset a pc ∧
      ResetKeeps s₀.shared p s.shared ∧ ResetOk p s.shared pc)
      (C := fun _ l => ∃ c, l = .proc m c) ?_
      ⟨.start, h.reset, ⟨h.points, h.storage, rfl, rfl, fun _ _ => ⟨rfl, rfl⟩⟩, trivial⟩
      (meets_of_forall fun _ l hl => ?_) hrun
    · rintro s l s' ⟨pc, hp, hk, hpc⟩ ⟨c, rfl⟩ hs
      obtain ⟨w', p', hact, rfl⟩ := Pool.step_proc_eq_some.mp hs
      rw [hp] at hact
      obtain ⟨pc1, hstep, rfl⟩ := of_map_step hact
      obtain ⟨hk', hpc'⟩ := (resetStep_move hstep).wipes hk hpc
      exact ⟨pc1, by simp, hk', hpc'⟩
    · obtain ⟨c, _, rfl⟩ := List.mem_map.mp hl
      exact ⟨c, rfl⟩
  obtain ⟨pc, hp, hk, hpc⟩ := hinv
  cases hret.symm.trans hp
  exact ⟨hk, hpc, hothers⟩

end Wiping

/-! ## Later operations put back nothing if the archive is empty -/

section Later

variable {st : ObjectStore Archived} {w w' : World} {n : NodeId}

/-- What `restore_from_incr` carries holds no data. -/
def FilesClean (st : ObjectStore Archived) : FilesPc → Prop
  | .getSnap snap wal => NoData st snap ∧ ∀ k, wal = some k → NoData st k
  | .renameMain bytes wal => bytes = [] ∧ ∀ k, wal = some k → NoData st k
  | .getWal k => NoData st k
  | .renameWal bytes => bytes = []
  | .done false => latestIncr st = none
  | _ => True

def PullClean (st : ObjectStore Archived) : PullPc → Prop
  | .files pc => FilesClean st pc
  | _ => True

def RestoreClean (st : ObjectStore Archived) : RestorePc → Prop
  | .close version => version = none
  | .files pc => FilesClean st pc
  | .listFull => latestIncr st = none
  | .getFull k => NoData st k
  | .renameFull bytes => bytes = []
  | _ => True

def LaterOk (st : ObjectStore Archived) : Proc → Prop
  | .failover _ (.pulling _ _ _ pc) => PullClean st pc
  | .failover _ _ => True
  | .restore _ (.restoring _ pc) => RestoreClean st pc
  | .restore _ _ => True
  | .replicaLoop _ (.pulling pc) => PullClean st pc
  | .replicaLoop _ .idle => True
  | .reset _ .returned => True
  | _ => False

/-- The nodes in `kin` are empty, and they are all that the record names. -/
structure Clean (st : ObjectStore Archived) (kin : NodeId → Prop) (w : World) : Prop where
  empty : ∀ n, kin n → NodeEmpty w n
  named : ∀ n, w.record.storageNodeId = some n ∨ w.record.replicaNodeId = some n → kin n
  store : w.store = st

lemma NodeEmpty.setDisk {m : NodeId} {d : Disk Nat} (h : NodeEmpty w m)
    (hd : (w.disks n).Empty → d.Empty) : NodeEmpty (w.setDisk n d) m := by
  refine ⟨?_, h.cache⟩
  by_cases hm : m = n
  · subst hm
    simpa [World.setDisk] using hd h.disk
  · simpa [World.setDisk, hm] using h.disk

lemma NodeEmpty.setCache {m : NodeId} (h : NodeEmpty w m) : NodeEmpty (w.setCache n []) m := by
  refine ⟨h.disk, ?_⟩
  by_cases hm : m = n
  · simp [World.setCache, hm]
  · simpa [World.setCache, hm] using h.cache

variable {pc : FilesPc}

lemma FilesMove.clean {pc' : FilesPc} (hA : ArchiveEmpty w.store)
    (h : FilesMove w n pc w' pc') (hpc : FilesClean w.store pc) :
    FilesClean w.store pc' ∧ ∀ m, NodeEmpty w m → NodeEmpty w' m := by
  cases h with
  | nothing h => exact ⟨h, fun _ hm => hm⟩
  | chosen h => exact ⟨hA.incr _ _ h, fun _ hm => hm⟩
  | getSnap h => exact ⟨⟨hpc.1 _ h, hpc.2⟩, fun _ hm => hm⟩
  | @renameMain bytes wal =>
    obtain ⟨rfl, hwal⟩ := hpc
    refine ⟨?_, fun _ hm => hm.setDisk fun hd => hd.renameMain⟩
    cases wal with
    | some k => exact hwal k rfl
    | none => trivial
  | getWal h => exact ⟨hpc _ h, fun _ hm => hm⟩
  | renameWal =>
    obtain rfl : _ = [] := hpc
    exact ⟨trivial, fun _ hm => hm.setDisk fun hd => hd.renameWal⟩
  | removeWal => exact ⟨trivial, fun _ hm => hm.setDisk fun hd => hd.removeWal⟩
  | keepWal | fail => exact ⟨trivial, fun _ hm => hm⟩

lemma FilesClean.pull (h : FilesClean st pc) : PullClean st pc.pull := by
  cases pc with
  | done applied => cases applied <;> trivial
  | failed => trivial
  | _ => exact h

lemma FilesClean.restore (h : FilesClean st pc) : RestoreClean st pc.restore := by
  cases pc with
  | done applied =>
    cases applied with
    | true => trivial
    | false => exact h
  | failed => trivial
  | _ => exact h

lemma PullMove.clean {pc pc' : PullPc} (hA : ArchiveEmpty w.store) (h : PullMove w n pc w' pc')
    (hpc : PullClean w.store pc) : PullClean w.store pc' ∧ ∀ m, NodeEmpty w m → NodeEmpty w' m := by
  cases h with
  | close => exact ⟨trivial, fun _ hm => hm.setDisk fun hd => hd.close⟩
  | files h =>
    obtain ⟨hclean, hempty⟩ := h.clean hA hpc
    exact ⟨hclean.pull, hempty⟩
  | clear => exact ⟨trivial, fun _ hm => hm.setCache⟩
  | fail => exact ⟨trivial, fun _ hm => hm⟩

lemma RestoreMove.clean {pc pc' : RestorePc} (hA : ArchiveEmpty w.store)
    (h : RestoreMove w n pc w' pc') (hpc : RestoreClean w.store pc) :
    RestoreClean w.store pc' ∧ ∀ m, NodeEmpty w m → NodeEmpty w' m := by
  cases h with
  | close =>
    obtain rfl : _ = none := hpc
    exact ⟨trivial, fun _ hm => hm.setDisk fun hd => hd.close⟩
  | files h =>
    obtain ⟨hclean, hempty⟩ := h.clean hA hpc
    exact ⟨hclean.restore, hempty⟩
  | listed h => exact ⟨hA.full hpc _ h, fun _ hm => hm⟩
  | getFull h => exact ⟨hpc _ h, fun _ hm => hm⟩
  | renameFull =>
    obtain rfl : _ = [] := hpc
    exact ⟨trivial, fun _ hm => hm.setDisk fun hd => hd.renameMain⟩
  | removeWal => exact ⟨trivial, fun _ hm => hm.setDisk fun hd => hd.removeWal⟩
  | keepWal | fail => exact ⟨trivial, fun _ hm => hm⟩
  | check => exact ⟨trivial, fun _ hm => hm.setDisk fun hd => hd.openConn⟩
  | damaged => exact ⟨trivial, fun _ hm => hm.setDisk fun hd => hd.openConn.close⟩
  | clear => exact ⟨trivial, fun _ hm => hm.setCache⟩

variable {kin : NodeId → Prop} {a i : Nat} {ch : Choice}

lemma Clean.of_empty (hc : Clean st kin w) (hrec : w'.record = w.record)
    (hstore : w'.store = w.store) (hempty : ∀ m, NodeEmpty w m → NodeEmpty w' m) :
    Clean st kin w' :=
  ⟨fun n hn => hempty n (hc.empty n hn), by rw [hrec]; exact hc.named, hstore.trans hc.store⟩

lemma Clean.pull {pc pc' : PullPc} (hA : ArchiveEmpty st) (hc : Clean st kin w)
    (h : PullMove w n pc w' pc') (hpc : PullClean st pc) : Clean st kin w' ∧ PullClean st pc' := by
  obtain rfl := hc.store
  obtain ⟨hclean, hempty⟩ := h.clean hA hpc
  obtain ⟨d, cs, rfl⟩ := h.frame
  exact ⟨hc.of_empty rfl rfl hempty, hclean⟩

lemma Clean.restore {pc pc' : RestorePc} (hA : ArchiveEmpty st) (hc : Clean st kin w)
    (h : RestoreMove w n pc w' pc') (hpc : RestoreClean st pc) :
    Clean st kin w' ∧ RestoreClean st pc' := by
  obtain rfl := hc.store
  obtain ⟨hclean, hempty⟩ := h.clean hA hpc
  obtain ⟨d, cs, rfl⟩ := h.frame
  exact ⟨hc.of_empty rfl rfl hempty, hclean⟩

lemma Clean.setApi (hc : Clean st kin w) (pr : Provider) : Clean st kin (w.setApi a pr) :=
  hc.of_empty rfl rfl fun _ hm => ⟨hm.disk, hm.cache⟩

lemma Clean.routeStep {r r' : Routing} (hc : Clean st kin w)
    (h : routeStep w a r ch = some (w', r')) : Clean st kin w' := by
  rw [(routeStep_spec h).1]
  exact hc.of_empty rfl rfl fun _ hm => ⟨hm.disk, hm.cache⟩

lemma FailoverMove.clean {pc pc' : FailoverPc} (hA : ArchiveEmpty st) (hc : Clean st kin w)
    (h : FailoverMove w a ch pc w' pc') (hpc : LaterOk st (.failover a pc)) :
    Clean st kin w' ∧ LaterOk st (.failover a pc') := by
  cases h with
  | read | skip | finish | refused => exact ⟨hc, trivial⟩
  | connect | lostNew | reach | lostOld => exact ⟨hc.setApi _, trivial⟩
  | pull h => exact hc.pull hA h hpc
  | pulled h | broken h => exact ⟨(hc.pull hA h hpc).1, trivial⟩
  | promote h =>
    refine ⟨⟨fun n hn => ⟨(hc.empty n hn).disk, (hc.empty n hn).cache⟩, ?_, hc.store⟩, trivial⟩
    -- the promoted record names the replica of the old one
    cases hr : w.record.replicaNodeId with
    | none => simp [DatabaseRecord.promoteReplica, hr] at h
    | some r =>
      simp only [DatabaseRecord.promoteReplica, hr] at h
      cases h
      rintro n (hn | hn)
      · exact hc.named n (.inr (hr.trans hn))
      · cases hn
  | fenceNew | fenceOld =>
    exact ⟨hc.of_empty rfl rfl fun _ hm => ⟨hm.disk, hm.cache⟩, trivial⟩

lemma RestoreReqMove.clean {pc pc' : RestoreReqPc} (hA : ArchiveEmpty st) (hc : Clean st kin w)
    (h : RestoreReqMove w a pc w' pc') (hpc : LaterOk st (.restore a pc)) :
    Clean st kin w' ∧ LaterOk st (.restore a pc') := by
  cases h with
  | begin | fail => exact ⟨hc, trivial⟩
  | route h => exact ⟨hc.routeStep h, trivial⟩
  | send => exact ⟨hc, rfl⟩
  | restore h => exact hc.restore hA h hpc
  | restored h | broken h => exact ⟨(hc.restore hA h hpc).1, trivial⟩
  | lost => exact ⟨hc.setApi _, trivial⟩

lemma ReplicaMove.clean {pc pc' : ReplicaPc} (hA : ArchiveEmpty st) (hc : Clean st kin w)
    (h : ReplicaMove w n pc w' pc') (hpc : LaterOk st (.replicaLoop n pc)) :
    Clean st kin w' ∧ LaterOk st (.replicaLoop n pc') := by
  cases h with
  | wait | duty => exact ⟨hc, trivial⟩
  | @pull _ pc' _ h =>
    obtain ⟨hc', hclean⟩ := hc.pull hA h hpc
    refine ⟨hc', ?_⟩
    cases pc' with
    | done | failed => trivial
    | close | files | clear => exact hclean

variable {p : Proc}

lemma act_clean {p' : Proc} (hA : ArchiveEmpty st) (hc : Clean st kin w) (hp : LaterOk st p)
    (h : act w i p ch = some (w', p')) : Clean st kin w' ∧ LaterOk st p' := by
  cases p with
  | failover a pc =>
    obtain ⟨pc1, hs, rfl⟩ := of_map_step h
    exact (failoverStep_move hs).clean hA hc hp
  | restore a pc =>
    obtain ⟨pc1, hs, rfl⟩ := of_map_step h
    exact (restoreReqStep_move hs).clean hA hc hp
  | replicaLoop n pc =>
    obtain ⟨pc1, hs, rfl⟩ := of_map_step h
    exact (replicaStep_move hs).clean hA hc hp
  | reset a pc =>
    cases pc with
    | returned => cases h
    | _ => exact hp.elim
  | write | backupLoop | migrate => exact hp.elim

lemma Clean.restart (hc : Clean st kin w) (n : NodeId) : Clean st kin (w.restart n) := by
  refine ⟨fun m hm => ?_, hc.named, hc.store⟩
  have hempty := hc.empty m hm
  by_cases hmn : m = n
  · subst hmn
    exact ⟨by simpa [World.restart] using hempty.disk.crash, by simp [World.restart]⟩
  · exact ⟨by simpa [World.restart, hmn] using hempty.disk,
      by simpa [World.restart, hmn] using hempty.cache⟩

lemma LaterOk.hit (e : Restart) (h : LaterOk st p) : LaterOk st (p.hit e) := by
  unfold Proc.hit
  split <;> first | exact h | (split <;> first | exact h | trivial)

abbrev CleanRun (st : ObjectStore Archived) (kin : NodeId → Prop) (s : System) : Prop :=
  Pool.Inv (Clean st kin) (fun _ _ p => LaterOk st p) s

lemma CleanRun.kept {s s' : System} {l : Label} (hA : ArchiveEmpty st) (hs : CleanRun st kin s)
    (h : step s l = some s') : CleanRun st kin s' := by
  refine Pool.step_inv ?_ ?_ ?_ hs h
  · intro i c g p _ hact
    exact act_clean hA hs.shared (hs.procs i) hact
  · intro i c g p _ _ j _ hj
    exact hj
  · intro e g _ henv
    cases henv
    exact ⟨hs.shared.restart e.node, fun j hj => hj.hit e⟩

lemma Proc.Later.ok (h : p.Later) : LaterOk st p := by
  unfold Proc.Later at h
  split at h <;> trivial

end Later

/-! ## A versionless restore puts the archive back -/

section PutBack

variable {w : World} {p : NodeId} {q b : Nat}

lemma restore_sent (hst : w.record.storageNodeId = some p) (hp : ∀ b, (w.apis b).Points p) :
    ∃ cs w1, exec (alone q) (w, .restore b .start) cs =
        some (w1, .restore b (.restoring p (.close none))) ∧ w1 = { w with apis := w1.apis } := by
  obtain ⟨hpr, hc⟩ := (hp b).lookupRoute {}
  cases hl : (w.apis b).lookupRoute {} with
  | mk found pr =>
    -- the step that looks the route up
    have hlook : alone q (w, .restore b (.route .cached)) {} =
        some (w.setApi b pr, .restore b (.route (match found with
          | some c => .done c
          | none => .resolving))) := by
      cases found <;> simp only [alone, act, restoreReqStep, routeStep, hl, Option.map_some]
    cases found with
    | some c =>
      obtain rfl : c.node = p := hc c (by rw [hl])
      exact ⟨[{}, {}, {}], _, exec_cons rfl (exec_cons hlook (exec_cons rfl rfl)), rfl⟩
    | none =>
      have hres : pr.resolve w.localNode w.record {} =
          (.client ⟨p, true⟩, ({ pr with route := some p }.makeClient p p).2) := by
        simp only [Provider.resolve, hst]
        rfl
      have hmade : alone q (w.setApi b pr, .restore b (.route .resolving)) {} =
          some ((w.setApi b pr).setApi b ({ pr with route := some p }.makeClient p p).2,
            .restore b (.route (.done ⟨p, true⟩))) := by
        have hapi : (w.setApi b pr).apis b = pr := by simp [World.setApi]
        simp only [alone, act, restoreReqStep, routeStep, hapi, if_true]
        rw [show (w.setApi b pr).localNode = w.localNode from rfl,
          show (w.setApi b pr).record = w.record from rfl, hres]
        rfl
      exact ⟨[{}, {}, {}, {}], _,
        exec_cons rfl (exec_cons hlook (exec_cons hmade (exec_cons rfl rfl))), rfl⟩

def restoreOn (p : NodeId) (x : World × RestorePc) (ch : Choice) : Option (World × RestorePc) :=
  restoreStep x.1 p x.2 ch

/-- As long as `restore` has not ended on the node, the request follows it step by step. -/
lemma exec_restoring {w w2 : World} {pc pc2 : RestorePc} {cs : List Choice} (hd : pc2 ≠ .done)
    (hf : pc2 ≠ .failed) (h : exec (restoreOn p) (w, pc) cs = some (w2, pc2)) :
    exec (alone q) (w, .restore b (.restoring p pc)) cs =
      some (w2, .restore b (.restoring p pc2)) := by
  induction cs generalizing w pc with
  | nil =>
    obtain ⟨rfl, rfl⟩ : w = w2 ∧ pc = pc2 := by simpa using h
    rfl
  | cons ch cs ih =>
    obtain ⟨⟨w1, pc1⟩, hstep, hrest⟩ := exec_cons_eq_some.mp h
    have hstep' : restoreStep w p pc ch = some (w1, pc1) := hstep
    -- neither end has a next step, so the run cannot have been there
    have hgoes : pc1 ≠ .done ∧ pc1 ≠ .failed := by
      cases cs with
      | nil =>
        obtain ⟨_, rfl⟩ : w1 = w2 ∧ pc1 = pc2 := by simpa using hrest
        exact ⟨hd, hf⟩
      | cons ch' cs =>
        obtain ⟨x, hx, _⟩ := exec_cons_eq_some.mp hrest
        constructor <;> rintro rfl <;> cases hx
    refine exec_cons ?_ (ih hrest)
    simp only [alone, act, restoreReqStep, hstep', Option.map_some]
    cases pc1 with
    | done => exact absurd rfl hgoes.1
    | failed => exact absurd rfl hgoes.2
    | _ => rfl

section Steps

variable {snap k : ObjKey} {wal : Option ObjKey} {o : Archived}

lemma restoreOn_list (hl : latestIncr w.store = some (snap, wal)) :
    restoreOn p (w, .files .list) {} = some (w, .files (.getSnap snap wal)) := by
  simp only [restoreOn, restoreStep, filesStep, if_true, hl, Option.map_some, FilesPc.restore]

lemma restoreOn_getSnap (ho : w.store.lookup snap = some o) :
    restoreOn p (w, .files (.getSnap snap wal)) {} =
      some (w, .files (.renameMain o.bytes wal)) := by
  simp only [restoreOn, restoreStep, filesStep, ho, Option.map_some, FilesPc.restore]

lemma restoreOn_getWal (ho : w.store.lookup k = some o) :
    restoreOn p (w, .files (.getWal k)) {} = some (w, .files (.renameWal o.bytes)) := by
  simp only [restoreOn, restoreStep, filesStep, ho, Option.map_some, FilesPc.restore]

lemma restoreOn_nothing (hl : latestIncr w.store = none) :
    restoreOn p (w, .files .list) {} = some (w, .listFull) := by
  simp only [restoreOn, restoreStep, filesStep, if_true, hl, Option.map_some, FilesPc.restore]

lemma restoreOn_listFull (hk : lastListed w.store = some k) :
    restoreOn p (w, .listFull) {} = some (w, .getFull k) := by
  simp only [restoreOn, restoreStep, hk]

lemma restoreOn_getFull (ho : w.store.lookup k = some o) :
    restoreOn p (w, .getFull k) {} = some (w, .renameFull o.bytes) := by
  simp only [restoreOn, restoreStep, ho]

end Steps

/-- A node without connection and without WAL reads the file that is renamed over the main path. -/
lemma contents_renameMain {d : Disk Nat} (hconn : d.conn = none) (hwal : d.wal = none)
    (bytes : List Nat) : (d.close.renameMain bytes).contents = bytes := by
  have hclose : d.close = d := by simp [Disk.close, hconn]
  rw [hclose, Disk.contents_of_main (d := d.renameMain bytes) hconn (Disk.main_renameMain _ _),
    Disk.walFile_renameMain, Disk.walFile, hwal]
  simp

lemma contents_renameBoth {d : Disk Nat} (hconn : d.conn = none) (main wal : List Nat) :
    ((d.close.renameMain main).renameWal wal).contents = main ++ wal := by
  have hclose : d.close = d := by simp [Disk.close, hconn]
  rw [hclose, Disk.contents_renameWal (d := d.renameMain main) hconn (Disk.main_renameMain _ _)]

/-- A restore that runs alone can take the node `p` from its close to a state where it reads
`bytes`. -/
def PutsBack (q b : Nat) (p : NodeId) (w : World) (bytes : List Nat) : Prop :=
  ∃ cs w2 pc, exec (alone q) (w, .restore b (.restoring p (.close none))) cs =
    some (w2, .restore b pc) ∧ w2.record = w.record ∧ (w2.disks p).contents = bytes

section Runs

variable (hconn : (w.disks p).conn = none) (hwal : (w.disks p).wal = none)
include hconn

variable {o : Archived}

include hwal in
lemma restore_main {snap : ObjKey} {wal : Option ObjKey}
    (hl : latestIncr w.store = some (snap, wal)) (ho : w.store.lookup snap = some o) :
    PutsBack q b p w o.bytes := by
  cases wal with
  | none | some =>
    refine ⟨[{}, {}, {}, {}], _, _, exec_restoring (by nofun) (by nofun) (exec_cons rfl
      (exec_cons (restoreOn_list hl) (exec_cons (restoreOn_getSnap ho) (exec_cons rfl rfl)))),
      rfl, ?_⟩
    simpa [World.setDisk] using contents_renameMain hconn hwal o.bytes

lemma restore_wal {snap k : ObjKey} {o' : Archived}
    (hl : latestIncr w.store = some (snap, some k)) (ho : w.store.lookup snap = some o)
    (ho' : w.store.lookup k = some o') : PutsBack q b p w (o.bytes ++ o'.bytes) := by
  refine ⟨[{}, {}, {}, {}, {}, {}], _, _, exec_restoring (by nofun) (by nofun) (exec_cons rfl
    (exec_cons (restoreOn_list hl) (exec_cons (restoreOn_getSnap ho) (exec_cons rfl
      (exec_cons (restoreOn_getWal ho') (exec_cons rfl rfl)))))), rfl, ?_⟩
  simpa [World.setDisk] using contents_renameBoth hconn o.bytes o'.bytes

include hwal in
lemma restore_full {k : ObjKey} (hl : latestIncr w.store = none)
    (hk : lastListed w.store = some k) (ho : w.store.lookup k = some o) :
    PutsBack q b p w o.bytes := by
  refine ⟨[{}, {}, {}, {}, {}], _, _, exec_restoring (by nofun) (by nofun) (exec_cons rfl
    (exec_cons (restoreOn_nothing hl) (exec_cons (restoreOn_listFull hk)
      (exec_cons (restoreOn_getFull ho) (exec_cons rfl rfl))))), rfl, ?_⟩
  simpa [World.setDisk] using contents_renameMain hconn hwal o.bytes

end Runs

end PutBack

/-! ## Permanence -/

/-- Nothing is readable on the Cell's storage node, in any state of any later run. -/
def StaysEmpty (s : System) : Prop :=
  ∀ ls t n, exec step s ls = some t → t.shared.record.storageNodeId = some n →
    t.shared.readable n = []

section Permanence

variable {s : System}

/-- If nothing can ever be read on the storage node, a restore that runs alone finds nothing to put
back. -/
lemma StaysEmpty.contents_of_alone {w : World} {p : NodeId} {q : Nat} {pr : Proc}
    {cs : List Choice} (h : StaysEmpty s)
    (hrun : exec (alone q) (s.shared, s.procs q) cs = some (w, pr))
    (hst : w.record.storageNodeId = some p) : (w.disks p).contents = [] := by
  have hpool : exec step s (cs.map (.proc q)) = some ⟨w, Function.update s.procs q pr⟩ :=
    exec_of_alone hrun
  have hread : w.readable p = [] := h _ _ p hpool hst
  exact (List.append_eq_nil_iff.mp hread).1

/-- If a storage node without files stays empty although a restore is ready, the archive holds no
data. -/
lemma StaysEmpty.archiveEmpty {p : NodeId} {q b : Nat} (h : StaysEmpty s)
    (hst : s.shared.record.storageNodeId = some p) (hp : ∀ b, (s.shared.apis b).Points p)
    (hconn : (s.shared.disks p).conn = none) (hwal : (s.shared.disks p).wal = none)
    (hq : s.procs q = .restore b .start) : ArchiveEmpty s.shared.store := by
  -- the restore is taken to the storage node, and from there up to a step of our choice
  obtain ⟨cs1, w1, hsent, hw1⟩ := restore_sent (q := q) (b := b) hst hp
  have hnothing : ∀ bytes, PutsBack q b p w1 bytes → bytes = [] := by
    rintro _ ⟨cs2, w2, pc, hexec, hrec, rfl⟩
    have hsolo : exec (alone q) (s.shared, s.procs q) (cs1 ++ cs2) = some (w2, .restore b pc) := by
      rw [hq]
      exact exec_append_eq_some.mpr ⟨_, hsent, hexec⟩
    exact h.contents_of_alone hsolo (by rw [hrec, hw1]; exact hst)
  have hstore : w1.store = s.shared.store := by rw [hw1]
  have hconn1 : (w1.disks p).conn = none := by rw [hw1]; exact hconn
  have hwal1 : (w1.disks p).wal = none := by rw [hw1]; exact hwal
  rw [← hstore]
  refine ⟨fun snap wal hl => ⟨fun o ho => ?_, ?_⟩, fun hl k hk o ho => ?_⟩
  · exact hnothing _ (restore_main hconn1 hwal1 hl ho)
  · rintro k rfl o' ho'
    obtain ⟨rev, rfl, hmem, _⟩ := latestIncr_eq_some.mp hl
    obtain ⟨o, ho⟩ := Option.isSome_iff_exists.mp (AList.lookup_isSome.mpr hmem)
    exact (List.append_eq_nil_iff.mp (hnothing _ (restore_wal hconn1 hl ho ho'))).2
  · exact hnothing _ (restore_full hconn1 hwal1 hl hk ho)

def DatabaseRecord.Names (R : DatabaseRecord) (n : NodeId) : Prop :=
  R.storageNodeId = some n ∨ R.replicaNodeId = some n

lemma staysEmpty_of_archiveEmpty (hA : ArchiveEmpty s.shared.store)
    (hempty : ∀ n, s.shared.record.Names n → NodeEmpty s.shared n)
    (hprocs : ∀ i, LaterOk s.shared.store (s.procs i)) : StaysEmpty s := by
  intro ls t n hexec hst
  have hclean : CleanRun s.shared.store s.shared.record.Names t :=
    inv_of_exec_all (fun hs h => hs.kept hA h) ⟨⟨hempty, fun n hn => hn, rfl⟩, hprocs⟩ hexec
  exact (hclean.shared.empty n (hclean.shared.named n (.inl hst))).readable

end Permanence

/-- **When a reset is permanent.** With an empty replica, the Cell stays empty through all
failovers, versionless restores and pulls exactly if the archive that a versionless restore takes
holds no data. -/
theorem reset_permanent_iff {p : NodeId} {m a : Nat} {s₀ s₁ : System} {cs : List Choice}
    (hready : ResetReady p m a s₀) (hrun : exec step s₀ (cs.map (.proc m)) = some s₁)
    (hret : s₁.procs m = .reset a .returned) : StaysEmpty s₁ ↔ ArchiveEmpty s₀.shared.store := by
  obtain ⟨hkeeps, ⟨hconn, hcache, hmain, hwal⟩, hothers⟩ := hready.wiped hrun hret
  rw [← hkeeps.store]
  constructor
  · intro hstays
    obtain ⟨q, b, hq⟩ := hready.restore
    have hqm : q ≠ m := by
      rintro rfl
      rw [hready.reset] at hq
      cases hq
    exact hstays.archiveEmpty hkeeps.storage hkeeps.points hconn hwal ((hothers q hqm).trans hq)
  · intro hA
    refine staysEmpty_of_archiveEmpty hA (fun n hn => ?_) (fun i => ?_)
    · by_cases hnp : n = p
      · subst hnp
        exact ⟨Disk.empty_of_gone hconn hmain hwal, hcache⟩
      · rcases hn with hn | hn
        · exact absurd (Option.some.inj (hn.symm.trans hkeeps.storage)) hnp
        · obtain ⟨hdisk, hcaches⟩ := hkeeps.others n hnp
          have hrep := hready.replica n (by rw [← hkeeps.replica]; exact hn)
          exact ⟨by rw [hdisk]; exact hrep.disk, by rw [hcaches]; exact hrep.cache⟩
    · by_cases him : i = m
      · rw [him, hret]
        trivial
      · rw [hothers i him]
        exact (hready.later i him).ok

/-! ## An archive from before the reset -/

/-- A Cell with the write 7, an empty replica and an archive with `bytes`; a reset, a restore, a
failover and replica loops are ready. -/
def resetCell (bytes : List Nat) : System where
  shared :=
    { record := ⟨⟨0⟩, some ⟨1⟩, some ⟨2⟩, 0⟩
      fences := fun _ => none
      disks := fun n => if n = ⟨1⟩ then Disk.blank.commit 7 else .blank
      caches := fun _ => []
      apis := fun _ => ⟨fun _ => none, none⟩
      store := AList.insert (.snapshot 5) ⟨bytes, ⟨1⟩, 0⟩ ∅
      localNode := none }
  procs := fun i => match i with
    | 0 => .reset 0 .start
    | 1 => .restore 0 .start
    | 2 => .failover 1 .start
    | _ => .replicaLoop ⟨2⟩ .idle

lemma resetCell_ready (bytes : List Nat) : ResetReady ⟨1⟩ 0 0 (resetCell bytes) where
  storage := rfl
  points := fun _ => ⟨nofun, .inl rfl⟩
  replica := by
    rintro r ⟨⟩
    exact ⟨⟨rfl, rfl, rfl⟩, rfl⟩
  reset := rfl
  later
    | 0, h => absurd rfl h
    | 1, _ => trivial
    | 2, _ => trivial
    | _ + 3, _ => trivial
  restore := ⟨1, 0, rfl⟩

/-- A versionless restore makes the write 7 readable again, and so does a failover. -/
theorem archive_comes_back : ∃ s₁,
    exec step (resetCell [7]) ((List.replicate 8 {}).map (.proc 0)) = some s₁ ∧
    s₁.procs 0 = .reset 0 .returned ∧ s₁.shared.readable ⟨1⟩ = [] ∧
    (∃ s₂, exec step s₁ (List.replicate 10 (.proc 1 {})) = some s₂ ∧
      s₂.procs 1 = .restore 0 .returned ∧ s₂.shared.record.storageNodeId = some ⟨1⟩ ∧
      7 ∈ s₂.shared.readable ⟨1⟩) ∧
    ∃ s₃, exec step s₁ (List.replicate 13 (.proc 2 {})) = some s₃ ∧
      s₃.procs 2 = .failover 1 (.returned (some ⟨1⟩) ⟨2⟩ 2) ∧
      s₃.shared.record.storageNodeId = some ⟨2⟩ ∧ 7 ∈ s₃.shared.readable ⟨2⟩ := by
  refine ⟨_, rfl, rfl, rfl, ⟨_, rfl, rfl, rfl, ?_⟩, ⟨_, rfl, rfl, rfl, ?_⟩⟩ <;> decide

theorem reset_permanent_iff_empty : ∃ s₁,
    exec step (resetCell []) ((List.replicate 8 {}).map (.proc 0)) = some s₁ ∧
    s₁.procs 0 = .reset 0 .returned ∧ StaysEmpty s₁ := by
  obtain ⟨s₁, hrun, hret⟩ : ∃ s₁,
      exec step (resetCell []) ((List.replicate 8 {}).map (.proc 0)) = some s₁ ∧
      s₁.procs 0 = .reset 0 .returned := ⟨_, rfl, rfl⟩
  have hnodata : ∀ k, NoData (resetCell []).shared.store k := by
    intro k o ho
    by_cases hk : k = .snapshot 5
    · subst hk
      rw [resetCell, AList.lookup_insert] at ho
      exact (Option.some.inj ho) ▸ rfl
    · rw [resetCell, AList.lookup_insert_ne hk] at ho
      cases ho
  have hempty : ArchiveEmpty (resetCell []).shared.store :=
    ⟨fun _ _ _ => ⟨hnodata _, fun k _ => hnodata k⟩, fun _ k _ => hnodata k⟩
  exact ⟨s₁, hrun, hret, (reset_permanent_iff (resetCell_ready []) hrun hret).mpr hempty⟩

end Combee.Cluster
