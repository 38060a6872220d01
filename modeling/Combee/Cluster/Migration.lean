import Combee.Cluster.AdminFrames

/-!
# Migration — what `admin_migrate_cell` carries over

The migration moves the record first and then asks `client_for` for the node to back up. Only a
cached route still leads to the source; without one the backup is taken from the target itself. The
source is never told about the move: its fence keeps the generation that requests with the older
record carry.
-/

namespace Combee.Cluster

open Foundation Storage List
open Function (update update_of_ne update_self)

/-- The record after the Cell has been moved to `dest`. -/
def DatabaseRecord.movedTo (R : DatabaseRecord) (dest : NodeId) : DatabaseRecord :=
  { R with storageNodeId := some dest, generation := R.generation + 1 }

/-- A record that can be moved from `src` to `dest`, which must be another node. -/
structure Movable (R : DatabaseRecord) (src dest : NodeId) : Prop where
  source : R.storageNodeId = some src
  ne : src ≠ dest
  nonneg : 0 ≤ R.generation
  lt : R.generation + 1 < i64Max

/-- The process `m` is a migration from `src` to `dest`, all others are client writes, and no fence
but a demotion mark is above the generation. -/
structure MigrationReady (R : DatabaseRecord) (src dest : NodeId) (m a : Nat) (s : System) :
    Prop where
  movable : Movable R src dest
  record : s.shared.record = R
  fences : ∀ n g, s.shared.fences n = some g → g ≤ R.generation ∨ g = i64Max
  clients : ∀ b c, (s.shared.apis b).clients dest = some c → c.node = dest
  migration : s.procs m = .migrate a dest .start
  writes : ∀ i, i ≠ m → ∃ b, s.procs i = .write b .start

/-- The cached route leads to the source, the backup succeeds, and the snapshot is taken when
`fresh` holds. -/
def HandoverAt (src : NodeId) (w : World) (fresh : Prop) (a : Nat) (ch : Choice) : MigratePc → Prop
  | .route _ _ .cached => ∃ c p, (w.apis a).lookupRoute ch = (some c, p) ∧ c.node = src
  | .route _ _ (.done _) => ch.ok = true
  | .snapshot _ _ _ => ch.ok = true ∧ fresh
  | .upload _ _ _ _ => ch.ok = true
  | _ => True

/-- The condition on the steps of a run of the migration `m` with client writes. -/
def Handover (src : NodeId) (m : Nat) (s : System) : Label → Prop
  | .proc i ch => i = m → ∀ a dest pc, s.procs m = .migrate a dest pc →
      HandoverAt src s.shared (NoStale s) a ch pc
  | .env _ => False

/-! ## The invariant -/

section Invariant

variable {R : DatabaseRecord} {src dest : NodeId} {m a : Nat}

/-- The archive `version` has everything that the source has. -/
def Carries (w : World) (src : NodeId) (version : Option ObjKey) : Prop :=
  ∃ k obj, version = some k ∧ w.store.lookup k = some obj ∧ (w.disks src).contents ⊆ obj.bytes

def RestoreOk (w : World) (src dest : NodeId) : RestorePc → Prop
  | .close version => Carries w src version
  | .files _ => False
  | .listFull => False
  | .getFull k => Carries w src (some k) ∧ (w.disks dest).conn = none
  | .renameFull bytes => (w.disks src).contents ⊆ bytes ∧ (w.disks dest).conn = none
  | .removeWal => (w.disks src).contents ⊆ (w.disks dest).mainFile ∧ (w.disks dest).conn = none
  | .check => (w.disks src).contents ⊆ (w.disks dest).mainFile ∧ (w.disks dest).conn = none
  | .clear => (w.disks src).contents ⊆ (w.disks dest).contents
  | .done => (w.disks src).contents ⊆ (w.disks dest).contents
  | .failed => True

/-- What is known of the migration; `fresh` says that no client write carries an older
generation. -/
def MigrateOk (R : DatabaseRecord) (src dest : NodeId) (w : World) (fresh : Prop) : MigratePc → Prop
  | .start => w.record = R
  | .checkTarget _ => w.record = R
  | .move _ => w.record = R
  | .route _ _ r => w.record = R.movedTo dest ∧ (r = .cached ∨ ∃ c, r = .done c ∧ c.node = src)
  | .snapshot _ _ c => w.record = R.movedTo dest ∧ c.node = src
  | .upload _ _ _ bytes => w.record = R.movedTo dest ∧ fresh ∧ (w.disks src).contents ⊆ bytes
  | .target _ _ version => w.record = R.movedTo dest ∧ fresh ∧ Carries w src version
  | .restoring _ _ c pc =>
    w.record = R.movedTo dest ∧ fresh ∧ c.node = dest ∧ RestoreOk w src dest pc
  | .returned _ _ =>
    w.record = R.movedTo dest ∧ fresh ∧ (w.disks src).contents ⊆ (w.disks dest).contents
  | .failed => True

/-- The generation of a client write is the one of the start, or the moved one, which no node lets
pass. -/
def RequestOk (R : DatabaseRecord) (dest : NodeId) (w : World) : WritePc → Prop
  | .route g rt => (g = R.generation ∨ (g = R.generation + 1 ∧ w.record = R.movedTo dest)) ∧
      (rt = .retrying dest → w.record = R.movedTo dest)
  | .admitted g _ => g = R.generation
  | _ => True

/-- The invariant of a run; `old` is what the source had at the start. -/
structure Moving (R : DatabaseRecord) (src dest : NodeId) (m a : Nat) (old : List Nat)
    (s : System) : Prop where
  record : s.shared.record = R ∨ s.shared.record = R.movedTo dest
  fences : ∀ n g, s.shared.fences n = some g → g ≤ R.generation ∨ g = i64Max
  clients : ∀ b c, (s.shared.apis b).clients dest = some c → c.node = dest
  migration : ∃ pc, s.procs m = .migrate a dest pc ∧ MigrateOk R src dest s.shared (NoStale s) pc
  writes : ∀ i, i ≠ m → ∃ b pc, s.procs i = .write b pc ∧ RequestOk R dest s.shared pc
  source : old ⊆ (s.shared.disks src).contents
  acked : ∀ i, (s.procs i).ackedBy = some src → i ∈ (s.shared.disks src).contents

/-! ### The target restores -/

variable {w w' : World}

attribute [local simp] World.setDisk

lemma RestoreMove.ok {pc pc' : RestorePc} (hne : src ≠ dest) (h : RestoreMove w dest pc w' pc')
    (hok : RestoreOk w src dest pc) : RestoreOk w' src dest pc' := by
  cases h with
  | close =>
    obtain ⟨k, obj, rfl, hlook, hsub⟩ := hok
    refine ⟨⟨k, obj, rfl, hlook, ?_⟩, ?_⟩
    · simpa [hne] using hsub
    · simp [Disk.close_conn]
  | files | listed => exact hok.elim
  | getFull h =>
    obtain ⟨⟨k, obj, hk, hlook, hsub⟩, hconn⟩ := hok
    obtain rfl := Option.some.inj hk
    obtain rfl := Option.some.inj (h.symm.trans hlook)
    exact ⟨hsub, hconn⟩
  | renameFull =>
    refine ⟨?_, ?_⟩
    · simpa [hne, Disk.mainFile, Disk.renameMain] using hok.1
    · simpa [Disk.renameMain] using hok.2
  | removeWal =>
    refine ⟨?_, ?_⟩
    · simpa [hne, Disk.mainFile, Disk.removeWal] using hok.1
    · simpa [Disk.removeWal] using hok.2
  | keepWal => exact hok
  | check =>
    obtain ⟨hsub, hconn⟩ := hok
    -- a WAL that could not be removed only adds to what is read
    simp only [RestoreOk, World.setDisk, update_self, update_of_ne hne,
      Disk.contents_openConn, Disk.contents_of_closed hconn]
    exact List.Subset.trans hsub (w.disks dest).mainFile_subset_onDisk
  | damaged | fail => trivial
  | clear => exact hok

/-! ### Moves of the migration -/

lemma Movable.migrateDatabase_eq (hR : Movable R src dest) :
    R.migrateDatabase dest = R.movedTo dest := by
  have h0 := hR.nonneg
  have hlt := hR.lt
  unfold i64Max at hlt
  simp only [DatabaseRecord.migrateDatabase, DatabaseRecord.movedTo]
  rw [wrapI64_of_bounds (by omega) (by omega)]

variable {fresh : Prop} {i : Nat} {ch : Choice} {pc pc' : MigratePc}

/-- A move that meets the condition changes the record only when it moves the Cell, and leaves what
the source has. -/
lemma MigrateMove.ok (hR : Movable R src dest)
    (hclients : ∀ c, (w.apis a).clients dest = some c → c.node = dest)
    (hC : HandoverAt src w fresh a ch pc) (h : MigrateMove w i a dest ch pc w' pc')
    (hok : MigrateOk R src dest w fresh pc) : MigrateOk R src dest w' fresh pc' := by
  cases h with
  | read | target => exact hok
  | move =>
    refine ⟨?_, .inl rfl⟩
    have hrec : w.record = R := hok
    simp only [World.setRecord, hrec]
    exact hR.migrateDatabase_eq
  -- the cached route answers, so the record is not asked
  | route h =>
    obtain ⟨hrec, rfl | ⟨c, rfl, _⟩⟩ := hok
    · obtain ⟨c, p, hlookup, hc⟩ := hC
      simp only [routeStep, hlookup] at h
      cases h
      exact ⟨hrec, .inr ⟨c, rfl, hc⟩⟩
    · cases h
  | send =>
    obtain ⟨hrec, h | ⟨c, h, hc⟩⟩ := hok
    · cases h
    · cases h
      exact ⟨hrec, hc⟩
  | lost hok' => exact absurd hC (by simp [HandoverAt, hok'])
  | skipped =>
    obtain ⟨_, h | ⟨_, h, _⟩⟩ := hok <;> cases h
  -- from the snapshot on, no write that could still reach the source is on its way
  | snapshot =>
    obtain ⟨hrec, rfl⟩ := hok
    refine ⟨hrec, hC.2, ?_⟩
    simp
  | noSnapshot hok' => exact absurd hC.1 (by simp [hok'])
  | upload =>
    obtain ⟨hrec, hfresh, hsub⟩ := hok
    exact ⟨hrec, hfresh, _, _, rfl, AList.lookup_insert _, hsub⟩
  | noUpload hok' => exact absurd hC (by simp [HandoverAt, hok'])
  | @connect _ _ version c p h =>
    obtain ⟨hrec, hfresh, hcarries⟩ := hok
    refine ⟨hrec, hfresh, ?_, hcarries⟩
    rcases clientForNode_spec h with hc | hc
    · exact hclients c hc
    · exact hc
  | restore h =>
    obtain ⟨hrec, hfresh, hc, hr⟩ := hok
    have hrec' : w'.record = w.record := by
      obtain ⟨d, cs, rfl⟩ := h.frame
      rfl
    rw [hc] at h
    exact ⟨hrec'.trans hrec, hfresh, hc, h.ok hR.ne hr⟩
  | restored h =>
    obtain ⟨hrec, hfresh, hc, hr⟩ := hok
    have hrec' : w'.record = w.record := by
      obtain ⟨d, cs, rfl⟩ := h.frame
      rfl
    rw [hc] at h
    exact ⟨hrec'.trans hrec, hfresh, h.ok hR.ne hr⟩
  | broken | refused | noTarget | noMove | gone => trivial

/-- What else a move of the migration leaves as it is. -/
structure MigrateFrame (R : DatabaseRecord) (src dest : NodeId) (w w' : World) (pc' : MigratePc) :
    Prop where
  record : w'.record = w.record ∨
    (w'.record = R.movedTo dest ∧ ∃ source g, pc' = .route source g .cached)
  fences : w'.fences = w.fences
  clients : ∀ b c, (w'.apis b).clients dest = some c →
    (w.apis b).clients dest = some c ∨ c.node = dest
  source : (w'.disks src).contents = (w.disks src).contents

lemma RestoreMove.migrateFrame {n : NodeId} {pc pc' : RestorePc} {mpc : MigratePc}
    (hne : src ≠ n) (h : RestoreMove w n pc w' pc') : MigrateFrame R src dest w w' mpc := by
  obtain ⟨d, cs, rfl⟩ := h.frame
  exact ⟨.inl rfl, rfl, fun b c hc => .inl hc, by simp [World.setCache, hne]⟩

lemma MigrateMove.frame (hR : Movable R src dest) (h : MigrateMove w i a dest ch pc w' pc')
    (hok : MigrateOk R src dest w fresh pc) : MigrateFrame R src dest w w' pc' := by
  have hclientFor : ∀ {x p}, (w.apis a).clientForNode dest ch = (x, p) →
      MigrateFrame R src dest w (w.setApi a p) pc' := fun h => by
    refine ⟨.inl rfl, rfl, fun b c hc => ?_, rfl⟩
    exact setApi_clients (X := fun n c => c.node = n)
      (fun n c hn => clientForNode_clients (by rw [h]; exact hn)) hc
  cases h with
  | read | send | skipped | noSnapshot | noUpload | refused | noTarget | noMove | gone =>
    exact ⟨.inl rfl, rfl, fun b c hc => .inl hc, rfl⟩
  | target h => exact hclientFor h
  | connect h => exact hclientFor h
  | move =>
    have hrec : w.record = R := hok
    refine ⟨.inr ⟨?_, _, _, rfl⟩, rfl, fun b c hc => .inl hc, rfl⟩
    simp only [World.setRecord, hrec]
    exact hR.migrateDatabase_eq
  | route h =>
    obtain ⟨hw, hclients, _⟩ := routeStep_spec h
    refine ⟨.inl (by rw [hw]), by rw [hw], fun b c hc => ?_, by rw [hw]⟩
    rcases hclients b dest c hc with hc | hc | ⟨hret, _⟩
    · exact .inl hc
    · exact .inr hc
    · obtain ⟨_, hr | ⟨_, hr, _⟩⟩ := hok <;> rw [hr] at hret <;> cases hret
  | lost =>
    refine ⟨.inl rfl, rfl, fun b c hc => ?_, rfl⟩
    exact setApi_clients (X := fun n c => c.node = n)
      (fun n c hn => .inl (by rwa [rpcFailed_clients] at hn)) hc
  | snapshot =>
    obtain ⟨_, rfl⟩ := hok
    exact ⟨.inl rfl, rfl, fun b c hc => .inl hc, by simp [Disk.contents_openConn]⟩
  | upload => exact ⟨.inl rfl, rfl, fun b c hc => .inl hc, rfl⟩
  | restore h => exact h.migrateFrame (by rw [hok.2.2.1]; exact hR.ne)
  | restored h => exact h.migrateFrame (by rw [hok.2.2.1]; exact hR.ne)
  | broken h => exact h.migrateFrame (by rw [hok.2.2.1]; exact hR.ne)

/-! ### Moves of a client write -/

lemma RequestOk.mono {pc : WritePc} (hw : w.record = R.movedTo dest → w'.record = R.movedTo dest)
    (h : RequestOk R dest w pc) : RequestOk R dest w' pc := by
  cases pc with
  | route g rt =>
    refine ⟨?_, fun hrt => hw (h.2 hrt)⟩
    rcases h.1 with hg | ⟨hg, hr⟩
    · exact .inl hg
    · exact .inr ⟨hg, hw hr⟩
  | start | admitted | acked | failed => exact h

variable {b : Nat}

lemma WriteMove.requestOk {pc pc' : WritePc} (hR : Movable R src dest)
    (hrec : w.record = R ∨ w.record = R.movedTo dest)
    (hfences : ∀ n g, w.fences n = some g → g ≤ R.generation ∨ g = i64Max)
    (h : WriteMove w i b ch pc w' pc') (hok : RequestOk R dest w pc) : RequestOk R dest w' pc' := by
  have h0 := hR.nonneg
  have hlt := hR.lt
  cases h with
  | read =>
    refine ⟨?_, by simp⟩
    rcases hrec with hr | hr
    · exact .inl (by rw [hr])
    · exact .inr ⟨by rw [hr]; rfl, hr⟩
  | route h =>
    obtain ⟨hw, _, hretry⟩ := routeStep_spec h
    have hrec' : w'.record = w.record := by rw [hw]
    refine ⟨?_, fun hrt => ?_⟩
    · rcases hok.1 with hg | ⟨hg, hr⟩
      · exact .inl hg
      · exact .inr ⟨hg, hrec'.trans hr⟩
    · rw [hrec']
      rcases hrec with hr | hr
      · have hs := hretry dest hrt
        rw [hr, hR.source] at hs
        exact absurd (Option.some.inj hs) hR.ne
      · exact hr
  | @pass g c hadm =>
    rcases hok.1 with hg | ⟨hg, _⟩
    · exact hg
    · -- no node has been fenced to the moved generation
      simp only [World.admits, beq_iff_eq] at hadm
      cases hf : w.fences c.node with
      | none =>
        rw [hf, Option.getD_none] at hadm
        omega
      | some f =>
        rw [hf, Option.getD_some] at hadm
        rcases hfences c.node f hf with hle | hmax <;> omega
  | ack | fail => trivial

lemma WriteMove.target_clients {pc pc' : WritePc}
    (hclients : ∀ b c, (w.apis b).clients dest = some c → c.node = dest)
    (h : WriteMove w i b ch pc w' pc') (hok : RequestOk R dest w pc) :
    ∀ b c, (w'.apis b).clients dest = some c → c.node = dest := by
  intro b' c hc
  cases h with
  | read | pass | ack => exact hclients b' c hc
  | fail _ hp =>
    rcases setApi_clients (X := fun _ _ => False) (fun n c hn => .inl (by rwa [hp] at hn)) hc with
      hc | hc
    · exact hclients b' c hc
    · exact hc.elim
  | route h =>
    rcases (routeStep_spec h).2.1 b' dest c hc with hc | hc | ⟨hret, hs⟩
    · exact hclients b' c hc
    · exact hc
    · rw [hok.2 hret] at hs
      exact (Option.some.inj hs).symm

/-! ### Steps -/

lemma RestoreOk.keep {pc : RestorePc} (hdisks : w'.disks = w.disks)
    (hstore : w'.store = w.store) (h : RestoreOk w src dest pc) : RestoreOk w' src dest pc := by
  cases pc with
  | files | listFull => exact h.elim
  | failed => trivial
  | _ => simpa only [RestoreOk, Carries, hdisks, hstore] using h

/-- What is known of the migration stays known when a step leaves the disks and the archives. -/
lemma MigrateOk.keep {fresh' : Prop} (hrec : w'.record = w.record) (hdisks : w'.disks = w.disks)
    (hstore : w'.store = w.store) (hfresh : fresh → fresh') (h : MigrateOk R src dest w fresh pc) :
    MigrateOk R src dest w' fresh' pc := by
  cases pc with
  | start | checkTarget | move => exact hrec.trans h
  | route | snapshot => exact ⟨hrec.trans h.1, h.2⟩
  | upload => exact ⟨hrec.trans h.1, hfresh h.2.1, by rw [hdisks]; exact h.2.2⟩
  | target =>
    refine ⟨hrec.trans h.1, hfresh h.2.1, ?_⟩
    simpa only [Carries, hdisks, hstore] using h.2.2
  | restoring =>
    exact ⟨hrec.trans h.1, hfresh h.2.1, h.2.2.1, h.2.2.2.keep hdisks hstore⟩
  | returned => exact ⟨hrec.trans h.1, hfresh h.2.1, by rw [hdisks]; exact h.2.2⟩
  | failed => trivial

/-- Before the snapshot nothing is known about the disks that a write could spoil. -/
lemma MigrateOk.of_stale {fresh' : Prop}
    (hrec : w'.record = w.record) (hstale : w.record = R.movedTo dest → ¬ fresh)
    (h : MigrateOk R src dest w fresh pc) : MigrateOk R src dest w' fresh' pc := by
  cases pc with
  | start | checkTarget | move => exact hrec.trans h
  | route | snapshot => exact ⟨hrec.trans h.1, h.2⟩
  | upload | target | restoring | returned => exact absurd h.2.1 (hstale h.1)
  | failed => trivial

variable {old : List Nat} {s s' : System}

lemma Moving.write_step (hR : Movable R src dest) (hs : Moving R src dest m a old s)
    {pc pc' : WritePc} (him : i ≠ m) (hp : s.procs i = .write b pc)
    (h : WriteMove s.shared i b ch pc w' pc') :
    Moving R src dest m a old ⟨w', update s.procs i (.write b pc')⟩ := by
  obtain ⟨hrec, hfences, hstore⟩ := h.frame
  obtain ⟨mpc, hm, hmok⟩ := hs.migration
  have hok : RequestOk R dest s.shared pc := by
    obtain ⟨b', pc1, hp', hok⟩ := hs.writes i him
    cases hp.symm.trans hp'
    exact hok
  have hfresh : NoStale s → NoStale ⟨w', update s.procs i (.write b pc')⟩ := by
    intro hns j g hg
    by_cases hji : j = i
    · subst hji
      simp only [update_self] at hg
      rcases h.holds hg with hg | hg
      · exact (hns j g (by rw [hp]; exact hg)).trans (by rw [hrec])
      · exact hg.trans (by rw [hrec])
    · simp only [update_of_ne hji] at hg
      exact (hns j g hg).trans (by rw [hrec])
  have hdisks : (s.shared.disks src).contents ⊆ (w'.disks src).contents := by
    rcases h.disks with hd | ⟨g, n, _, hd, _⟩
    · rw [hd]
      exact List.Subset.refl _
    · rw [hd]
      by_cases hn : src = n
      · subst hn
        simp [Disk.contents_commit]
      · simp [hn]
  refine ⟨by rw [hrec]; exact hs.record, by rw [hfences]; exact hs.fences,
    h.target_clients hs.clients hok, ⟨mpc, ?_, ?_⟩, fun j hj => ?_, ?_, fun j hj => ?_⟩
  · simpa [update_of_ne him.symm] using hm
  · rcases h.disks with hd | ⟨g, n, rfl, _, _⟩
    · exact hmok.keep hrec hd hstore hfresh
    · -- the write that commits carries the generation from before the move
      refine hmok.of_stale hrec fun hmoved hns => ?_
      have hg : g = R.generation := hok
      have := hns i g (by rw [hp]; rfl)
      rw [hmoved] at this
      simp only [DatabaseRecord.movedTo] at this
      omega
  · by_cases hji : j = i
    · subst hji
      exact ⟨b, pc', by simp, h.requestOk hR hs.record hs.fences hok⟩
    · obtain ⟨b', pc1, hp', hok'⟩ := hs.writes j hj
      exact ⟨b', pc1, by simpa [update_of_ne hji] using hp',
        hok'.mono fun hr => hrec.trans hr⟩
  · exact List.Subset.trans hs.source hdisks
  · by_cases hji : j = i
    · subst hji
      simp only [update_self] at hj
      exact h.committed hj
    · simp only [update_of_ne hji] at hj
      exact hdisks (hs.acked j hj)

lemma Moving.migrate_step (hR : Movable R src dest) (hs : Moving R src dest m a old s)
    (hp : s.procs m = .migrate a dest pc) (hC : HandoverAt src s.shared (NoStale s) a ch pc)
    (h : MigrateMove s.shared m a dest ch pc w' pc') :
    Moving R src dest m a old ⟨w', update s.procs m (.migrate a dest pc')⟩ := by
  have hok : MigrateOk R src dest s.shared (NoStale s) pc := by
    obtain ⟨pc1, hp', hok⟩ := hs.migration
    cases hp.symm.trans hp'
    exact hok
  have hframe := h.frame hR hok
  have hok' := h.ok hR (hs.clients a) hC hok
  have hmoved : s.shared.record = R.movedTo dest → w'.record = R.movedTo dest := by
    intro hr
    rcases hframe.record with hr' | ⟨hr', _⟩
    · exact hr'.trans hr
    · exact hr'
  refine ⟨?_, by rw [hframe.fences]; exact hs.fences, fun b c hc => ?_, ⟨pc', by simp, ?_⟩,
    fun j hj => ?_, by rw [hframe.source]; exact hs.source, fun j hj => ?_⟩
  · rcases hframe.record with hr | ⟨hr, _⟩
    · rw [hr]
      exact hs.record
    · exact .inr hr
  · rcases hframe.clients b c hc with hc | hc
    · exact hs.clients b c hc
    · exact hc
  · rcases hframe.record with hr | ⟨hr, source, g, rfl⟩
    · -- the record is as before, so are the generations that client writes carry
      refine hok'.keep rfl rfl rfl fun hns j g hg => ?_
      by_cases hjm : j = m
      · subst hjm
        simp [Proc.holds] at hg
      · simp only [update_of_ne hjm] at hg
        exact (hns j g hg).trans (by rw [hr])
    · exact ⟨hr, .inl rfl⟩
  · obtain ⟨b, wpc, hp', hok'⟩ := hs.writes j hj
    exact ⟨b, wpc, by simpa [update_of_ne hj] using hp', hok'.mono hmoved⟩
  · rw [hframe.source]
    by_cases hjm : j = m
    · subst hjm
      simp [Proc.ackedBy] at hj
    · simp only [update_of_ne hjm] at hj
      exact hs.acked j hj

lemma Moving.kept {l : Label} (hR : Movable R src dest) (hs : Moving R src dest m a old s)
    (hC : Handover src m s l) (h : step s l = some s') : Moving R src dest m a old s' := by
  cases l with
  | env => exact hC.elim
  | proc i ch =>
    obtain ⟨w', p', hact, rfl⟩ := Pool.step_proc_eq_some.mp h
    by_cases him : i = m
    · subst him
      obtain ⟨pc, hp, _⟩ := hs.migration
      rw [hp] at hact
      obtain ⟨pc1, hstep, rfl⟩ := of_map_step hact
      exact hs.migrate_step hR hp (hC rfl a dest pc hp) (migrateStep_move hstep)
    · obtain ⟨b, pc, hp, _⟩ := hs.writes i him
      rw [hp] at hact
      obtain ⟨pc1, hstep, rfl⟩ := of_map_step hact
      exact hs.write_step hR him hp (writeStep_move hstep)

lemma MigrationReady.moving (h : MigrationReady R src dest m a s) :
    Moving R src dest m a (s.shared.disks src).contents s := by
  refine ⟨.inl h.record, h.fences, h.clients, ⟨.start, h.migration, h.record⟩, fun i hi => ?_,
    List.Subset.refl _, fun i hi => ?_⟩
  · obtain ⟨b, hb⟩ := h.writes i hi
    exact ⟨b, .start, hb, trivial⟩
  · by_cases him : i = m
    · rw [him, h.migration] at hi
      cases hi
    · obtain ⟨b, hb⟩ := h.writes i him
      rw [hb] at hi
      cases hi

variable {source : Option NodeId}

lemma Moving.not_admitted {g : Int} (hs : Moving R src dest m a old s)
    (hret : s.procs m = .migrate a dest (.returned source g)) (i : Nat) :
    (s.procs i).admittedAt = none := by
  by_cases him : i = m
  · rw [him, hret]
    rfl
  · obtain ⟨pc, hp, hmok⟩ := hs.migration
    cases hret.symm.trans hp
    obtain ⟨b, wpc, hw, hok⟩ := hs.writes i him
    rw [hw]
    cases wpc with
    | admitted g' n =>
      have hg : g' = R.generation := hok
      have := hmok.2.1 i g' (by rw [hw]; rfl)
      rw [hmok.1] at this
      simp only [DatabaseRecord.movedTo] at this
      omega
    | start | route | acked | failed => rfl

lemma Moving.acked_step {l : Label} {g : Int}
    (hs : Moving R src dest m a old s) (hC : Handover src m s l)
    (hret : s.procs m = .migrate a dest (.returned source g)) (h : step s l = some s') :
    s'.procs m = .migrate a dest (.returned source g) ∧
      ∀ i n, (s'.procs i).ackedBy = some n → (s.procs i).ackedBy = some n := by
  cases l with
  | env => exact hC.elim
  | proc j ch =>
    obtain ⟨w', p', hact, rfl⟩ := Pool.step_proc_eq_some.mp h
    by_cases hjm : j = m
    · rw [hjm, hret] at hact
      cases hact
    · obtain ⟨b, pc, hp, _⟩ := hs.writes j hjm
      have hnone := hs.not_admitted hret j
      rw [hp] at hact hnone
      obtain ⟨pc1, hstep, rfl⟩ := of_map_step hact
      refine ⟨by simpa [update_of_ne (Ne.symm hjm)] using hret, fun i n hi => ?_⟩
      by_cases hij : i = j
      · subst hij
        simp only [update_self] at hi
        rw [(writeStep_move hstep).ackedBy hi] at hnone
        cases hnone
      · simpa only [update_of_ne hij] using hi

end Invariant

/-- A Cell on node 1; process 0 migrates it to node 3, and the others write, through the API server
`api`. -/
def migratingCell (api : Nat) : System where
  shared :=
    { record := ⟨⟨0⟩, some ⟨1⟩, none, 0⟩
      fences := fun _ => none
      disks := fun _ => .blank
      caches := fun _ => []
      apis := fun _ => ⟨fun _ => none, none⟩
      store := ∅
      localNode := none }
  procs := fun i => if i = 0 then .migrate 0 ⟨3⟩ .start else .write api .start

attribute [local simp] migratingCell

lemma migratingCell_ready (api : Nat) :
    MigrationReady (migratingCell api).shared.record ⟨1⟩ ⟨3⟩ 0 0 (migratingCell api) where
  movable := ⟨rfl, by decide, by simp, by simp [i64Max]⟩
  record := rfl
  fences := by simp
  clients := by simp
  migration := rfl
  writes := fun i hi => ⟨api, by simp [hi]⟩

/-- A test for `Handover` at the steps that are not the snapshot. -/
def handoverTest (s : System) : Label → Bool
  | .proc i ch => i != 0 || match s.procs 0 with
      | .migrate a _ (.route _ _ .cached) =>
        ((s.shared.apis a).lookupRoute ch).1.any fun c => c.node == ⟨1⟩
      | .migrate _ _ (.route _ _ (.done _)) => ch.ok
      | .migrate _ _ (.snapshot _ _ _) => false
      | .migrate _ _ (.upload _ _ _ _) => ch.ok
      | _ => true
  | .env _ => false

lemma handover_of_test {s : System} {l : Label} (h : handoverTest s l = true) :
    Handover ⟨1⟩ 0 s l := by
  cases l with
  | env => cases h
  | proc i ch =>
    rintro rfl a dest pc hp
    simp only [handoverTest, bne_self_eq_false, Bool.false_or, hp] at h
    cases pc with
    | route source g r =>
      cases r with
      | cached =>
        cases hl : (s.shared.apis a).lookupRoute ch with
        | mk c p =>
          cases c with
          | none => simp [hl] at h
          | some c => exact ⟨c, p, hl, by simpa [hl] using h⟩
      | done => exact h
      | resolving | retrying | failed => trivial
    | snapshot => cases h
    | upload => exact h
    | _ => trivial

/-- The write 1 goes through the API server of the migration, so the route is cached. -/
def writeThenMigrate : List Label :=
  replicate 5 (.proc 1 {}) ++ replicate 5 (.proc 0 {})

lemma writeThenMigrate_noStale {s : System}
    (hs : exec step (migratingCell 0) writeThenMigrate = some s) : NoStale s := by
  have hobs : (exec step (migratingCell 0) writeThenMigrate).map
      (fun s => ((s.procs 0).holds, (s.procs 1).holds)) = some (none, none) := rfl
  simp only [hs, Option.map_some, Option.some.injEq, Prod.mk.injEq] at hobs
  intro i g hg
  by_cases hi0 : i = 0
  · rw [hi0, hobs.1] at hg
    cases hg
  by_cases hi1 : i = 1
  · rw [hi1, hobs.2] at hg
    cases hg
  have hrest : s.procs i = (migratingCell 0).procs i := by
    refine procs_of_exec (fun l hl => ?_) hs
    simp only [writeThenMigrate, mem_append, mem_replicate] at hl
    rcases hl with ⟨_, rfl⟩ | ⟨_, rfl⟩
    · exact ⟨1, {}, rfl, Ne.symm hi1⟩
    · exact ⟨0, {}, rfl, Ne.symm hi0⟩
  simp [hrest, hi0, Proc.holds] at hg

lemma writeThenMigrate_handover : Meets step (Handover ⟨1⟩ 0) (migratingCell 0)
    (writeThenMigrate ++ replicate 9 (.proc 0 {})) := by
  obtain ⟨u, hu⟩ : ∃ u, exec step (migratingCell 0) writeThenMigrate = some u := ⟨_, rfl⟩
  refine (meets_append hu).mpr ⟨meets_of_check handover_of_test rfl, fun v hv => ⟨?_, ?_⟩⟩
  · rintro - a dest pc hp
    have hobs : (exec step (migratingCell 0) writeThenMigrate).map (fun s => s.procs 0) =
        some (.migrate 0 ⟨3⟩ (.snapshot (some ⟨1⟩) 1 ⟨⟨1⟩, true⟩)) := rfl
    simp only [hu, Option.map_some, Option.some.injEq, hp, Proc.migrate.injEq] at hobs
    rw [hobs.2.2]
    exact ⟨rfl, writeThenMigrate_noStale hu⟩
  · have hobs : (exec step (migratingCell 0) (writeThenMigrate ++ [.proc 0 {}])).map
        (fun s => check step handoverTest s (replicate 8 (.proc 0 {}))) = some true := rfl
    have hv' : exec step (migratingCell 0) (writeThenMigrate ++ [.proc 0 {}]) = some v :=
      exec_append_eq_some.mpr ⟨u, hu, exec_cons hv exec_nil⟩
    simp only [hv', Option.map_some, Option.some.injEq] at hobs
    exact meets_of_check handover_of_test hobs

end Combee.Cluster
