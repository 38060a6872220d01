import Combee.Cluster.AdminFrames
import Combee.Cluster.Nodes

/-!
# Agreement — the record's generation and the fence of the primary

Three operations raise a Cell's generation in the metadata store; one of them, `failover_cell`,
tells the node that serves the Cell from then on. Here operations run one after the other, every
call succeeds and no node restarts, so all that is left open is how old a cached route is and what
the clocks show.
-/

namespace Combee.Cluster

open Foundation Storage

/-! ## Operations one after the other -/

structure Smooth where
  fresh : Bool := true
  ms : Nat := 0
  cached : Bool := true

def Smooth.choice (c : Smooth) : Choice :=
  { ok := true, fresh := c.fresh, healthy := fun _ => true, ms := c.ms, cached := c.cached }

def Proc.ended : Proc → Bool
  | .write _ (.acked _ _) => true
  | .write _ .failed => true
  | .failover _ (.returned _ _ _) => true
  | .failover _ .failed => true
  | .migrate _ _ (.returned _ _) => true
  | .migrate _ _ .failed => true
  | .reset _ .returned => true
  | .reset _ .failed => true
  | _ => false

def soloStep (i : Nat) (s : World × Proc) (c : Smooth) : Option (World × Proc) :=
  alone i s c.choice

/-- A process runs alone, from its start to its end. -/
def solo (w : World) (i : Nat) (p : Proc) (cs : List Smooth) : Option World :=
  (exec (soloStep i) (w, p) cs).bind fun s => if s.2.ended then some s.1 else none

inductive Op where
  | write (i a : Nat)
  | setReplica (replica : Option NodeId)
  | failover (a : Nat)
  | migrate (i a : Nat) (dest : NodeId)
  | reset (a : Nat)
  deriving DecidableEq, Repr

def runOp (w : World) : Op × List Smooth → Option World
  | (.write i a, cs) => solo w i (.write a .start) cs
  | (.setReplica replica, _) => some (w.setRecord (w.record.setReplicaNode replica))
  | (.failover a, cs) => solo w 0 (.failover a .start) cs
  | (.migrate i a dest, cs) => solo w i (.migrate a dest .start) cs
  | (.reset a, cs) => solo w 0 (.reset a .start) cs

/-- The fence of the Cell's storage node is the record's generation. -/
def Agrees (w : World) : Prop :=
  ∀ n, w.record.storageNodeId = some n → (w.fences n).getD 0 = w.record.generation

/-- The operation does not raise the generation behind the back of the storage node. -/
def KeepsAgreement (w : World) : Op → Prop
  | .migrate _ _ dest => w.record.storageNodeId = some dest ∨
      (w.fences dest).getD 0 = (w.record.migrateDatabase dest).generation
  | .reset _ => w.record.storageNodeId = none
  | _ => True

structure Created (w : World) : Prop where
  record : ∃ id storage, w.record = .create id storage
  fences : ∀ n, w.fences n = none
  clients : ∀ a n c, (w.apis a).clients n = some c → c.node = n

/-! ## Routing when every call succeeds -/

section Smooth

variable {w w' : World} {a : Nat} {c : Smooth}

def Routing.Direct (r : Routing) : Prop :=
  ∀ n, r ≠ .retrying n

lemma Routing.Direct.cached : Routing.cached.Direct :=
  fun _ h => Routing.noConfusion h

lemma Routing.Direct.resolving : Routing.resolving.Direct :=
  fun _ h => Routing.noConfusion h

lemma Routing.Direct.done (c : Client) : (Routing.done c).Direct :=
  fun _ h => Routing.noConfusion h

lemma Routing.Direct.failed : Routing.failed.Direct :=
  fun _ h => Routing.noConfusion h

/-- `client_for` with every node available: no retry, and no failure for a Cell that has a storage
node. -/
lemma routeStep_smooth {r r' : Routing} (hr : r.Direct)
    (h : routeStep w a r c.choice = some (w', r')) :
    r'.Direct ∧ (r' = .failed → w.record.storageNodeId = none) := by
  cases r with
  | cached =>
    simp only [routeStep] at h
    split at h <;> cases h
    · exact ⟨.done _, fun he => Routing.noConfusion he⟩
    · exact ⟨.resolving, fun he => Routing.noConfusion he⟩
  | resolving =>
    simp only [routeStep, Smooth.choice, if_true, Provider.resolve] at h
    cases hs : w.record.storageNodeId with
    | some n =>
      simp only [hs] at h
      cases h
      exact ⟨.done _, fun he => Routing.noConfusion he⟩
    | none =>
      simp only [hs] at h
      split at h <;> cases h
      · exact ⟨.done _, fun _ => rfl⟩
      · exact ⟨.failed, fun _ => rfl⟩
  | retrying n => exact absurd rfl (hr n)
  | done | failed => cases h

lemma RightClients.routeStep (h : RightClients w) {ch : Choice} {r r' : Routing} (hr : r.Direct)
    (hs : routeStep w a r ch = some (w', r')) : RightClients w' := by
  intro b n c hc
  rcases (routeStep_spec hs).2.1 b n c hc with hc | hc | ⟨hret, _⟩
  · exact h b n c hc
  · exact hc
  · exact absurd hret (hr n)

end Smooth

/-! ## What each operation leaves behind -/

/-- The control state `(record, fences)` of a world with right clients. -/
structure Settled (R : DatabaseRecord) (F : NodeId → Option Int) (w : World) : Prop where
  clients : RightClients w
  record : w.record = R
  fences : w.fences = F

section Solo

variable {R : DatabaseRecord} {F : NodeId → Option Int} {w w' : World} {i a : Nat} {c : Smooth}

section

variable (h : Settled R F w)
include h

lemma Settled.setApi {p : Provider}
    (hp : ∀ n c, p.clients n = some c → (w.apis a).clients n = some c ∨ c.node = n) :
    Settled R F (w.setApi a p) :=
  ⟨h.clients.setApi hp, h.record, h.fences⟩

lemma Settled.routeStep {ch : Choice} {r r' : Routing} (hr : r.Direct)
    (hs : routeStep w a r ch = some (w', r')) : Settled R F w' := by
  refine ⟨h.clients.routeStep hr hs, ?_, ?_⟩
  · rw [(routeStep_spec hs).1]
    exact h.record
  · rw [(routeStep_spec hs).1]
    exact h.fences

lemma Settled.setDisk (n : NodeId) (d : Disk Nat) : Settled R F (w.setDisk n d) :=
  ⟨h.clients, h.record, h.fences⟩

lemma Settled.setCache (n : NodeId) (cs : List Nat) : Settled R F (w.setCache n cs) :=
  ⟨h.clients, h.record, h.fences⟩

lemma Settled.pull {n : NodeId} {pc pc' : PullPc}
    (hp : PullMove w n pc w' pc') : Settled R F w' := by
  obtain ⟨d, cs, rfl⟩ := hp.frame
  exact (h.setDisk n d).setCache n cs

lemma Settled.restore {n : NodeId} {pc pc' : RestorePc}
    (hp : RestoreMove w n pc w' pc') : Settled R F w' := by
  obtain ⟨d, cs, rfl⟩ := hp.frame
  exact (h.setDisk n d).setCache n cs

end

variable {cs : List Smooth}

/-- A process of one kind that runs alone keeps what its steps keep, up to its end. -/
lemma solo_inv {Pc : Type} (proc : Pc → Proc) {J : World → Pc → Prop} {pc : Pc}
    {step : World → Pc → Choice → Option (World × Pc)}
    (hproc : ∀ {w pc} {c : Smooth}, soloStep i (w, proc pc) c =
      (step w pc c.choice).map fun (w', pc') => (w', proc pc'))
    (hstep : ∀ {w pc} {c : Smooth} {w' pc'}, J w pc → step w pc c.choice = some (w', pc') →
      J w' pc')
    (h₀ : J w pc) (h : solo w i (proc pc) cs = some w') :
    ∃ pc', J w' pc' ∧ (proc pc').ended = true := by
  obtain ⟨⟨w1, p'⟩, hexec, hend⟩ := Option.bind_eq_some_iff.mp h
  have hinv : ∃ pc', p' = proc pc' ∧ J w1 pc' := by
    refine inv_of_exec_all (I := fun s => ∃ pc', s.2 = proc pc' ∧ J s.1 pc') ?_ ⟨pc, rfl, h₀⟩ hexec
    rintro ⟨w2, _⟩ c s' ⟨pc2, rfl, hJ⟩ hs
    rw [hproc] at hs
    obtain ⟨⟨w3, pc3⟩, hw3, rfl⟩ := Option.map_eq_some_iff.mp hs
    exact ⟨pc3, rfl, hstep hJ hw3⟩
  obtain ⟨pc', rfl, hJ⟩ := hinv
  simp only at hend
  split at hend
  · rename_i he
    cases hend
    exact ⟨pc', hJ, he⟩
  · cases hend

/-! ### Client writes -/

def WriteSolo (R : DatabaseRecord) (F : NodeId → Option Int) (w : World) : WritePc → Prop
  | .route _ r => Settled R F w ∧ r.Direct
  | _ => Settled R F w

lemma WriteMove.solo {pc pc' : WritePc} (h : WriteMove w i a c.choice pc w' pc')
    (hpc : WriteSolo R F w pc) : WriteSolo R F w' pc' := by
  cases h with
  | read => exact ⟨hpc, .cached⟩
  | route h => exact ⟨hpc.1.routeStep hpc.2 h, (routeStep_smooth hpc.2 h).1⟩
  | pass => exact hpc.1
  | ack => exact ⟨hpc.clients, hpc.record, hpc.fences⟩
  | @fail pc _ _ hp =>
    have hset : Settled R F w := by
      cases pc with
      | route => exact hpc.1
      | start | admitted | acked | failed => exact hpc
    exact hset.setApi fun n c hn => .inl (by rwa [hp] at hn)

lemma solo_write (hw : Settled R F w)
    (h : solo w i (.write a .start) cs = some w') : Settled R F w' := by
  have hstart : WriteSolo R F w .start := hw
  obtain ⟨pc, hpc, hend⟩ :=
    solo_inv (.write a) rfl (fun hpc hs => (writeStep_move hs).solo hpc) hstart h
  cases pc with
  | acked | failed => exact hpc
  | _ => cases hend

/-! ### `failover_cell` -/

/-- The Cell is on the node `r` with the raised generation. -/
structure Raised (R : DatabaseRecord) (r : NodeId) (w : World) : Prop where
  clients : RightClients w
  storage : w.record.storageNodeId = some r
  generation : w.record.generation = wrapI64 (R.generation + 1)

structure RaisedAndFenced (R : DatabaseRecord) (r : NodeId) (w : World) : Prop extends
    Raised R r w where
  fence : w.fences r = some w.record.generation

def FailoverSolo (R : DatabaseRecord) (F : NodeId → Option Int) (w : World) : FailoverPc → Prop
  | .start => Settled R F w
  | .failed => Settled R F w
  | .gotRecord _ r => Settled R F w ∧ R.replicaNodeId = some r
  | .pulling _ r c _ => Settled R F w ∧ R.replicaNodeId = some r ∧ c.node = r
  | .promote _ r c => Settled R F w ∧ R.replicaNodeId = some r ∧ c.node = r
  | .promoted _ r c g => Raised R r w ∧ c.node = r ∧ g = w.record.generation
  | .fencedNew _ r _ => RaisedAndFenced R r w
  | .fenceOld _ c r _ => RaisedAndFenced R r w ∧ c.node ≠ r
  | .returning _ r _ => RaisedAndFenced R r w
  | .returned _ r _ => RaisedAndFenced R r w

lemma FailoverMove.solo {ch : Choice} {pc pc' : FailoverPc} (hok : ch.ok = true)
    (h : FailoverMove w a ch pc w' pc') (hpc : FailoverSolo R F w pc) :
    FailoverSolo R F w' pc' := by
  cases h with
  | read h => exact ⟨hpc, by rw [← hpc.record]; exact h⟩
  | connect h =>
    obtain ⟨hset, hrep⟩ := hpc
    exact ⟨⟨hset.clients.clientForNode h, hset.record, hset.fences⟩, hrep,
      hset.clients.client_node h⟩
  | pull h | pulled h => exact ⟨hpc.1.pull h, hpc.2⟩
  | broken h => exact hpc.1.pull h
  | promote h =>
    obtain ⟨hset, hrep, hc⟩ := hpc
    simp only [hset.record, DatabaseRecord.promoteReplica, hrep] at h
    cases h
    exact ⟨⟨hset.clients, rfl, rfl⟩, hc, rfl⟩
  | fenceNew =>
    obtain ⟨hr, rfl, rfl⟩ := hpc
    exact ⟨⟨hr.clients, hr.storage, hr.generation⟩, by simp [World.fenceCell]⟩
  | lostNew hok' | lostOld hok' => simp [hok] at hok'
  | reach hne h =>
    have hc := hpc.clients.client_node h
    exact ⟨⟨⟨hpc.clients.clientForNode h, hpc.storage, hpc.generation⟩, hpc.fence⟩, hc ▸ hne⟩
  | skip | finish => exact hpc
  | fenceOld =>
    obtain ⟨hr, hc⟩ := hpc
    refine ⟨⟨hr.clients, hr.storage, hr.generation⟩, ?_⟩
    simpa [World.fenceCell, Ne.symm hc] using hr.fence
  | @refused pc hpc' =>
    cases pc with
    | start => exact hpc
    | gotRecord | pulling | promote => exact hpc.1
    | _ => cases hpc'

/-- A failover leaves the control state, or it raises the generation and tells the new primary. -/
lemma solo_failover (hw : Settled R F w) (h : solo w i (.failover a .start) cs = some w') :
    Settled R F w' ∨ ∃ r, RaisedAndFenced R r w' := by
  have hstart : FailoverSolo R F w .start := hw
  obtain ⟨pc, hpc, hend⟩ :=
    solo_inv (.failover a) rfl (fun hpc hs => (failoverStep_move hs).solo rfl hpc) hstart h
  cases pc with
  | returned old r g => exact .inr ⟨r, hpc⟩
  | failed => exact .inl hpc
  | _ => cases hend

/-! ### `admin_migrate_cell` -/

def MigrateSolo (R : DatabaseRecord) (F : NodeId → Option Int) (dest : NodeId) (w : World) :
    MigratePc → Prop
  | .start => Settled R F w
  | .checkTarget _ => Settled R F w ∧ R.storageNodeId ≠ some dest
  | .move _ => Settled R F w ∧ R.storageNodeId ≠ some dest
  | .route _ _ r => Settled (R.migrateDatabase dest) F w ∧ R.storageNodeId ≠ some dest ∧ r.Direct
  | .failed => (Settled R F w ∧ R.storageNodeId = some dest) ∨
      (Settled (R.migrateDatabase dest) F w ∧ R.storageNodeId ≠ some dest)
  | _ => Settled (R.migrateDatabase dest) F w ∧ R.storageNodeId ≠ some dest

lemma MigrateMove.solo {dest : NodeId} {pc pc' : MigratePc}
    (h : MigrateMove w i a dest c.choice pc w' pc') (hpc : MigrateSolo R F dest w pc) :
    MigrateSolo R F dest w' pc' := by
  cases h with
  | read h => exact ⟨hpc, by rw [← hpc.record]; exact h⟩
  | target h | connect h =>
    exact ⟨⟨hpc.1.clients.clientForNode h, hpc.1.record, hpc.1.fences⟩, hpc.2⟩
  | move =>
    obtain ⟨hset, hne⟩ := hpc
    exact ⟨⟨hset.clients, by simp [World.setRecord, hset.record], hset.fences⟩, hne, .cached⟩
  | route h =>
    obtain ⟨hset, hne, hr⟩ := hpc
    exact ⟨hset.routeStep hr h, hne, (routeStep_smooth hr h).1⟩
  | send | skipped => exact ⟨hpc.1, hpc.2.1⟩
  | lost hok | noSnapshot hok | noUpload hok | noMove hok => cases hok
  | snapshot => exact ⟨hpc.1.setDisk _ _, hpc.2⟩
  | upload => exact ⟨⟨hpc.1.clients, hpc.1.record, hpc.1.fences⟩, hpc.2⟩
  | restore h | restored h => exact ⟨hpc.1.restore h, hpc.2⟩
  | broken h => exact .inr ⟨hpc.1.restore h, hpc.2⟩
  | refused h =>
    rcases h with h | h
    · cases h
    · exact .inl ⟨hpc, by rw [← hpc.record]; exact h⟩
  | noTarget h | gone h => cases h

/-- A migration to another node raises the generation and leaves the fences as they are. -/
lemma solo_migrate {dest : NodeId} (hw : Settled R F w)
    (h : solo w i (.migrate a dest .start) cs = some w') :
    (Settled R F w' ∧ R.storageNodeId = some dest) ∨
      (Settled (R.migrateDatabase dest) F w' ∧ R.storageNodeId ≠ some dest) := by
  have hstart : MigrateSolo R F dest w .start := hw
  obtain ⟨pc, hpc, hend⟩ :=
    solo_inv (.migrate a dest) rfl (fun hpc hs => (migrateStep_move hs).solo hpc) hstart h
  cases pc with
  | returned source g => exact .inr hpc
  | failed => exact hpc
  | _ => cases hend

/-! ### `reset_database` -/

def ResetSolo (R : DatabaseRecord) (F : NodeId → Option Int) (w : World) : ResetPc → Prop
  | .route r => Settled R F w ∧ r.Direct ∧ (r = .failed → R.storageNodeId = none)
  | .returned => Settled R.resetDatabase F w
  | .failed => Settled R F w ∧ R.storageNodeId = none
  | _ => Settled R F w

lemma ResetMove.solo {pc pc' : ResetPc} (h : ResetMove w a c.choice pc w' pc')
    (hpc : ResetSolo R F w pc) : ResetSolo R F w' pc' := by
  cases h with
  | begin => exact ⟨hpc, .cached, fun he => Routing.noConfusion he⟩
  | route h =>
    obtain ⟨hset, hr, _⟩ := hpc
    obtain ⟨hr', hfail⟩ := routeStep_smooth hr h
    exact ⟨hset.routeStep hr h, hr', fun he => by rw [← hset.record]; exact hfail he⟩
  | send => exact hpc.1.setDisk _ _
  | clear => exact hpc.setCache _ _
  | removeMain | removeWal => exact hpc.setDisk _ _
  | bump => exact ⟨hpc.clients, by simp [World.setRecord, hpc.record], hpc.fences⟩
  | lost hok | fail hok => cases hok
  | noRoute => exact ⟨hpc.1, hpc.2.2 rfl⟩

/-- A reset of a Cell with a storage node raises the generation and leaves the fences as they
are. -/
lemma solo_reset (hw : Settled R F w) (h : solo w i (.reset a .start) cs = some w') :
    Settled R.resetDatabase F w' ∨ (Settled R F w' ∧ R.storageNodeId = none) := by
  have hstart : ResetSolo R F w .start := hw
  obtain ⟨pc, hpc, hend⟩ :=
    solo_inv (.reset a) rfl (fun hpc hs => (resetStep_move hs).solo hpc) hstart h
  cases pc with
  | returned => exact .inl hpc
  | failed => exact .inr hpc
  | _ => cases hend

end Solo

/-! ## Agreement -/

/-- The invariant of sequences of operations: clients are right and the generation is an `i64`. -/
structure Wellformed (w : World) : Prop where
  clients : RightClients w
  lo : -(2 ^ 63) ≤ w.record.generation
  hi : w.record.generation < 2 ^ 63

section Steps

variable {R : DatabaseRecord} {w w' : World}

lemma Wellformed.settled (h : Wellformed w) : Settled w.record w.fences w :=
  ⟨h.clients, rfl, rfl⟩

lemma Settled.keeps (hw : Wellformed w) (hA : Agrees w)
    (h : Settled w.record w.fences w') : Wellformed w' ∧ Agrees w' := by
  refine ⟨⟨h.clients, by rw [h.record]; exact hw.lo, by rw [h.record]; exact hw.hi⟩, ?_⟩
  intro n hn
  rw [h.record, h.fences] at *
  exact hA n hn

lemma wellformed_of_raised (hc : RightClients w')
    (hg : w'.record.generation = wrapI64 (R.generation + 1)) : Wellformed w' := by
  obtain ⟨hlo, hhi⟩ := wrapI64_bounds (R.generation + 1)
  exact ⟨hc, by rw [hg]; exact hlo, by rw [hg]; exact hhi⟩

/-- An operation keeps the agreement exactly if it does not raise the generation behind the storage
node's back. -/
lemma runOp_step {l : Op × List Smooth} (hw : Wellformed w) (hA : Agrees w)
    (h : runOp w l = some w') : Wellformed w' ∧ (Agrees w' ↔ KeepsAgreement w l.1) := by
  obtain ⟨op, cs⟩ := l
  cases op with
  | write i a =>
    obtain ⟨hw', hA'⟩ := (solo_write hw.settled h).keeps hw hA
    exact ⟨hw', iff_of_true hA' trivial⟩
  | setReplica replica =>
    cases h
    exact ⟨⟨hw.clients, hw.lo, hw.hi⟩, iff_of_true hA trivial⟩
  | failover a =>
    rcases solo_failover hw.settled h with hset | ⟨r, hr⟩
    · obtain ⟨hw', hA'⟩ := hset.keeps hw hA
      exact ⟨hw', iff_of_true hA' trivial⟩
    · refine ⟨wellformed_of_raised hr.clients hr.generation, iff_of_true ?_ trivial⟩
      intro n hn
      obtain rfl := Option.some.inj (hr.storage.symm.trans hn)
      rw [hr.fence, Option.getD_some]
  | migrate i a dest =>
    rcases solo_migrate hw.settled h with ⟨hset, hst⟩ | ⟨hset, hst⟩
    · obtain ⟨hw', hA'⟩ := hset.keeps hw hA
      exact ⟨hw', iff_of_true hA' (.inl hst)⟩
    · refine ⟨wellformed_of_raised hset.clients (by rw [hset.record]; rfl), ?_⟩
      -- the target's fence is what it was, so the agreement hangs on it alone
      have hiff : Agrees w' ↔
          (w.fences dest).getD 0 = (w.record.migrateDatabase dest).generation := by
        unfold Agrees
        rw [hset.record, hset.fences]
        exact ⟨fun h => h dest rfl, fun h n hn => Option.some.inj hn ▸ h⟩
      rw [hiff]
      exact ⟨.inr, fun h => h.resolve_left hst⟩
  | reset a =>
    rcases solo_reset hw.settled h with hset | ⟨hset, hst⟩
    · refine ⟨wellformed_of_raised hset.clients (by rw [hset.record]; rfl), ?_⟩
      unfold Agrees
      rw [hset.record, hset.fences]
      cases hst : w.record.storageNodeId with
      | none =>
        refine iff_of_true (fun n hn => ?_) hst
        simp [DatabaseRecord.resetDatabase, hst] at hn
      | some n =>
        refine iff_of_false (fun hagree => ?_) (by simp [KeepsAgreement, hst])
        -- the fence agreed with the old generation, and the new one is another
        have hnew := hagree n (by simp [DatabaseRecord.resetDatabase, hst])
        rw [hA n hst] at hnew
        exact wrapI64_succ_ne hw.lo hw.hi hnew.symm
    · obtain ⟨hw', hA'⟩ := hset.keeps hw hA
      exact ⟨hw', iff_of_true hA' hst⟩

end Steps

lemma Created.wellformed {w : World} (h : Created w) : Wellformed w ∧ Agrees w := by
  obtain ⟨id, storage, hrec⟩ := h.record
  refine ⟨⟨h.clients, by simp [hrec, DatabaseRecord.create], by simp [hrec, DatabaseRecord.create]⟩,
    fun n _ => ?_⟩
  rw [hrec, h.fences n]
  rfl

/-- The storage node, as a data node of its own, lets in a write that carries the record's
generation. -/
def PrimaryAccepts (w : World) : Prop :=
  ∀ n, w.record.storageNodeId = some n → ∀ (U : Type) (s : DataNode.Node U), w.Shows n s →
    s.checkGeneration w.record.id w.record.generation = .ok ()

lemma Agrees.primaryAccepts {w : World} (h : Agrees w) : PrimaryAccepts w := by
  intro n hn U s hs
  refine (hs.admits_iff _).mp ?_
  simp [World.admits, h n hn]

/-- **Generation agreement.** Through completed operations, the fence of the storage node agrees
with the record after each of them exactly if none raises the generation behind its back. -/
theorem agreement_iff {w₀ : World} (h₀ : Created w₀) (ls : List (Op × List Smooth)) :
    (∀ pre w, pre <+: ls → exec runOp w₀ pre = some w → Agrees w ∧ PrimaryAccepts w) ↔
    Meets runOp (fun w l => KeepsAgreement w l.1) w₀ ls := by
  have hboth : ∀ w, (Agrees w ∧ PrimaryAccepts w) ↔ Agrees w := fun w =>
    ⟨fun h => h.1, fun h => ⟨h, h.primaryAccepts⟩⟩
  simp only [hboth]
  exact always_iff_meets (fun hI hP h => runOp_step hI hP h) h₀.wellformed.1 h₀.wellformed.2

/-! ## Raised behind the back of the primary -/

def createdCell : World where
  record := .create ⟨0⟩ (some ⟨1⟩)
  fences := fun _ => none
  disks := fun _ => .blank
  caches := fun _ => []
  apis := fun _ => ⟨fun _ => none, none⟩
  store := ∅
  localNode := none

lemma createdCell_created : Created createdCell :=
  ⟨⟨⟨0⟩, some ⟨1⟩, rfl⟩, fun _ => rfl, nofun⟩

/-- After a reset, and after a migration, the storage node rejects a write with the record's
generation. -/
theorem reset_breaks_agreement :
    (∃ w, exec runOp createdCell [(.reset 0, List.replicate 8 {})] = some w ∧
      w.record = ⟨⟨0⟩, some ⟨1⟩, none, 1⟩ ∧ ¬ Agrees w ∧ w.admits ⟨1⟩ w.record.generation = false) ∧
    ∃ w, exec runOp createdCell [(.migrate 0 0 ⟨3⟩, List.replicate 15 {})] = some w ∧
      w.record = ⟨⟨0⟩, some ⟨3⟩, none, 1⟩ ∧ ¬ Agrees w ∧
      w.admits ⟨3⟩ w.record.generation = false := by
  refine ⟨⟨_, rfl, rfl, fun h => ?_, rfl⟩, ⟨_, rfl, rfl, fun h => ?_, rfl⟩⟩
  · exact absurd (h ⟨1⟩ rfl) (by decide)
  · exact absurd (h ⟨3⟩ rfl) (by decide)

/-- A write, a replica on node 2 and a failover to it leave the two in agreement. -/
theorem agreement_iff_failover : ∃ w,
    exec runOp createdCell [(.write 5 0, List.replicate 5 {}), (.setReplica (some ⟨2⟩), []),
      (.failover 0, List.replicate 9 {})] = some w ∧
    w.record = ⟨⟨0⟩, some ⟨2⟩, none, 1⟩ ∧ Agrees w := by
  refine ⟨_, rfl, rfl, ?_⟩
  refine ((agreement_iff createdCell_created [(.write 5 0, List.replicate 5 {}),
    (.setReplica (some ⟨2⟩), []), (.failover 0, List.replicate 9 {})]).mpr ?_ _ _
    (List.prefix_refl _) rfl).1
  exact fun _ _ => ⟨trivial, fun _ _ => ⟨trivial, fun _ _ => ⟨trivial, trivial⟩⟩⟩

end Combee.Cluster
