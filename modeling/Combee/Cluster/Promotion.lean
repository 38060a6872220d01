import Combee.Cluster.Frames

/-!
# Promotion — what holds around one failover

A Cell has a primary and a replica. Clients write, any number of callers run `failover_cell`, and
the replica and backup loops of all nodes run, interleaved in every way and with restarts. The
record is then either the one at the start or the promoted one, generations and fences stay in step
with it, and every failover speaks about the one promotion. This module proves that invariant; the
safety results about split brain, pulls and archives start from it.
-/

namespace Combee.Cluster

open Foundation Storage

/-- The record after the replica `r` has been promoted. -/
def DatabaseRecord.promotedTo (R : DatabaseRecord) (r : NodeId) : DatabaseRecord :=
  { R with storageNodeId := some r, replicaNodeId := none, generation := R.generation + 1 }

lemma ne_promotedTo (R : DatabaseRecord) (r : NodeId) : R ≠ R.promotedTo r := by
  intro h
  have hg : R.generation = R.generation + 1 := congrArg DatabaseRecord.generation h
  omega

def Proc.Idle : Proc → Prop
  | .write _ .start => True
  | .failover _ .start => True
  | .replicaLoop _ .idle => True
  | .backupLoop _ .idle => True
  | _ => False

/-- A record with the replica `r`, whose generation can be raised without reaching the demotion
mark. -/
structure Promotable (R : DatabaseRecord) (r : NodeId) : Prop where
  replica : R.replicaNodeId = some r
  nonneg : 0 ≤ R.generation
  lt : R.generation + 1 < i64Max

/-- No fence but a demotion mark is above the generation, and every client reaches the node it is
stored under. -/
structure Ready (R : DatabaseRecord) (r : NodeId) (s : System) : Prop where
  promotable : Promotable R r
  record : s.shared.record = R
  fences : ∀ n g, s.shared.fences n = some g → g ≤ R.generation ∨ g = i64Max
  clients : ∀ a n c, (s.shared.apis a).clients n = some c → c.node = n
  procs : ∀ i, (s.procs i).Idle

def newCell : World where
  record := ⟨⟨0⟩, some ⟨1⟩, some ⟨2⟩, 0⟩
  fences := fun _ => none
  disks := fun _ => .blank
  caches := fun _ => []
  apis := fun _ => ⟨fun _ => none, none⟩
  store := ∅
  localNode := none

/-! ## The moves of the four kinds of process -/

inductive ProcMove (w : World) (i : Nat) : Proc → World → Proc → Prop
  | write {a ch pc pc' w'} (h : WriteMove w i a ch pc w' pc') :
      ProcMove w i (.write a pc) w' (.write a pc')
  | failover {a ch pc pc' w'} (h : FailoverMove w a ch pc w' pc') :
      ProcMove w i (.failover a pc) w' (.failover a pc')
  | replicaLoop {n pc pc' w'} (h : ReplicaMove w n pc w' pc') :
      ProcMove w i (.replicaLoop n pc) w' (.replicaLoop n pc')
  | backupLoop {n pc pc' w'} (h : BackupMove w n pc w' pc') :
      ProcMove w i (.backupLoop n pc) w' (.backupLoop n pc')

def Proc.Serving : Proc → Prop
  | .write _ _ => True
  | .failover _ _ => True
  | .replicaLoop _ _ => True
  | .backupLoop _ _ => True
  | _ => False

variable {w w' : World}

lemma act_move {i : Nat} {p p' : Proc} {ch : Choice} (hp : p.Serving)
    (h : act w i p ch = some (w', p')) : ProcMove w i p w' p' := by
  cases p with
  | write a pc =>
    obtain ⟨pc1, hs, rfl⟩ := of_map_step h
    exact .write (writeStep_move hs)
  | failover a pc =>
    obtain ⟨pc1, hs, rfl⟩ := of_map_step h
    exact .failover (failoverStep_move hs)
  | replicaLoop n pc =>
    obtain ⟨pc1, hs, rfl⟩ := of_map_step h
    exact .replicaLoop (replicaStep_move hs)
  | backupLoop n pc =>
    obtain ⟨pc1, hs, rfl⟩ := of_map_step h
    exact .backupLoop (backupStep_move hs)
  | migrate | reset | restore => exact hp.elim

/-- A process step that reads and writes neither the record nor a fence nor a client. -/
structure SameControl (w w' : World) : Prop where
  record : w'.record = w.record
  fences : w'.fences = w.fences
  apis : w'.apis = w.apis

variable {n : NodeId}

lemma PullMove.sameControl {pc pc' : PullPc} (h : PullMove w n pc w' pc') : SameControl w w' := by
  obtain ⟨d, c, rfl⟩ := h.frame
  exact ⟨rfl, rfl, rfl⟩

lemma ReplicaMove.sameControl {pc pc' : ReplicaPc}
    (h : ReplicaMove w n pc w' pc') : SameControl w w' := by
  cases h with
  | wait | duty => exact ⟨rfl, rfl, rfl⟩
  | pull h => exact h.sameControl

lemma BackupMove.sameControl {pc pc' : BackupPc}
    (h : BackupMove w n pc w' pc') : SameControl w w' := by
  cases h <;> exact ⟨rfl, rfl, rfl⟩

/-! ## The invariant -/

section Invariant

variable {R : DatabaseRecord} {r : NodeId}

/-- The part of the invariant about the shared state. -/
structure Control (R : DatabaseRecord) (r : NodeId) (w : World) : Prop where
  record : w.record = R ∨ w.record = R.promotedTo r
  fences : ∀ n g, w.fences n = some g →
    g ≤ R.generation ∨ g = i64Max ∨ (g = R.generation + 1 ∧ n = r)
  /-- The retry of `client_for` may have stored a client for the new primary under the old one. -/
  clients : ∀ a n c, (w.apis a).clients n = some c →
    c.node = n ∨ (R.storageNodeId = some n ∧ c.node = r)

/-- A generation that a request can hold: the one at the start, or the promoted one once there is
one. -/
def Issued (R : DatabaseRecord) (r : NodeId) (w : World) (g : Int) : Prop :=
  g = R.generation ∨ (g = R.generation + 1 ∧ w.record = R.promotedTo r)

def WriteOk (R : DatabaseRecord) (r : NodeId) (w : World) : WritePc → Prop
  | .route g rt => Issued R r w g ∧ ∀ n, rt = .retrying n →
      R.storageNodeId = some n ∨ (n = r ∧ w.record = R.promotedTo r)
  | .admitted g n => Issued R r w g ∧ (g = R.generation + 1 → n = r)
  | _ => True

def FailoverOk (R : DatabaseRecord) (r : NodeId) (w : World) : FailoverPc → Prop
  | .gotRecord old rep => old = R.storageNodeId ∧ rep = r
  | .pulling old rep c _ => old = R.storageNodeId ∧ rep = r ∧ c.node = r
  | .promote old rep c => old = R.storageNodeId ∧ rep = r ∧ c.node = r
  | .promoted old rep c g =>
    old = R.storageNodeId ∧ rep = r ∧ c.node = r ∧ g = R.generation + 1 ∧
      w.record = R.promotedTo r
  | .fencedNew old rep g =>
    old = R.storageNodeId ∧ rep = r ∧ g = R.generation + 1 ∧ w.record = R.promotedTo r
  | .fenceOld o _ rep g =>
    some o = R.storageNodeId ∧ rep = r ∧ g = R.generation + 1 ∧ w.record = R.promotedTo r
  | .returning old rep g =>
    old = R.storageNodeId ∧ rep = r ∧ g = R.generation + 1 ∧ w.record = R.promotedTo r
  | .returned old rep g =>
    old = R.storageNodeId ∧ rep = r ∧ g = R.generation + 1 ∧ w.record = R.promotedTo r
  | _ => True

def ProcOk (R : DatabaseRecord) (r : NodeId) (w : World) (_ : Nat) : Proc → Prop
  | .write _ pc => WriteOk R r w pc
  | .failover _ pc => FailoverOk R r w pc
  | .replicaLoop n pc => pc = .idle ∨ n = r
  | .backupLoop _ _ => True
  | _ => False

/-- The invariant of a cluster around the promotion of `r`. -/
abbrev Around (R : DatabaseRecord) (r : NodeId) (s : System) : Prop :=
  Pool.Inv (Control R r) (ProcOk R r) s

variable {i : Nat} {p : Proc} {w : World}

lemma ProcOk.serving (h : ProcOk R r w i p) : p.Serving := by
  cases p with
  | write | failover | replicaLoop | backupLoop => trivial
  | migrate | reset | restore => exact h.elim

variable {w w' : World}

/-- What is known of a process stays known when others move: the record can only become the promoted
one. -/
lemma ProcOk.mono (hw : w.record = R.promotedTo r → w'.record = R.promotedTo r)
    (h : ProcOk R r w i p) : ProcOk R r w' i p := by
  have hissued : ∀ g, Issued R r w g → Issued R r w' g := by
    rintro g (hg | ⟨hg, hr⟩)
    · exact .inl hg
    · exact .inr ⟨hg, hw hr⟩
  cases p with
  | write a pc =>
    cases pc with
    | route g rt =>
      refine ⟨hissued g h.1, fun n hn => ?_⟩
      rcases h.2 n hn with hs | ⟨hn, hr⟩
      · exact .inl hs
      · exact .inr ⟨hn, hw hr⟩
    | admitted g n => exact ⟨hissued g h.1, h.2⟩
    | start | acked | failed => trivial
  | failover a pc =>
    cases pc with
    | start | failed => trivial
    | gotRecord | pulling | promote => exact h
    | promoted old rep c g =>
      obtain ⟨h1, h2, h3, h4, h5⟩ := h
      exact ⟨h1, h2, h3, h4, hw h5⟩
    | fencedNew | fenceOld | returning | returned =>
      obtain ⟨h1, h2, h3, h4⟩ := h
      exact ⟨h1, h2, h3, hw h4⟩
  | replicaLoop n pc => exact h
  | backupLoop n pc => trivial
  | migrate | reset | restore => exact h.elim

variable {s : System}

lemma Ready.around (h : Ready R r s) : Around R r s := by
  refine ⟨⟨.inl h.record, fun n g hg => ?_, fun a n c hc => .inl (h.clients a n c hc)⟩, fun i => ?_⟩
  · rcases h.fences n g hg with hle | hmax
    · exact .inl hle
    · exact .inr (.inl hmax)
  · have hp := h.procs i
    generalize s.procs i = p at hp
    cases p with
    | write a pc => cases pc <;> trivial
    | failover a pc => cases pc <;> trivial
    | replicaLoop n pc =>
      cases pc with
      | idle => exact .inl rfl
      | pulling => exact hp.elim
    | backupLoop | migrate | reset | restore => trivial

/-! ### Steps -/

lemma Control.of_same (h : Control R r w) (hs : SameControl w w') : Control R r w' := by
  refine ⟨?_, ?_, ?_⟩
  · rw [hs.record]
    exact h.record
  · rw [hs.fences]
    exact h.fences
  · rw [hs.apis]
    exact h.clients

variable {a : Nat}

lemma Control.setApi (h : Control R r w) {p : Provider}
    (hp : ∀ n c, p.clients n = some c → (w.apis a).clients n = some c ∨ c.node = n) :
    Control R r (w.setApi a p) := by
  refine ⟨h.record, h.fences, fun b n c hc => ?_⟩
  rcases setApi_clients hp hc with hc | hc
  · exact h.clients b n c hc
  · exact .inl hc

lemma Control.rpcFailed (h : Control R r w) (a : Nat) (c : Client) :
    Control R r (w.setApi a ((w.apis a).rpcFailed c)) :=
  h.setApi fun n c' hc' => .inl (by rwa [rpcFailed_clients] at hc')

variable {ch : Choice}

lemma Control.replica_client (h : Control R r w) {c : Client}
    {p : Provider} (hc : (w.apis a).clientForNode r ch = (.ok c, p)) : c.node = r := by
  rcases clientForNode_spec hc with hc | hc
  · rcases h.clients a r c hc with hc | hc
    · exact hc
    · exact hc.2
  · exact hc

lemma Promotable.promoteReplica_eq {rec : DatabaseRecord} (hR : Promotable R r)
    (h : R.promoteReplica = .ok rec) : rec = R.promotedTo r := by
  have h0 := hR.nonneg
  have hlt := hR.lt
  unfold i64Max at hlt
  simp only [DatabaseRecord.promoteReplica, hR.replica, Except.ok.injEq] at h
  rw [← h, wrapI64_of_bounds (by omega) (by omega)]
  rfl

lemma WriteMove.ok {pc pc' : WritePc}
    (hc : Control R r w) (hpc : WriteOk R r w pc) (hR : Promotable R r)
    (h : WriteMove w i a ch pc w' pc') : Control R r w' ∧ WriteOk R r w' pc' := by
  have h0 := hR.nonneg
  have hlt := hR.lt
  cases h with
  | read =>
    refine ⟨hc, ?_, by simp⟩
    rcases hc.record with hr | hr
    · exact .inl (by rw [hr])
    · exact .inr ⟨by rw [hr]; rfl, hr⟩
  | route h =>
    obtain ⟨hw, hclients, hretry⟩ := routeStep_spec h
    have hrec : w'.record = w.record := by rw [hw]
    refine ⟨⟨by rw [hrec]; exact hc.record, by rw [hw]; exact hc.fences, ?_⟩, ?_, ?_⟩
    · intro b n c hn
      rcases hclients b n c hn with hn | hn | ⟨hret, hs⟩
      · exact hc.clients b n c hn
      · exact .inl hn
      · -- the retry: the second read of the record may have seen the promotion
        rcases hc.record with hr | hr
        · rcases hpc.2 n hret with hn | ⟨_, hr'⟩
          · rw [hr, hn] at hs
            exact .inl (Option.some.inj hs).symm
          · exact absurd (hr.symm.trans hr') (ne_promotedTo R r)
        · rw [hr] at hs
          have hcr : c.node = r := (Option.some.inj hs).symm
          rcases hpc.2 n hret with hn | ⟨hn, _⟩
          · exact .inr ⟨hn, hcr⟩
          · exact .inl (hcr.trans hn.symm)
    · rcases hpc.1 with hg | ⟨hg, hr⟩
      · exact .inl hg
      · exact .inr ⟨hg, hrec.trans hr⟩
    · intro n hn
      have hs := hretry n hn
      rcases hc.record with hr | hr
      · exact .inl (by rw [← hr, hs])
      · rw [hr] at hs
        exact .inr ⟨(Option.some.inj hs).symm, hrec.trans hr⟩
  | @pass g c h =>
    refine ⟨hc, hpc.1, fun hg => ?_⟩
    simp only [World.admits, beq_iff_eq] at h
    -- only the new primary has been fenced to the promoted generation
    cases hf : w.fences c.node with
    | none =>
      rw [hf] at h
      simp only [Option.getD_none] at h
      omega
    | some f =>
      rw [hf] at h
      simp only [Option.getD_some] at h
      rcases hc.fences c.node f hf with hle | hmax | ⟨_, hn⟩
      · omega
      · omega
      · exact hn
  | ack => exact ⟨⟨hc.record, hc.fences, hc.clients⟩, trivial⟩
  | fail _ hp => exact ⟨hc.setApi fun n c hn => .inl (by rwa [hp] at hn), trivial⟩

lemma FailoverMove.ok {pc pc' : FailoverPc} (hc : Control R r w)
    (hpc : FailoverOk R r w pc) (hR : Promotable R r) (h : FailoverMove w a ch pc w' pc') :
    Control R r w' ∧ FailoverOk R r w' pc' ∧
      (w.record = R.promotedTo r → w'.record = R.promotedTo r) := by
  cases h with
  | @read r' h =>
    rcases hc.record with hr | hr
    · rw [hr] at h
      exact ⟨hc, ⟨by rw [hr], Option.some.inj (h.symm.trans hR.replica)⟩, id⟩
    · rw [hr] at h
      cases h
  | connect h =>
    obtain ⟨hold, rfl⟩ := hpc
    refine ⟨hc.setApi fun n c hn => ?_, ⟨hold, rfl, hc.replica_client h⟩, id⟩
    exact clientForNode_clients (by rw [h]; exact hn)
  | pull h | pulled h =>
    have hs := h.sameControl
    exact ⟨hc.of_same hs, hpc, fun hr => hs.record.trans hr⟩
  -- a second failover finds no replica in the promoted record
  | promote h =>
    rcases hc.record with hr | hr
    · rw [hr] at h
      obtain rfl := hR.promoteReplica_eq h
      obtain ⟨hold, hrr, hcn⟩ := hpc
      exact ⟨⟨.inr rfl, hc.fences, hc.clients⟩, ⟨hold, hrr, hcn, rfl, rfl⟩, fun _ => rfl⟩
    · rw [hr] at h
      cases h
  | @fenceNew _ _ c g =>
    obtain ⟨hold, hrr, hcn, hg, hr⟩ := hpc
    refine ⟨⟨hc.record, fun n g' hn => ?_, hc.clients⟩, ⟨hold, hrr, hg, hr⟩, id⟩
    by_cases hnr : n = c.node
    · subst hnr
      simp only [World.fenceCell, Function.update_self, Option.some.injEq] at hn
      exact .inr (.inr ⟨hn.symm.trans hg, hcn⟩)
    · simp only [World.fenceCell, Function.update_of_ne hnr] at hn
      exact hc.fences n g' hn
  | @lostNew _ _ c g =>
    obtain ⟨hold, hrr, _, hg, hr⟩ := hpc
    exact ⟨hc.rpcFailed a c, ⟨hold, hrr, hg, hr⟩, id⟩
  | reach hne h =>
    refine ⟨hc.setApi fun n c hn => ?_, hpc, id⟩
    exact clientForNode_clients (by rw [h]; exact hn)
  | skip => exact ⟨hc, hpc, id⟩
  | @fenceOld o rep c g =>
    refine ⟨⟨hc.record, fun n g' hn => ?_, hc.clients⟩, hpc, id⟩
    by_cases hnr : n = c.node
    · subst hnr
      simp only [World.fenceCell, Function.update_self, Option.some.injEq] at hn
      exact .inr (.inl hn.symm)
    · simp only [World.fenceCell, Function.update_of_ne hnr] at hn
      exact hc.fences n g' hn
  | @lostOld o rep c g => exact ⟨hc.rpcFailed a c, hpc, id⟩
  | finish => exact ⟨hc, hpc, id⟩
  | refused => exact ⟨hc, trivial, id⟩
  | broken h =>
    have hs := h.sameControl
    exact ⟨hc.of_same hs, trivial, fun hr => hs.record.trans hr⟩

lemma ProcMove.ok {p' : Proc} (hc : Control R r w)
    (hp : ProcOk R r w i p) (hR : Promotable R r) (h : ProcMove w i p w' p') :
    Control R r w' ∧ ProcOk R r w' i p' ∧
      (w.record = R.promotedTo r → w'.record = R.promotedTo r) := by
  cases h with
  | write h =>
    obtain ⟨hc', hp'⟩ := h.ok hc hp hR
    exact ⟨hc', hp', fun hr => h.frame.1.trans hr⟩
  | failover h => exact h.ok hc hp hR
  | replicaLoop h =>
    have hs := h.sameControl
    refine ⟨hc.of_same hs, ?_, fun hr => hs.record.trans hr⟩
    cases h with
    | wait => exact .inl rfl
    | duty hd =>
      rcases hc.record with hr | hr
      · rw [hr, hR.replica] at hd
        exact .inr (Option.some.inj hd).symm
      · rw [hr] at hd
        cases hd
    | pull h =>
      rcases hp with hp | hp
      · cases hp
      · exact .inr hp
  | backupLoop h =>
    have hs := h.sameControl
    exact ⟨hc.of_same hs, trivial, fun hr => hs.record.trans hr⟩

lemma Control.restart (h : Control R r w) (n : NodeId) : Control R r (w.restart n) := by
  refine ⟨h.record, fun m g hm => ?_, h.clients⟩
  by_cases hmn : m = n
  · subst hmn
    simp [World.restart] at hm
  · simp only [World.restart, Function.update_of_ne hmn] at hm
    exact h.fences m g hm

lemma ProcOk.hit (e : Restart) (h : ProcOk R r w i p) : ProcOk R r w i (p.hit e) := by
  cases p with
  | write a pc =>
    cases pc with
    | admitted g n =>
      by_cases hn : n = e.node
      · simp [Proc.hit, hn, ProcOk, WriteOk]
      · simpa [Proc.hit, hn] using h
    | start | route | acked | failed => exact h
  | failover a pc =>
    cases pc with
    | pulling old rep c pc =>
      by_cases hn : c.node = e.node
      · simp [Proc.hit, hn, ProcOk, FailoverOk]
      · simpa [Proc.hit, hn] using h
    | start | gotRecord | promote | promoted | fencedNew => exact h
    | fenceOld | returning | returned | failed => exact h
  | replicaLoop n pc =>
    by_cases hn : n = e.node
    · exact .inl (by simp [hn])
    · simpa [Proc.hit, hn] using h
  | backupLoop n pc => trivial
  | migrate | reset | restore => exact h.elim

variable {s' : System} {l : Label}

lemma Around.kept (hs : Around R r s)
    (hR : Promotable R r) (h : step s l = some s') : Around R r s' := by
  refine Pool.step_inv ?_ ?_ ?_ hs h
  · intro i c g p _ hact
    obtain ⟨hc, hp, _⟩ := (act_move (hs.procs i).serving hact).ok hs.shared (hs.procs i) hR
    exact ⟨hc, hp⟩
  · intro i c g p _ hact j _ hj
    -- what is known of the others depends on the record only, which stays promoted
    exact hj.mono ((act_move (hs.procs i).serving hact).ok hs.shared (hs.procs i) hR).2.2
  · intro e g _ henv
    cases henv
    exact ⟨hs.shared.restart e.node, fun j hj => (hj.mono id).hit e⟩

/-! ### What a step is -/

lemma Around.shared_step (hs : Around R r s) (h : step s l = some s') :
    (∃ i ch, l = .proc i ch ∧ ProcMove s.shared i (s.procs i) s'.shared (s'.procs i)) ∨
      ∃ e, l = .env e ∧ s'.shared = s.shared.restart e.node := by
  cases h using Pool.step_cases with
  | proc i ch w' p' hact =>
    refine .inl ⟨i, ch, rfl, ?_⟩
    simpa using act_move (hs.procs i).serving hact
  | env e w' henv =>
    cases henv
    exact .inr ⟨e, rfl, rfl⟩

/-- In a step of the cluster each process stays as it is, or moves, or is hit by a restart. -/
lemma Around.proc_step (hs : Around R r s) (h : step s l = some s')
    (j : Nat) : s'.procs j = s.procs j ∨
      (∃ ch, l = .proc j ch ∧ ProcMove s.shared j (s.procs j) s'.shared (s'.procs j)) ∨
      ∃ e, l = .env e ∧ s'.procs j = (s.procs j).hit e := by
  cases h using Pool.step_cases with
  | proc i ch w' p' hact =>
    by_cases hji : j = i
    · subst hji
      refine .inr (.inl ⟨ch, rfl, ?_⟩)
      simpa using act_move (hs.procs j).serving hact
    · exact .inl (Function.update_of_ne hji _ _)
  | env e w' _ =>
    exact .inr (.inr ⟨e, rfl, rfl⟩)

def Proc.Cut : Proc → Prop
  | .write _ .failed => True
  | .failover _ .failed => True
  | .replicaLoop _ .idle => True
  | .backupLoop _ .idle => True
  | .migrate _ _ (.target _ _ none) => True
  | .migrate _ _ .failed => True
  | .reset _ .failed => True
  | .restore _ .failed => True
  | _ => False

lemma Proc.hit_cases (e : Restart) (p : Proc) : p.hit e = p ∨ (p.hit e).Cut := by
  unfold Proc.hit
  split <;> first | exact .inl rfl | (split <;> first | exact .inl rfl | exact .inr trivial)

/-- What is seen of a process that has not moved had been seen before; a restart brings nothing
about. -/
lemma Around.seen_step {α : Type} {f : Proc → Option α} (hf : ∀ p, p.Cut → f p = none)
    (hs : Around R r s) (h : step s l = some s') {j : Nat} {x : α} (hx : f (s'.procs j) = some x) :
    f (s.procs j) = some x ∨
      ∃ ch, l = .proc j ch ∧ ProcMove s.shared j (s.procs j) s'.shared (s'.procs j) := by
  rcases hs.proc_step h j with heq | hmove | ⟨e, _, heq⟩
  · exact .inl (heq ▸ hx)
  · exact .inr hmove
  · rcases (s.procs j).hit_cases e with hkeep | hcut
    · rw [heq, hkeep] at hx
      exact .inl hx
    · rw [heq, hf _ hcut] at hx
      cases hx

lemma Around.promoted_kept (hs : Around R r s) (hR : Promotable R r) (h : step s l = some s')
    (hrec : s.shared.record = R.promotedTo r) : s'.shared.record = R.promotedTo r := by
  rcases hs.shared_step h with ⟨i, ch, _, hmove⟩ | ⟨e, _, hw⟩
  · exact (hmove.ok hs.shared (hs.procs i) hR).2.2 hrec
  · rw [hw]
    exact hrec

end Invariant

end Combee.Cluster
