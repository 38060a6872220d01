import Combee.Cluster.Processes

/-!
# Frames — what one step of each process can change

For every process one lemma that says which parts of the world its step leaves alone, and one that
says where it can go. The safety proofs use these and never unfold a step again.
-/

namespace Combee.Cluster

open Foundation Storage
open Provider (clientForNode makeClient resolve retry)

variable {w w' : World} {ch : Choice}

/-! ## Runs -/

lemma step_eq : step = Pool.step act (fun w e => some (w.restart e.node)) Proc.hit := rfl

/-- A process that does not move in a run without restarts stays as it is. -/
lemma procs_of_exec {s s' : System} {ls : List Label} {j : Nat}
    (hls : ∀ l ∈ ls, ∃ i c, l = .proc i c ∧ i ≠ j) (h : exec step s ls = some s') :
    s'.procs j = s.procs j := by
  rw [step_eq] at h
  exact Pool.procs_of_exec hls h

/-- The steps of the process `q` alone. -/
def alone (q : Nat) (x : World × Proc) (ch : Choice) : Option (World × Proc) :=
  act x.1 q x.2 ch

lemma exec_of_alone {s : System} {q : Nat} {cs : List Choice} {p : Proc}
    (h : exec (alone q) (s.shared, s.procs q) cs = some (w, p)) :
    exec step s (cs.map (.proc q)) = some ⟨w, Function.update s.procs q p⟩ := by
  rw [step_eq]
  exact Pool.exec_of_act h

/-- What holds after a step that has succeeded and after one that has failed holds after it. -/
lemma of_ok {α : Type} {pc' : α} {M : World → α → Prop} {x y : World × α}
    (h : (if ch.ok then some x else some y) = some (w', pc')) (hx : M x.1 x.2)
    (hy : ch.ok = false → M y.1 y.2) : M w' pc' := by
  cases hok : ch.ok <;> simp only [hok] at h <;> cases h
  · exact hy hok
  · exact hx

/-! ## Routing -/

variable {p : Provider} {key n : NodeId} {c : Client}

lemma makeClient_clients {target : NodeId} (h : (p.makeClient key target).2.clients n = some c) :
    p.clients n = some c ∨ (n = key ∧ c.node = target) := by
  by_cases hn : n = key
  · subst hn
    simp only [makeClient, Function.update_self, Option.some.injEq] at h
    exact .inr ⟨rfl, by rw [← h]⟩
  · exact .inl (by simpa [makeClient, hn] using h)

lemma clientForNode_spec {p' : Provider} (h : p.clientForNode n ch = (.ok c, p')) :
    p.clients n = some c ∨ c.node = n := by
  unfold clientForNode at h
  split at h
  · split at h
    · rename_i c' hc
      cases h
      exact .inl hc
    · cases h
      exact .inr rfl
  · cases h

lemma clientForNode_clients {m : NodeId} (h : (p.clientForNode n ch).2.clients m = some c) :
    p.clients m = some c ∨ c.node = m := by
  unfold clientForNode at h
  split at h
  · split at h
    · exact .inl h
    · by_cases hm : m = n
      · subst hm
        simp only [Function.update_self, Option.some.injEq] at h
        exact .inr (by rw [← h])
      · exact .inl (by simpa [hm] using h)
  · exact .inl h

lemma rpcFailed_clients (p : Provider) (c : Client) : (p.rpcFailed c).clients = p.clients := by
  unfold Provider.rpcFailed
  split <;> rfl

lemma lookupRoute_clients
    (h : (p.lookupRoute ch).2.clients n = some c) : p.clients n = some c ∨ c.node = n := by
  unfold Provider.lookupRoute at h
  split at h
  · exact .inl h
  · split at h
    · split at h
      · exact .inl h
      · split at h
        · rcases makeClient_clients h with h | ⟨rfl, h⟩
          · exact .inl h
          · exact .inr h
        · exact .inl h
    · exact .inl h

variable {r : DatabaseRecord}

lemma resolve_clients {l : Option NodeId} (h : (p.resolve l r ch).2.clients n = some c) :
    p.clients n = some c ∨ c.node = n := by
  unfold resolve at h
  split at h
  · split at h
    · rcases makeClient_clients h with h | ⟨rfl, h⟩
      · exact .inl h
      · exact .inr h
    · exact .inl h
  · split at h <;> exact .inl h

lemma resolve_retry {l : Option NodeId}
    (h : (p.resolve l r ch).1.routing = .retrying n) : r.storageNodeId = some n := by
  unfold resolve at h
  split at h
  · rename_i n' hn
    split at h
    · cases h
    · cases h
      exact hn
  · split at h <;> cases h

lemma retry_clients (h : (p.retry key r ch).2.clients n = some c) :
    p.clients n = some c ∨ (n = key ∧ r.storageNodeId = some c.node) := by
  unfold retry at h
  split at h
  · rename_i n2 hn
    split at h
    · rcases makeClient_clients h with h | ⟨rfl, hc⟩
      · exact .inl h
      · exact .inr ⟨rfl, hn.trans (congrArg some hc.symm)⟩
    · exact .inl h
  · exact .inl h

lemma retry_ne_retrying : (p.retry key r ch).1.routing ≠ .retrying n := by
  unfold retry
  split
  · split <;> simp [Resolved.routing]
  · simp [Resolved.routing]

lemma setApi_clients {a : Nat} {X : NodeId → Client → Prop}
    (hp : ∀ n c, p.clients n = some c → (w.apis a).clients n = some c ∨ X n c) {b : Nat}
    (h : ((w.setApi a p).apis b).clients n = some c) : (w.apis b).clients n = some c ∨ X n c := by
  by_cases hb : b = a
  · subst hb
    exact hp n c (by simpa [World.setApi] using h)
  · exact .inl (by simpa [World.setApi, hb] using h)

/-- A step of `client_for` touches the API server only, and stores a client under its own node,
except that the retry stores the one of the second read under the node of the first. -/
lemma routeStep_spec {a : Nat} {r r' : Routing} (h : routeStep w a r ch = some (w', r')) :
    w' = { w with apis := w'.apis } ∧
    (∀ b n c, (w'.apis b).clients n = some c → (w.apis b).clients n = some c ∨ c.node = n ∨
      (r = .retrying n ∧ w.record.storageNodeId = some c.node)) ∧
    (∀ n, r' = .retrying n → w.record.storageNodeId = some n) := by
  cases r with
  | cached =>
    have hspec : ∀ p, p = ((w.apis a).lookupRoute ch).2 → ∀ b n c,
        ((w.setApi a p).apis b).clients n = some c →
        (w.apis b).clients n = some c ∨ c.node = n := by
      rintro p rfl b n c hc
      exact setApi_clients (fun n c h => lookupRoute_clients h) hc
    simp only [routeStep] at h
    split at h <;> rename_i hl <;> cases h
    all_goals
      refine ⟨rfl, fun b n c hc => ?_, by simp⟩
      rcases hspec _ (by rw [hl]) b n c hc with hc | hc
      · exact .inl hc
      · exact .inr (.inl hc)
  | resolving =>
    simp only [routeStep] at h
    split at h <;> cases h
    · refine ⟨rfl, fun b n c hc => ?_, fun n hn => resolve_retry hn⟩
      rcases setApi_clients (fun n c h => resolve_clients h) hc with hc | hc
      · exact .inl hc
      · exact .inr (.inl hc)
    · exact ⟨rfl, fun b n c hc => .inl hc, by simp⟩
  | retrying key =>
    simp only [routeStep] at h
    split at h <;> cases h
    · refine ⟨rfl, fun b n c hc => ?_, fun n hn => absurd hn retry_ne_retrying⟩
      rcases setApi_clients (fun n c h => retry_clients h) hc with hc | ⟨hk, hs⟩
      · exact .inl hc
      -- the one client that may be wrong for the node it is stored under
      · exact .inr (.inr ⟨by rw [hk], hs⟩)
    · exact ⟨rfl, fun b n c hc => .inl hc, by simp⟩
  | done | failed => cases h

/-! ### Right clients -/

def RightClients (w : World) : Prop :=
  ∀ a n c, (w.apis a).clients n = some c → c.node = n

section

variable {a : Nat} {p : Provider}

variable (h : RightClients w)
include h

lemma RightClients.setApi
    (hp : ∀ n c, p.clients n = some c → (w.apis a).clients n = some c ∨ c.node = n) :
    RightClients (w.setApi a p) := by
  intro b n c hc
  rcases setApi_clients hp hc with hc | hc
  · exact h b n c hc
  · exact hc

lemma RightClients.clientForNode {ch : Choice} {n : NodeId}
    {x : Result Client} (hx : (w.apis a).clientForNode n ch = (x, p)) :
    RightClients (w.setApi a p) :=
  h.setApi fun m c hc => clientForNode_clients (by rw [hx]; exact hc)

lemma RightClients.client_node {ch : Choice} {n : NodeId} {c : Client}
    (hx : (w.apis a).clientForNode n ch = (.ok c, p)) : c.node = n := by
  rcases clientForNode_spec hx with hc | hc
  · exact h a n c hc
  · exact hc

end

/-! ## Client writes -/

inductive WriteMove (w : World) (i a : Nat) (ch : Choice) : WritePc → World → WritePc → Prop
  | read : WriteMove w i a ch .start w (.route w.record.generation .cached)
  | route {g r r' w'} (h : routeStep w a r ch = some (w', r')) :
      WriteMove w i a ch (.route g r) w' (.route g r')
  | pass {g c} (h : w.admits c.node g = true) :
      WriteMove w i a ch (.route g (.done c)) w (.admitted g c.node)
  | ack {g : Int} {n : NodeId} (caches : NodeId → List Nat) :
      WriteMove w i a ch (.admitted g n)
        { w with
          disks := Function.update w.disks n ((w.disks n).commit i)
          caches := caches }
        (.acked n (decide (w.record.storageNodeId = some n)))
  | fail {pc p} (hpc : ∀ n b, pc ≠ .acked n b) (hp : p.clients = (w.apis a).clients) :
      WriteMove w i a ch pc (w.setApi a p) .failed

lemma setApi_self (w : World) (a : Nat) : w.setApi a (w.apis a) = w := by
  simp [World.setApi]

variable {i a : Nat}

lemma WriteMove.giveUp {pc : WritePc} (hpc : ∀ n b, pc ≠ .acked n b) :
    WriteMove w i a ch pc w .failed := by
  have h : WriteMove w i a ch pc (w.setApi a (w.apis a)) .failed := .fail hpc rfl
  rwa [setApi_self] at h

variable {pc pc' : WritePc}

lemma writeStep_move
    (h : writeStep w i a pc ch = some (w', pc')) : WriteMove w i a ch pc w' pc' := by
  cases pc with
  | start =>
    simp only [writeStep] at h
    split at h <;> cases h
    · exact .read
    · exact .giveUp (by simp)
  | route g r =>
    cases r with
    | done c =>
      simp only [writeStep] at h
      split at h
      · cases h
        split
        · rename_i hadm
          exact .pass hadm
        · exact .giveUp (by simp)
      · cases h
        exact .fail (by simp) (rpcFailed_clients _ _)
    | failed =>
      cases h
      exact .giveUp (by simp)
    | cached | resolving | retrying n =>
      obtain ⟨r', hr, rfl⟩ := of_map_step h
      exact .route hr
  | admitted g n =>
    simp only [writeStep] at h
    split at h
    · cases h
      split
      · exact .ack _
      · exact .ack w.caches
    · cases h
      exact .giveUp (by simp)
  | acked | failed => cases h

lemma WriteMove.frame (h : WriteMove w i a ch pc w' pc') :
    w'.record = w.record ∧ w'.fences = w.fences ∧ w'.store = w.store := by
  cases h with
  | read | pass | ack | fail => exact ⟨rfl, rfl, rfl⟩
  | route h =>
    rw [(routeStep_spec h).1]
    exact ⟨rfl, rfl, rfl⟩

lemma WriteMove.disks (h : WriteMove w i a ch pc w' pc') :
    w'.disks = w.disks ∨ ∃ g n, pc = .admitted g n ∧
      w'.disks = Function.update w.disks n ((w.disks n).commit i) ∧ ∃ b, pc' = .acked n b := by
  cases h with
  | read | pass | fail => exact .inl rfl
  | route h =>
    rw [(routeStep_spec h).1]
    exact .inl rfl
  | @ack g n => exact .inr ⟨g, n, rfl, rfl, _, rfl⟩

/-! ### What is seen of a client write -/

namespace Proc

def holds : Proc → Option Int
  | .write _ (.route g _) => some g
  | .write _ (.admitted g _) => some g
  | _ => none

/-- The node whose generation check an unfinished client write has passed. -/
def admittedAt : Proc → Option NodeId
  | .write _ (.admitted _ n) => some n
  | _ => none

def ackedBy : Proc → Option NodeId
  | .write _ (.acked n _) => some n
  | _ => none

end Proc

def NoStale (s : System) : Prop :=
  ∀ i g, (s.procs i).holds = some g → g = s.shared.record.generation

section

variable {i a : Nat} {pc pc' : WritePc}

section

variable (h : WriteMove w i a ch pc w' pc')
include h

lemma WriteMove.holds {g : Int} (hg : (Proc.write a pc').holds = some g) :
    (Proc.write a pc).holds = some g ∨ g = w.record.generation := by
  cases h with
  | read => exact .inr (Option.some.inj hg).symm
  | route | pass => exact .inl hg
  | ack | fail => cases hg

variable {n : NodeId}

/-- A client write is past a node's check only if the node's fence has the generation it carries. -/
lemma WriteMove.admittedAt (hn : (Proc.write a pc').admittedAt = some n) :
    ∃ g, (Proc.write a pc).holds = some g ∧ w.admits n g = true := by
  cases h with
  | read | route | ack | fail => cases hn
  | @pass g c h =>
    obtain rfl := Option.some.inj hn
    exact ⟨g, rfl, h⟩

variable (hn : (Proc.write a pc').ackedBy = some n)
include hn

lemma WriteMove.ackedBy
    : (Proc.write a pc).admittedAt = some n := by
  cases h with
  | read | route | pass | fail => cases hn
  | ack => exact hn

lemma WriteMove.committed
    : i ∈ (w'.disks n).contents := by
  cases h with
  | read | route | pass | fail => cases hn
  | ack =>
    obtain rfl := Option.some.inj hn
    simp [Disk.contents_commit]

end

end

/-! ## Pulls -/

/-- What `restore_from_incr` does after the main file is in place. -/
def FilesPc.afterMain : Option ObjKey → FilesPc
  | some k => .getWal k
  | none => .removeWal

inductive FilesMove (w : World) (n : NodeId) : FilesPc → World → FilesPc → Prop
  | nothing (h : latestIncr w.store = none) : FilesMove w n .list w (.done false)
  | chosen {snap wal} (h : latestIncr w.store = some (snap, wal)) :
      FilesMove w n .list w (.getSnap snap wal)
  | getSnap {k wal o} (h : w.store.lookup k = some o) :
      FilesMove w n (.getSnap k wal) w (.renameMain o.bytes wal)
  | renameMain {bytes wal} :
      FilesMove w n (.renameMain bytes wal) (w.setDisk n ((w.disks n).renameMain bytes))
        (.afterMain wal)
  | getWal {k o} (h : w.store.lookup k = some o) : FilesMove w n (.getWal k) w (.renameWal o.bytes)
  | renameWal {bytes} :
      FilesMove w n (.renameWal bytes) (w.setDisk n ((w.disks n).renameWal bytes)) (.done true)
  | removeWal : FilesMove w n .removeWal (w.setDisk n (w.disks n).removeWal) (.done true)
  | keepWal : FilesMove w n .removeWal w (.done true)
  | fail {pc : FilesPc} : FilesMove w n pc w .failed

lemma filesStep_move {pc pc' : FilesPc}
    (h : filesStep w n pc ch = some (w', pc')) : FilesMove w n pc w' pc' := by
  cases pc with
  | list =>
    simp only [filesStep] at h
    split at h
    · split at h <;> rename_i hl <;> cases h
      · exact .nothing hl
      · exact .chosen hl
    · cases h
      exact .fail
  | getSnap snap wal =>
    simp only [filesStep] at h
    split at h
    · rename_i o _ ho
      cases h
      exact .getSnap ho
    · cases h
      exact .fail
  | renameMain bytes wal =>
    simp only [filesStep] at h
    split at h
    · cases h
      cases wal with
      | some | none => exact .renameMain
    · cases h
      exact .fail
  | getWal wal =>
    simp only [filesStep] at h
    split at h
    · rename_i o _ ho
      cases h
      exact .getWal ho
    · cases h
      exact .fail
  | renameWal bytes => exact of_ok h .renameWal fun _ => .fail
  | removeWal =>
    simp only [filesStep] at h
    split at h <;> cases h
    · exact .removeWal
    · exact .keepWal
  | done applied => cases h
  | failed => cases h

lemma FilesMove.frame {pc pc' : FilesPc} (h : FilesMove w n pc w' pc') :
    ∃ d, w' = w.setDisk n d := by
  have hsame : ∃ d, w = w.setDisk n d := ⟨w.disks n, by simp [World.setDisk]⟩
  cases h with
  | renameMain | renameWal | removeWal => exact ⟨_, rfl⟩
  | _ => exact hsame

inductive PullMove (w : World) (n : NodeId) : PullPc → World → PullPc → Prop
  | close : PullMove w n .close (w.setDisk n (w.disks n).close) (.files .list)
  | files {pc pc' : FilesPc} {w' : World} (h : FilesMove w n pc w' pc') :
      PullMove w n (.files pc) w' pc'.pull
  | clear : PullMove w n .clear (w.setCache n []) (.done true)
  | fail : PullMove w n .close w .failed

lemma pullStep_move {pc pc' : PullPc}
    (h : pullStep w n pc ch = some (w', pc')) : PullMove w n pc w' pc' := by
  cases pc with
  | close => exact of_ok h .close fun _ => .fail
  | files pc =>
    obtain ⟨pc1, hf, rfl⟩ := of_map_step h
    exact .files (filesStep_move hf)
  | clear =>
    cases h
    exact .clear
  | done | failed => cases h

lemma PullMove.frame {pc pc' : PullPc} (h : PullMove w n pc w' pc') :
    ∃ d c, w' = (w.setDisk n d).setCache n c := by
  have hcache : ∀ v : World, v = v.setCache n (v.caches n) := fun v => by simp [World.setCache]
  cases h with
  | close => exact ⟨_, _, hcache _⟩
  | files h =>
    obtain ⟨d, rfl⟩ := h.frame
    exact ⟨d, _, hcache _⟩
  | clear => exact ⟨w.disks n, [], by simp [World.setDisk]⟩
  | fail => exact ⟨w.disks n, w.caches n, by simp [World.setDisk, World.setCache]⟩

inductive ReplicaMove (w : World) (n : NodeId) : ReplicaPc → World → ReplicaPc → Prop
  | wait : ReplicaMove w n .idle w .idle
  | duty (h : w.record.replicaNodeId = some n) : ReplicaMove w n .idle w (.pulling .close)
  | pull {pc pc' : PullPc} {w' : World} (h : PullMove w n pc w' pc') :
      ReplicaMove w n (.pulling pc) w' pc'.loop

lemma replicaStep_move {pc pc' : ReplicaPc}
    (h : replicaStep w n pc ch = some (w', pc')) : ReplicaMove w n pc w' pc' := by
  cases pc with
  | idle =>
    simp only [replicaStep] at h
    split at h <;> cases h
    · rename_i hd
      exact .duty hd.2
    · exact .wait
  | pulling pc =>
    obtain ⟨pc1, hp, rfl⟩ := of_map_step h
    exact .pull (pullStep_move hp)

/-! ## `failover_cell` -/

def FailoverPc.unpromoted : FailoverPc → Bool
  | .start => true
  | .gotRecord _ _ => true
  | .pulling _ _ _ _ => true
  | .promote _ _ _ => true
  | _ => false

inductive FailoverMove (w : World) (a : Nat) (ch : Choice) :
    FailoverPc → World → FailoverPc → Prop
  | read {r : NodeId} (h : w.record.replicaNodeId = some r) :
      FailoverMove w a ch .start w (.gotRecord w.record.storageNodeId r)
  | connect {old r c p} (h : (w.apis a).clientForNode r ch = (.ok c, p)) :
      FailoverMove w a ch (.gotRecord old r) (w.setApi a p) (.pulling old r c .close)
  | pull {old r c pc pc' w'} (h : PullMove w c.node pc w' pc') :
      FailoverMove w a ch (.pulling old r c pc) w' (.pulling old r c pc')
  | pulled {old r c pc applied w'} (h : PullMove w c.node pc w' (.done applied)) :
      FailoverMove w a ch (.pulling old r c pc) w' (.promote old r c)
  | promote {old r c rec} (h : w.record.promoteReplica = .ok rec) :
      FailoverMove w a ch (.promote old r c) (w.setRecord rec) (.promoted old r c rec.generation)
  | fenceNew {old r c g} :
      FailoverMove w a ch (.promoted old r c g) (w.fenceCell c.node g) (.fencedNew old r g)
  | lostNew {old r c g} (hok : ch.ok = false) :
      FailoverMove w a ch (.promoted old r c g) (w.setApi a ((w.apis a).rpcFailed c))
        (.fencedNew old r g)
  | reach {o r c p g} (hne : o ≠ r) (h : (w.apis a).clientForNode o ch = (.ok c, p)) :
      FailoverMove w a ch (.fencedNew (some o) r g) (w.setApi a p) (.fenceOld o c r g)
  | skip {old r g} : FailoverMove w a ch (.fencedNew old r g) w (.returning old r g)
  | fenceOld {o r c g} :
      FailoverMove w a ch (.fenceOld o c r g) (w.fenceCell c.node i64Max) (.returning (some o) r g)
  | lostOld {o r c g} (hok : ch.ok = false) :
      FailoverMove w a ch (.fenceOld o c r g) (w.setApi a ((w.apis a).rpcFailed c))
        (.returning (some o) r g)
  | finish {old r g} : FailoverMove w a ch (.returning old r g) w (.returned old r g)
  | refused {pc : FailoverPc} (hpc : pc.unpromoted = true) : FailoverMove w a ch pc w .failed
  | broken {old r c pc w'} (h : PullMove w c.node pc w' .failed) :
      FailoverMove w a ch (.pulling old r c pc) w' .failed

lemma clientForNode_error {p' : Provider} {e : CombeeError}
    (h : p.clientForNode n ch = (.error e, p')) : p' = p := by
  unfold clientForNode at h
  split at h
  · split at h <;> cases h
  · cases h
    rfl

lemma failoverStep_move {a : Nat} {pc pc' : FailoverPc}
    (h : failoverStep w a pc ch = some (w', pc')) : FailoverMove w a ch pc w' pc' := by
  cases pc with
  | start =>
    simp only [failoverStep] at h
    split at h
    · rename_i r _ hr
      cases h
      exact .read hr
    · cases h
      exact .refused rfl
  | gotRecord old r =>
    simp only [failoverStep] at h
    split at h <;> rename_i hc <;> cases h
    · exact .connect hc
    -- an unavailable node leaves the API server as it was
    · rw [clientForNode_error hc, setApi_self]
      exact .refused rfl
  | pulling old r c pc =>
    obtain ⟨pc1, hp, rfl⟩ := of_map_step h
    cases pc1 with
    | close | files pc | clear => exact .pull (pullStep_move hp)
    | done applied => exact .pulled (pullStep_move hp)
    | failed => exact .broken (pullStep_move hp)
  | promote old r c =>
    simp only [failoverStep] at h
    split at h
    · rename_i rec _ hrec
      cases h
      exact .promote hrec
    · cases h
      exact .refused rfl
  | promoted old r c g =>
    simp only [failoverStep] at h
    split at h <;> rename_i hok <;> cases h
    · exact .fenceNew
    · exact .lostNew (by simpa using hok)
  | fencedNew old r g =>
    cases old with
    | none =>
      cases h
      exact .skip
    | some o =>
      simp only [failoverStep] at h
      split at h
      · cases h
        exact .skip
      · rename_i hne
        split at h <;> rename_i hc <;> cases h
        · exact .reach hne hc
        · rw [clientForNode_error hc, setApi_self]
          exact .skip
  | fenceOld o c r g =>
    simp only [failoverStep] at h
    split at h <;> rename_i hok <;> cases h
    · exact .fenceOld
    · exact .lostOld (by simpa using hok)
  | returning old r g =>
    cases h
    exact .finish
  | returned | failed => cases h

/-! ## Incremental backups -/

inductive BackupMove (w : World) (n : NodeId) : BackupPc → World → BackupPc → Prop
  | wait : BackupMove w n .idle w .idle
  | due {m v} (h : (w.disks n).conn = some (m, v)) : BackupMove w n .idle w .due
  | copy {snap wal} : BackupMove w n .due (w.setDisk n (w.disks n).openConn) (.copied snap wal)
  | stamp {snap wal rev} : BackupMove w n (.copied snap wal) w (.stamped snap wal rev)
  | putSnap {snap wal rev} :
      BackupMove w n (.stamped snap wal rev)
        (w.putObject (.snapshot rev) ⟨snap, n, w.record.generation⟩) (.snapped wal rev)
  | putWal {bytes rev} :
      BackupMove w n (.snapped (some bytes) rev)
        (w.putObject (.wal rev) ⟨bytes, n, w.record.generation⟩) .idle
  | rest {pc : BackupPc} : BackupMove w n pc w .idle

lemma backupStep_move {pc pc' : BackupPc}
    (h : backupStep w n pc ch = some (w', pc')) : BackupMove w n pc w' pc' := by
  cases pc with
  | idle =>
    simp only [backupStep] at h
    split at h <;> cases h
    · rename_i hc
      obtain ⟨⟨m, v⟩, hc⟩ := Option.isSome_iff_exists.mp hc
      exact .due hc
    · exact .wait
  | due => exact of_ok h .copy fun _ => .rest
  | copied snap wal =>
    cases h
    exact .stamp
  | stamped snap wal rev => exact of_ok h .putSnap fun _ => .rest
  | snapped wal rev =>
    simp only [backupStep] at h
    split at h
    · split at h <;> cases h
      · exact .putWal
      · exact .rest
    · cases h
      exact .rest

end Combee.Cluster
