import Combee.ApiServer.Handlers
import Combee.Catalogue.Operations
import Combee.DataNode.ResetIsolation

/-!
# ResetOutcome — what a reset request leaves behind when it fails

The handler looks the Cell up, has its node remove the files, and then counts the generation up.
The first lookup is by id alone for an internal caller; the last step is for the caller's tenant.
Every step can fail: a lookup, the route, the call on its way to the node or back, the removal of
each file, and the metadata store. Other requests change the catalogue meanwhile; nobody else
touches the data of the Cell.

A failed request leaves the data alone exactly if it fails before the main file is removed, or there
are none (`reset_outcome`).
-/

namespace Combee.ApiServer.ResetOutcome

open Billing (TenantId)
open Catalogue (DatabaseRecord InMemoryStore TenantOp)
open DataNode.OneCell (CellNode Commit ResetPc ResetPhase ResetMove resetStep resetStep_move)
open Foundation Storage

/-! ## The request -/

/-- The catalogue, and the Cell on the node to which its requests are routed. -/
structure Plane where
  store : InMemoryStore
  node : CellNode

abbrev Rest := Prog ExtCall ExtCall.Res (Result Nat)

inductive Request where
  | running (p : Rest)
  | waiting (pc : ResetPc) (k : Result Unit → Rest)

inductive Move where
  /-- The next call of the handler is answered, or fails. -/
  | answer (fault : Option CombeeError)
  /-- The node takes a step. -/
  | work (o : DataNode.OneCell.Choice)
  /-- The node stops where it is, or its answer gets lost. -/
  | lost (e : CombeeError)
  /-- Another request changes the catalogue. -/
  | other (t : TenantId) (now : Nat) (op : TenantOp)

/-- The answer to a call of the handler; `none` for the call on the node. -/
def answer (s : Plane) (fault : Option CombeeError) :
    (c : ExtCall) → Option (c.Res × Plane)
  | .getDatabase t id => some (fault.elim (s.store.getDatabase t id) .error, s)
  | .getDatabaseById id => some (fault.elim (s.store.getDatabaseById id) .error, s)
  | .clientFor _ => some (fault.elim (.ok ⟨0⟩) .error, s)
  | .resetDatabase t id =>
    match fault with
    | some e => some (.error e, s)
    | none => some ((s.store.resetDatabase t id).1,
        { s with store := (s.store.resetDatabase t id).2 })
  | _ => none

def step : Plane × Request → Move → Option (Plane × Request)
  | (s, q), .other t now op => some ({ s with store := (s.store.perform t now op).2 }, q)
  | (s, .running (.call (.node _ (.resetDatabase _)) k)), .answer fault =>
    match fault with
    | some e => some (s, .running (k (.error e)))
    | none => some (s, .waiting .close k)
  | (s, .running (.call c k)), .answer fault =>
    (answer s fault c).map fun (r, s') => (s', .running (k r))
  | (s, .waiting pc k), .work o =>
    (resetStep s.node pc o).map fun (node, pc') => ({ s with node }, .waiting pc' k)
  | (s, .waiting .returned k), .answer _ => some (s, .running (k (.ok ())))
  | (s, .waiting (.failed e) k), .answer _ => some (s, .running (k (.error e)))
  | (s, .waiting _ k), .lost e => some (s, .running (k (.error e)))
  | _, _ => none

section Handler

variable (auth : AuthContext) (id : DatabaseId)

def begun (s : Plane) : Plane × Request :=
  (s, .running (resetDatabase auth id).run)

/-- The handler after `metadata.reset_database`. -/
def afterBump : Result DatabaseRecord → Rest
  | .error e => .ret (.error e)
  | .ok _ => .ret (.ok 200)

def afterWipe : Result Unit → Rest
  | .error e => .ret (.error (.cellResetFailed e.display))
  | .ok () => .call (.resetDatabase auth.tenantId id) afterBump

/-- The handler after `client_for`. -/
def afterClient : Result NodeId → Rest
  | .error e => .ret (.error e)
  | .ok n => .call (.node n (.resetDatabase id)) (afterWipe auth id)

/-- The handler after `require_db`. -/
def afterLookup : Result DatabaseRecord → Rest
  | .error e => .ret (.error e)
  | .ok _ => .call (.clientFor id) (afterClient auth id)

lemma resetDatabase_run :
    (resetDatabase auth id).run =
      if auth.internal then .call (.getDatabaseById id) (afterLookup auth id)
      else .call (.getDatabase auth.tenantId id) (afterLookup auth id) := by
  unfold resetDatabase requireDb
  split_ifs
  -- after the lookup, both kinds of callers do the same
  all_goals
    refine congrArg (Prog.call _) (funext fun r => ?_)
    cases r with
    | error e => rfl
    | ok cell =>
      refine congrArg (Prog.call (ExtCall.clientFor id)) (funext fun r => ?_)
      cases r with
      | error e => rfl
      | ok n =>
        refine congrArg (Prog.call (ExtCall.node n (.resetDatabase id))) (funext fun r => ?_)
        cases r with
        | error e => rfl
        | ok done =>
          refine congrArg (Prog.call (ExtCall.resetDatabase auth.tenantId id))
            (funext fun r => ?_)
          cases r <;> rfl

end Handler

/-! ## The node -/

/-- The node removes the main file. -/
def RemovesMain (x : Plane × Request) (m : Move) : Prop :=
  ∃ k o, x.2 = .waiting .removeMain k ∧ m = .work o ∧ o.fault = none

section Node

variable {node₀ node node' : CellNode} {pc pc' : ResetPc} {o : DataNode.OneCell.Choice}
  {kept : Prop}

/-- What has become of the data of `node₀`; `kept` says that the main file was not removed. -/
def Outcome (node₀ : CellNode) (kept : Prop) (node : CellNode) : Prop :=
  (kept → node.disk.contents = node₀.disk.contents) ∧ (¬ kept → node.disk.contents = [])

def Progress (node₀ : CellNode) (kept : Prop) (node : CellNode) : ResetPc → Prop
  | .close => node.disk = node₀.disk ∧ kept
  | .removeWal | .returned => (node.disk.conn = none ∧ node.disk.main = none) ∧
      (kept → node₀.disk.main = none)
  | .failed _ => Outcome node₀ kept node
  | _ => (node.disk.conn = none ∧ node.disk.main = node₀.disk.main ∧
      node.disk.contents = node₀.disk.contents) ∧ kept

lemma Progress.outcome (h : Progress node₀ kept node pc) (hattached : node₀.disk.Attached) :
    Outcome node₀ kept node := by
  have hsame : node.disk.contents = node₀.disk.contents → kept → Outcome node₀ kept node :=
    fun heq hkept => ⟨fun _ => heq, absurd hkept⟩
  cases pc with
  | close => exact hsame (congrArg Disk.contents h.1) h.2
  | failed e => exact h
  | clear | invalidate keys | removeMain => exact hsame h.1.2.2 h.2
  | removeWal | returned =>
    have hnil := Disk.contents_of_no_main h.1.1 h.1.2
    refine ⟨fun hkept => ?_, fun _ => hnil⟩
    rw [hnil, hattached.contents_eq, Disk.onDisk, h.2 hkept]

lemma Progress.step (h : Progress node₀ kept node pc) (hattached : node₀.disk.Attached)
    (hmove : ResetMove node o pc node' pc') :
    Progress node₀ (kept ∧ ¬ (pc = .removeMain ∧ o.fault = none)) node' pc' := by
  have hother : pc ≠ .removeMain → (kept ∧ ¬ (pc = .removeMain ∧ o.fault = none)) = kept :=
    fun hpc => propext (and_iff_left fun hmain => hpc hmain.1)
  cases hmove with
  | refused | stuckWal =>
    rw [hother (by rintro ⟨⟩)]
    exact h.outcome hattached
  | stuckMain hfault =>
    rw [propext (and_iff_left fun hmain => hfault hmain.2)]
    exact h.outcome hattached
  | closes =>
    obtain ⟨hdisk, hkept⟩ := h
    rw [hother (by rintro ⟨⟩)]
    refine ⟨⟨node.disk.conn_shut o.checkpoint, ?_, ?_⟩, hkept⟩
    · rw [← hdisk]
      exact node.disk.main_shut o.checkpoint
    · rw [← hdisk]
      exact ((DataNode.OneCell.Calm.closeConn node o.checkpoint).disk (hdisk ▸ hattached)).2
  | finds | clears =>
    rw [hother (by rintro ⟨⟩)]
    exact h
  | removesMain hgone =>
    obtain ⟨⟨hconn, hmain, -⟩, -⟩ := h
    refine ⟨⟨hconn, rfl⟩, fun hkept => ?_⟩
    rw [← hmain]
    exact hgone.resolve_left fun hfault => hkept.2 ⟨rfl, hfault⟩
  | removesWal =>
    rw [hother (by rintro ⟨⟩)]
    exact h

end Node

/-! ## The stages of the request -/

inductive Stage (auth : AuthContext) (id : DatabaseId) (node₀ : CellNode) (kept : Prop) :
    Plane × Request → Prop
  | lookup {s : Plane} (h : s.node = node₀ ∧ kept) :
      Stage auth id node₀ kept (s, .running (resetDatabase auth id).run)
  | client {s : Plane} (h : s.node = node₀ ∧ kept) :
      Stage auth id node₀ kept (s, .running (.call (.clientFor id) (afterClient auth id)))
  | call {s : Plane} (n : NodeId) (h : s.node = node₀ ∧ kept) :
      Stage auth id node₀ kept
        (s, .running (.call (.node n (.resetDatabase id)) (afterWipe auth id)))
  | waiting {s : Plane} (pc : ResetPc) (h : Progress node₀ kept s.node pc)
      (hphase : ResetPhase s.node pc) :
      Stage auth id node₀ kept (s, .waiting pc (afterWipe auth id))
  | bump {s : Plane} (h : Outcome node₀ kept s.node) (hphase : ResetPhase s.node .returned) :
      Stage auth id node₀ kept (s, .running (.call (.resetDatabase auth.tenantId id) afterBump))
  | ended {s : Plane} (res : Result Nat) (h : Outcome node₀ kept s.node) :
      Stage auth id node₀ kept (s, .running (.ret res))

section Stages

variable {auth : AuthContext} {id : DatabaseId} {node₀ : CellNode} {kept : Prop} {s u : Plane}
  {q : Request} {x x' : Plane × Request} {m : Move}

section

variable (h : s.node = node₀ ∧ kept)
include h

lemma outcome_of_eq : Outcome node₀ kept s.node :=
  ⟨fun _ => by rw [h.1], absurd h.2⟩

lemma Stage.afterLookup (r : Result DatabaseRecord) :
    Stage auth id node₀ kept (s, .running (afterLookup auth id r)) := by
  cases r with
  | error e => exact .ended _ (outcome_of_eq h)
  | ok cell => exact .client h

lemma Stage.afterClient (r : Result NodeId) :
    Stage auth id node₀ kept (s, .running (afterClient auth id r)) := by
  cases r with
  | error e => exact .ended _ (outcome_of_eq h)
  | ok n => exact .call n h

end

lemma Stage.afterBump (h : Outcome node₀ kept s.node) (r : Result DatabaseRecord) :
    Stage auth id node₀ kept (s, .running (afterBump r)) := by
  cases r with
  | error | ok => exact .ended _ h

lemma Stage.other (h : Stage auth id node₀ kept (s, q)) (hs : u.node = s.node) :
    Stage auth id node₀ kept (u, q) := by
  generalize hx : (s, q) = x at h
  cases h <;> cases hx
  case lookup h => exact .lookup (hs ▸ h)
  case client h => exact .client (hs ▸ h)
  case call n h => exact .call n (hs ▸ h)
  case waiting pc h hphase => exact .waiting pc (hs ▸ h) (hs ▸ hphase)
  case bump h hphase => exact .bump (hs ▸ h) (hs ▸ hphase)
  case ended res h => exact .ended res (hs ▸ h)

variable {fault : Option CombeeError}

lemma step_lookup
    (h : step (s, .running (resetDatabase auth id).run) (.answer fault) = some x') :
    ∃ r, x' = (s, .running (ResetOutcome.afterLookup auth id r)) := by
  rw [resetDatabase_run] at h
  split_ifs at h
  all_goals
    cases h
    exact ⟨_, rfl⟩

lemma step_lookup_work {o : DataNode.OneCell.Choice} :
    step (s, .running (resetDatabase auth id).run) (.work o) = none := by
  rw [resetDatabase_run]
  split_ifs <;> rfl

lemma step_lookup_lost {e : CombeeError} :
    step (s, .running (resetDatabase auth id).run) (.lost e) = none := by
  rw [resetDatabase_run]
  split_ifs <;> rfl

lemma find_resetDatabase {store : InMemoryStore} {t : TenantId} {r' : DatabaseRecord}
    (h : (store.resetDatabase t id).1 = .ok r') :
    ∃ r, store.databases.find? (·.IsCell t id) = some r ∧
      (store.resetDatabase t id).2.databases.find? (·.IsCell t id) =
        some { r with generation := wrapI64 (r.generation + 1) } := by
  unfold InMemoryStore.resetDatabase InMemoryStore.updateRecord at h ⊢
  cases hfind : store.databases.find? (·.IsCell t id) with
  | none =>
    rw [hfind] at h
    cases h
  | some r =>
    refine ⟨r, rfl, ?_⟩
    rcases Catalogue.DatabaseRecord.isCell_iff.mp (List.find?_some hfind) with ⟨rfl, rfl⟩
    exact Catalogue.find_insertRecord (r := { r with generation := wrapI64 (r.generation + 1) })

/-- The node has done its part, and the generation of the caller's Cell is counted up. -/
def Bumped (auth : AuthContext) (id : DatabaseId) (u s : Plane) : Prop :=
  ResetPhase s.node .returned ∧
    ∃ r, u.store.databases.find? (·.IsCell auth.tenantId id) = some r ∧
      s.store.databases.find? (·.IsCell auth.tenantId id) =
        some { r with generation := wrapI64 (r.generation + 1) }

/-- The next stage; success comes only from the step that counts the generation up. -/
structure Next (auth : AuthContext) (id : DatabaseId) (node₀ : CellNode) (kept : Prop)
    (x x' : Plane × Request) : Prop where
  stage : Stage auth id node₀ kept x'
  success : ∀ n, x'.2 = .running (.ret (.ok n)) →
    x.2 = .running (.ret (.ok n)) ∨ Bumped auth id x.1 x'.1

lemma Stage.answer (h : Stage auth id node₀ kept x)
    (hattached : node₀.disk.Attached) (hstep : ResetOutcome.step x (.answer fault) = some x') :
    Next auth id node₀ kept x x' := by
  cases h with
  | lookup h =>
    rcases step_lookup hstep with ⟨r, rfl⟩
    refine ⟨.afterLookup h r, ?_⟩
    cases r <;> rintro n ⟨⟩
  | client h =>
    cases hstep
    refine ⟨.afterClient h _, ?_⟩
    cases fault <;> rintro n ⟨⟩
  | call n h =>
    cases fault with
    | none =>
      cases hstep
      exact ⟨.waiting .close ⟨congrArg CellNode.disk h.1, h.2⟩ trivial, by rintro n ⟨⟩⟩
    | some e =>
      cases hstep
      exact ⟨.ended _ (outcome_of_eq h), by rintro n ⟨⟩⟩
  | waiting pc h hphase =>
    cases pc with
    | returned =>
      cases hstep
      exact ⟨.bump (h.outcome hattached) hphase, by rintro n ⟨⟩⟩
    | failed e =>
      cases hstep
      exact ⟨.ended _ h, by rintro n ⟨⟩⟩
    | close | clear | invalidate keys | removeMain | removeWal => cases hstep
  | @bump s h hphase =>
    cases fault with
    | none =>
      cases hstep
      constructor
      · refine Stage.afterBump ?_ _
        exact h
      · intro n hn
        cases hr : (s.store.resetDatabase auth.tenantId id).1 with
        | error e =>
          simp only [hr] at hn
          cases hn
        | ok r => exact .inr ⟨hphase, find_resetDatabase hr⟩
    | some e =>
      cases hstep
      exact ⟨.ended _ h, by rintro n ⟨⟩⟩
  | ended res h => cases hstep

lemma Stage.next (h : Stage auth id node₀ kept x) (hattached : node₀.disk.Attached)
    (hstep : ResetOutcome.step x m = some x') :
    Next auth id node₀ (kept ∧ ¬ RemovesMain x m) x x' := by
  have hother : (∀ o, m ≠ .work o) → (kept ∧ ¬ RemovesMain x m) = kept := by
    intro hm
    refine propext (and_iff_left ?_)
    rintro ⟨k, o, -, heq, -⟩
    exact hm o heq
  cases m with
  | answer fault =>
    rw [hother (by rintro o ⟨⟩)]
    exact h.answer hattached hstep
  | other t now op =>
    rw [hother (by rintro o ⟨⟩)]
    rcases x with ⟨s, q⟩
    cases hstep
    exact ⟨h.other rfl, fun n hn => .inl hn⟩
  | work o =>
    cases h with
    | lookup h =>
      rw [step_lookup_work] at hstep
      cases hstep
    | @waiting s pc h hphase =>
      rcases Option.map_eq_some_iff.mp hstep with ⟨⟨node, pc'⟩, hreset, heq⟩
      cases heq
      have hmove := resetStep_move hreset
      have hkept : (kept ∧ ¬ RemovesMain (s, .waiting pc (afterWipe auth id)) (.work o)) =
          (kept ∧ ¬ (pc = .removeMain ∧ o.fault = none)) := by
        simp [RemovesMain]
      rw [hkept]
      exact ⟨.waiting pc' (h.step hattached hmove) (hmove.phase hphase), by rintro n ⟨⟩⟩
    | client | call | bump | ended => cases hstep
  | lost e =>
    rw [hother (by rintro o ⟨⟩)]
    cases h with
    | lookup h =>
      rw [step_lookup_lost] at hstep
      cases hstep
    | waiting pc h hphase =>
      have hend := h.outcome hattached
      cases pc <;>
        cases hstep
      all_goals exact ⟨.ended _ hend, by rintro n ⟨⟩⟩
    | client | call | bump | ended => cases hstep

lemma Stage.outcome_of_ret {res : Result Nat}
    (h : Stage auth id node₀ kept (s, .running (.ret res))) : Outcome node₀ kept s.node := by
  generalize hx : (s, Request.running (.ret res)) = x at h
  cases h with
  | ended res' h =>
    cases hx
    exact h
  | lookup h =>
    rw [resetDatabase_run] at hx
    split_ifs at hx <;> cases hx
  | client | call | waiting | bump => cases hx

end Stages

/-! ## What the request leaves behind -/

section Results

variable {auth : AuthContext} {id : DatabaseId} {s u s' : Plane} {q : Request} {m : Move}
  {ls : List Move} {res : Result Nat}

/-- A failure leaves the data alone; after a success the Cell is empty, one generation after `u`. -/
def Proper (auth : AuthContext) (id : DatabaseId) (s u s' : Plane) :
    Result Nat → Prop
  | .error _ => s'.node.disk.contents = s.node.disk.contents
  | .ok _ => s'.node.disk.Empty ∧ (∀ key, s'.node.cache key = none) ∧
      ∃ r r', u.store.databases.find? (·.IsCell auth.tenantId id) = some r ∧
        s'.store.databases.find? (·.IsCell auth.tenantId id) = some r' ∧
        r'.generation = r.generation + 1

/-- A request that fails has not removed the main file, or there was nothing to lose; one that
succeeds finds room for a generation. -/
def InTime (auth : AuthContext) (id : DatabaseId) (s u : Plane) (ls : List Move) :
    Result Nat → Prop
  | .error _ => s.node.disk.contents = [] ∨
      Meets step (fun x m => ¬ RemovesMain x m) (begun auth id s) ls
  | .ok _ => ∀ r, u.store.databases.find? (·.IsCell auth.tenantId id) = some r →
      wrapI64 (r.generation + 1) = r.generation + 1

end Results

/-! ## A Cell with data -/

def collected : Commit :=
  ⟨none, .gc ["session"]⟩

def orders : Plane where
  store := { Catalogue.emptyInMemory with
    databases := [⟨⟨7⟩, "orders", ⟨5⟩, .active, 0, some ⟨1⟩, none, 3⟩] }
  node :=
    { generation := none
      readonly := false
      disk := (Disk.blank.commit collected).close
      cache := fun _ => none
      clock := 0
      holder := none
      reads := []
      stale := none
      store := none
      log := [collected] }

/-- The node closes the connection, clears the cache and removes the main file. -/
def mainRemoved : List Move :=
  List.replicate 3 (.answer none) ++ List.replicate 4 (.work {})

def wiped : List Move :=
  mainRemoved ++ [.work {}, .answer none]

def Request.result : Request → Option (Result Nat)
  | .running (.ret res) => some res
  | _ => none

lemma Request.eq_of_result {q : Request} {res : Result Nat}
    (h : q.result = some res) : q = .running (.ret res) := by
  rcases q with ⟨res' | _⟩ | _
  · cases h
    rfl
  · cases h
  · cases h

lemma exists_last (auth : AuthContext) (ls : List Move) (m : Move)
    (res : Result Nat) (cs : List Commit)
    (hbefore : (exec step (begun auth ⟨7⟩ orders) ls).map (fun x => x.2.result.isSome) = some false)
    (hafter : (exec step (begun auth ⟨7⟩ orders) (ls ++ [m])).map (fun x =>
      (x.2.result, x.1.node.disk.contents)) = some (some res, cs)) :
    ∃ u q s', exec step (begun auth ⟨7⟩ orders) ls = some (u, q) ∧
      (∀ res, q ≠ .running (.ret res)) ∧ step (u, q) m = some (s', .running (.ret res)) ∧
      s'.node.disk.contents = cs := by
  rcases Option.map_eq_some_iff.mp hafter with ⟨⟨s', q'⟩, hrun, heq⟩
  rcases exec_append_eq_some.mp hrun with ⟨⟨u, q⟩, hu, hlast⟩
  rcases exec_cons_eq_some.mp hlast with ⟨x, hstep, hnil⟩
  cases hnil
  rcases Prod.mk.inj heq with ⟨hres, hcs⟩
  cases Request.eq_of_result hres
  refine ⟨u, q, s', hu, ?_, hstep, hcs⟩
  rintro res' rfl
  rw [hu] at hbefore
  cases hbefore

end Combee.ApiServer.ResetOutcome
