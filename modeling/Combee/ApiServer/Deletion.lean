import Combee.ApiServer.Handlers
import Combee.DataNode.Removal

/-!
# Deletion — deleting a Cell while requests on it are under way

The requests are the handlers of `Handlers`, run one call at a time over one metadata store and over
the manager of the data node that has the Cell. A request looks the Cell up first, and a delete
removes the record last, after the node has removed the files. The record is never looked at again
once a request has found it, and its state `deleting` is looked at by nobody.

Calls on a data node are those of KV, SQL and delete requests.
-/

namespace Combee.ApiServer.Deletion

open Billing (TenantId)
open Catalogue (DatabaseRecord MetadataStore LawfulStore FreshIn orNotFound)
open DataNode (SqlCall)
open DataNode.ActiveDb (Manager Job SqlProg Choice Event Connected Gone Removed Settled Opens)
open Foundation
open Function (update update_of_ne update_self)
open DataNode.ActiveDb (poll work)

/-! ## Calls on the node -/

section NodeCalls

variable {R : Type} (closure : NodeCall → SqlProg R)

/-- The call of the manager; what a KV command does on its connection is left open. -/
def job : NodeCall → Option (Job R)
  | .kv id request generation => some (.withConn (closure (.kv id request generation)))
  | .kvScan id start limit cursor => some (.withConn (closure (.kvScan id start limit cursor)))
  | .executeSql _ sql _ => some (.sql (.execute sql))
  | .executeTransaction _ statements _ => some (.sql (.transaction statements))
  | .deleteDatabase _ => some .deleteDatabase
  | _ => none

/-- A read of keys may be answered from the cache of the node. -/
def readsKeys : NodeCall → Bool
  | .kv _ _ none => true
  | _ => false

end NodeCalls

/-! ## The system -/

structure Reply where
  fault : Option CombeeError := none
  /-- A change that fails for the caller may have been made all the same. -/
  applied : Bool := false
  cached : Bool := false
  node : NodeId := ⟨0⟩
  clock : Int := 0

namespace Reply

def read {α : Type} (o : Reply) (r : Result α) : Result α :=
  match o.fault with
  | some e => .error e
  | none => r

def change {α σ : Type} (o : Reply) (s : σ) (r : Result α × σ) :
    Result α × σ :=
  match o.fault with
  | some e => (.error e, if o.applied then r.2 else s)
  | none => r

end Reply

/-- What is left of a handler, the last call that it has made on the node, and whether it waits for
it. -/
structure Task where
  prog : Prog Call Call.Res (Result Nat)
  last : Option Nat
  waiting : Bool

structure System (σ R : Type) where
  store : σ
  node : Pool Manager Nat (DataNode.ActiveDb.Call R)
  /-- How many calls have been made on the node. -/
  calls : Nat
  tasks : Nat → Task

inductive Label where
  | handler (i : Nat) (o : Reply)
  | node (l : PoolLabel Nat Choice Event)

section Steps

variable {σ U R : Type} [MetadataStore σ] [LawfulStore σ] [Inhabited U]
  (engine : String → Nat → U → Result (R × U)) (path : String) (limit : Option String)
  (closure : NodeCall → SqlProg R)

def getDatabaseById (s : σ) (id : DatabaseId) : Result DatabaseRecord :=
  orNotFound id ((LawfulStore.cells s).find? (·.id = id))

def answerCall (s : σ) : (c : Call) → Reply → Option (c.Res × σ)
  | .ext (.getDatabase t id), o => some (o.read (MetadataStore.getDatabase s t id), s)
  | .ext (.getDatabaseById id), o => some (o.read (getDatabaseById s id), s)
  | .ext (.setDatabaseState t id state), o =>
    some (o.change s (MetadataStore.setDatabaseState s t id state))
  | .ext (.deleteDatabase t id), o => some (o.change s (MetadataStore.deleteDatabase s t id))
  | .ext (.clientFor _), o => some (o.read (.ok o.node), s)
  | .record .., o => some (o.clock, s)
  | _, _ => none

namespace System

def resume (s : System σ R) (i : Nat) (p : Prog Call Call.Res (Result Nat)) :
    System σ R :=
  { s with tasks := update s.tasks i ⟨p, (s.tasks i).last, false⟩ }

def start (s : System σ R) (i : Nat) (job : Job R) : System σ R :=
  { s with
    node := DataNode.ActiveDb.made s.node s.calls job
    calls := s.calls + 1
    tasks := update s.tasks i ⟨(s.tasks i).prog, some s.calls, true⟩ }

def enabled (s : System σ R) : PoolLabel Nat Choice Event → Bool
  | .proc c _ => c < s.calls
  | .env _ => true

end System

/-- A fault on the way to the node ends the call for the request, but not on the node. -/
def handlerStep (s : System σ R) (i : Nat) (o : Reply) : Option (System σ R) :=
  match (s.tasks i).prog with
  | .ret _ => none
  | .call (.ext (.node _ call)) k =>
    match o.fault with
    | some e => some (s.resume i (k (Except.error e : Result Unit)))
    | none =>
      if (s.tasks i).waiting then
        match (s.tasks i).last.map fun c => (s.node.procs c).future with
        | some (.answered res) =>
          some (s.resume i (k (res.map fun _ => () : Result Unit)))
        | _ => none
      else if o.cached && readsKeys call then
        some (s.resume i (k (Except.ok () : Result Unit)))
      else (job closure call).map (s.start i)
  | .call op k => (answerCall s.store op o).map fun (r, store) =>
    { s with store }.resume i (k r)

def step (s : System σ R) : Label → Option (System σ R)
  | .handler i o => handlerStep closure s i o
  | .node l =>
    if s.enabled l then
      (DataNode.ActiveDb.step engine path limit s.node l).map fun node => { s with node }
    else none

end Steps

/-! ## What a step of a handler can do -/

abbrev Rest := Prog Call Call.Res (Result Nat)

section Moves

variable {σ U R : Type} [MetadataStore σ] [LawfulStore σ] [Inhabited U]
  {engine : String → Nat → U → Result (R × U)} {path : String} {limit : Option String}
  {closure : NodeCall → SqlProg R}

inductive Moves (closure : NodeCall → SqlProg R) (s : System σ R) (i : Nat) :
    System σ R → Prop where
  | answered {op k o r store} (hp : (s.tasks i).prog = .call op k)
      (h : answerCall s.store op o = some (r, store)) :
      Moves closure s i ({ s with store }.resume i (k r))
  | failed {n call k e} (hp : (s.tasks i).prog = .call (.ext (.node n call)) k) :
      Moves closure s i (s.resume i (k (.error e)))
  | cached {n call k} (hp : (s.tasks i).prog = .call (.ext (.node n call)) k)
      (hread : readsKeys call = true) : Moves closure s i (s.resume i (k (.ok ())))
  | started {n call k j} (hp : (s.tasks i).prog = .call (.ext (.node n call)) k)
      (hjob : job closure call = some j) : Moves closure s i (s.start i j)
  | returned {n call k c res} (hp : (s.tasks i).prog = .call (.ext (.node n call)) k)
      (hwait : (s.tasks i).waiting = true) (hlast : (s.tasks i).last = some c)
      (hres : (s.node.procs c).future = .answered res) :
      Moves closure s i (s.resume i (k (res.map fun _ => ())))

lemma handlerStep_moves {s s' : System σ R} {i : Nat} {o : Reply}
    (h : handlerStep closure s i o = some s') : Moves closure s i s' := by
  simp only [handlerStep] at h
  split at h
  · cases h
  · rename_i hp
    split at h
    · cases h
      exact .failed hp
    · split at h
      · rename_i hwait
        split at h
        · rename_i hfuture
          rcases Option.map_eq_some_iff.mp hfuture with ⟨c, hlast, hres⟩
          cases h
          exact .returned hp hwait hlast hres
        · cases h
      · split at h
        · rename_i hcached
          cases h
          exact .cached hp (Bool.and_eq_true_iff.mp hcached).2
        · rcases Option.map_eq_some_iff.mp h with ⟨j, hjob, rfl⟩
          exact .started hp hjob
  · rename_i op k _ hp
    rcases Option.map_eq_some_iff.mp h with ⟨⟨r, store⟩, hanswer, rfl⟩
    exact .answered hp hanswer

end Moves

/-! ## The record -/

section Store

variable {σ : Type} [MetadataStore σ] [LawfulStore σ] {s s' : σ} {cell : DatabaseId}

open Catalogue.LawfulStore (cells)

def found (cell : DatabaseId) : (c : Call) → c.Res → Prop
  | .ext (.getDatabase _ id), r => id = cell ∧
      ∃ x : DatabaseRecord, (r : Result DatabaseRecord) = .ok x
  | .ext (.getDatabaseById id), r => id = cell ∧
      ∃ x : DatabaseRecord, (r : Result DatabaseRecord) = .ok x
  | _, _ => False

def foundFor (t : TenantId) (cell : DatabaseId) : (c : Call) → c.Res → Prop
  | .ext (.getDatabase t' id), r => t' = t ∧ id = cell ∧
      ∃ x : DatabaseRecord, (r : Result DatabaseRecord) = .ok x
  | _, _ => False

def unlisted (t : TenantId) (cell : DatabaseId) : (c : Call) → c.Res → Prop
  | .ext (.deleteDatabase t' id), r => t' = t ∧ id = cell ∧ (r : Result Unit) = .ok ()
  | _, _ => False

def nodeDeleted : (c : Call) → c.Res → Prop
  | .ext (.node _ (.deleteDatabase _)), r => (r : Result Unit) = .ok ()
  | _, _ => False

variable {α : Type} {o : Reply}

lemma Reply.read_eq_ok {r : Result α} {a : α} (h : o.read r = .ok a) : r = .ok a := by
  unfold Reply.read at h
  split at h
  · cases h
  · exact h

lemma Reply.change_ok {σ : Type} {s s' : σ} {r : Result α × σ} {a : α}
    (h : o.change s r = (.ok a, s')) : s' = r.2 := by
  unfold Reply.change at h
  split at h
  · cases h
  · rw [h]

lemma Reply.change_snd {σ : Type} (o : Reply) (s : σ) (r : Result α × σ) :
    (o.change s r).2 = s ∨ (o.change s r).2 = r.2 := by
  unfold Reply.change
  split
  · split
    · exact .inr rfl
    · exact .inl rfl
  · exact .inr rfl

/-- Every record of `s'` is one of `s`, perhaps in another state. -/
def Inherits (s s' : σ) : Prop :=
  ∀ x ∈ cells s', ∃ y ∈ cells s, y.id = x.id ∧ y.tenantId = x.tenantId

lemma inherits_refl (s : σ) : Inherits s s :=
  fun x hx => ⟨x, hx, rfl, rfl⟩

lemma inherits_change {r : Result α × σ} (h : Inherits s r.2)
    (o : Reply) : Inherits s (o.change s r).2 := by
  rcases o.change_snd s r with heq | heq
  · rw [heq]
    exact inherits_refl s
  · rw [heq]
    exact h

lemma inherits_setState (s : σ) (t : TenantId) (id : DatabaseId) (state : Catalogue.DatabaseState)
    : Inherits s (MetadataStore.setDatabaseState s t id state).2 := by
  intro x hx
  rw [LawfulStore.setState_cells] at hx
  rcases List.mem_map.mp hx with ⟨y, hy, rfl⟩
  refine ⟨y, hy, ?_⟩
  split <;> exact ⟨rfl, rfl⟩

lemma inherits_delete (s : σ) (t : TenantId) (id : DatabaseId) :
    Inherits s (MetadataStore.deleteDatabase s t id).2 := by
  intro x hx
  rw [LawfulStore.delete_cells] at hx
  exact ⟨x, (List.mem_filter.mp hx).1, rfl, rfl⟩

variable {c : Call} {r : c.Res}

lemma answerCall_inherits (h : answerCall s c o = some (r, s')) : Inherits s s' := by
  unfold answerCall at h
  split at h
  case h_3 t id state =>
    have hs := inherits_change (inherits_setState s t id state) o
    rwa [Option.some.inj h] at hs
  case h_4 t id =>
    have hs := inherits_change (inherits_delete s t id) o
    rwa [Option.some.inj h] at hs
  case h_7 => cases h
  all_goals
    cases h
    exact inherits_refl s

lemma Inherits.fresh (h : Inherits s s') (hs : FreshIn (cells s) cell) :
    FreshIn (cells s') cell := by
  intro x hx
  rcases h x hx with ⟨y, hy, hid, _⟩
  exact hid ▸ hs y hy

def Owned (s : σ) (cell : DatabaseId) (owner : TenantId) : Prop :=
  ∀ x ∈ cells s, x.id = cell → x.tenantId = owner

variable {owner : TenantId}

lemma Inherits.owned (h : Inherits s s') (hs : Owned s cell owner) : Owned s' cell owner := by
  intro x hx hid
  rcases h x hx with ⟨y, hy, hid', ht⟩
  exact ht ▸ hs y hy (hid'.trans hid)

section

variable (h : answerCall s c o = some (r, s'))
include h

lemma not_found (hs : FreshIn (cells s) cell) : ¬ found cell c r := by
  intro hfound
  unfold answerCall at h
  split at h
  case h_7 => cases h
  · rename_i t id
    rcases hfound with ⟨rfl, x, hx⟩
    cases h
    have hget := Reply.read_eq_ok hx
    rw [LawfulStore.get_eq, Catalogue.orNotFound_eq_ok] at hget
    exact hs x (List.mem_of_find?_eq_some hget)
      (Catalogue.DatabaseRecord.isCell_iff.mp (List.find?_some hget)).2
  · rename_i id
    rcases hfound with ⟨rfl, x, hx⟩
    cases h
    have hget := Reply.read_eq_ok hx
    rw [getDatabaseById, Catalogue.orNotFound_eq_ok] at hget
    exact hs x (List.mem_of_find?_eq_some hget) (by simpa using List.find?_some hget)
  all_goals exact hfound

lemma owner_of_foundFor {t : TenantId}
    (hs : Owned s cell owner) (hfound : foundFor t cell c r) : t = owner := by
  unfold answerCall at h
  split at h
  case h_7 => cases h
  · rename_i t' id
    rcases hfound with ⟨rfl, rfl, x, hx⟩
    cases h
    have hget := Reply.read_eq_ok hx
    rw [LawfulStore.get_eq, Catalogue.orNotFound_eq_ok] at hget
    rcases Catalogue.DatabaseRecord.isCell_iff.mp (List.find?_some hget) with ⟨ht, hid⟩
    exact ht ▸ hs x (List.mem_of_find?_eq_some hget) hid
  all_goals exact False.elim hfound

lemma fresh_of_unlisted (hs : Owned s cell owner)
    (hr : unlisted owner cell c r) : FreshIn (cells s') cell := by
  unfold answerCall at h
  split at h
  case h_7 => cases h
  case h_4 t id =>
    rcases hr with ⟨rfl, rfl, hr⟩
    have hs' := Reply.change_ok ((Option.some.inj h).trans (congrArg (·, s') hr))
    intro x hx hid
    rw [hs', LawfulStore.delete_cells] at hx
    rcases List.mem_filter.mp hx with ⟨hx, hcell⟩
    simp [Catalogue.DatabaseRecord.IsCell, hid, hs x hx hid] at hcell
  all_goals exact False.elim hr

lemma not_nodeDeleted : ¬ nodeDeleted c r := by
  intro hr
  unfold answerCall at h
  split at h
  case h_7 => cases h
  all_goals exact hr

end

end Store

/-! ## The handlers -/

def notNode : Call → Prop
  | .ext (.node _ _) => False
  | _ => True

def onlyDeletes : Call → Prop
  | .ext (.node _ (.deleteDatabase _)) => True
  | .ext (.node _ _) => False
  | _ => True

/-- A delete after the node has removed the files: 204 comes after the record has been removed. -/
def Unlists (t : TenantId) (cell : DatabaseId) (p : Rest) : Prop :=
  p.Until notNode (· ≠ .ok 204) (unlisted t cell) (·.Only notNode)

/-- A delete that has found the Cell: 204 comes after the node has removed the files. -/
def Removes (t : TenantId) (cell : DatabaseId) (p : Rest) : Prop :=
  p.Until onlyDeletes (· ≠ .ok 204) nodeDeleted (Unlists t cell)

def Checks (t : TenantId) (cell : DatabaseId) (p : Rest) : Prop :=
  p.Until notNode (· ≠ .ok 204) (foundFor t cell) (Removes t cell)

def Guarded (cell : DatabaseId) (p : Rest) : Prop :=
  p.Until onlyDeletes (fun _ => True) (found cell) fun _ => True

lemma checks_deleteDatabase (auth : AuthContext) (cell : DatabaseId) :
    Checks auth.tenantId cell (deleteDatabase auth cell).handler.run := by
  have herror : ∀ e : CombeeError, (Except.error e : Result Nat) ≠ .ok 204 :=
    fun e h => by cases h
  refine ⟨trivial, fun r => ⟨fun hr => ?_, fun hr => ?_⟩⟩
  · rcases hr with ⟨_, _, x, rfl⟩
    -- the state of the record and the route are of no account
    refine ⟨trivial, fun r => ⟨fun h => False.elim h, fun _ => ?_⟩⟩
    cases r with
    | error e => exact herror e
    | ok _ =>
      refine ⟨trivial, fun r => ⟨fun h => False.elim h, fun _ => ?_⟩⟩
      cases r with
      | error e => exact herror e
      | ok n =>
        refine ⟨trivial, fun r => ⟨fun hr => ?_, fun hr => ?_⟩⟩
        · -- the node is done, and the record comes last
          cases hr
          refine ⟨trivial, fun r => ⟨fun hr => ?_, fun hr => ?_⟩⟩
          · rcases hr with ⟨_, _, hr⟩
            cases hr
            trivial
          · cases r with
            | ok _ => exact absurd ⟨rfl, rfl, rfl⟩ hr
            | error e => exact herror e
        · cases r with
          | ok _ => exact absurd rfl hr
          | error e => exact herror e
  · cases r with
    | ok x => exact absurd ⟨rfl, rfl, x, rfl⟩ hr
    | error e => exact herror e

def cellOf : Endpoint → Option DatabaseId
  | .deleteDatabase id => some id
  | .executeSql id _ => some id
  | .executeTransaction id _ => some id
  | .kvGet id _ => some id
  | .kvSet id .. => some id
  | .kvDel id _ => some id
  | .kvList id .. => some id
  | .kvExists id _ => some id
  | .kvMget id _ => some id
  | .kvMset id _ => some id
  | .kvTtl id _ => some id
  | .kvExpire id .. => some id
  | .kvIncr id .. => some id
  | _ => none

lemma guarded_requireDb (auth : AuthContext) (cell : DatabaseId)
    (f : DatabaseRecord → Handler Nat) :
    Guarded cell ((requireDb auth cell).handler >>= f).run := by
  unfold requireDb
  -- by the id alone for an internal caller, and for the tenant otherwise
  split
  all_goals
    refine ⟨trivial, fun r => ⟨fun _ => trivial, fun hr => ?_⟩⟩
    cases r with
    | ok x => exact absurd ⟨rfl, x, rfl⟩ hr
    | error e => trivial

lemma guarded_handle {cell : DatabaseId} {e : Endpoint} (max : Nat) (auth : AuthContext)
    (he : cellOf e = some cell) : Guarded cell (handle max auth e).run := by
  cases e with
  | deleteDatabase id =>
    cases he
    refine ⟨trivial, fun r => ⟨fun _ => trivial, fun hr => ?_⟩⟩
    cases r with
    | ok x => exact absurd ⟨rfl, x, rfl⟩ hr
    | error e => trivial
  | executeSql | executeTransaction | kvGet | kvSet | kvDel | kvList | kvExists | kvMget
  | kvMset | kvTtl | kvExpire | kvIncr => cases he; exact guarded_requireDb auth cell _
  | _ => cases he

/-! ## The calls of a delete on the node -/

section Removal

variable {σ R : Type}

@[simp] lemma System.resume_task (s : System σ R) (i : Nat) (p : Rest) :
    (s.resume i p).tasks i = ⟨p, (s.tasks i).last, false⟩ :=
  update_self _ _ _

@[simp] lemma System.start_task (s : System σ R) (i : Nat) (j : Job R) :
    (s.start i j).tasks i = ⟨(s.tasks i).prog, some s.calls, true⟩ :=
  update_self _ _ _

/-- A call of a delete on the node, and how far its worker has come. -/
structure Removal (s : System σ R) (c : Nat) : Prop where
  lt : c < s.calls
  job : (s.node.procs c).job = .deleteDatabase
  settled : Settled (s.node.procs c)
  removed : Removed s.node.shared.disk (s.node.procs c).worker

structure Done (s : System σ R) (c : Nat) : Prop extends Removal s c where
  finished : ∃ xs, (s.node.procs c).worker = .finished (.ok xs)

variable {s : System σ R}

lemma Done.gone {c : Nat} (h : Done s c) : Gone s.node.shared.disk := by
  rcases h.finished with ⟨xs, hworker⟩
  have hremoved := h.removed
  rw [hworker] at hremoved
  exact hremoved

lemma Removal.start {c : Nat} (h : Removal s c) (i : Nat) (j : Job R) :
    Removal (s.start i j) c ∧ (s.start i j).node.procs c = s.node.procs c := by
  have hne : c ≠ s.calls := Nat.ne_of_lt h.lt
  have hproc : (s.start i j).node.procs c = s.node.procs c := update_of_ne hne _ _
  exact ⟨⟨Nat.lt_succ_of_lt h.lt, hproc ▸ h.job, hproc ▸ h.settled, hproc ▸ h.removed⟩, hproc⟩

lemma removal_start (s : System σ R) (d : Nat) : Removal (s.start d .deleteDatabase) s.calls := by
  have hproc : (s.start d .deleteDatabase).node.procs s.calls = .new .deleteDatabase :=
    update_self _ _ _
  refine ⟨Nat.lt_succ_self _, ?_, ?_, ?_⟩
  · rw [hproc]
    rfl
  · rw [hproc]
    exact .new _
  · rw [hproc]
    trivial

/-- Nobody goes to open the Cell once the worker of the delete `d` has begun to remove the files. -/
def Undisturbed (d : Nat) (s : System σ R) : Label → Prop
  | .handler _ _ => True
  | .node l => Opens s.node l →
      ∀ c, (s.tasks d).last = some c → (s.node.procs c).worker.removal = false

def passesBy (s : System σ R) : Label → Bool
  | .node (.proc c _) => !(s.node.procs c).mayOpen
  | _ => true

lemma undisturbed_of_passesBy {d : Nat} {l : Label}
    (h : passesBy s l = true) : Undisturbed d s l := by
  cases l with
  | handler i o => trivial
  | node l =>
    intro hopens
    rcases hopens.mayOpen with ⟨c, choice, rfl, hmay⟩
    simp [passesBy, hmay] at h

end Removal

/-! ## A delete among other requests -/

section Runs

variable {σ U R : Type} [MetadataStore σ] [LawfulStore σ] [Inhabited U]
  {engine : String → Nat → U → Result (R × U)} {path : String} {limit : Option String}
  {closure : NodeCall → SqlProg R} {cell : DatabaseId} {owner t : TenantId}

open Catalogue.LawfulStore (cells)

inductive Phase (owner t : TenantId) (cell : DatabaseId) (s : System σ R) (task : Task) :
    Prop where
  | looking (hwait : task.waiting = false) (hp : Checks t cell task.prog)
  | removing (ht : t = owner) (hp : Removes t cell task.prog)
      (hcall : task.waiting = true → ∃ c, task.last = some c ∧ Removal s c)
  | unlisting {c : Nat} (ht : t = owner) (hlast : task.last = some c)
      (hp : Unlists t cell task.prog) (hcall : Done s c)
  | ended {c : Nat} (hlast : task.last = some c) (hp : task.prog.Only notNode) (hcall : Done s c)
      (hfresh : FreshIn (cells s.store) cell)

/-- What the calls of a delete rest on is left alone. -/
structure Frame (s s' : System σ R) (last : Option Nat) : Prop where
  store : Inherits s.store s'.store
  removal : ∀ c, last = some c → Removal s c → Removal s' c
  done : ∀ c, last = some c → Done s c → Done s' c

variable {s s' : System σ R} {task : Task}

lemma Phase.frame (h : Phase owner t cell s task)
    (hframe : Frame s s' task.last) : Phase owner t cell s' task := by
  cases h with
  | looking hwait hp => exact .looking hwait hp
  | removing ht hp hcall =>
    refine .removing ht hp fun hwait => ?_
    rcases hcall hwait with ⟨c, hlast, hc⟩
    exact ⟨c, hlast, hframe.removal c hlast hc⟩
  | unlisting ht hlast hp hcall => exact .unlisting ht hlast hp (hframe.done _ hlast hcall)
  | ended hlast hp hcall hfresh =>
    exact .ended hlast hp (hframe.done _ hlast hcall) (hframe.store.fresh hfresh)

lemma frame_resume {store : σ} (h : Inherits s.store store) (i : Nat) (p : Rest)
    (last : Option Nat) : Frame s ({ s with store }.resume i p) last :=
  ⟨h, fun _ _ hc => ⟨hc.lt, hc.job, hc.settled, hc.removed⟩,
    fun _ _ hc => ⟨⟨hc.lt, hc.job, hc.settled, hc.removed⟩, hc.finished⟩⟩

lemma frame_start (s : System σ R) (i : Nat) (j : Job R) (last : Option Nat) :
    Frame s (s.start i j) last := by
  refine ⟨inherits_refl _, fun c _ hc => (hc.start i j).1, fun c _ hc => ?_⟩
  rcases hc.toRemoval.start i j with ⟨hremoval, hproc⟩
  exact ⟨hremoval, hproc ▸ hc.finished⟩

variable {d : Nat}

lemma frame_node {node : Pool Manager Nat (DataNode.ActiveDb.Call R)}
    {l : PoolLabel Nat Choice Event} (hs : Connected s.node) (hquiet : Undisturbed d s (.node l))
    (h : DataNode.ActiveDb.step engine path limit s.node l = some node) :
    Frame s { s with node } (s.tasks d).last := by
  have hremoval : ∀ c, (s.tasks d).last = some c → Removal s c → Removal { s with node } c := by
    intro c hlast hc
    rcases DataNode.ActiveDb.step_removed hs hc.job hc.removed (fun ho => hquiet ho c hlast) h with
      ⟨hjob, hremoved⟩
    exact ⟨hc.lt, hjob, (hc.settled.step h).1, hremoved⟩
  refine ⟨inherits_refl _, hremoval, fun c hlast hc => ⟨hremoval c hlast hc.toRemoval, ?_⟩⟩
  rcases hc.finished with ⟨xs, hworker⟩
  exact ⟨xs, (hc.settled.step h).2 _ hworker⟩

variable {i : Nat}

section

variable (h : Moves closure s i s')
include h

lemma Moves.frame (last : Option Nat) : Frame s s' last := by
  cases h with
  | answered hp hanswer => exact frame_resume (answerCall_inherits hanswer) i _ last
  | failed | cached | returned => exact frame_resume (inherits_refl s.store) i _ last
  | started hp hjob => exact frame_start s i _ last

lemma Moves.task_of_ne {j : Nat} (hj : j ≠ i) : s'.tasks j = s.tasks j := by
  cases h <;> exact update_of_ne hj _ _

lemma Moves.shared : s'.node.shared = s.node.shared := by
  cases h <;> rfl

lemma Moves.connected (hs : Connected s.node) : Connected s'.node := by
  cases h with
  | started hp hjob => exact hs.made s.calls _
  | _ => exact hs

end

structure AtNode (owner t : TenantId) (cell : DatabaseId) (s : System σ R) (task : Task)
    (k : Result Unit → Rest) : Prop where
  owner_eq : t = owner
  prog : Removes t cell task.prog
  unlists : Unlists t cell (k (.ok ()))
  removes : ∀ e, Removes t cell (k (.error e))
  call : task.waiting = true → ∃ c, task.last = some c ∧ Removal s c

variable {k : Result Unit → Rest}

lemma Phase.atNode {n : NodeId} {call : NodeCall}
    (hd : Phase owner t cell s task) (hp : task.prog = .call (.ext (.node n call)) k) :
    AtNode owner t cell s task k ∧ ∃ id, call = .deleteDatabase id := by
  cases hd with
  | removing ht hremoves hcall =>
    have hprog := hremoves
    rw [hp] at hprog
    cases call with
    | deleteDatabase id =>
      have hok := (hprog.2 (.ok ())).1 rfl
      have herror := fun e => (hprog.2 (.error e)).2 fun h => by cases h
      exact ⟨⟨ht, hremoves, hok, herror, hcall⟩, id, rfl⟩
    | _ => exact False.elim hprog.1
  | looking _ hrest | unlisting _ _ hrest | ended _ hrest =>
    rw [hp] at hrest
    exact False.elim hrest.1

lemma Phase.answered {op : Call} {k : op.Res → Rest} {o : Reply} {r : op.Res} {store : σ}
    (hs : Owned s.store cell owner) (hd : Phase owner t cell s (s.tasks d))
    (hp : (s.tasks d).prog = .call op k) (hanswer : answerCall s.store op o = some (r, store)) :
    Phase owner t cell ({ s with store }.resume d (k r)) ⟨k r, (s.tasks d).last, false⟩ := by
  have hframe := frame_resume (answerCall_inherits hanswer) d (k r) (s.tasks d).last
  cases hd with
  | looking hwait hchecks =>
    rw [hp] at hchecks
    rcases hchecks.answered r with ⟨hfound, hremoves⟩ | hrest
    · exact .removing (owner_of_foundFor hanswer hs hfound) hremoves fun h => by cases h
    · exact .looking rfl hrest
  | removing ht hremoves hcall =>
    rw [hp] at hremoves
    rcases hremoves.answered r with ⟨hdeleted, _⟩ | hrest
    · exact absurd hdeleted (not_nodeDeleted hanswer)
    · exact .removing ht hrest fun h => by cases h
  | unlisting ht hlast hunlists hcall =>
    rw [hp] at hunlists
    have hdone := hframe.done _ hlast hcall
    rcases hunlists.answered r with ⟨hunlisted, honly⟩ | hrest
    · subst ht
      exact .ended hlast honly hdone (fresh_of_unlisted hanswer hs hunlisted)
    · exact .unlisting ht hlast hrest hdone
  | ended hlast honly hcall hfresh =>
    rw [hp] at honly
    exact .ended hlast (honly.2 r) (hframe.done _ hlast hcall) (hframe.store.fresh hfresh)

lemma AtNode.returned {c : Nat}
    {res : Result (List R)} (hd : AtNode owner t cell s (s.tasks d) k)
    (hwait : (s.tasks d).waiting = true) (hlast : (s.tasks d).last = some c)
    (hres : (s.node.procs c).future = .answered res) :
    Phase owner t cell (s.resume d (k (res.map fun _ => ())))
      ⟨k (res.map fun _ => ()), (s.tasks d).last, false⟩ := by
  cases res with
  | error e => exact .removing hd.owner_eq (hd.removes e) fun h => by cases h
  | ok xs =>
    rcases hd.call hwait with ⟨c', hlast', hremoval⟩
    cases Option.some.inj (hlast.symm.trans hlast')
    have hdone : Done s c := ⟨hremoval, xs, hremoval.settled.finished xs hres⟩
    have hframe := frame_resume (inherits_refl s.store) d (k (.ok ())) (s.tasks d).last
    exact .unlisting hd.owner_eq hlast hd.unlists (hframe.done c hlast hdone)

lemma Phase.moves (hs : Owned s.store cell owner) (hd : Phase owner t cell s (s.tasks d))
    (h : Moves closure s d s') : Phase owner t cell s' (s'.tasks d) := by
  cases h with
  | answered hp hanswer =>
    rw [System.resume_task]
    exact hd.answered hs hp hanswer
  | failed hp =>
    rw [System.resume_task]
    rcases hd.atNode hp with ⟨hnode, _⟩
    exact .removing hnode.owner_eq (hnode.removes _) fun h => by cases h
  | cached hp hread =>
    rcases (hd.atNode hp).2 with ⟨id, rfl⟩
    cases hread
  | started hp hjob =>
    rcases hd.atNode hp with ⟨hnode, id, rfl⟩
    cases hjob
    rw [System.start_task]
    exact .removing hnode.owner_eq hnode.prog fun _ => ⟨s.calls, rfl, removal_start s d⟩
  | returned hp hwait hlast hres =>
    rw [System.resume_task]
    exact (hd.atNode hp).1.returned hwait hlast hres

/-! ## Runs -/

/-- What holds along a run with the delete `d`. -/
structure Inv (owner t : TenantId) (cell : DatabaseId) (d : Nat) (s : System σ R) : Prop where
  connected : Connected s.node
  owned : Owned s.store cell owner
  phase : Phase owner t cell s (s.tasks d)

lemma Inv.step {l : Label} (hs : Inv owner t cell d s) (hquiet : Undisturbed d s l)
    (h : step engine path limit closure s l = some s') : Inv owner t cell d s' := by
  cases l with
  | handler i o =>
    have hmoves := handlerStep_moves h
    have hframe := hmoves.frame (s.tasks d).last
    refine ⟨hmoves.connected hs.connected, hframe.store.owned hs.owned, ?_⟩
    by_cases hdi : d = i
    · subst hdi
      exact hs.phase.moves hs.owned hmoves
    · rw [hmoves.task_of_ne hdi]
      exact hs.phase.frame hframe
  | node l =>
    simp only [Deletion.step] at h
    split at h
    · rcases Option.map_eq_some_iff.mp h with ⟨node, hnode, rfl⟩
      exact ⟨hs.connected.step hnode, hs.owned,
        hs.phase.frame (frame_node hs.connected hquiet hnode)⟩
    · cases h

def Task.status (task : Task) : Option Nat :=
  match task.prog with
  | .ret (.ok n) => some n
  | _ => none

lemma Task.status_eq_some {n : Nat} (h : task.status = some n) : task.prog = .ret (.ok n) := by
  unfold Task.status at h
  split at h
  · rename_i hp
    cases h
    exact hp
  · cases h

lemma Phase.of_status (h : Phase owner t cell s task) (h204 : task.status = some 204) :
    Gone s.node.shared.disk ∧ FreshIn (cells s.store) cell := by
  have hp := Task.status_eq_some h204
  cases h with
  | looking _ hnot | removing _ hnot | unlisting _ _ hnot =>
    rw [hp] at hnot
    exact absurd rfl hnot
  | ended hlast honly hcall hfresh => exact ⟨hcall.gone, hfresh⟩

/-! ## Nothing in flight -/

structure Quiet (cell : DatabaseId) (s : System σ R) : Prop where
  connected : Connected s.node
  gone : Gone s.node.shared.disk
  fresh : FreshIn (cells s.store) cell
  guarded : ∀ i, Guarded cell (s.tasks i).prog
  calls : ∀ c, c < s.calls → (s.node.procs c).mayOpen = false

lemma Moves.guarded (h : Moves closure s i s') (hs : FreshIn (cells s.store) cell)
    (hi : Guarded cell (s.tasks i).prog) : Guarded cell (s'.tasks i).prog := by
  -- an answer of the node is not that of a lookup
  have hnode : ∀ {n call} {k : Result Unit → Rest} (r : Result Unit),
      (s.tasks i).prog = .call (.ext (.node n call)) k → Guarded cell (k r) := by
    intro n call k r hp
    rw [hp] at hi
    exact (hi.2 r).2 fun h => h
  cases h with
  | answered hp hanswer =>
    rename_i op k o r store
    rw [hp] at hi
    rw [System.resume_task]
    rcases Prog.Until.answered hi r with ⟨hfound, _⟩ | hrest
    · exact absurd hfound (not_found hanswer hs)
    · exact hrest
  | failed hp | cached hp | returned hp =>
    rw [System.resume_task]
    exact hnode _ hp
  | started hp hjob =>
    rw [System.start_task]
    exact hi

lemma Moves.calls (h : Moves closure s i s') (hi : Guarded cell (s.tasks i).prog)
    (hs : ∀ c, c < s.calls → (s.node.procs c).mayOpen = false) :
    ∀ c, c < s'.calls → (s'.node.procs c).mayOpen = false := by
  cases h with
  | started hp hjob =>
    rename_i n call k j
    rw [hp] at hi
    have hnew : (DataNode.ActiveDb.Call.new j).mayOpen = false := by
      cases call with
      | deleteDatabase id =>
        cases hjob
        rfl
      | _ => exact False.elim hi.1
    intro c hc
    by_cases hlast : c = s.calls
    · subst hlast
      rw [show (s.start i j).node.procs s.calls = _ from update_self _ _ _]
      exact hnew
    · rw [show (s.start i j).node.procs c = _ from update_of_ne hlast _ _]
      exact hs c (Nat.lt_of_le_of_ne (Nat.le_of_lt_succ hc) hlast)
  | _ => exact hs

lemma Quiet.step {l : Label} (hs : Quiet cell s)
    (h : step engine path limit closure s l = some s') : Quiet cell s' := by
  cases l with
  | handler i o =>
    have hmoves := handlerStep_moves h
    refine ⟨hmoves.connected hs.connected, hmoves.shared ▸ hs.gone,
      (hmoves.frame none).store.fresh hs.fresh, fun j => ?_,
      hmoves.calls (hs.guarded i) hs.calls⟩
    by_cases hji : j = i
    · subst hji
      exact hmoves.guarded hs.fresh (hs.guarded j)
    · rw [hmoves.task_of_ne hji]
      exact hs.guarded j
  | node l =>
    simp only [Deletion.step] at h
    split at h
    · rename_i henabled
      rcases Option.map_eq_some_iff.mp h with ⟨node, hnode, rfl⟩
      have hnot : ¬ Opens s.node l := by
        intro hopens
        rcases hopens.mayOpen with ⟨c, choice, rfl, hmay⟩
        simp [hs.calls c (by simpa [System.enabled] using henabled)] at hmay
      have hshrinks :=
        DataNode.ActiveDb.step_shrinks hs.connected hs.gone.conn hnot hnode
      exact ⟨hs.connected.step hnode, hshrinks.gone hs.gone, hs.fresh, hs.guarded,
        fun c hc => DataNode.ActiveDb.mayOpen_step (hs.calls c hc) hnode⟩
    · cases h

/-! ## Deletion is final -/

structure Start (cell : DatabaseId) (owner : TenantId) (max : Nat)
    (request : Nat → AuthContext × Endpoint) (s : System σ R) : Prop where
  node : DataNode.ActiveDb.Start s.node
  calls : s.calls = 0
  onCell : ∀ i, cellOf (request i).2 = some cell
  tasks : ∀ i, s.tasks i = ⟨(handle max (request i).1 (request i).2).run, none, false⟩
  owned : Owned s.store cell owner

/-- No request is in flight, and on the node no call is left that may still open the Cell. -/
structure Idle (max : Nat) (request : Nat → AuthContext × Endpoint) (s : System σ R) : Prop where
  tasks : ∀ i, (s.tasks i).prog = (handle max (request i).1 (request i).2).run ∨
    ∃ r, (s.tasks i).prog = .ret r
  calls : ∀ c, c < s.calls → (s.node.procs c).mayOpen = false

/-- Once the delete has been answered with 204 the files are gone, as long as nobody has gone to
open the Cell; they stay gone if nothing is in flight, and any call that opens the Cell brings them
back. -/
theorem deletion_final {max d : Nat} {request : Nat → AuthContext × Endpoint} {auth : AuthContext}
    {s₀ s : System σ R} {ls : List Label} (h₀ : Start cell owner max request s₀)
    (hd : request d = (auth, .deleteDatabase cell))
    (hrun : exec (step engine path limit closure) s₀ ls = some s)
    (hquiet : Meets (step engine path limit closure) (Undisturbed d) s₀ ls)
    (h204 : (s.tasks d).status = some 204) :
    Gone s.node.shared.disk ∧
      (Idle max request s → ∀ ms s', exec (step engine path limit closure) s ms = some s' →
        Gone s'.node.shared.disk) ∧
      ∀ c choice s', Opens s.node (.proc c choice) → choice.openFault = none →
        step engine path limit closure s (.node (.proc c choice)) = some s' →
          ¬ Gone s'.node.shared.disk := by
  have hstart : Inv owner auth.tenantId cell d s₀ := by
    refine ⟨h₀.node.connected, h₀.owned, ?_⟩
    rw [h₀.tasks d, hd]
    exact .looking rfl (checks_deleteDatabase auth cell)
  have hs : Inv owner auth.tenantId cell d s :=
    inv_of_exec (fun hI hC hl => hI.step hC hl) hstart hquiet hrun
  rcases hs.phase.of_status h204 with ⟨hgone, hfresh⟩
  refine ⟨hgone, fun hidle ms s' hms => ?_, fun c choice s' hopens hfault h => ?_⟩
  · have hguarded : ∀ i, Guarded cell (s.tasks i).prog := by
      intro i
      rcases hidle.tasks i with hp | ⟨r, hp⟩
      · rw [hp]
        exact guarded_handle max (request i).1 (h₀.onCell i)
      · rw [hp]
        trivial
    have hquiet : Quiet cell s := ⟨hs.connected, hgone, hfresh, hguarded, hidle.calls⟩
    exact (inv_of_exec_all (fun hI hl => hI.step hl) hquiet hms).gone
  · simp only [step] at h
    split at h
    · rcases Option.map_eq_some_iff.mp h with ⟨node, hnode, rfl⟩
      exact DataNode.ActiveDb.step_opens hopens hfault hnode
    · cases h

lemma task_of_exec {ls : List Label} {j : Nat} (hls : ∀ l ∈ ls, ∀ o, l ≠ .handler j o)
    (h : exec (step engine path limit closure) s ls = some s') : s'.tasks j = s.tasks j := by
  induction ls generalizing s with
  | nil =>
    cases h
    rfl
  | cons l ls ih =>
    rcases exec_cons_eq_some.mp h with ⟨u, hu, hrest⟩
    have htail := ih (List.forall_mem_cons.mp hls).2 hrest
    rw [htail]
    cases l with
    | handler i o =>
      have hji : j ≠ i := fun hji => hls _ List.mem_cons_self o (by rw [hji])
      exact (handlerStep_moves hu).task_of_ne hji
    | node l =>
      simp only [Deletion.step] at hu
      split at hu
      · rcases Option.map_eq_some_iff.mp hu with ⟨node, _, rfl⟩
        rfl
      · cases hu

end Runs

/-! ## Two runs -/

def exampleStore : Catalogue.InMemoryStore :=
  Catalogue.emptyInMemory.putNew ⟨⟨7⟩, "cell", ⟨1⟩, .active, 0, none, none, 0⟩

def exampleManager : Manager :=
  ⟨none, 0, fun _ => none, none, Storage.Disk.blank.openConn, none, none, false⟩

def exampleRequest (i : Nat) : AuthContext × Endpoint :=
  (⟨⟨1⟩, false⟩, if i = 1 then .deleteDatabase ⟨7⟩ else .kvSet ⟨7⟩ "k" "v" none false false)

def exampleStart : System Catalogue.InMemoryStore Unit :=
  ⟨exampleStore, ⟨exampleManager, fun _ => .new .closeDatabase⟩, 0,
    fun i => ⟨(handle 0 (exampleRequest i).1 (exampleRequest i).2).run, none, false⟩⟩

abbrev exampleStep : System Catalogue.InMemoryStore Unit → Label →
    Option (System Catalogue.InMemoryStore Unit) :=
  step DataNode.ActiveDb.noEngine "/data" none fun _ => .ret (.ok [])

lemma exampleStart_start : Start ⟨7⟩ ⟨1⟩ 0 exampleRequest exampleStart := by
  refine ⟨⟨fun _ => rfl, fun _ => rfl⟩, rfl, fun i => ?_, fun i => rfl, ?_⟩
  · unfold exampleRequest
    split <;> rfl
  · intro x hx _
    cases List.mem_singleton.mp hx
    rfl

/-- The delete from its check to its answer; its call on the node is call 0. -/
def deleteRun : List Label :=
  List.replicate 4 (.handler 1 {}) ++
    [.node (poll 0), .node (poll 0)] ++
    List.replicate 5 (.node (work 0)) ++
    [.node (poll 0), .handler 1 {}, .handler 1 {}]

theorem deletion_final_alone :
    Start ⟨7⟩ ⟨1⟩ 0 exampleRequest exampleStart ∧
      ∃ s, exec exampleStep exampleStart deleteRun = some s ∧ (s.tasks 1).status = some 204 ∧
        Gone s.node.shared.disk ∧ Idle 0 exampleRequest s ∧
        ∀ ms s', exec exampleStep s ms = some s' → Gone s'.node.shared.disk := by
  have hfacts : (exec exampleStep exampleStart deleteRun).map (fun s =>
      ((s.tasks 1).status, s.calls, (s.node.procs 0).mayOpen)) = some (some 204, 1, false) := by
    decide
  rcases Option.map_eq_some_iff.mp hfacts with ⟨s, hrun, hfacts⟩
  simp only [Prod.mk.injEq] at hfacts
  rcases hfacts with ⟨h204, hcalls, hmay⟩
  have hquiet : Meets exampleStep (Undisturbed 1) exampleStart deleteRun :=
    meets_of_check (fun h => undisturbed_of_passesBy h) (by decide)
  have hfinal := deletion_final exampleStart_start rfl hrun hquiet h204
  have hidle : Idle 0 exampleRequest s := by
    constructor
    · intro i
      by_cases hi : i = 1
      · subst hi
        exact .inr ⟨_, Task.status_eq_some h204⟩
      · -- the handlers of the other requests have taken no step
        have htask := task_of_exec (j := i) (fun l hl o heq => ?_) hrun
        · rw [htask]
          exact .inl rfl
        · subst heq
          simp [deleteRun, poll, work, hi] at hl
    · intro c hc
      cases Nat.lt_one_iff.mp (hcalls ▸ hc)
      exact hmay
  exact ⟨exampleStart_start, s, hrun, h204, hfinal.1, hidle, hfinal.2.1 hidle⟩

/-- Request 0 has found the record before the delete, and goes on after it. -/
theorem deletion_not_final :
    Start ⟨7⟩ ⟨1⟩ 0 exampleRequest exampleStart ∧
      (exec exampleStep exampleStart (.handler 0 {} :: deleteRun)).map (fun s =>
        ((s.tasks 1).status, s.node.shared.disk.main.isSome)) = some (some 204, false) ∧
      (exec exampleStep exampleStart (.handler 0 {} :: deleteRun ++
        [.handler 0 {}, .handler 0 {}, .handler 0 {}, .node (poll 1),
          .node (poll 1), .node (work 1)])).map (fun s =>
        ((s.tasks 1).status, s.node.shared.disk.main.isSome)) = some (some 204, true) := by
  refine ⟨exampleStart_start, ?_, ?_⟩
  · decide
  · decide

end Combee.ApiServer.Deletion
