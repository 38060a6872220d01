import Combee.Catalogue.Lawful
import Combee.Foundation.Machine

/-!
# Handlers — `POST /v1/databases` and `PUT /v1/databases/by-name/{name}`

`create_database` saves its idempotency key, if there is one, before it does anything else; a key
that is taken is answered with the Cell of the stored id. Then, as in `ensure_database`, the Cells
of the tenant are counted, and the record is made in a call of its own.

The handlers are given as functions of the state, and as processes (`Pc`, `act`) whose calls are
separate steps, any of which can fail (`Choice`). A process alone computes the function
(`createDatabase_run`, `ensureDatabase_run`).
-/

namespace Combee.Catalogue

open Billing (TenantId)
open Foundation
open MetadataStore

/-- A request with what it draws: the id at its start, the node that is picked and the clock. -/
structure CreateRequest where
  tenant : TenantId
  key : Option String
  id : DatabaseId
  name : Option String
  node : Option NodeId
  now : Nat

/-- `init` is how the data node answers when the database of a new Cell is made. -/
structure EnsureRequest where
  tenant : TenantId
  name : String
  id : DatabaseId
  node : Option NodeId
  now : Nat
  init : Result Unit

inductive Request where
  | create (r : CreateRequest)
  | ensure (r : EnsureRequest)

def Request.tenant : Request → TenantId
  | .create r => r.tenant
  | .ensure r => r.tenant

/-- `created` has status 201 and `replayed` 200; `ensured` has 201 or 200. -/
inductive Reply where
  | created (id : DatabaseId) (name : String)
  | replayed (id : DatabaseId) (name : String)
  | ensured (cell : DatabaseRecord) (created : Bool)
  | failed (e : CombeeError)
  deriving DecidableEq, Repr

/-- The limit `max_cells_per_tenant`, which is off if it is zero. -/
def cellQuota (max count : Nat) : Result Unit :=
  if 0 < max ∧ max ≤ count then
    .error (.quotaExceeded
      ("cell limit reached: " ++ toString count ++ " (max " ++ toString max ++ ")"))
  else .ok ()

lemma cellQuota_eq_ok {max count : Nat} :
    cellQuota max count = .ok () ↔ max = 0 ∨ count < max := by
  unfold cellQuota
  split_ifs with h
  · simp
    omega
  · simp
    omega

def validateOptional : Option String → Result Unit
  | some name => validateCellName name
  | none => .ok ()

lemma validateOptional_ne_notFound {name : Option String} {id : DatabaseId} :
    validateOptional name ≠ .error (.databaseNotFound id) := by
  cases name with
  | none => simp [validateOptional]
  | some name =>
    simp only [validateOptional, validateCellName]
    split_ifs <;> simp

/-! ## One request alone -/

namespace Api

variable {σ : Type} [MetadataStore σ]

def replay (s : σ) (t : TenantId) (existing : Payload) : Reply :=
  match existing.cachedId with
  | .error e => .failed e
  | .ok id =>
    match getDatabase s t id with
    | .error e => .failed e
    | .ok r => .replayed r.id r.name

/-- What `create_database` does for a key that it has saved, or without a key. -/
def attempt (max : Nat) (s : σ) (r : CreateRequest) : Reply × σ :=
  match cellQuota max (listDatabases s r.tenant).length with
  | .error e => (.failed e, s)
  | .ok _ =>
    match validateOptional r.name with
    | .error e => (.failed e, s)
    | .ok _ =>
      match createDatabase s r.tenant r.id r.node r.name r.now with
      | (.error e, s') => (.failed e, s')
      | (.ok record, s') => (.created r.id record.name,
          (setDatabaseState s' r.tenant r.id .active).2)

def createDatabase (max : Nat) (s : σ) (r : CreateRequest) : Reply × σ :=
  match r.key with
  | none => attempt max s r
  | some key =>
    match saveIdempotency s key r.tenant (.json r.id) with
    | (some existing, s') => (replay s' r.tenant existing, s')
    | (none, s') => attempt max s' r

def ensureDatabase (max : Nat) (s : σ) (r : EnsureRequest) : Reply × σ :=
  match validateCellName r.name with
  | .error e => (.failed e, s)
  | .ok _ =>
    match cellQuota max (listDatabases s r.tenant).length with
    | .error e => (.failed e, s)
    | .ok _ =>
      match ensureDatabaseByName s r.tenant r.name r.node r.id r.now with
      | (.error e, s') => (.failed e, s')
      | (.ok (record, false), s') => (.ensured record false, s')
      | (.ok (record, true), s') =>
        match r.init with
        | .error e => (.failed e, (deleteDatabase s' r.tenant record.id).2)
        | .ok _ => (.ensured record true,
            (setDatabaseState s' r.tenant record.id .active).2)

end Api

/-! ## Requests as processes -/

/-- How a call of the store ends: with the error `fault`, which may hide that it was `applied`. -/
structure Choice where
  fault : Option String := none
  applied : Bool := false

def Choice.call {σ α : Type} (c : Choice) (s : σ) (result : Result α × σ) :
    Result α × σ :=
  match c.fault with
  | none => result
  | some message => (.error (.internal message), if c.applied then result.2 else s)

lemma Choice.call_snd {σ α : Type} {c : Choice} {s : σ} {result : Result α × σ}
    {P : σ → Prop} (hs : P s) (hresult : P result.2) : P (c.call s result).2 := by
  unfold Choice.call
  split
  · exact hresult
  · dsimp only
    split_ifs
    · exact hresult
    · exact hs

lemma Choice.call_cases {σ α : Type} (c : Choice) (s : σ) (result : Result α × σ) :
    (c.fault = none ∧ c.call s result = result) ∨
    ∃ e, c.fault = some e ∧ (c.call s result = (.error (.internal e), s) ∨
      c.call s result = (.error (.internal e), result.2)) := by
  unfold Choice.call
  cases hfault : c.fault with
  | none => exact .inl ⟨rfl, rfl⟩
  | some e =>
    refine .inr ⟨e, rfl, ?_⟩
    cases c.applied with
    | false => exact .inl rfl
    | true => exact .inr rfl

inductive Pc where
  | save (r : CreateRequest)
  | validate (r : EnsureRequest)
  | replay (r : CreateRequest) (existing : Payload)
  | count (q : Request)
  | insert (r : CreateRequest)
  | ensure (r : EnsureRequest)
  | initialise (r : EnsureRequest) (record : DatabaseRecord)
  | rollback (t : TenantId) (id : DatabaseId) (e : CombeeError)
  | activate (t : TenantId) (id : DatabaseId) (reply : Reply)
  | answered (reply : Reply)

def Request.start : Request → Pc
  | .create r => .save r
  | .ensure r => .validate r

section Processes

variable {σ : Type} [MetadataStore σ]

def afterCount (max : Nat) (q : Request) : Result Nat → Pc
  | .error e => .answered (.failed e)
  | .ok count =>
    match cellQuota max count with
    | .error e => .answered (.failed e)
    | .ok _ =>
      match q with
      | .create r => .insert r
      | .ensure r => .ensure r

def afterSave (r : CreateRequest) : Result (Option Payload) → Pc
  | .error e => .answered (.failed e)
  | .ok (some existing) => .replay r existing
  | .ok none => .count (.create r)

def afterGet : Result DatabaseRecord → Pc
  | .error e => .answered (.failed e)
  | .ok record => .answered (.replayed record.id record.name)

def afterCreate (r : CreateRequest) : Result DatabaseRecord → Pc
  | .error e => .answered (.failed e)
  | .ok record => .activate r.tenant r.id (.created r.id record.name)

def afterEnsure (r : EnsureRequest) : Result (DatabaseRecord × Bool) → Pc
  | .error e => .answered (.failed e)
  | .ok (record, false) => .answered (.ensured record false)
  | .ok (record, true) => .initialise r record

def act (max : Nat) (s : σ) (pc : Pc) (c : Choice) : Option (σ × Pc) :=
  match pc with
  | .save r =>
    match r.key with
    | none => some (s, .count (.create r))
    | some key =>
      let (existing, s') := saveIdempotency s key r.tenant (.json r.id)
      let (result, s') := c.call s (.ok existing, s')
      some (s', afterSave r result)
  | .validate r =>
    match validateCellName r.name with
    | .error e => some (s, .answered (.failed e))
    | .ok _ => some (s, .count (.ensure r))
  | .replay r existing =>
    match existing.cachedId with
    | .error e => some (s, .answered (.failed e))
    | .ok id =>
      let (result, s') := c.call s (getDatabase s r.tenant id, s)
      some (s', afterGet result)
  | .count q =>
    -- without a limit the Cells are not counted
    if max = 0 then some (s, afterCount max q (.ok 0))
    else
      let (result, s') := c.call s (.ok (listDatabases s q.tenant).length, s)
      some (s', afterCount max q result)
  | .insert r =>
    match validateOptional r.name with
    | .error e => some (s, .answered (.failed e))
    | .ok _ =>
      let (result, s') := c.call s
        (createDatabase s r.tenant r.id r.node r.name r.now)
      some (s', afterCreate r result)
  | .ensure r =>
    let (result, s') := c.call s
      (ensureDatabaseByName s r.tenant r.name r.node r.id r.now)
    some (s', afterEnsure r result)
  | .initialise r record =>
    match r.init with
    | .error e => some (s, .rollback r.tenant record.id e)
    | .ok _ => some (s, .activate r.tenant record.id (.ensured record true))
  | .rollback t id e =>
    let (_, s') := c.call s (deleteDatabase s t id)
    some (s', .answered (.failed e))
  | .activate t id reply =>
    let (_, s') := c.call s (setDatabaseState s t id .active)
    some (s', .answered reply)
  | .answered _ => none

def step {ι : Type} [DecidableEq ι] (max : Nat) :
    Pool σ ι Pc → PoolLabel ι Choice Empty → Option (Pool σ ι Pc) :=
  Pool.step (fun s _ pc c => act max s pc c) (fun _ e => e.elim) (fun _ pc => pc)

end Processes

/-! ## A process alone computes the function -/

section Alone

variable {σ : Type} [MetadataStore σ] {max : Nat} {s : σ}

/-- Steps of one process that the store never fails. -/
def runs (max : Nat) (s : σ) (pc : Pc) (result : Reply × σ) : Prop :=
  ∃ n, exec (fun (x : σ × Pc) c => act max x.1 x.2 c) (s, pc) (List.replicate n {}) =
    some (result.2, .answered result.1)

lemma runs_answered {reply : Reply} : runs max s (.answered reply) (reply, s) :=
  ⟨0, rfl⟩

lemma runs_of_act {pc pc' : Pc} {s' : σ} {result : Reply × σ}
    (h : act max s pc {} = some (s', pc')) (hrest : runs max s' pc' result) :
    runs max s pc result := by
  rcases hrest with ⟨n, hn⟩
  exact ⟨n + 1, exec_cons h hn⟩

lemma act_count (q : Request) : act max s (.count q) {} =
    some (s, afterCount max q (.ok (listDatabases s q.tenant).length)) := by
  by_cases hmax : max = 0
  · subst hmax
    simp [act, afterCount, cellQuota]
  · simp [act, hmax, Choice.call]

lemma runs_activate {t : TenantId} {id : DatabaseId} {reply : Reply} :
    runs max s (.activate t id reply)
      (reply, (setDatabaseState s t id .active).2) :=
  runs_of_act rfl runs_answered

lemma attempt_run (r : CreateRequest) :
    runs max s (.count (.create r)) (Api.attempt max s r) := by
  refine runs_of_act (act_count _) ?_
  simp only [afterCount, Api.attempt, Request.tenant]
  cases hquota : cellQuota max (listDatabases s r.tenant).length with
  | error e => exact runs_answered
  | ok _ =>
    cases hname : validateOptional r.name with
    | error e => exact runs_of_act (by simp [act, hname]) runs_answered
    | ok _ =>
      rcases hcreate : createDatabase s r.tenant r.id r.node r.name r.now with
        ⟨result, s'⟩
      have hact : act max s (.insert r) {} = some (s', afterCreate r result) := by
        simp [act, hname, Choice.call, hcreate]
      refine runs_of_act hact ?_
      cases result with
      | error e => exact runs_answered
      | ok record => exact runs_activate

theorem createDatabase_run (r : CreateRequest) :
    runs max s (.save r) (Api.createDatabase max s r) := by
  cases hkey : r.key with
  | none =>
    have hact : act max s (.save r) {} = some (s, .count (.create r)) := by simp [act, hkey]
    simpa only [Api.createDatabase, hkey] using runs_of_act hact (attempt_run r)
  | some key =>
    simp only [Api.createDatabase, hkey]
    rcases hsave : saveIdempotency s key r.tenant (.json r.id) with ⟨existing, s'⟩
    have hact : act max s (.save r) {} = some (s', afterSave r (.ok existing)) := by
      simp [act, hkey, Choice.call, hsave]
    refine runs_of_act hact ?_
    cases existing with
    | none => exact attempt_run r
    | some existing =>
      simp only [afterSave, Api.replay]
      cases hid : existing.cachedId with
      | error e => exact runs_of_act (by simp [act, hid]) runs_answered
      | ok id =>
        have hget : act max s' (.replay r existing) {} =
            some (s', afterGet (getDatabase s' r.tenant id)) := by
          simp [act, hid, Choice.call]
        refine runs_of_act hget ?_
        dsimp only
        cases getDatabase s' r.tenant id with
        | error | ok => exact runs_answered (s := s')

theorem ensureDatabase_run (r : EnsureRequest) :
    runs max s (.validate r) (Api.ensureDatabase max s r) := by
  unfold Api.ensureDatabase
  cases hname : validateCellName r.name with
  | error e => exact runs_of_act (by simp [act, hname]) runs_answered
  | ok _ =>
    have hvalid : act max s (.validate r) {} = some (s, .count (.ensure r)) := by
      simp [act, hname]
    refine runs_of_act hvalid ?_
    refine runs_of_act (act_count _) ?_
    simp only [afterCount, Request.tenant]
    cases hquota : cellQuota max (listDatabases s r.tenant).length with
    | error e => exact runs_answered
    | ok _ =>
      rcases hensure : ensureDatabaseByName s r.tenant r.name r.node r.id r.now
        with ⟨result, s'⟩
      have hact : act max s (.ensure r) {} = some (s', afterEnsure r result) := by
        simp [act, Choice.call, hensure]
      refine runs_of_act hact ?_
      cases result with
      | error e => exact runs_answered
      | ok found =>
        rcases found with ⟨record, created⟩
        cases created with
        | false => exact runs_answered
        | true =>
          simp only [afterEnsure]
          cases hinit : r.init with
          | error e =>
            have hback : act max s' (.initialise r record) {} =
                some (s', .rollback r.tenant record.id e) := by simp [act, hinit]
            exact runs_of_act hback (runs_of_act rfl runs_answered)
          | ok _ =>
            have hnext : act max s' (.initialise r record) {} =
                some (s', .activate r.tenant record.id (.ensured record true)) := by
              simp [act, hinit]
            exact runs_of_act hnext runs_activate

end Alone

/-- Two requests, in the order in which they come. -/
inductive Caller where
  | first
  | second
  deriving DecidableEq, Inhabited

end Combee.Catalogue
