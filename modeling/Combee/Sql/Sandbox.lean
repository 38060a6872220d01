import Combee.Foundation.Program
import Combee.Sql.Scanner

/-!
# Sandbox — the user-SQL flag of a thread

One SQLite connection serves the SQL of users and the statements of the data node itself. The
authorizer cannot tell them apart, so a flag of the thread does: `UserSqlGuard` sets it on the way
into a scope and gives it back its value on every way out.

* `authorize` — what the authorizer answers, by the flag;
* `withFlag` — a scope with a guard in it;
* `executeSqlQuota`, `executeTransaction` — the two entry points, with the rollback that the drop
  of an open transaction issues.
-/

namespace Combee.Sql

open Foundation List

/-! ## The authorizer -/

/-- What a statement asks the authorizer for while it is prepared. -/
inductive AuthAction where
  | attach
  | detach
  | transaction
  | savepoint
  | pragma (name : String) (value : Option String)
  | function (name : String)
  | read (table : String)
  | insert (table : String)
  | update (table : String)
  | delete (table : String)
  | other
  deriving DecidableEq, Repr

inductive Authorization where
  | allow
  | deny
  deriving DecidableEq, Repr

/-- Pragmas whose argument is only what they look up. -/
def functionalPragmas : List String :=
  ["quick_check", "integrity_check", "table_info", "table_xinfo", "table_list", "database_list",
    "index_list", "index_info", "index_xinfo", "collation_list", "compile_options",
    "function_list", "module_list", "pragma_list"]

def readOnlyPragmas : List String :=
  ["user_version", "application_id", "page_count", "freelist_count", "schema_version",
    "data_version", "journal_mode", "foreign_keys", "wal_checkpoint"]

def pragmaAllowed (name : String) (hasValue : Bool) : Bool :=
  if functionalPragmas.contains name then true
  else if !readOnlyPragmas.contains name then false
  else if hasValue then ["user_version", "application_id"].contains name
  else true

def functionAllowed (name : String) : Bool :=
  not (["load_extension", "readfile", "writefile", "sqlite_compileoption_used"].contains name)

def allowIf (b : Bool) : Authorization :=
  if b then .allow else .deny

/-- The callback of `install`, where `active` is the flag of the thread. -/
def authorize (active : Bool) (action : AuthAction) : Authorization :=
  if !active then .allow
  else
    match action with
    | .attach | .detach => .deny
    | .transaction | .savepoint => .deny
    | .pragma name value => allowIf (pragmaAllowed (name.map Char.toLower) value.isSome)
    | .function name => allowIf (functionAllowed (name.map Char.toLower))
    | .read table | .insert table | .update table | .delete table =>
      allowIf (!table.startsWith "__sys")
    | .other => .allow

/-! ## Requests and results -/

/-- Integers are those of `serde_json`; other numbers, arrays and objects are kept as their text. -/
inductive Json where
  | null
  | bool (b : Bool)
  | integer (n : Int)
  | real (text : String)
  | string (s : String)
  | compound (text : String)
  deriving DecidableEq, Repr

inductive SqlValue where
  | null
  | integer (n : Int)
  | real (text : String)
  | text (s : String)
  deriving DecidableEq, Repr

/-- The double next to a number of 53 bits or more, half to even. -/
def nearestF64 (n : Nat) : Nat :=
  let ulp := 2 ^ (n.log2 - 52)
  (if ulp < 2 * (n % ulp) ∨ ulp = 2 * (n % ulp) ∧ n / ulp % 2 = 1 then n / ulp + 1
    else n / ulp) * ulp

/-- An integer that is no `i64` is bound as a double, here with all its digits. -/
def toSqlValue : Json → Result SqlValue
  | .null => .ok .null
  | .bool b => .ok (.integer (if b then 1 else 0))
  | .integer n => .ok (if n ≤ i64Max then .integer n else .real s!"{nearestF64 n.toNat}.0")
  | .real text => .ok (.real text)
  | .string s => .ok (.text s)
  | .compound text => .error (.invalidRequest s!"unsupported parameter type: {text}")

/-- The value of a column as `row_to_json` gives it back; blobs are left out. -/
def SqlValue.toJson : SqlValue → Json
  | .null => .null
  | .integer n => .integer n
  | .real f => .real f
  | .text s => .string s

def toSqlValues (params : List Json) : Result (List SqlValue) :=
  params.mapM toSqlValue

structure SqlRequest where
  sql : String
  params : List Json
  deriving DecidableEq, Repr

/-- The quotas on a result; `0` switches a limit off. -/
structure SqlQuota where
  maxSqlRows : Nat
  maxSqlResultBytes : Nat
  deriving DecidableEq, Repr

/-- A row is kept as its JSON text. -/
structure SqlResult where
  columns : List String
  rows : List String
  rowsAffected : Nat
  truncated : Bool
  deriving DecidableEq, Repr

/-! ## The thread and its connection -/

/-- What is handed to SQLite: by the library, by the data node for itself, or for a user. -/
inductive Issue where
  | begin
  | commit
  | rollback
  | internal (sql : String)
  | prepare (sql : String)
  | run (sql : String)
  deriving DecidableEq, Repr

def Issue.isUser : Issue → Bool
  | .prepare _ => true
  | .run _ => true
  | _ => false

/-- A statement that was issued, with the flag of the thread and the authorizer's answer then. -/
structure Issued where
  issue : Issue
  active : Bool
  denied : Bool
  deriving DecidableEq, Repr

/-- A thread: `USER_SQL_ACTIVE`, and what it has issued so far. -/
structure Thread where
  active : Bool
  log : List Issued
  deriving DecidableEq, Repr

def Thread.started : Thread := ⟨false, []⟩

/-- The actions that SQLite asks the authorizer about, whether it fails, and what it answers. -/
structure Sqlite where
  actions : List AuthAction := []
  fault : Option String := none
  columns : List String := []
  affected : Nat := 0
  /-- How many rows a query has. -/
  rows : Nat := 0
  row : String := ""
  autocommit : Bool := false
  deriving DecidableEq, Repr

inductive ThreadOp where
  | replaceFlag (active : Bool)
  | setFlag (active : Bool)
  | begin
  | commit
  | rollback
  | isAutocommit
  | internal (sql : String)
  | prepare (sql : String)
  | execute (sql : String) (values : List SqlValue)
  | query (sql : String) (values : List SqlValue)
  | next (sql : String)
  deriving DecidableEq, Repr

def ThreadOp.Res : ThreadOp → Type
  | replaceFlag _ => Bool
  | setFlag _ => Unit
  | begin => Result Unit
  | commit => Result Unit
  | rollback => Result Unit
  | isAutocommit => Bool
  | internal _ => Result Unit
  | prepare _ => Result (List String)
  | execute _ _ => Result Nat
  | query _ _ => Result Nat
  | next _ => Result String

namespace Thread

def denies (t : Thread) (actions : List AuthAction) : Bool :=
  actions.any fun a => authorize t.active a == .deny

def note (t : Thread) (issue : Issue) (actions : List AuthAction) : Thread :=
  { t with log := t.log ++ [⟨issue, t.active, t.denies actions⟩] }

/-- The outcome of a statement that asks for `actions`. -/
def outcome {α : Type} (t : Thread) (actions : List AuthAction) (o : Sqlite) (value : α) :
    Result α :=
  if t.denies actions then .error (.sql "not authorized")
  else
    match o.fault with
    | some e => .error (.sql e)
    | none => .ok value

def answer (t : Thread) (op : ThreadOp) (o : Sqlite) : op.Res × Thread :=
  match op with
  | .replaceFlag active => (t.active, { t with active })
  | .setFlag active => ((), { t with active })
  | .begin => (t.outcome [.transaction] o (), t.note .begin [.transaction])
  | .commit => (t.outcome [.transaction] o (), t.note .commit [.transaction])
  | .rollback => (t.outcome [.transaction] o (), t.note .rollback [.transaction])
  | .isAutocommit => (o.autocommit, t)
  | .internal sql => (t.outcome o.actions o (), t.note (.internal sql) o.actions)
  | .prepare sql => (t.outcome o.actions o o.columns, t.note (.prepare sql) o.actions)
  | .execute sql _ =>
    -- the statement is prepared once more before it runs
    (t.outcome o.actions o o.affected, (t.note (.prepare sql) o.actions).note (.run sql) [])
  | .query _ _ => (t.outcome [] o o.rows, t)
  | .next sql => (t.outcome [] o o.row, t.note (.run sql) [])

end Thread

/-- Fallible code of the SQL entry points. -/
abbrev SandboxM := ExceptT CombeeError (Prog ThreadOp ThreadOp.Res)

namespace SandboxM

def begin : SandboxM Unit := ExceptT.mk (.call ThreadOp.begin .ret)

def commit : SandboxM Unit := ExceptT.mk (.call ThreadOp.commit .ret)

def rollback : SandboxM Unit := ExceptT.mk (.call ThreadOp.rollback .ret)

def isAutocommit : SandboxM Bool := ExceptT.lift (.call ThreadOp.isAutocommit .ret)

def internal (sql : String) : SandboxM Unit := ExceptT.mk (.call (ThreadOp.internal sql) .ret)

def prepare (sql : String) : SandboxM (List String) :=
  ExceptT.mk (.call (ThreadOp.prepare sql) .ret)

def execute (sql : String) (values : List SqlValue) : SandboxM Nat :=
  ExceptT.mk (.call (ThreadOp.execute sql values) .ret)

def query (sql : String) (values : List SqlValue) : SandboxM Nat :=
  ExceptT.mk (.call (ThreadOp.query sql values) .ret)

def next (sql : String) : SandboxM String := ExceptT.mk (.call (ThreadOp.next sql) .ret)

/-- Code that is run to its end whether it fails or not. -/
def attempt {α : Type} (p : SandboxM α) : SandboxM (Result α) := ExceptT.lift p.run

def ofResult {α : Type} (r : Result α) : SandboxM α := ExceptT.mk (.ret r)

/-- A scope with a `UserSqlGuard` in it: the drop gives the flag back on every way out. -/
def withFlag {α : Type} (active : Bool) (body : SandboxM α) : SandboxM α :=
  ExceptT.mk (.call (ThreadOp.replaceFlag active) fun (prev : Bool) =>
    body.run >>= fun r => .call (ThreadOp.setFlag prev) fun (_ : Unit) => .ret r)

end SandboxM

open SandboxM

/-! ## The entry points -/

/-- The loop over the rows of a query, of which `left` are still to come. -/
def collectRows (sql : String) (maxRows maxBytes : Nat) :
    Nat → List String → Nat → SandboxM (List String × Bool)
  | 0, out, _ => do
      -- the step that finds the end
      let _ ← next sql
      pure (out, false)
  | left + 1, out, totalBytes => do
      let row ← next sql
      if 0 < maxRows ∧ maxRows ≤ out.length then
        pure (out, true)
      else if 0 < maxBytes ∧ maxBytes < totalBytes + row.utf8ByteSize then
        pure (out, true)
      else
        collectRows sql maxRows maxBytes left (out ++ [row]) (totalBytes + row.utf8ByteSize)

def executeSqlQuota (req : SqlRequest) (quota : Option SqlQuota) : SandboxM SqlResult :=
  withFlag true do
    ofResult (checkStatement (utf8 req.sql))
    let values ← ofResult (toSqlValues req.params)
    let columns ← prepare req.sql
    let maxRows := (quota.map (·.maxSqlRows)).getD 0
    let maxBytes := (quota.map (·.maxSqlResultBytes)).getD 0
    if columns.isEmpty then
      let affected ← execute req.sql values
      pure ⟨[], [], affected, false⟩
    else
      let count ← query req.sql values
      let (rows, truncated) ← collectRows req.sql maxRows maxBytes count [] 0
      pure ⟨columns, rows, 0, truncated⟩

def executeSql (req : SqlRequest) : SandboxM SqlResult :=
  executeSqlQuota req none

/-- The loop of `execute_transaction` over its statements. -/
def executeAll (quota : Option SqlQuota) : List SqlRequest → SandboxM (List SqlResult)
  | [] => pure []
  | st :: statements => do
      let result ← executeSqlQuota st quota
      let results ← executeAll quota statements
      pure (result :: results)

/-- The drop of a transaction: if it is still open it is rolled back, and the result is ignored. -/
def dropTransaction : SandboxM Unit := do
  if ← isAutocommit then
    pure ()
  else
    let _ ← attempt rollback

/-- `Transaction::commit` takes the transaction, so that it is dropped before the call is over. -/
def commitTransaction : SandboxM Unit := do
  let r ← attempt commit
  dropTransaction
  ofResult r

def executeTransaction (statements : List SqlRequest) (quota : Option SqlQuota) :
    SandboxM (List SqlResult) := do
  if statements.isEmpty then
    throw (.invalidRequest "transaction requires at least one statement")
  withFlag false begin
  match ← attempt (executeAll quota statements) with
  | .error e => do
      -- the early return drops the transaction outside of any guard of this call
      dropTransaction
      throw e
  | .ok results => do
      withFlag false commitTransaction
      pure results

/-! ## The life of a thread -/

/-- What a thread of the data node is asked to do. -/
inductive ThreadCall where
  | executeSql (req : SqlRequest)
  | executeSqlQuota (req : SqlRequest) (quota : Option SqlQuota)
  | executeTransaction (statements : List SqlRequest) (quota : Option SqlQuota)
  /-- A statement of the KV commands, of the schema or of a backup. -/
  | internal (sql : String)
  deriving DecidableEq, Repr

def ThreadCall.prog : ThreadCall → SandboxM (List SqlResult)
  | .executeSql req => (fun r => [r]) <$> Sql.executeSql req
  | .executeSqlQuota req quota => (fun r => [r]) <$> Sql.executeSqlQuota req quota
  | .executeTransaction statements quota => Sql.executeTransaction statements quota
  | .internal sql => (fun _ => []) <$> SandboxM.internal sql

def ThreadCall.exec (c : ThreadCall) (os : Nat → Sqlite) (t : Thread) : Thread :=
  (Prog.run Thread.answer os t c.prog.run).2

/-- The calls of a thread one after another, each with what SQLite decides at its calls. -/
def Thread.serve (t : Thread) (calls : List (ThreadCall × (Nat → Sqlite))) : Thread :=
  calls.foldl (fun t c => c.1.exec c.2 t) t

/-! ## What code issues -/

/-- Code that gives the flag back and issues only what `E` allows; `E` knows the flag at the start.
-/
def Marks (E : Bool → Issued → Prop) {α : Type} (p : Prog ThreadOp ThreadOp.Res α) : Prop :=
  ∀ t, Prog.Secure Thread.answer Eq (fun _ _ _ => True) (fun _ => True)
    (fun _ t' => t'.active = t.active ∧ ∃ added, t'.log = t.log ++ added ∧
      ∀ e ∈ added, E t.active e) p t

section Marks

variable {E : Bool → Issued → Prop} {α β : Type}

lemma marks_ret (a : α) : Marks E (.ret a : Prog ThreadOp ThreadOp.Res α) :=
  fun t => ⟨rfl, [], (append_nil _).symm, fun _ he => by cases he⟩

variable {p : Prog ThreadOp ThreadOp.Res α}

lemma marks_bind {f : α → Prog ThreadOp ThreadOp.Res β}
    (hp : Marks E p) (hf : ∀ a, Marks E (f a)) : Marks E (p >>= f) := by
  intro t
  refine Prog.secure_bind ((hp t).mono fun {a t1} h1 => (hf a t1).mono fun {b t2} h2 => ?_)
  rcases h1 with ⟨hactive1, added1, hlog1, hall1⟩
  rcases h2 with ⟨hactive2, added2, hlog2, hall2⟩
  refine ⟨hactive2.trans hactive1, added1 ++ added2, ?_,
    forall_mem_append.mpr ⟨hall1, hactive1 ▸ hall2⟩⟩
  rw [hlog2, hlog1, append_assoc]

lemma marks_call {op : ThreadOp} {k : op.Res → Prog ThreadOp ThreadOp.Res α}
    (hop : ∀ t o, ∃ issued, (Thread.answer t op o).2 = { t with log := t.log ++ issued } ∧
      ∀ e ∈ issued, E t.active e) (hk : ∀ r, Marks E (k r)) : Marks E (.call op k) := by
  intro t t' ht o _
  subst ht
  refine ⟨trivial, ?_⟩
  rcases hop t o with ⟨issued, hanswer, hissued⟩
  refine (hk _ _).mono fun {a t2} h2 => ?_
  rcases h2 with ⟨hactive, added, hlog, hadded⟩
  rw [hanswer] at hactive hlog hadded
  refine ⟨hactive, issued ++ added, ?_, forall_mem_append.mpr ⟨hissued, hadded⟩⟩
  rw [hlog, append_assoc]

variable {E' : Bool → Issued → Prop}

lemma Marks.mono (h : Marks E p) (hE : ∀ b e, E b e → E' b e) : Marks E' p := by
  intro t
  refine (h t).mono fun {a t'} h' => ?_
  rcases h' with ⟨hactive, added, hlog, hall⟩
  exact ⟨hactive, added, hlog, fun e he => hE _ e (hall e he)⟩

variable {p : SandboxM α}

lemma marks_exceptT_bind {f : α → SandboxM β} (hp : Marks E p.run)
    (hf : ∀ a, Marks E (f a).run) : Marks E (p >>= f).run := by
  refine marks_bind hp fun r => ?_
  cases r with
  | ok a => exact hf a
  | error e => exact marks_ret _

lemma marks_map {f : α → β} (hp : Marks E p.run) : Marks E (f <$> p).run :=
  marks_exceptT_bind hp fun _ => marks_ret _

lemma marks_attempt (hp : Marks E p.run) : Marks E (attempt p).run :=
  marks_bind hp fun _ => marks_ret _

lemma marks_withFlag {active : Bool} {body : SandboxM α}
    (hbody : Marks E' body.run) (hE : ∀ b e, E' active e → E b e) :
    Marks E (withFlag active body).run := by
  intro t t' ht o _
  subst ht
  refine ⟨trivial, Prog.secure_bind ((hbody _).mono fun {r t1} h1 => ?_)⟩
  rcases h1 with ⟨_, added, hlog, hall⟩
  rintro t2 rfl o' _
  exact ⟨trivial, rfl, added, hlog, fun e he => hE _ e (hall e he)⟩

end Marks

/-! ## What each function issues -/

/-- An entry that was made with the flag `b`; while the flag is clear the authorizer denies nothing.
-/
structure Noted (user b : Bool) (e : Issued) : Prop where
  user : e.issue.isUser = user
  active : e.active = b
  allowed : b = false → e.denied = false

lemma noted_note (t : Thread) (issue : Issue) (actions : List AuthAction) :
    Noted issue.isUser t.active ⟨issue, t.active, t.denies actions⟩ := by
  refine ⟨rfl, rfl, fun hclear => ?_⟩
  simp [Thread.denies, authorize, hclear]

section Functions

variable {α : Type}

lemma marks_issue {op : ThreadOp} {k : op.Res → Prog ThreadOp ThreadOp.Res α} (issue : Issue)
    (hop : ∀ t o, ∃ actions, (Thread.answer t op o).2 = t.note issue actions)
    (hk : ∀ r, Marks (Noted issue.isUser) (k r)) : Marks (Noted issue.isUser) (.call op k) := by
  refine marks_call (fun t o => ?_) hk
  rcases hop t o with ⟨actions, hanswer⟩
  refine ⟨_, hanswer, fun e he => ?_⟩
  cases mem_singleton.mp he
  exact noted_note t issue actions

lemma marks_begin : Marks (Noted false) begin.run :=
  marks_issue .begin (fun _ _ => ⟨_, rfl⟩) fun _ => marks_ret _

lemma marks_commit : Marks (Noted false) commit.run :=
  marks_issue .commit (fun _ _ => ⟨_, rfl⟩) fun _ => marks_ret _

variable (sql : String)

lemma marks_internal : Marks (Noted false) (SandboxM.internal sql).run :=
  marks_issue (.internal sql) (fun _ _ => ⟨_, rfl⟩) fun _ => marks_ret _

lemma marks_prepare : Marks (Noted true) (prepare sql).run :=
  marks_issue (.prepare sql) (fun _ _ => ⟨_, rfl⟩) fun _ => marks_ret _

lemma marks_next : Marks (Noted true) (next sql).run :=
  marks_issue (.run sql) (fun _ _ => ⟨_, rfl⟩) fun _ => marks_ret _

lemma marks_query (values : List SqlValue) : Marks (Noted true) (query sql values).run := by
  refine marks_call (fun t o => ⟨[], ?_, fun e he => by cases he⟩) fun _ => marks_ret _
  exact congrArg (Thread.mk t.active) (append_nil t.log).symm

lemma marks_execute (values : List SqlValue) : Marks (Noted true) (execute sql values).run := by
  refine marks_call (fun t o => ⟨_, congrArg (Thread.mk t.active) (append_assoc _ _ _), ?_⟩)
    fun _ => marks_ret _
  refine forall_mem_append.mpr ⟨forall_mem_singleton.mpr ?_,
    forall_mem_singleton.mpr ?_⟩
  · exact noted_note t (.prepare sql) o.actions
  · exact noted_note t (.run sql) []

lemma marks_collectRows (maxRows maxBytes left : Nat) (out : List String) (totalBytes : Nat) :
    Marks (Noted true) (collectRows sql maxRows maxBytes left out totalBytes).run := by
  induction left generalizing out totalBytes with
  | zero => exact marks_exceptT_bind (marks_next sql) fun _ => marks_ret _
  | succ left ih =>
    refine marks_exceptT_bind (marks_next sql) fun row => ?_
    split
    · exact marks_ret _
    · split
      · exact marks_ret _
      · exact ih _ _

lemma marks_executeSqlQuota (req : SqlRequest) (quota : Option SqlQuota) :
    Marks (fun _ => Noted true true) (executeSqlQuota req quota).run := by
  refine marks_withFlag (marks_exceptT_bind (marks_ret _) fun _ =>
    marks_exceptT_bind (marks_ret _) fun values =>
      marks_exceptT_bind (marks_prepare req.sql) fun columns => ?_) fun _ _ he => he
  dsimp only
  split
  · exact marks_exceptT_bind (marks_execute req.sql values) fun _ => marks_ret _
  · refine marks_exceptT_bind (marks_query req.sql values) fun count => ?_
    exact marks_exceptT_bind (marks_collectRows _ _ _ _ _ _) fun _ => marks_ret _

lemma marks_executeAll (quota : Option SqlQuota) (statements : List SqlRequest) :
    Marks (fun _ => Noted true true) (executeAll quota statements).run := by
  induction statements with
  | nil => exact marks_ret _
  | cons st statements ih =>
    refine marks_exceptT_bind (marks_executeSqlQuota st quota) fun _ => ?_
    exact marks_exceptT_bind ih fun _ => marks_ret _

lemma marks_dropTransaction :
    Marks (fun b e => e.issue = .rollback ∧ Noted false b e) dropTransaction.run := by
  refine marks_exceptT_bind ?_ fun auto => ?_
  · refine marks_call (fun t o => ⟨[], ?_, fun e he => by cases he⟩) fun _ => marks_ret _
    exact congrArg (Thread.mk t.active) (append_nil t.log).symm
  · split
    · exact marks_ret _
    · refine marks_exceptT_bind (marks_attempt (marks_call (fun t o => ⟨_, rfl, ?_⟩)
        fun _ => marks_ret _)) fun _ => marks_ret _
      intro e he
      cases mem_singleton.mp he
      exact ⟨rfl, noted_note t .rollback _⟩

lemma marks_commitTransaction : Marks (Noted false) commitTransaction.run := by
  refine marks_exceptT_bind (marks_attempt marks_commit) fun r => ?_
  refine marks_exceptT_bind (marks_dropTransaction.mono fun _ _ he => he.2) fun _ => ?_
  exact marks_ret _

/-- Statements run with the flag set; BEGIN, COMMIT and the rollback of a failed COMMIT with the
flag clear; the rollback of an early return finds the flag `b`. -/
def InTransaction (b : Bool) (e : Issued) : Prop :=
  Noted true true e ∨ Noted false false e ∨ e.issue = .rollback ∧ Noted false b e

lemma marks_executeTransaction (statements : List SqlRequest) (quota : Option SqlQuota) :
    Marks InTransaction (executeTransaction statements quota).run := by
  unfold executeTransaction
  split
  · exact marks_ret _
  · refine marks_exceptT_bind (marks_withFlag marks_begin fun _ _ he => .inr (.inl he))
      fun _ => ?_
    have hall : Marks InTransaction (executeAll quota statements).run :=
      (marks_executeAll quota statements).mono fun _ _ he => .inl he
    refine marks_exceptT_bind (marks_attempt hall) fun r => ?_
    cases r with
    | error e =>
      refine marks_exceptT_bind (marks_dropTransaction.mono fun _ _ he => .inr (.inr he))
        fun _ => marks_ret _
    | ok results =>
      refine marks_exceptT_bind (marks_withFlag marks_commitTransaction
        fun _ _ he => .inr (.inl he)) fun _ => marks_ret _

end Functions

/-! ## The life of a thread -/

/-- A user statement was issued with the flag set; any other with the flag clear, and let through.
-/
def Issued.Right (e : Issued) : Prop :=
  if e.issue.isUser then e.active = true else e.active = false ∧ e.denied = false

lemma Noted.right {user b : Bool} {e : Issued} (h : Noted user b e) (hb : b = user) :
    e.Right := by
  subst hb
  unfold Issued.Right
  cases b with
  | true => rw [if_pos h.user]; exact h.active
  | false =>
    have huser : ¬ e.issue.isUser = true := by simp [h.user]
    rw [if_neg huser]
    exact ⟨h.active, h.allowed rfl⟩

lemma marks_prog (c : ThreadCall) : Marks (fun b e => b = false → e.Right) c.prog.run := by
  cases c with
  | executeSql req =>
    exact (marks_map (marks_executeSqlQuota req none)).mono fun _ _ he _ => he.right rfl
  | executeSqlQuota req quota =>
    exact (marks_map (marks_executeSqlQuota req quota)).mono fun _ _ he _ => he.right rfl
  | executeTransaction statements quota =>
    refine (marks_executeTransaction statements quota).mono fun b e he hb => ?_
    rcases he with he | he | ⟨_, he⟩
    · exact he.right rfl
    · exact he.right rfl
    · exact he.right hb
  | internal sql =>
    exact (marks_map (marks_internal sql)).mono fun b e he hb => he.right hb

/-- One call: the flag is given back, and if it was clear everything issued is right. -/
lemma exec_marks (c : ThreadCall) (os : Nat → Sqlite) (t : Thread) :
    (c.exec os t).active = t.active ∧ ∃ added, (c.exec os t).log = t.log ++ added ∧
      (t.active = false → ∀ e ∈ added, e.Right) := by
  have hpermits : Prog.Permits Thread.answer (fun _ _ _ => True) os t c.prog.run :=
    Prog.permits_of_forall (fun _ _ _ => trivial) t _
  rcases Prog.Secure.run (fun _ => rfl) hpermits (marks_prog c t) with
    ⟨hactive, added, hlog, hall⟩
  exact ⟨hactive, added, hlog, fun hclear e he => hall e he hclear⟩

/-- Every call gives the flag back its value; every user statement runs with the flag set, and every
other one is issued with the flag clear and passes the authorizer. -/
theorem sandbox_flag_right :
    (∀ (c : ThreadCall) (os : Nat → Sqlite) (t : Thread), (c.exec os t).active = t.active) ∧
    ∀ (calls : List (ThreadCall × (Nat → Sqlite))),
      (Thread.started.serve calls).active = false ∧
        ∀ e ∈ (Thread.started.serve calls).log, e.Right := by
  refine ⟨fun c os t => (exec_marks c os t).1, fun calls => ?_⟩
  -- by induction over the calls, from any thread that is right so far
  suffices hrun : ∀ t : Thread, t.active = false → (∀ e ∈ t.log, e.Right) →
      (t.serve calls).active = false ∧ ∀ e ∈ (t.serve calls).log, e.Right from
    hrun Thread.started rfl fun e he => by cases he
  induction calls with
  | nil => exact fun t hactive hlog => ⟨hactive, hlog⟩
  | cons c calls ih =>
    intro t hclear hright
    rcases exec_marks c.1 c.2 t with ⟨hactive, added, hlog, hall⟩
    refine ih (c.1.exec c.2 t) (hactive.trans hclear) fun e he => ?_
    rw [hlog] at he
    rcases mem_append.mp he with he | he
    · exact hright e he
    · exact hall hclear e he

/-- The second of two statements fails when it is run. -/
def secondFails : List (ThreadCall × (Nat → Sqlite)) :=
  [(.executeTransaction [⟨"DELETE FROM t", []⟩, ⟨"DELETE FROM u", []⟩] none,
    fun n => { fault := if n = 9 then some "constraint failed" else none })]

theorem sandbox_flag_right_second_fails :
    (Thread.started.serve secondFails).log.map (fun e => (e.issue, e.active)) =
      [(.begin, false), (.prepare "DELETE FROM t", true), (.prepare "DELETE FROM t", true),
        (.run "DELETE FROM t", true), (.prepare "DELETE FROM u", true),
        (.prepare "DELETE FROM u", true), (.run "DELETE FROM u", true), (.rollback, false)] ∧
      ∀ e ∈ (Thread.started.serve secondFails).log, e.Right :=
  ⟨by decide +kernel, (sandbox_flag_right.2 secondFails).2⟩

end Combee.Sql
