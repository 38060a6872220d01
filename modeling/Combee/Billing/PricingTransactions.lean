import Combee.Billing.Postgres
import Combee.Billing.Pricing

/-!
# PricingTransactions — `create_pricing_version` of the PostgreSQL store

Each call is a transaction: it reads the largest version number, makes the active versions inactive,
inserts the new version and inserts its rules. The `UPDATE` visits the rows that were active when
it began; it waits for a row that another transaction has changed, and looks at it again as it was
committed. An `INSERT` waits for an entry of the primary key that another transaction has made.
Any statement may fail, and a commit that fails may have taken effect.

A transaction can only commit if nobody else has committed since it read its number: otherwise the
number is taken (`Progress`). So each commit does what the call of the in-memory store does
(`commit_eq_create`), and the results about that store carry over.
-/

namespace Combee.Billing

open Foundation
open Postgres (internal uniqueViolation)
open Function (update update_of_ne update_self)

/-! ## The server -/

/-- What an open transaction holds: a row that it has changed, or entries of the primary keys. -/
inductive PricingLock where
  | row (version : Int)
  | version (version : Int)
  | rule (version : Int) (metric : UsageMetric)
  deriving DecidableEq

structure PricingServer where
  tables : PricingTables
  locks : PricingLock → Option Nat
  manager : Manager

namespace PricingServer

def free (g : PricingServer) (i : Nat) (l : PricingLock) : Bool :=
  g.locks l = none || g.locks l = some i

def take (g : PricingServer) (i : Nat) (l : PricingLock) : PricingServer :=
  { g with locks := update g.locks l (some i) }

/-- The end of the transaction `i`. -/
def release (g : PricingServer) (i : Nat) : PricingServer :=
  { g with locks := fun l => if g.locks l = some i then none else g.locks l }

end PricingServer

structure PricingCall where
  rules : List PricingRule
  now : Int

/-- Where a call is; `todo` are the rows that the `UPDATE` still has to visit, `changed` those that
it has changed. -/
inductive CreatePc where
  | start
  | selected (version : Int)
  | updating (version : Int) (todo changed : List Int)
  | inserted (version : Int) (changed : List Int) (rest written : List PricingRule)
  | done (record : PricingVersion)
  | failed (e : CombeeError)

/-- The next statement, a visit of the `UPDATE`, an error, or a commit whose answer is lost. -/
inductive CreateChoice where
  | statement
  | visit (row : Int)
  | fault (message : String)
  | lostAnswer (message : String)

def PricingTables.commit (t : PricingTables) (record : PricingVersion) (changed : List Int)
    (written : List PricingRule) : PricingTables where
  versions := (t.versions.map fun r => if r.version ∈ changed then r.deactivate else r) ++ [record]
  rules := t.rules ++ written.map fun r => (record.version, r)

def PricingServer.commit (g : PricingServer) (i : Nat) (record : PricingVersion)
    (changed : List Int) (written : List PricingRule) : PricingServer :=
  { g with tables := g.tables.commit record changed written }.release i

def PricingCall.record (call : PricingCall) (version : Int) : PricingVersion :=
  ⟨version, .active, call.now, call.now⟩

/-- `UPDATE pricing_versions SET … WHERE status = 'active'`: the rows that it has to visit. -/
def PricingTables.activeNumbers (t : PricingTables) : List Int :=
  (t.versions.filter (·.status = .active)).map PricingVersion.version

section

variable (calls : Nat → PricingCall)

def createAct (g : PricingServer) (i : Nat) (pc : CreatePc) (c : CreateChoice) :
    Option (PricingServer × CreatePc) :=
  match pc, c with
  | .done _, _ => none
  | .failed _, _ => none
  | _, .fault message => some (g.release i, .failed (internal message))
  | .start, .statement => some (g, .selected g.tables.next)
  | .selected v, .statement => some (g, .updating v g.tables.activeNumbers [])
  | .updating v todo changed, .visit r =>
    if r ∈ todo ∧ g.free i (.row r) then
      if r ∈ g.tables.activeNumbers then
        some (g.take i (.row r), .updating v (todo.erase r) (r :: changed))
      else some (g, .updating v (todo.erase r) changed)
    else none
  -- INSERT INTO pricing_versions
  | .updating v [] changed, .statement =>
    if g.free i (.version v) then
      if v ∈ g.tables.numbers then some (g.release i, .failed uniqueViolation)
      else some (g.take i (.version v), .inserted v changed (calls i).rules [])
    else none
  -- INSERT INTO pricing_rules
  | .inserted v changed (r :: rest) written, .statement =>
    if g.free i (.rule v r.metric) then
      if (written ++ g.tables.rulesOf v).any (·.metric = r.metric) then
        some (g.release i, .failed uniqueViolation)
      else some (g.take i (.rule v r.metric), .inserted v changed rest (written ++ [r]))
    else none
  | .inserted v changed [] written, .statement =>
    some (g.commit i ((calls i).record v) changed written, .done ((calls i).record v))
  | .inserted v changed [] written, .lostAnswer message =>
    some (g.commit i ((calls i).record v) changed written, .failed (internal message))
  | _, _ => none

def refreshEnv (g : PricingServer) (e : Nat × RefreshStep) : Option PricingServer :=
  (g.manager.step g.tables e.1 e.2).map fun m => { g with manager := m }

abbrev PricingPool := Pool PricingServer Nat CreatePc

abbrev PricingLabel := PoolLabel Nat CreateChoice (Nat × RefreshStep)

namespace PricingPool

def init : PricingPool := ⟨⟨.empty, fun _ => none, .new⟩, fun _ => .start⟩

def step : PricingPool → PricingLabel → Option PricingPool :=
  Pool.step (createAct calls) refreshEnv fun _ pc => pc

def tables (s : PricingPool) : PricingTables := s.shared.tables

def manager (s : PricingPool) : Manager := s.shared.manager

end PricingPool

/-! ## What a transaction knows -/

/-- The active versions are among the rows `rows`. -/
def PricingTables.ActiveIn (t : PricingTables) (rows : List Int) : Prop :=
  ∀ r ∈ t.versions, r.status = .active → r.version ∈ rows

/-- As long as the number of a transaction is the next one, nobody has committed since it was read,
and the `UPDATE` misses no active row; once inserted, it stays the next one. -/
def Progress (g : PricingServer) (i : Nat) : CreatePc → Prop
  | .selected v => 1 ≤ v ∧ v ≤ g.tables.next
  | .updating v todo changed =>
    1 ≤ v ∧ v ≤ g.tables.next ∧ (v = g.tables.next → g.tables.ActiveIn (todo ++ changed))
  | .inserted v changed rest written =>
    v = g.tables.next ∧ g.locks (.version v) = some i ∧ g.tables.ActiveIn changed ∧
      written ++ rest = (calls i).rules
  | .done record => record.version < g.tables.next
  | _ => True

end

/-! ## Locks -/

section

variable {g : PricingServer} {i j : Nat} {l l' : PricingLock}

lemma PricingServer.locks_take_of_ne (hne : l' ≠ l) : (g.take i l).locks l' = g.locks l' :=
  update_of_ne hne _ _

lemma PricingServer.locks_take (hfree : g.free i l = true) (hij : j ≠ i)
    (h : g.locks l' = some j) : (g.take i l).locks l' = some j := by
  have hne : l' ≠ l := by
    rintro rfl
    simp [free, h, hij] at hfree
  exact (locks_take_of_ne hne).trans h

lemma PricingServer.locks_release (hij : j ≠ i) (h : g.locks l = some j) :
    (g.release i).locks l = some j := by
  simp [release, h, hij]

end

/-! ## Commits -/

section

variable {t : PricingTables}

lemma PricingTables.mem_activeNumbers {v : Int} :
    v ∈ t.activeNumbers ↔ ∃ r ∈ t.versions, r.status = .active ∧ r.version = v := by
  simp [activeNumbers, and_assoc]

lemma PricingVersion.deactivate_of_inactive {r : PricingVersion} (h : r.status ≠ .active) :
    r.deactivate = r := by
  cases r with
  | mk version status effectiveAt createdAt =>
    cases status with
    | active => exact absurd rfl h
    | inactive => rfl

/-- The commit of a transaction that has missed no active row does what the call of the in-memory
store does. -/
lemma PricingTables.Lawful.commit_eq_create (h : t.Lawful) {call : PricingCall}
    {changed : List Int} (hactive : t.ActiveIn changed) :
    t.commit (call.record t.next) changed call.rules =
      (t.createPricingVersion call.rules call.now).2 := by
  have hversions : (t.versions.map fun r => if r.version ∈ changed then r.deactivate else r) =
      t.versions.map PricingVersion.deactivate := by
    apply List.map_congr_left
    intro r hr
    split_ifs with hmem
    · rfl
    · exact (PricingVersion.deactivate_of_inactive fun h => hmem (hactive r hr h)).symm
  have hrules : t.rules.filter (·.1 ≠ t.next) = t.rules := by
    refine List.filter_eq_self.mpr fun x hx => ?_
    simpa using (h.ruled x hx).ne
  simp only [commit, createPricingVersion, PricingCall.record, hversions, hrules]

end

/-! ## One step of a transaction -/

section

variable {calls : Nat → PricingCall} {g g' : PricingServer} {i j : Nat} {pc pc' : CreatePc}
  {c : CreateChoice}

/-- A step commits, or it leaves the tables alone and changes only locks of its own. -/
inductive CreateEffect (calls : Nat → PricingCall) (g : PricingServer) (i : Nat) :
    CreatePc → PricingServer → Prop where
  | quiet {pc : CreatePc} : CreateEffect calls g i pc g
  | took {pc l} (hfree : g.free i l = true) : CreateEffect calls g i pc (g.take i l)
  | released {pc : CreatePc} : CreateEffect calls g i pc (g.release i)
  | committed {v changed written} :
      CreateEffect calls g i (.inserted v changed [] written)
        (g.commit i ((calls i).record v) changed written)

lemma createAct_effect (h : createAct calls g i pc c = some (g', pc')) :
    CreateEffect calls g i pc g' := by
  unfold createAct at h
  split at h <;> try split_ifs at h
  all_goals cases h
  all_goals first
    | exact .quiet
    | exact .released
    | exact .committed
    | exact .took (by simp_all)

lemma Progress.of_same_tables (h : Progress calls g j pc) (htables : g'.tables = g.tables)
    (hlocks : ∀ l, g.locks l = some j → g'.locks l = some j) : Progress calls g' j pc := by
  cases pc with
  | inserted v changed rest written =>
    rcases h with ⟨hnext, hlock, hactive, hrules⟩
    simp only [Progress, htables]
    exact ⟨hnext, hlocks _ hlock, hactive, hrules⟩
  | start | failed => trivial
  | _ => simpa only [Progress, htables] using h

/-- After another commit the number of `j` is no longer the next one, unless `j` has inserted it;
but then the other one could not have. -/
lemma Progress.of_commit (h : Progress calls g j pc) (hij : j ≠ i) {v : Int}
    (hv : v = g.tables.next) (hlock : g.locks (.version v) = some i)
    (hnext : g'.tables.next = g.tables.next + 1) : Progress calls g' j pc := by
  cases pc with
  | start | failed => trivial
  | selected w =>
    have hw : w ≤ g.tables.next := h.2
    simp only [Progress, hnext]
    exact ⟨h.1, by omega⟩
  | updating w todo changed =>
    have hw : w ≤ g.tables.next := h.2.1
    simp only [Progress, hnext]
    exact ⟨h.1, by omega, fun heq => by omega⟩
  | inserted w changed rest written =>
    have hboth : some j = some i := by
      rw [← h.2.1, ← hlock, hv, h.1]
    exact absurd (Option.some.inj hboth) hij
  | done record =>
    have hr : record.version < g.tables.next := h
    simp only [Progress, hnext]
    omega

def PricingServer.Ok (g : PricingServer) : Prop :=
  g.tables.Lawful ∧ g.manager.Ok g.tables

section

variable (heffect : CreateEffect calls g i pc g')
include heffect

lemma CreateEffect.tables_evolve (hok : g.Ok)
    (hpc : Progress calls g i pc) : g.tables.Evolves g'.tables := by
  cases heffect with
  | quiet | took | released => exact .inl rfl
  | committed =>
    rcases hpc with ⟨rfl, _, hactive, hrules⟩
    rw [List.append_nil] at hrules
    subst hrules
    exact .inr ⟨_, _, hok.1.commit_eq_create hactive⟩

lemma CreateEffect.ok (hok : g.Ok) (hpc : Progress calls g i pc) : g'.Ok := by
  have hev := heffect.tables_evolve hok hpc
  have hmanager : g'.manager = g.manager := by
    cases heffect <;> rfl
  exact ⟨hok.1.evolves hev, hmanager ▸ hok.2.evolves hev⟩

lemma CreateEffect.other (hok : g.Ok)
    (hpc : Progress calls g i pc) (hij : j ≠ i) {pcj : CreatePc} (hj : Progress calls g j pcj) :
    Progress calls g' j pcj := by
  cases heffect with
  | quiet => exact hj
  | took hfree => exact hj.of_same_tables rfl fun l => PricingServer.locks_take hfree hij
  | released => exact hj.of_same_tables rfl fun l => PricingServer.locks_release hij
  | committed =>
    rcases hpc with ⟨rfl, hlock, hactive, hrules⟩
    rw [List.append_nil] at hrules
    subst hrules
    refine hj.of_commit hij rfl hlock ?_
    simp only [PricingServer.commit, PricingServer.release, hok.1.commit_eq_create hactive]
    exact PricingTables.next_create

end

lemma eq_next_of_not_mem {t : PricingTables} (h : t.Lawful) {v : Int} (hpos : 1 ≤ v)
    (hle : v ≤ t.next) (hmem : v ∉ t.numbers) : v = t.next := by
  rw [h.dense] at hmem
  omega

/-- A visit takes a row from those to be visited, and changes it if it is still active. -/
lemma PricingTables.ActiveIn.visit {t : PricingTables} {todo changed : List Int} {r : Int}
    (h : t.ActiveIn (todo ++ changed)) :
    t.ActiveIn (todo.erase r ++ r :: changed) ∧
      (r ∉ t.activeNumbers → t.ActiveIn (todo.erase r ++ changed)) := by
  have hother : ∀ x ∈ t.versions, x.status = .active → x.version ≠ r →
      x.version ∈ todo.erase r ∨ x.version ∈ changed := by
    intro x hx hactive hne
    exact (List.mem_append.mp (h x hx hactive)).imp_left (List.mem_erase_of_ne hne).mpr
  refine ⟨fun x hx hactive => ?_, fun hr x hx hactive => ?_⟩
  · by_cases heq : x.version = r
    · simp [heq]
    · rcases hother x hx hactive heq with hmem | hmem
      · exact List.mem_append_left _ hmem
      · exact List.mem_append_right _ (List.mem_cons_of_mem r hmem)
  · have hne : x.version ≠ r := by
      rintro rfl
      exact hr (mem_activeNumbers.mpr ⟨x, hx, hactive, rfl⟩)
    exact List.mem_append.mpr (hother x hx hactive hne)

lemma createAct_progress (hok : g.Ok) (hpc : Progress calls g i pc)
    (h : createAct calls g i pc c = some (g', pc')) : Progress calls g' i pc' := by
  unfold createAct at h
  split at h
  · cases h
  · cases h
  · cases h
    trivial
  · -- the number is the next one when it is read
    cases h
    exact ⟨hok.1.next_pos, le_refl _⟩
  · cases h
    refine ⟨hpc.1, hpc.2, fun _ r hr hactive => ?_⟩
    rw [List.append_nil]
    exact PricingTables.mem_activeNumbers.mpr ⟨r, hr, hactive, rfl⟩
  · split_ifs at h with hvisit hactive
    · cases h
      exact ⟨hpc.1, hpc.2.1, fun hv => (hpc.2.2 hv).visit.1⟩
    · cases h
      exact ⟨hpc.1, hpc.2.1, fun hv => (hpc.2.2 hv).visit.2 hactive⟩
  · split_ifs at h with hfree hmem
    · cases h
      trivial
    · cases h
      have hv := eq_next_of_not_mem hok.1 hpc.1 hpc.2.1 hmem
      exact ⟨hv, update_self _ _ _, hpc.2.2 hv, rfl⟩
  · split_ifs at h with hfree hmem
    · cases h
      trivial
    · cases h
      rename_i v _ rule _ _
      rcases hpc with ⟨hv, hlock, hactive, hrules⟩
      have hne : PricingLock.version v ≠ .rule v rule.metric := by simp
      refine ⟨hv, ?_, hactive, by simpa using hrules⟩
      exact (PricingServer.locks_take_of_ne hne).trans hlock
  · -- the number is in the tables now
    cases h
    apply PricingTables.lt_next
    simp [PricingServer.commit, PricingServer.release, PricingTables.commit, PricingTables.numbers]
  · cases h
    trivial
  · cases h

lemma createAct_done {record : PricingVersion} (hpc : Progress calls g i pc)
    (h : createAct calls g i pc c = some (g', .done record)) : record.version = g.tables.next := by
  unfold createAct at h
  split at h <;> try split_ifs at h
  all_goals cases h
  exact hpc.1

end

/-! ## Runs -/

namespace PricingPool

variable {calls : Nat → PricingCall} {s s' : PricingPool} {l : PricingLabel}

def Ok (calls : Nat → PricingCall) (s : PricingPool) : Prop :=
  Pool.Inv PricingServer.Ok (Progress calls) s

lemma init_ok : Ok calls init :=
  ⟨⟨PricingTables.empty_lawful, Manager.new_ok⟩, fun _ => trivial⟩

lemma step_evolves (hs : Ok calls s)
    (h : step calls s l = some s') :
    Ok calls s' ∧ s.tables.Evolves s'.tables := by
  constructor
  · refine Pool.step_inv (fun _ hact => ?_) (fun _ hact j hij hj => ?_) (fun _ henv => ?_) hs h
    · exact ⟨(createAct_effect hact).ok hs.shared (hs.procs _),
        createAct_progress hs.shared (hs.procs _) hact⟩
    · exact (createAct_effect hact).other hs.shared (hs.procs _) hij hj
    · simp only [refreshEnv, Option.map_eq_some_iff] at henv
      rcases henv with ⟨m, hm, rfl⟩
      exact ⟨⟨hs.shared.1, hs.shared.2.step hm⟩,
        fun j hj => Progress.of_same_tables hj rfl fun _ hl => hl⟩
  · cases h using Pool.step_cases with
    | proc i c g p hact =>
      exact (createAct_effect hact).tables_evolve hs.shared (hs.procs i)
    | env e g henv =>
      simp only [refreshEnv, Option.map_eq_some_iff] at henv
      rcases henv with ⟨m, _, rfl⟩
      exact .inl rfl

def NumbersDiffer (s : PricingPool) : Prop :=
  ∀ i j record record', i ≠ j → s.procs i = .done record → s.procs j = .done record' →
    record.version ≠ record'.version

lemma step_numbersDiffer (hs : Ok calls s) (hdiffer : s.NumbersDiffer)
    (h : step calls s l = some s') : s'.NumbersDiffer := by
  cases h using Pool.step_cases with
  | env e g _ =>
    exact hdiffer
  | proc k c g p hact =>
    -- a call that has succeeded before has a smaller number than the one that succeeds now
    have hnew : ∀ {j record record'}, j ≠ k → p = .done record → s.procs j = .done record' →
        record.version ≠ record'.version := by
      rintro j record record' _ rfl hj
      have hprogress := hs.procs j
      rw [hj] at hprogress
      have hlt : record'.version < s.shared.tables.next := hprogress
      have hnext := createAct_done (hs.procs k) hact
      omega
    intro i j record record' hij hi hj
    dsimp only at hi hj
    by_cases hik : i = k
    · subst hik
      rw [update_self] at hi
      rw [update_of_ne hij.symm] at hj
      exact hnew hij.symm hi hj
    · rw [update_of_ne hik] at hi
      by_cases hjk : j = k
      · subst hjk
        rw [update_self] at hj
        exact (hnew hik hj hi).symm
      · rw [update_of_ne hjk] at hj
        exact hdiffer i j record record' hij hi hj

variable {ls : List PricingLabel}

lemma numbersDiffer
    (h : exec (step calls) init ls = some s) : s.NumbersDiffer := by
  refine (inv_of_exec_all (I := fun u => Ok calls u ∧ u.NumbersDiffer)
    (fun hu hl => ⟨(step_evolves hu.1 hl).1,
      step_numbersDiffer hu.1 hu.2 hl⟩) ⟨init_ok, ?_⟩ h).2
  rintro i j record record' _ hi
  cases hi

lemma consistent {s : PricingPool}
    (h : exec (step calls) init ls = some s) :
    Consistent (step calls) tables manager init ls
      s :=
  consistent_of_evolves (I := Ok calls) step_evolves
    (fun hs => ⟨hs.shared.1, hs.shared.2⟩) init_ok rfl h

end PricingPool

/-- Pricing versions are consistent in both stores, whatever the interleaving and the failures. -/
theorem pricing_consistent :
    (∀ (ls : List InMemoryPricing.Label) (s : InMemoryPricing),
      exec InMemoryPricing.step InMemoryPricing.init ls = some s →
      Consistent InMemoryPricing.step InMemoryPricing.tables InMemoryPricing.manager
        InMemoryPricing.init ls s) ∧
    ∀ (calls : Nat → PricingCall) (ls : List PricingLabel) (s : PricingPool),
      exec (PricingPool.step calls) PricingPool.init ls = some s →
      Consistent (PricingPool.step calls) PricingPool.tables PricingPool.manager PricingPool.init
        ls s ∧ s.NumbersDiffer :=
  ⟨fun _ _ => InMemoryPricing.consistent,
    fun _ _ _ h => ⟨PricingPool.consistent h, PricingPool.numbersDiffer h⟩⟩

/-- Two calls read the same number, and the second `INSERT` fails; one of two refreshes finds no
active version. -/
def pricingRace : List PricingLabel :=
  [.proc 0 .statement, .proc 1 .statement, .proc 0 .statement, .proc 0 .statement,
    .env (0, .readVersion), .proc 1 .statement, .proc 0 .statement, .proc 0 .statement,
    .env (1, .readVersion), .proc 1 .statement, .env (1, .readRules), .env (1, .check),
    .env (1, .replace), .env (0, .check)]

theorem pricing_consistent_race :
    ∃ s, exec (PricingPool.step fun _ => ⟨[⟨.kvRead, 1000, 10⟩], 5⟩) PricingPool.init pricingRace =
        some s ∧ s.tables.numbers = [1] ∧
      Consistent (PricingPool.step fun _ => ⟨[⟨.kvRead, 1000, 10⟩], 5⟩) PricingPool.tables
        PricingPool.manager PricingPool.init pricingRace s := by
  have hrun : (exec (PricingPool.step fun _ => ⟨[⟨.kvRead, 1000, 10⟩], 5⟩) PricingPool.init
      pricingRace).map (fun s => s.tables.numbers) = some [1] := by decide
  rcases Option.map_eq_some_iff.mp hrun with ⟨s, hs, hnumbers⟩
  exact ⟨s, hs, hnumbers, (pricing_consistent.2 _ _ s hs).1⟩

end Combee.Billing
