import Combee.Catalogue.Ensure

/-!
# Converge — calls of `ensure_database_by_name` at the same time, on PostgreSQL

A call looks up the name, inserts a row and reads it back, in statements of their own. Of any
number of calls for one tenant and name, one inserts its row (`after`). A call whose `INSERT` comes
later violates the unique index on tenant and name. The code is prepared for the conflict, with a
second lookup, but expects `DatabaseAlreadyExists`, which is what a conflict of ids gives; the
violation comes as an internal error, and that is returned.
-/

namespace Combee.Catalogue

open Billing (TenantId)
open Foundation
open PostgresStore

/-- Calls for one tenant and name, with what each is given and draws. -/
structure EnsureCalls (ι : Type) where
  tenant : TenantId
  name : String
  node : ι → Option NodeId
  now : ι → Nat
  fresh : ι → DatabaseId
  fresh_injective : Function.Injective fresh

inductive EnsurePc where
  | lookup
  | insert
  | readBack
  | reread
  | answered (result : Result (DatabaseRecord × Bool))

/-- The number of statements that a call can still make. -/
def EnsurePc.left : EnsurePc → Nat
  | .lookup => 3
  | .insert => 2
  | .readBack => 1
  | .reread => 1
  | .answered _ => 0

attribute [local simp] EnsurePc.left

namespace EnsureCalls

variable {ι : Type} {calls : EnsureCalls ι} {g g' : PostgresStore} {i j o : ι}
variable {pc pc' : EnsurePc} {owner : Option ι}

def row (calls : EnsureCalls ι) (i : ι) : DatabaseRow :=
  newRow calls.tenant (calls.fresh i) (calls.node i) (some calls.name) (calls.now i)

def act (calls : EnsureCalls ι) (g : PostgresStore) (i : ι) :
    EnsurePc → Unit → Option (PostgresStore × EnsurePc)
  | .lookup, _ =>
    match g.getDatabaseByName calls.tenant calls.name (calls.fresh i) with
    | .ok r => some (g, .answered (.ok (r, false)))
    | .error _ => some (g, .insert)
  | .insert, _ =>
    match g.insertDatabase (calls.row i) with
    | (.error e, g') => some (g', .answered (.error e))
    -- the id is in use, which `create_database` reports as `DatabaseAlreadyExists`
    | (.ok 0, g') => some (g', .reread)
    | (.ok _, g') => some (g', .readBack)
  | .readBack, _ =>
    some (g, .answered ((g.getDatabase calls.tenant (calls.fresh i)).map fun r => (r, true)))
  | .reread, _ =>
    some (g, .answered ((g.getDatabaseByName calls.tenant calls.name (calls.fresh i)).map
      fun r => (r, false)))
  | .answered _, _ => none

def step [DecidableEq ι] (calls : EnsureCalls ι) :
    Pool PostgresStore ι EnsurePc → PoolLabel ι Unit Empty →
      Option (Pool PostgresStore ι EnsurePc) :=
  Pool.step calls.act (fun _ e => e.elim) (fun _ pc => pc)

lemma insert_cases (calls : EnsureCalls ι) (g : PostgresStore) (i : ι) :
    (g.insertDatabase (calls.row i) = (.ok 0, g) ∧
      calls.act g i .insert () = some (g, .reread)) ∨
    (g.insertDatabase (calls.row i) = (.error duplicateName, g) ∧
      calls.act g i .insert () = some (g, .answered (.error duplicateName))) ∨
    ∃ g', g.insertDatabase (calls.row i) = (.ok 1, g') ∧
      calls.act g i .insert () = some (g', .readBack) := by
  rcases g.insertDatabase_cases (calls.row i) with ⟨-, h⟩ | h | ⟨-, h⟩
  · exact .inl ⟨h, by simp [act, h]⟩
  · exact .inr (.inl ⟨h, by simp [act, h]⟩)
  · exact .inr (.inr ⟨_, h, by simp [act, h]⟩)

theorem ensureDatabaseByName_run (calls : EnsureCalls ι) (g : PostgresStore) (i : ι) :
    ∃ n g' result, g.ensureDatabaseByName calls.tenant calls.name (calls.node i) (calls.fresh i)
        (calls.now i) = (result, g') ∧
      exec (fun (x : PostgresStore × EnsurePc) c => calls.act x.1 i x.2 c) (g, .lookup)
        (List.replicate n ()) = some (g', .answered result) := by
  unfold ensureDatabaseByName
  cases hname : g.getDatabaseByName calls.tenant calls.name (calls.fresh i) with
  | ok r => exact ⟨1, g, _, rfl, by simp [exec, act, hname]⟩
  | error e =>
    have hlookup : calls.act g i .lookup () = some (g, .insert) := by simp [act, hname]
    have hrow : newRow calls.tenant (calls.fresh i) (calls.node i)
        (some calls.name) (calls.now i) = calls.row i := rfl
    rcases calls.insert_cases g i with ⟨h, hact⟩ | ⟨h, hact⟩ | ⟨g', h, hact⟩
    · refine ⟨3, g, _, by simp [createDatabase, hrow, h]; rfl, ?_⟩
      simp [List.replicate, exec, hlookup, hact]
      rfl
    · refine ⟨2, g, _, by simp [createDatabase, hrow, h]; rfl, ?_⟩
      simp [List.replicate, exec, hlookup, hact]
    · refine ⟨3, g', (g'.getDatabase calls.tenant (calls.fresh i)).map fun r => (r, true), ?_, ?_⟩
      · simp only [createDatabase, hrow, h, getDatabase]
        cases g'.selectDatabase calls.tenant (calls.fresh i) with
        | none | some => rfl
      · simp [List.replicate, exec, hlookup, hact]
        rfl

lemma act_left (h : calls.act g i pc () = some (g', pc')) : pc'.left + 1 ≤ pc.left := by
  cases pc with
  | lookup =>
    simp only [act] at h
    split at h <;> cases h <;> simp
  | insert =>
    rcases calls.insert_cases g i with ⟨-, hact⟩ | ⟨-, hact⟩ | ⟨g1, -, hact⟩ <;>
      cases hact.symm.trans h <;> simp
  | readBack | reread =>
    cases h
    simp
  | answered result => cases h

lemma act_total (calls : EnsureCalls ι) (g : PostgresStore) (i : ι)
    (h : ∀ result, pc ≠ .answered result) : ∃ g' pc', calls.act g i pc () = some (g', pc') := by
  cases pc with
  | lookup =>
    simp only [act]
    split <;> exact ⟨_, _, rfl⟩
  | insert =>
    rcases calls.insert_cases g i with ⟨-, hact⟩ | ⟨-, hact⟩ | ⟨g1, -, hact⟩ <;>
      exact ⟨_, _, hact⟩
  | readBack | reread => exact ⟨_, _, rfl⟩
  | answered result => exact absurd rfl (h result)

/-! ## The statements of the calls -/

def after (calls : EnsureCalls ι) (g₀ : PostgresStore) : Option ι → PostgresStore
  | none => g₀
  | some o => { g₀ with databases := g₀.databases ++ [calls.row o] }

/-- The store that the calls begin with: the name is not in use, and the ids are new. -/
structure Ready (calls : EnsureCalls ι) (g₀ : PostgresStore) : Prop where
  name : g₀.selectByName calls.tenant calls.name = none
  fresh : ∀ i, FreshIn g₀.records (calls.fresh i)

section Statements

variable {g₀ : PostgresStore}

lemma nameTaken_eq {t : TenantId} {name : String} :
    g.nameTaken t name = (g.selectByName t name).isSome := by
  rw [nameTaken, selectByName, Option.isSome_map, List.any_filter,
    Bool.eq_iff_iff, List.find?_isSome, List.any_eq_true]

section

variable (h : calls.Ready g₀)
include h

lemma selectByName_after (owner : Option ι) :
    (calls.after g₀ owner).selectByName calls.tenant calls.name =
      owner.map fun o => (calls.row o).toRecord := by
  have hnone := h.name
  cases owner with
  | none => exact hnone
  | some o =>
    simp only [selectByName, Option.map_eq_none_iff] at hnone
    simp [after, selectByName, List.find?_append, hnone, row, newRow]

lemma fresh_after (hi : owner ≠ some i) :
    (calls.after g₀ owner).databases.any (·.id = (calls.row i).id) = false := by
  have hold : g₀.databases.any (·.id = (calls.row i).id) = false :=
    any_id_of_freshIn (h.fresh i)
  cases owner with
  | none => exact hold
  | some o =>
    have hne : (calls.row o).id ≠ (calls.row i).id :=
      fun heq => hi (congrArg some (calls.fresh_injective heq))
    simp [after, List.any_append, hold, hne]

/-- The first `INSERT` goes through, and a later one violates the unique index. -/
lemma insert_after (hi : owner ≠ some i) : (calls.after g₀ owner).insertDatabase (calls.row i) =
      if owner = none then (.ok 1, calls.after g₀ (some i))
      else (.error duplicateName, calls.after g₀ owner) := by
  have hname := selectByName_after h owner
  have htaken : (calls.after g₀ owner).nameTaken calls.tenant calls.name = owner.isSome := by
    rw [nameTaken_eq, hname, Option.isSome_map]
  have hinsert : (calls.after g₀ owner).insertDatabase (calls.row i) =
      if (calls.after g₀ owner).nameTaken calls.tenant calls.name then
        (.error duplicateName, calls.after g₀ owner)
      else (.ok 1, { calls.after g₀ owner with
        databases := (calls.after g₀ owner).databases ++ [calls.row i] }) :=
    insertDatabase_of_fresh (calls.row i) (fresh_after h hi) rfl
  rw [hinsert, htaken]
  cases owner with
  | none | some => rfl

lemma getDatabase_after : (calls.after g₀ (some i)).getDatabase calls.tenant (calls.fresh i) =
      .ok (calls.row i).toRecord :=
  getDatabase_append g₀ (calls.row i) (any_id_of_freshIn (h.fresh i))

end

/-- What is so when the call `i` is where it is. -/
inductive Follows (calls : EnsureCalls ι) (owner : Option ι) (i : ι) : EnsurePc → Prop where
  | lookup (hi : owner ≠ some i) : Follows calls owner i .lookup
  | insert (hi : owner ≠ some i) : Follows calls owner i .insert
  | readBack (hi : owner = some i) : Follows calls owner i .readBack
  | created (hi : owner = some i) :
      Follows calls owner i (.answered (.ok ((calls.row i).toRecord, true)))
  | found {o : ι} (ho : owner = some o) (hi : owner ≠ some i) :
      Follows calls owner i (.answered (.ok ((calls.row o).toRecord, false)))
  | refused (ho : owner.isSome = true) (hi : owner ≠ some i) :
      Follows calls owner i (.answered (.error duplicateName))

/-- A call is first if nobody was before, and an error is the answer to an `INSERT` that was not. -/
lemma act_after (h : calls.Ready g₀) (hpc : calls.Follows owner i pc)
    (hact : calls.act (calls.after g₀ owner) i pc () = some (g', pc')) :
    ∃ owner', g' = calls.after g₀ owner' ∧ calls.Follows owner' i pc' ∧
      (owner' = owner ∨ owner = none ∧ owner' = some i) ∧
      ((∃ e, pc' = .answered (.error e)) ↔ pc = .insert ∧ owner ≠ none) := by
  cases hpc with
  | lookup hi =>
    have hname := selectByName_after h owner
    cases owner with
    | none =>
      simp only [act, getDatabaseByName, hname, Option.map_none, orNotFound] at hact
      cases hact
      exact ⟨none, rfl, .insert hi, .inl rfl, by simp⟩
    | some o =>
      simp only [act, getDatabaseByName, hname, Option.map_some, orNotFound] at hact
      cases hact
      exact ⟨some o, rfl, .found rfl hi, .inl rfl, by simp⟩
  | insert hi =>
    have hinsert := insert_after h hi
    cases owner with
    | none =>
      simp only [act, hinsert, if_true] at hact
      cases hact
      exact ⟨some i, rfl, .readBack rfl, .inr ⟨rfl, rfl⟩, by simp⟩
    | some o =>
      simp only [act, hinsert, reduceCtorEq, if_false] at hact
      cases hact
      exact ⟨some o, rfl, .refused rfl hi, .inl rfl, by simp⟩
  | readBack hi =>
    subst hi
    simp only [act, getDatabase_after h, Except.map] at hact
    cases hact
    exact ⟨some i, rfl, .created rfl, .inl rfl, by simp⟩
  | created | found | refused => cases hact

lemma Follows.answer {result : Result (DatabaseRecord × Bool)}
    (h : calls.Follows owner i (.answered result)) :
    ∃ o, owner = some o ∧ (i = o ∧ result = .ok ((calls.row o).toRecord, true) ∨
      i ≠ o ∧ (result = .ok ((calls.row o).toRecord, false) ∨
        result = .error duplicateName)) := by
  cases h with
  | created hi => exact ⟨i, hi, .inl ⟨rfl, rfl⟩⟩
  | @found o ho hi =>
    refine ⟨o, ho, .inr ⟨fun heq => hi (heq ▸ ho), .inl rfl⟩⟩
  | refused ho hi =>
    rcases Option.isSome_iff_exists.mp ho with ⟨o, rfl⟩
    exact ⟨o, rfl, .inr ⟨fun heq => hi (heq ▸ rfl), .inr rfl⟩⟩

/-- The other calls are where they can be when the first `INSERT` has gone through. -/
lemma Follows.other {owner' : Option ι} {q : EnsurePc} (hq : calls.Follows owner j q)
    (hij : j ≠ i) (howner : owner' = owner ∨ owner = none ∧ owner' = some i) :
    calls.Follows owner' j q := by
  rcases howner with rfl | ⟨rfl, rfl⟩
  · exact hq
  · have hj : some i ≠ some j := fun heq => hij (Option.some.inj heq).symm
    cases hq with
    | lookup => exact .lookup hj
    | insert => exact .insert hj
    | readBack hi | created hi => cases hi
    | found ho | refused ho => cases ho

end Statements

/-! ## Runs -/

section Runs

variable [DecidableEq ι] {g₀ : PostgresStore} {s s' : Pool PostgresStore ι EnsurePc}
variable {ls : List (PoolLabel ι Unit Empty)}

/-- At most one call has inserted its row, and all calls are where they can be. -/
def Keeps (calls : EnsureCalls ι) (g₀ : PostgresStore) (s : Pool PostgresStore ι EnsurePc) :
    Prop :=
  ∃ owner, s.shared = calls.after g₀ owner ∧ ∀ i, calls.Follows owner i (s.procs i)

def start (g₀ : PostgresStore) : Pool PostgresStore ι EnsurePc :=
  ⟨g₀, fun _ => .lookup⟩

/-- An `INSERT` is made when there is no row of the name. -/
def InsertsFirst (calls : EnsureCalls ι) (s : Pool PostgresStore ι EnsurePc)
    (l : PoolLabel ι Unit Empty) : Prop :=
  ∀ i, l = .proc i () → s.procs i = .insert →
    s.shared.selectByName calls.tenant calls.name = none

def NoError (s : Pool PostgresStore ι EnsurePc) : Prop :=
  ∀ i e, s.procs i ≠ .answered (.error e)

omit [DecidableEq ι] in
lemma keeps_start (calls : EnsureCalls ι) : calls.Keeps g₀ (start g₀) :=
  ⟨none, rfl, fun _ => .lookup (by simp)⟩

lemma keeps_step {l : PoolLabel ι Unit Empty} (h : calls.Ready g₀) (hs : calls.Keeps g₀ s)
    (hstep : calls.step s l = some s') :
    calls.Keeps g₀ s' ∧ (NoError s → (NoError s' ↔ calls.InsertsFirst s l)) := by
  cases hstep using Pool.step_cases with
  | env e => exact e.elim
  | proc i c g pc hact =>
    rcases hs with ⟨owner, hshared, hprocs⟩
    rw [hshared] at hact
    rcases act_after h (hprocs i) hact with ⟨owner', rfl, hpc, howner, herror⟩
    constructor
    · refine ⟨owner', rfl, fun j => ?_⟩
      by_cases hj : j = i
      · subst hj
        simpa using hpc
      · simpa [Function.update_of_ne hj] using (hprocs j).other hj howner
    · intro hnone
      have hfree : s.shared.selectByName calls.tenant calls.name = none ↔ owner = none := by
        rw [hshared, selectByName_after h, Option.map_eq_none_iff]
      constructor
      · intro hnone' j hl hj
        cases hl
        rw [hfree]
        by_contra hne
        rcases herror.mpr ⟨hj, hne⟩ with ⟨e, rfl⟩
        exact hnone' i e (Function.update_self _ _ _)
      · intro hfirst j e hj
        by_cases hji : j = i
        · subst hji
          have hpcj : pc = .answered (.error e) := by simpa using hj
          rcases herror.mp ⟨e, hpcj⟩ with ⟨hinsert, hne⟩
          exact hne (hfree.mp (hfirst j rfl hinsert))
        · exact hnone j e (by simpa [Function.update_of_ne hji] using hj)

lemma keeps_of_exec (h : calls.Ready g₀) (hrun : exec calls.step (start g₀) ls = some s) :
    calls.Keeps g₀ s :=
  inv_of_exec_all (fun hs hstep => (keeps_step h hs hstep).1) (keeps_start calls) hrun

lemma count_le (hrun : exec calls.step s ls = some s') (i : ι) :
    ls.count (.proc i ()) + (s'.procs i).left ≤ (s.procs i).left := by
  induction ls generalizing s with
  | nil =>
    obtain rfl : s = s' := by simpa using hrun
    simp
  | cons l ls ih =>
    rcases exec_cons_eq_some.mp hrun with ⟨u, hu, hrest⟩
    have hle := ih hrest
    cases hu using Pool.step_cases with
    | env e => exact e.elim
    | proc j c g pc hact =>
      have hleft := act_left hact
      by_cases hj : j = i
      · subst hj
        simp only [Function.update_self] at hle
        rw [List.count_cons_self]
        omega
      · have hne : (PoolLabel.proc j c : PoolLabel ι Unit Empty) ≠ .proc i () :=
          fun heq => hj (PoolLabel.proc.inj heq).1
        simp only [Function.update_of_ne (Ne.symm hj)] at hle
        rw [List.count_cons_of_ne hne]
        exact hle

lemma answered_stays {result : Result (DatabaseRecord × Bool)}
    (hi : s.procs i = .answered result) (hrun : exec calls.step s ls = some s') :
    s'.procs i = .answered result := by
  refine Pool.proc_of_exec (K := fun _ pc => pc = .answered result) ?_ ?_ ?_ hi hrun
  · rintro g p c g' p' rfl hact
    cases hact
  · intro g p j q c g' q' hp _
    exact hp
  · intro g p e g' hp _
    exact e.elim

lemma noError_iff (h : calls.Ready g₀) (hrun : exec calls.step (start g₀) ls = some s) :
    NoError s ↔ Meets calls.step calls.InsertsFirst (start g₀) ls := by
  rw [← always_iff_meets (I := calls.Keeps g₀) (P := NoError)
    (fun hu hnone hstep => ⟨(keeps_step h hu hstep).1, (keeps_step h hu hstep).2 hnone⟩)
    (keeps_start calls) (fun i e => nofun)]
  constructor
  · rintro hnone pre u ⟨post, rfl⟩ hu i e hi
    rcases exec_append_eq_some.mp hrun with ⟨u', hu', hpost⟩
    obtain rfl : u = u' := Option.some.inj (hu.symm.trans hu')
    exact hnone i e (answered_stays hi hpost)
  · intro hall
    exact hall ls s List.prefix_rfl hrun

end Runs

/-- A call makes at most three statements and is never stuck; in the end exactly one has made the
Cell, and all succeed exactly if each `INSERT` is made when there is no row of the name. -/
theorem ensure_converges_iff [DecidableEq ι] [Nonempty ι] (calls : EnsureCalls ι)
    (g₀ : PostgresStore) (ls : List (PoolLabel ι Unit Empty)) (s : Pool PostgresStore ι EnsurePc)
    (hready : calls.Ready g₀) (hrun : exec calls.step (start g₀) ls = some s) :
    (∀ i, ls.count (.proc i ()) ≤ 3 ∧
      ((∃ result, s.procs i = .answered result) ∨ ∃ s', calls.step s (.proc i ()) = some s')) ∧
    ((∀ i, ∃ result, s.procs i = .answered result) →
      (∃! i, ∃ r, s.procs i = .answered (.ok (r, true))) ∧
      (∃ r, ∀ i, (∃ created, s.procs i = .answered (.ok (r, created))) ∨
        s.procs i = .answered (.error duplicateName)) ∧
      ((∀ i, ∃ r created, s.procs i = .answered (.ok (r, created))) ↔
        Meets calls.step calls.InsertsFirst (start g₀) ls)) := by
  constructor
  · intro i
    refine ⟨(Nat.le_add_right _ _).trans (count_le hrun i), ?_⟩
    by_cases hanswered : ∃ result, s.procs i = .answered result
    · exact .inl hanswered
    · rcases calls.act_total s.shared i (fun result h => hanswered ⟨result, h⟩) with
        ⟨g', pc', hact⟩
      exact .inr ⟨_, Pool.step_proc_eq_some.mpr ⟨g', pc', hact, rfl⟩⟩
  · intro hall
    rcases keeps_of_exec hready hrun with ⟨owner, -, hprocs⟩
    have hanswer : ∃ o, ∀ i, (i = o ∧ s.procs i = .answered (.ok ((calls.row o).toRecord, true))) ∨
        i ≠ o ∧ (s.procs i = .answered (.ok ((calls.row o).toRecord, false)) ∨
          s.procs i = .answered (.error duplicateName)) := by
      have hsome : ∀ i, ∃ result, s.procs i = .answered result ∧
          calls.Follows owner i (.answered result) := by
        intro i
        rcases hall i with ⟨result, hi⟩
        exact ⟨result, hi, hi ▸ hprocs i⟩
      rcases hsome (Classical.arbitrary ι) with ⟨_, -, hfirst⟩
      rcases hfirst.answer with ⟨o, rfl, -⟩
      refine ⟨o, fun i => ?_⟩
      rcases hsome i with ⟨result, hi, hfollows⟩
      rcases hfollows.answer with ⟨o', ho', hcases⟩
      obtain rfl := Option.some.inj ho'
      simpa only [hi, EnsurePc.answered.injEq] using hcases
    rcases hanswer with ⟨o, ho⟩
    refine ⟨⟨o, ?_, ?_⟩, ⟨(calls.row o).toRecord, fun i => ?_⟩, ?_⟩
    · rcases ho o with ⟨-, hok⟩ | ⟨hne, -⟩
      · exact ⟨_, hok⟩
      · exact absurd rfl hne
    · rintro i ⟨r, hi⟩
      rcases ho i with ⟨heq, -⟩ | ⟨-, hfound | hrefused⟩
      · exact heq
      · cases hi.symm.trans hfound
      · cases hi.symm.trans hrefused
    · rcases ho i with ⟨-, hok⟩ | ⟨-, hfound | hrefused⟩
      · exact .inl ⟨true, hok⟩
      · exact .inl ⟨false, hfound⟩
      · exact .inr hrefused
    · rw [← noError_iff hready hrun]
      constructor
      · intro hok i e hi
        rcases hok i with ⟨r, created, hok⟩
        cases hi.symm.trans hok
      · intro hnone i
        rcases hall i with ⟨e | ⟨r, created⟩, hi⟩
        · exact absurd hi (hnone i e)
        · exact ⟨r, created, hi⟩

end EnsureCalls

/-- Two calls for the Cell `notes` of tenant 5. -/
def notesTwice : EnsureCalls Caller where
  tenant := ⟨5⟩
  name := "notes"
  node _ := none
  now _ := 60
  fresh
    | .first => ⟨1⟩
    | .second => ⟨2⟩
  fresh_injective i j h := by cases i <;> cases j <;> simp_all

/-- The second call looks up the name when the first one has inserted its row. -/
def lookupLater : List (PoolLabel Caller Unit Empty) :=
  [.proc .first (), .proc .first (), .proc .second (), .proc .first ()]

/-- Both calls look up the name before either of them inserts. -/
def lookupBoth : List (PoolLabel Caller Unit Empty) :=
  [.proc .first (), .proc .second (), .proc .first (), .proc .second (), .proc .first ()]

lemma ready_empty : notesTwice.Ready emptyPostgres :=
  ⟨rfl, fun _ _ => nofun⟩

theorem ensure_converges_iff_later :
    ∃ s r, exec notesTwice.step (EnsureCalls.start emptyPostgres) lookupLater = some s ∧
      s.procs .first = .answered (.ok (r, true)) ∧ s.procs .second = .answered (.ok (r, false)) ∧
      ∃! i, ∃ r, s.procs i = .answered (.ok (r, true)) := by
  refine ⟨_, _, rfl, rfl, rfl,
    ((notesTwice.ensure_converges_iff emptyPostgres lookupLater _ ready_empty rfl).2 ?_).1⟩
  intro i
  cases i with
  | first | second => exact ⟨_, rfl⟩

/-- The second call is answered with an internal error, and the Cell is there. -/
theorem ensure_diverges :
    ∃ s r, exec notesTwice.step (EnsureCalls.start emptyPostgres) lookupBoth = some s ∧
      s.procs .first = .answered (.ok (r, true)) ∧
      s.procs .second = .answered (.error duplicateName) ∧
      s.shared.selectByName ⟨5⟩ "notes" = some r :=
  ⟨_, _, rfl, rfl, rfl, rfl⟩

end Combee.Catalogue
