import Combee.Foundation.Machine

/-!
# Register — sign-up to the console with invite codes

`registerUser` keeps its tables in a Cell, which it reaches by requests: it looks for the name,
looks for an unused invite code, marks the code, has a tenant created and inserts the user. Each
request is one step, any number of calls run at the same time, and a request that fails may have
taken effect. It is not one transaction:

* two calls that both find a code unused before either marks it both complete;
* a call that fails after it has marked its code leaves the code used.

`invite_code_used_once` says that these are the only ways for a code to be used twice or lost.
-/

namespace Combee.Console

open Foundation

/-! ## Arguments -/

/-- What `String.prototype.trim` removes. -/
def isJsSpace (c : Char) : Bool :=
  c.toNat ∈ [0x09, 0x0a, 0x0b, 0x0c, 0x0d, 0x20, 0xa0, 0x1680, 0x2028, 0x2029, 0x202f, 0x205f,
    0x3000, 0xfeff] || (0x2000 ≤ c.toNat && c.toNat ≤ 0x200a)

def jsTrim (s : String) : String :=
  String.ofList ((s.toList.dropWhile isJsSpace).reverse.dropWhile isJsSpace).reverse

/-- A character outside of the basic plane takes two units. -/
def utf16Size (c : Char) : Nat :=
  if c.toNat < 0x10000 then 1 else 2

/-- `String.prototype.length`. -/
def jsLength (s : String) : Nat :=
  s.toList.foldl (fun n c => n + utf16Size c) 0

inductive SignupMode where
  | off
  | code
  | open
  deriving DecidableEq, Repr

structure Registration where
  rawUsername : String
  password : String
  accessCode : Option String
  deriving DecidableEq, Repr

/-- `/^[a-z0-9._-]{3,32}$/`. -/
def isUsername (s : String) : Bool :=
  decide (3 ≤ s.toList.length) && decide (s.toList.length ≤ 32) &&
    s.toList.all fun c => c.isLower || c.isDigit || c == '.' || c == '_' || c == '-'

namespace Registration

variable (toLowerCase : String → String) (r : Registration)

def username : String :=
  toLowerCase (jsTrim r.rawUsername)

def code : String :=
  jsTrim (r.accessCode.getD "")

def refusal (mode : SignupMode) : Option String :=
  if !isUsername (r.username toLowerCase) then
    some "username must be 3-32 chars: a-z, 0-9, . _ -"
  else if jsLength r.password < 8 then some "password must be at least 8 characters"
  else if mode = .off then some "signup is disabled (invite only)"
  else if mode = .code && r.code.isEmpty then some "an Alpha access code is required to sign up"
  else none

end Registration

/-! ## Tables -/

structure InviteCode where
  code : String
  usedBy : Option String
  usedAt : Option Nat
  deriving DecidableEq, Repr

structure ConsoleUserRow where
  username : String
  uid : String
  passwordHash : String
  apiKey : String
  tenantId : String
  createdAt : Nat
  deriving DecidableEq, Repr

/-- The tables of the Cell, the names in the Cells of earlier versions, and the tenants. -/
structure Tables where
  inviteCodes : List InviteCode
  consoleUsers : List ConsoleUserRow
  oldUsers : List String
  tenants : List String
  deriving DecidableEq, Repr

namespace Tables

/-- `SELECT code FROM invite_codes WHERE code = ? AND used_by IS NULL` has a row. -/
def unused (g : Tables) (code : String) : Bool :=
  g.inviteCodes.any fun c => c.code = code && c.usedBy.isNone

/-- `UPDATE invite_codes SET used_by = ?, used_at = ? WHERE code = ? AND used_by IS NULL`. -/
def markUsed (g : Tables) (code username : String) (now : Nat) : Tables :=
  { g with
    inviteCodes := g.inviteCodes.map fun c =>
      if c.code = code && c.usedBy.isNone then
        { c with usedBy := some username, usedAt := some now }
      else c }

def hasUser (g : Tables) (username : String) : Bool :=
  g.consoleUsers.any (·.username = username)

end Tables

/-! ## Calls -/

inductive Pc where
  | start
  | ensureTable
  | findUser
  | scanOldCells
  | ensureTableAgain
  | findCode
  | markCode
  | createTenant
  | insertUser (tenantId apiKey : String)
  | completed (row : ConsoleUserRow)
  | failed (error : String)
  deriving DecidableEq, Repr

/-- The error `fault` of a request, which may hide that it was `applied`; and what is drawn for it.
-/
structure Choice where
  fault : Option String := none
  applied : Bool := false
  now : Nat := 0
  uid : String := ""
  passwordHash : String := ""
  tenantId : String := ""
  apiKey : String := ""
  deriving DecidableEq, Repr

namespace Choice

/-- A request that is awaited without a `catch`. -/
def orThrow (c : Choice) (next : Pc) : Pc :=
  match c.fault with
  | some e => .failed e
  | none => next

def effective (c : Choice) : Bool :=
  c.fault.isNone || c.applied

end Choice

section

variable (toLowerCase : String → String) (mode : SignupMode) (calls : Nat → Registration)

def newRow (i : Nat) (c : Choice) (tenantId apiKey : String) : ConsoleUserRow where
  username := (calls i).username toLowerCase
  uid := c.uid
  passwordHash := c.passwordHash
  apiKey := apiKey
  tenantId := tenantId
  createdAt := c.now

/-- One request of the call `i`; the statements that create the tables are left out. -/
def act (g : Tables) (i : Nat) (pc : Pc) (c : Choice) : Option (Tables × Pc) :=
  let username := (calls i).username toLowerCase
  let code := (calls i).code
  match pc with
  | .start =>
    match (calls i).refusal toLowerCase mode with
    | some e => some (g, .failed e)
    | none => some (g, .ensureTable)
  | .ensureTable => some (g, c.orThrow .findUser)
  -- errors of the two lookups count as not found
  | .findUser =>
    if c.fault.isNone && g.hasUser username then some (g, .failed "username already taken")
    else some (g, .scanOldCells)
  | .scanOldCells =>
    if c.fault.isNone && decide (username ∈ g.oldUsers) then
      some (g, .failed "username already taken")
    else some (g, .ensureTableAgain)
  | .ensureTableAgain =>
    some (g, c.orThrow (if mode = .code then .findCode else .createTenant))
  | .findCode =>
    if c.fault.isNone && g.unused code then some (g, .markCode)
    else some (g, .failed "invalid or already-used invite code")
  -- the number of rows that have changed is not looked at
  | .markCode =>
    some (if c.effective then g.markUsed code username c.now else g, c.orThrow .createTenant)
  | .createTenant =>
    some (if c.effective then { g with tenants := c.tenantId :: g.tenants } else g,
      c.orThrow (.insertUser c.tenantId c.apiKey))
  | .insertUser tenantId apiKey =>
    let row := newRow toLowerCase calls i c tenantId apiKey
    if g.hasUser username then
      some (g, .failed (c.fault.getD "UNIQUE constraint failed: console_users.username"))
    else
      some (if c.effective then { g with consoleUsers := g.consoleUsers ++ [row] } else g,
        c.orThrow (.completed row))
  | .completed _ => none
  | .failed _ => none

abbrev SignUp := Pool Tables Nat Pc

abbrev SignUpLabel := PoolLabel Nat Choice Empty

def SignUp.step : SignUp → SignUpLabel → Option SignUp :=
  Pool.step (act toLowerCase mode calls) (fun _ e => e.elim) fun e => e.elim

end

def SignUp.init (g : Tables) : SignUp := ⟨g, fun _ => .start⟩

open SignUp

/-! ## Codes that are used -/

section

variable {g : Tables} {code code' username : String} {now : Nat}

lemma Tables.unused_markUsed (h : (g.markUsed code username now).unused code' = true) :
    g.unused code' = true ∧ code' ≠ code := by
  simp only [unused, markUsed, List.any_map, List.any_eq_true, Function.comp, Bool.and_eq_true,
    decide_eq_true_eq] at h
  rcases h with ⟨c, hc, hrow⟩
  split_ifs at hrow with hmarked
  · -- a row that was changed is used
    simp at hrow
  · have hunused : g.unused code' = true := by
      simp only [unused, List.any_eq_true, Bool.and_eq_true, decide_eq_true_eq]
      exact ⟨c, hc, hrow⟩
    refine ⟨hunused, ?_⟩
    rintro rfl
    exact hmarked hrow

end

/-- The call has got past the `UPDATE`. -/
def Pc.Past : Pc → Prop
  | .createTenant => True
  | .insertUser _ _ => True
  | .completed _ => True
  | _ => False

lemma Choice.orThrow_past {c : Choice} {next : Pc} (h : (c.orThrow next).Past) :
    next.Past ∧ c.fault = none := by
  cases hfault : c.fault with
  | some e =>
    simp only [orThrow, hfault] at h
    cases h
  | none =>
    simp only [orThrow, hfault] at h
    exact ⟨h, rfl⟩

lemma Choice.orThrow_of_none {c : Choice} {next : Pc} (h : c.fault = none) :
    c.orThrow next = next := by
  simp [orThrow, h]

/-! ## One request -/

section

variable {toLowerCase : String → String} {calls : Nat → Registration}
  {g g' : Tables} {i : Nat} {pc pc' : Pc} {c : Choice}

/-- A request marks the code, or leaves the codes alone and does not take the call past the
`UPDATE`. -/
inductive Effect (toLowerCase : String → String) (calls : Nat → Registration) (g : Tables) (i : Nat)
    (c : Choice) : Pc → Tables → Pc → Prop where
  | marked (heffective : c.effective = true) :
      Effect toLowerCase calls g i c .markCode
        (g.markUsed (calls i).code ((calls i).username toLowerCase) c.now)
        (c.orThrow .createTenant)
  | other {pc : Pc} {g' : Tables} {pc' : Pc} (hcodes : g'.inviteCodes = g.inviteCodes)
      (hpast : pc'.Past → pc.Past) : Effect toLowerCase calls g i c pc g' pc'

lemma act_effect (h : act toLowerCase .code calls g i pc c = some (g', pc')) :
    Effect toLowerCase calls g i c pc g' pc' := by
  cases pc with
  | start =>
    simp only [act] at h
    split at h <;> cases h <;> exact .other rfl id
  | ensureTable | ensureTableAgain =>
    cases h
    exact .other rfl fun hpast => (Choice.orThrow_past hpast).1
  | findUser | scanOldCells | findCode =>
    simp only [act] at h
    split_ifs at h <;> cases h <;> exact .other rfl id
  | markCode =>
    cases heffective : c.effective with
    | true =>
      simp only [act, heffective, if_true] at h
      cases h
      exact .marked heffective
    | false =>
      -- a request without an effect has failed
      simp only [act, heffective, Bool.false_eq_true, if_false] at h
      cases h
      refine .other rfl fun hpast => ?_
      simp [Choice.effective, (Choice.orThrow_past hpast).2] at heffective
  | createTenant =>
    cases h
    refine .other ?_ fun _ => trivial
    split_ifs <;> rfl
  | insertUser tenantId apiKey =>
    simp only [act] at h
    split_ifs at h <;> cases h <;> exact .other rfl fun _ => trivial
  | completed | failed => cases h

variable (h : Effect toLowerCase calls g i c pc g' pc')
include h

lemma Effect.unused {code : String}
    (hunused : g'.unused code = true) : g.unused code = true := by
  cases h with
  | marked => exact (Tables.unused_markUsed hunused).1
  | other hcodes => simpa only [Tables.unused, hcodes] using hunused

lemma Effect.past (hpast : pc'.Past) :
    pc.Past ∨ (pc = .markCode ∧ g'.unused (calls i).code = false) := by
  cases h with
  | marked =>
    refine .inr ⟨rfl, ?_⟩
    by_contra hunused
    exact (Tables.unused_markUsed (by simpa using hunused)).2 rfl
  | other _ h => exact .inl (h hpast)

end

/-! ## A code that is used once -/

section

variable (toLowerCase : String → String) (calls : Nat → Registration)

/-- If the step is the `UPDATE` of a call for the code, the code is still unused. -/
def StillUnused (code : String) (s : SignUp) (l : SignUpLabel) : Prop :=
  ∀ i c, l = .proc i c → s.procs i = .markCode → (calls i).code = code →
    s.shared.unused code = true

/-- Once the code of the call `i` has been found, its requests do not fail, and the name is free
when it is inserted. -/
def NoLateFailure (i : Nat) (s : SignUp) (l : SignUpLabel) : Prop :=
  ∀ c, l = .proc i c → (s.procs i = .markCode ∨ (s.procs i).Past) →
    c.fault = none ∧ s.shared.hasUser ((calls i).username toLowerCase) = false

/-- No step of the call `i` in the run changes the codes. -/
def LeavesCodes (i : Nat) (s : SignUp) (ls : List SignUpLabel) : Prop :=
  ∀ pre c post u u', ls = pre ++ .proc i c :: post →
    exec (step toLowerCase .code calls) s pre = some u →
    step toLowerCase .code calls u (.proc i c) = some u' →
    u'.shared.inviteCodes = u.shared.inviteCodes

/-- The calls for a code that have got past the `UPDATE` are one at most, and then the code is
used. -/
structure UsedOnce (code : String) (s : SignUp) : Prop where
  used : ∀ i, (calls i).code = code → (s.procs i).Past → s.shared.unused code = false
  once : ∀ i j, (calls i).code = code → (calls j).code = code → (s.procs i).Past →
    (s.procs j).Past → i = j

end

section

variable {toLowerCase : String → String} {calls : Nat → Registration} {s s' : SignUp}
  {l : SignUpLabel} {code : String}

/-- A step that gets no call past the `UPDATE` keeps `UsedOnce`, since no code becomes unused. -/
lemma UsedOnce.of_past (hs : UsedOnce calls code s)
    (hused : s'.shared.unused code = true → s.shared.unused code = true)
    (hpast : ∀ i, (calls i).code = code → (s'.procs i).Past → (s.procs i).Past) :
    UsedOnce calls code s' where
  used i hi hp := by
    have h := hs.used i hi (hpast i hi hp)
    by_contra hunused
    simp [hused (by simpa using hunused)] at h
  once i j hi hj hpi hpj := hs.once i j hi hj (hpast i hi hpi) (hpast j hj hpj)

lemma step_usedOnce (hs : UsedOnce calls code s) (hl : StillUnused calls code s l)
    (h : step toLowerCase .code calls s l = some s') : UsedOnce calls code s' := by
  cases h using Pool.step_cases with
  | env e => exact e.elim
  | proc k c g p hact =>
    have heffect := act_effect hact
    have hother : ∀ i, i ≠ k → Function.update s.procs k p i = s.procs i :=
      fun i hik => Function.update_of_ne hik _ _
    by_cases hnew : (calls k).code = code ∧ p.Past ∧ ¬ (s.procs k).Past
    · -- the call `k` has marked the code, which nobody had got past before
      rcases hnew with ⟨hk, hp, hnot⟩
      rcases heffect.past hp with hpast | ⟨hmark, hused⟩
      · exact absurd hpast hnot
      have hnobody : ∀ i, (calls i).code = code → ¬ (s.procs i).Past := by
        intro i hi hpast
        have hstill := hl k c rfl hmark hk
        rw [hs.used i hi hpast] at hstill
        cases hstill
      have honly : ∀ i, (calls i).code = code → (Function.update s.procs k p i).Past → i = k := by
        intro i hi hpast
        by_contra hik
        exact hnobody i hi (hother i hik ▸ hpast)
      exact ⟨fun _ _ _ => hk ▸ hused, fun i j hi hj hpi hpj =>
        (honly i hi hpi).trans (honly j hj hpj).symm⟩
    · refine hs.of_past heffect.unused fun i hi hpast => ?_
      by_cases hik : i = k
      · subst hik
        by_contra hnot
        exact hnew ⟨hi, by simpa using hpast, hnot⟩
      · exact hother i hik ▸ hpast

lemma step_past {i : Nat} (hpast : (s.procs i).Past) (hl : NoLateFailure toLowerCase calls i s l)
    (h : step toLowerCase .code calls s l = some s') : (s'.procs i).Past := by
  cases h using Pool.step_cases with
  | env e => exact e.elim
  | proc k c g p hact =>
    by_cases hik : i = k
    · subst hik
      rcases hl c rfl (.inr hpast) with ⟨hfault, hname⟩
      dsimp only
      rw [Function.update_self]
      cases hpc : s.procs i with
      | createTenant =>
        simp only [hpc, act, Choice.orThrow_of_none hfault] at hact
        cases hact
        trivial
      | insertUser tenantId apiKey =>
        simp only [hpc, act, hname, Choice.orThrow_of_none hfault] at hact
        cases hact
        trivial
      | completed row =>
        rw [hpc] at hact
        cases hact
      | _ =>
        rw [hpc] at hpast
        cases hpast
    · dsimp only
      rw [Function.update_of_ne hik]
      exact hpast

lemma leavesCodes_of_failed {i : Nat} {ls : List SignUpLabel} {e : String}
    (hmeets : Meets (step toLowerCase .code calls) (NoLateFailure toLowerCase calls i) s ls)
    (h : exec (step toLowerCase .code calls) s ls = some s')
    (hfailed : s'.procs i = .failed e) : LeavesCodes toLowerCase calls i s ls := by
  rintro pre c post u u' rfl hpre hstep
  rcases exec_append_eq_some.mp h with ⟨v, hv, hrest⟩
  obtain rfl : v = u := Option.some.inj (hv.symm.trans hpre)
  rcases exec_cons_eq_some.mp hrest with ⟨w, hw, hpost⟩
  obtain rfl : w = u' := Option.some.inj (hw.symm.trans hstep)
  rcases (meets_cons hw).mp ((meets_append hv).mp hmeets).2 with ⟨hnow, hlater⟩
  rcases Pool.step_proc_eq_some.mp hw with ⟨g, p, hact, rfl⟩
  by_contra hchanged
  -- the step has marked the code, so the call is past the `UPDATE` and will not fail any more
  have hpast : (Function.update v.procs i p i).Past := by
    rw [Function.update_self]
    generalize hpc : v.procs i = pc at hact
    cases act_effect hact with
    | marked =>
      rw [Choice.orThrow_of_none (hnow c rfl (.inl hpc)).1]
      trivial
    | other hcodes => exact absurd hcodes hchanged
  have hend := inv_of_exec (I := fun t => (t.procs i).Past)
    (fun hp hl hs => step_past hp hl hs) hpast hlater hpost
  rw [hfailed] at hend
  cases hend

end

/-- A code lets one registration complete if every `UPDATE` for it finds it unused, and a failed one
leaves the codes alone if it fails before its code is found. -/
theorem invite_code_used_once (toLowerCase : String → String) (calls : Nat → Registration)
    (g : Tables) (ls : List SignUpLabel) (s : SignUp)
    (h : exec (step toLowerCase .code calls) (init g) ls = some s) :
    (∀ code, Meets (step toLowerCase .code calls) (StillUnused calls code)
        (init g) ls →
      ∀ i j row row', (calls i).code = code → (calls j).code = code →
        s.procs i = .completed row → s.procs j = .completed row' → i = j) ∧
    ∀ i e, Meets (step toLowerCase .code calls) (NoLateFailure toLowerCase calls i)
        (init g) ls →
      s.procs i = .failed e → LeavesCodes toLowerCase calls i (init g) ls := by
  refine ⟨fun code hmeets i j row row' hi hj hrow hrow' => ?_, fun i e hmeets hfailed => ?_⟩
  · have hinit : UsedOnce calls code (init g) :=
      ⟨fun i _ hpast => hpast.elim, fun i j _ _ hpast => hpast.elim⟩
    have hs := inv_of_exec (fun hs hl hstep => step_usedOnce hs hl hstep) hinit hmeets h
    exact hs.once i j hi hj (by rw [hrow]; trivial) (by rw [hrow']; trivial)
  · exact leavesCodes_of_failed hmeets h hfailed

def twoCalls (i : Nat) : Registration :=
  ⟨if i = 0 then "alice" else "bob", "password", some "c1"⟩

def oneCode : Tables := ⟨[⟨"c1", none, none⟩], [], [], []⟩

def upToCode (i : Nat) : List SignUpLabel := List.replicate 6 (.proc i {})

def afterCode (i : Nat) : List SignUpLabel := List.replicate 3 (.proc i {})

def Pc.early (pc : Pc) : Bool :=
  pc ∈ [.start, .ensureTable, .findUser, .scanOldCells, .ensureTableAgain, .findCode]

lemma noLateFailure_of_early {toLowerCase : String → String} {calls : Nat → Registration}
    {i : Nat} {s : SignUp} {l : SignUpLabel} (h : (s.procs i).early = true) :
    NoLateFailure toLowerCase calls i s l := by
  intro c _ hlate
  cases hpc : s.procs i <;> simp [hpc, Pc.early, Pc.Past] at h hlate

/-- The second call comes when the first one has completed. -/
def inTurn : List SignUpLabel := upToCode 0 ++ afterCode 0 ++ upToCode 1

def marksUnused (s : SignUp) : SignUpLabel → Bool
  | .proc i _ => s.procs i != .markCode || s.shared.unused "c1"
  | .env e => e.elim

theorem invite_code_used_once_in_turn :
    ∃ s, exec (step id .code twoCalls) (init oneCode) inTurn = some s ∧
      s.procs 0 = .completed ⟨"alice", "", "", "", "", 0⟩ ∧
      (∀ j row, s.procs j = .completed row → 0 = j) ∧
      s.procs 1 = .failed "invalid or already-used invite code" ∧
      LeavesCodes id twoCalls 1 (init oneCode) inTurn := by
  have hrun : (exec (step id .code twoCalls) (init oneCode) inTurn).map
      (fun s => (s.procs 0, s.procs 1)) = some (.completed ⟨"alice", "", "", "", "", 0⟩,
        .failed "invalid or already-used invite code") := by decide
  rcases Option.map_eq_some_iff.mp hrun with ⟨s, hs, hend⟩
  rcases Prod.mk.inj hend with ⟨hdone, hfailed⟩
  have hunused : Meets (step id .code twoCalls) (StillUnused twoCalls "c1")
      (init oneCode) inTurn := by
    refine meets_of_check (c := marksUnused) ?_ (by decide)
    rintro s l h i c rfl hmark _
    simpa [marksUnused, hmark] using h
  have hearly : Meets (step id .code twoCalls) (NoLateFailure id twoCalls 1)
      (init oneCode) inTurn :=
    meets_of_check (c := fun s _ => (s.procs 1).early) noLateFailure_of_early (by decide)
  have hcode : ∀ i, (twoCalls i).code = "c1" := by
    intro i
    change jsTrim "c1" = "c1"
    decide
  rcases invite_code_used_once id twoCalls oneCode inTurn s hs with ⟨honce, hleaves⟩
  refine ⟨s, hs, hdone, fun j row hj => ?_, hfailed, hleaves 1 _ hearly hfailed⟩
  exact honce "c1" hunused 0 j _ row (hcode 0) (hcode j) hdone hj

/-- Both calls find the code before either marks it; a call whose tenant cannot be created leaves
its code used. -/
theorem invite_code_not_single_use :
    ((exec (step id .code twoCalls) (init oneCode)
        (upToCode 0 ++ upToCode 1 ++ afterCode 0 ++ afterCode 1)).map fun s =>
          (s.procs 0, s.procs 1)) =
      some (.completed ⟨"alice", "", "", "", "", 0⟩, .completed ⟨"bob", "", "", "", "", 0⟩) ∧
    ((exec (step id .code twoCalls) (init oneCode)
        (upToCode 0 ++ [.proc 0 {}, .proc 0 { fault := some "unavailable" }])).map fun s =>
          (s.procs 0, s.shared.unused "c1")) =
      some (.failed "unavailable", false) := by
  decide

end Combee.Console
