import Combee.ApiServer.Handlers

/-!
# InternalUsage — what an internal request leaves in the usage counters

A request goes through `usage_tracking` and `concurrency_quota` to its handler. Internal requests
are not to be billed: `usage_tracking` hands them on at once, and the SQL handlers use
`record_billed`. But the KV handlers use `record`, and so does `concurrency_quota` for a request
that it refuses.

So an internal request changes a counter exactly if it is refused for the limits, or if it is a KV
request whose Cell is found.
-/

namespace Combee.ApiServer

open Billing (TenantId UsageMetric UsageBucket RecordCall usageOf OneEach)
open Foundation

/-! ## The middlewares -/

abbrev Response := Result Nat

def usageSelfPaths : List String :=
  ["/v1/usage/summary", "/v1/usage/timeseries", "/v1/cells/", "/v1/credits/balance",
    "/v1/credits/transactions"]

section Middlewares

variable (q : ConcurrencyQuota) (req : Request) (next : Prog Call Call.Res Response)

/-- The callback of a `CountingBody`, if the end of the body is read. -/
def countBody (metric : UsageMetric) : Prog Call Call.Res Unit :=
  .call .bodyEnd fun (bytes : Option UInt64) =>
    match bytes with
    | some n => record req.tenant req.cell metric n
    | none => .ret ()

def usageTracking : Prog Call Call.Res Response :=
  if req.internal then next
  else if usageSelfPaths.any fun p => p.toList.isPrefixOf req.path.toList then next
  else do
    record req.tenant req.cell .requests 1
    countBody req .bytesIn
    let response ← next
    countBody req .bytesOut
    pure response

/-- `quota_response`, after the request has been recorded. -/
def refuse : Prog Call Call.Res Response := do
  record req.tenant req.cell .requests 1
  pure (.ok 429)

/-- The guards, whose drops do not concern the meter, are left out. -/
def concurrencyQuota : Prog Call Call.Res Response :=
  .call (.tryEnter (.tenant req.tenant)) fun (entered : Bool) =>
    if entered then
      match req.cell with
      | some cell =>
        if 0 < q.maxPerCellConcurrency then
          .call (.tryEnter (.cell cell)) fun (entered : Bool) =>
            if entered then next else refuse req
        else next
      | none => next
    else refuse req

end Middlewares

def serve (q : ConcurrencyQuota) (max : Nat) (req : Request) (e : Endpoint) :
    Prog Call Call.Res Response :=
  usageTracking req
    (concurrencyQuota q req (handle max (req.auth.getD ⟨defaultTenant, false⟩) e).run)

/-! ## The counters -/

abbrev Outside := (c : Call) → c.Res

/-- Of all calls, only `record` changes a counter. -/
def answer (counters : List UsageBucket) (c : Call) (o : Outside) : c.Res × List UsageBucket :=
  (o c, match c with
    | .record t cell metric delta =>
      Billing.record counters ⟨t, cell, metric, delta, o (.record t cell metric delta)⟩
    | _ => counters)

def Call.IsExt : Call → Prop
  | .ext _ => True
  | _ => False

section Programs

variable {α β : Type} {counters : List UsageBucket} {os : Nat → Outside}

lemma answer_of_isExt {c : Call} {o : Outside} (h : c.IsExt) :
    (answer counters c o).2 = counters := by
  cases c with
  | ext call => rfl
  | record | tryEnter | bodyEnd => exact h.elim

lemma only_quietly (p : Prog ExtCall ExtCall.Res α) : (quietly p).Only Call.IsExt := by
  induction p with
  | ret a => trivial
  | call c k ih => exact ⟨trivial, ih⟩

lemma only_handler (p : Unmetered α) : (Unmetered.handler p).run.Only Call.IsExt :=
  only_quietly p.run

lemma recordBilled_internal {auth : AuthContext} {cell : Option DatabaseId} {metric : UsageMetric}
    {delta : UInt64} (h : auth.internal = true) : recordBilled auth cell metric delta = .ret () :=
  if_pos h

lemma recordStatements_internal {auth : AuthContext} {id : DatabaseId} (h : auth.internal = true)
    (statements : List String) : recordStatements auth id statements = .ret () := by
  induction statements with
  | nil => rfl
  | cons sql statements ih =>
    simp only [recordStatements, recordBilled_internal h]
    exact ih

end Programs

/-! ## Handlers of internal requests -/

def Endpoint.isKv : Endpoint → Bool
  | .kvGet .. | .kvSet .. | .kvDel .. | .kvList .. | .kvExists .. | .kvMget .. | .kvMset ..
  | .kvTtl .. | .kvExpire .. | .kvIncr .. => true
  | _ => false

section Handlers

variable {max : Nat} {auth : AuthContext} {e : Endpoint} {counters : List UsageBucket}
variable {os : Nat → Outside}

lemma handle_of_isKv (max : Nat) (auth : AuthContext) (h : e.isKv = true) :
    ∃ id metric rest, handle max auth e = kvRequest auth id metric rest := by
  cases e with
  | kvGet id | kvSet id | kvDel id | kvList id | kvExists id | kvMget id | kvMset id | kvTtl id
  | kvExpire id | kvIncr id => exact ⟨id, _, _, rfl⟩
  | _ => cases h

lemma only_handle (hauth : auth.internal = true) (h : e.isKv = false) :
    (handle max auth e).run.Only Call.IsExt := by
  cases e with
  | kvGet | kvSet | kvDel | kvList | kvExists | kvMget | kvMset | kvTtl | kvExpire | kvIncr =>
    cases h
  | executeSql id sql =>
    simp only [handle, executeSql, recordBilled_internal hauth]
    refine Prog.only_exceptT_bind (only_handler _) fun cell => ?_
    refine Prog.only_exceptT_bind (only_handler _) fun n => ?_
    refine Prog.only_exceptT_bind trivial fun _ => ?_
    exact Prog.only_exceptT_bind (only_handler _) fun _ => trivial
  | executeTransaction id statements =>
    simp only [handle, executeTransaction, recordStatements_internal hauth]
    refine Prog.only_exceptT_bind (only_handler _) fun cell => ?_
    refine Prog.only_exceptT_bind (only_handler _) fun n => ?_
    refine Prog.only_exceptT_bind trivial fun _ => ?_
    exact Prog.only_exceptT_bind (only_handler _) fun _ => trivial
  | getPricing | openapiJson | rejected => trivial
  | _ => exact only_handler _

def afterRecord (id : DatabaseId) (rest : NodeId → Unmetered Nat) : Handler Nat := do
  let n ← Unmetered.handler (ExceptT.mk (ask (.clientFor id)))
  (rest n).handler

lemma only_afterRecord {id : DatabaseId} {rest : NodeId → Unmetered Nat} :
    (afterRecord id rest).run.Only Call.IsExt :=
  Prog.only_exceptT_bind (only_handler _) fun n => only_handler (rest n)

lemma kvRequest_run {id : DatabaseId} {metric : UsageMetric}
    {rest : Catalogue.DatabaseRecord → NodeId → Unmetered Nat} (hauth : auth.internal = true) :
    (kvRequest auth id metric rest).run = .call (.ext (.getDatabaseById id))
      fun (found : Result Catalogue.DatabaseRecord) =>
        match found with
        | .error err => .ret (.error err)
        | .ok cell => .call (.record auth.tenantId (some id) metric 1) fun _ =>
          (afterRecord id (rest cell)).run := by
  unfold kvRequest requireDb
  rw [if_pos hauth]
  refine congrArg (Prog.call _) (funext fun found => ?_)
  cases found with
  | error | ok => rfl

end Handlers

/-! ## The whole way -/

abbrev Transcript := List (Σ c : Call, c.Res)

/-- The request was refused a guard, or it is a KV request and its Cell was found. -/
def Charged (e : Endpoint) (tr : Transcript) : Prop :=
  (∃ k, (⟨.tryEnter k, false⟩ : Σ c : Call, c.Res) ∈ tr) ∨
    e.isKv = true ∧ ∃ id cell, (⟨.ext (.getDatabaseById id), .ok cell⟩ : Σ c : Call, c.Res) ∈ tr

def Accounts (e : Endpoint) (os : Nat → Outside) (counters : List UsageBucket)
    (p : Prog Call Call.Res Response) : Prop :=
  ¬ Charged e (p.transcript answer os counters) ∧ (p.run answer os counters).2 = counters ∨
    Charged e (p.transcript answer os counters) ∧ ∃ call : RecordCall, call.delta = 1 ∧
      (p.run answer os counters).2 = Billing.record counters call

section Accounts

variable {e : Endpoint} {os : Nat → Outside} {counters : List UsageBucket} {q : ConcurrencyQuota}
variable {req : Request} {p next : Prog Call Call.Res Response} {tr : Transcript}

lemma not_refused_of_isExt (h : ∀ ev ∈ tr, ev.1.IsExt) (k : CounterKey) :
    (⟨.tryEnter k, false⟩ : Σ c : Call, c.Res) ∉ tr :=
  fun hmem => h _ hmem

lemma accounts_of_only (h : p.Only Call.IsExt) (he : e.isKv = false) :
    Accounts e os counters p := by
  refine .inl ⟨?_, h.run_snd (fun _ _ _ hc => answer_of_isExt hc) os counters⟩
  rintro (⟨k, hk⟩ | ⟨hkv, -⟩)
  · exact not_refused_of_isExt (h.transcript os counters) k hk
  · cases he.symm.trans hkv

lemma accounts_kvRequest {auth : AuthContext} {id : DatabaseId} {metric : UsageMetric}
    {rest : Catalogue.DatabaseRecord → NodeId → Unmetered Nat} (hauth : auth.internal = true)
    (he : e.isKv = true) : Accounts e os counters (kvRequest auth id metric rest).run := by
  rw [kvRequest_run hauth]
  simp only [Accounts, Prog.transcript, Prog.run, answer]
  cases os 0 (.ext (.getDatabaseById id)) with
  | error err =>
    refine .inl ⟨?_, rfl⟩
    rintro (⟨k, hk⟩ | ⟨-, id', cell, hfound⟩)
    · cases List.mem_singleton.mp hk
    · cases List.mem_singleton.mp hfound
  | ok cell =>
    let call : RecordCall := ⟨auth.tenantId, some id, metric, 1,
      os 1 (.record auth.tenantId (some id) metric 1)⟩
    refine .inr ⟨.inr ⟨he, id, cell, List.mem_cons_self⟩, call, rfl, ?_⟩
    -- what follows the record is outside the meter
    have hrest : (afterRecord id (rest cell)).run.Only Call.IsExt := only_afterRecord
    have houtside : ∀ counters c o, Call.IsExt c → (answer counters c o).2 = counters :=
      fun _ _ _ hc => answer_of_isExt hc
    exact hrest.run_snd houtside (fun n => os (n + 2)) (Billing.record counters call)

lemma not_charged_iff : ¬ Charged e tr ↔
    (∀ k, (⟨.tryEnter k, false⟩ : Σ c : Call, c.Res) ∉ tr) ∧ (e.isKv = true →
      ∀ id cell, (⟨.ext (.getDatabaseById id), .ok cell⟩ : Σ c : Call, c.Res) ∉ tr) := by
  simp only [Charged, not_or, not_and, not_exists]

lemma charged_granted {k : CounterKey} :
    Charged e (⟨.tryEnter k, true⟩ :: tr) ↔ Charged e tr := by
  have hrefused : ∀ k', (⟨.tryEnter k', false⟩ : Σ c : Call, c.Res) ≠ ⟨.tryEnter k, true⟩ :=
    fun k' h => by cases h
  have hfound : ∀ id cell, (⟨.ext (.getDatabaseById id), .ok cell⟩ : Σ c : Call, c.Res) ≠
      ⟨.tryEnter k, true⟩ := fun id cell h => by cases h
  simp only [Charged, List.mem_cons, hrefused, hfound, false_or]

/-- A question for a guard: granted, it changes nothing; refused, the request is recorded. -/
lemma accounts_tryEnter {k : CounterKey} (hnext : ∀ os, Accounts e os counters next) :
    Accounts e os counters (.call (.tryEnter k) fun (entered : Bool) =>
      if entered then next else refuse req) := by
  cases hentered : os 0 (.tryEnter k) with
  | true =>
    simp only [Accounts, Prog.transcript, Prog.run, answer, hentered, if_true, charged_granted]
    exact hnext fun n => os (n + 1)
  | false =>
    simp only [Accounts, Prog.transcript, Prog.run, answer, hentered, Bool.false_eq_true,
      if_false]
    exact .inr ⟨.inl ⟨k, List.mem_cons_self⟩, ⟨req.tenant, req.cell, .requests, 1,
      os 1 (.record req.tenant req.cell .requests 1)⟩, rfl, rfl⟩

lemma accounts_concurrencyQuota (hnext : ∀ os, Accounts e os counters next) :
    Accounts e os counters (concurrencyQuota q req next) := by
  unfold concurrencyQuota
  cases req.cell with
  | none => exact accounts_tryEnter hnext
  | some cell =>
    by_cases hmax : 0 < q.maxPerCellConcurrency
    · simp only [hmax, if_true]
      exact accounts_tryEnter fun os => accounts_tryEnter hnext
    · simp only [hmax, if_false]
      exact accounts_tryEnter hnext

lemma accounts_serve {max : Nat} (hreq : req.internal = true) :
    Accounts e os counters (serve q max req e) := by
  have hauth : (req.auth.getD ⟨defaultTenant, false⟩).internal = true := by
    cases h : req.auth with
    | none => simp [Request.internal, h] at hreq
    | some auth => simpa [Request.internal, h] using hreq
  rw [serve, usageTracking, if_pos hreq]
  refine accounts_concurrencyQuota fun os => ?_
  by_cases he : e.isKv = true
  · rcases handle_of_isKv max _ he with ⟨id, metric, rest, heq⟩
    rw [heq]
    exact accounts_kvRequest hauth he
  · have he' : e.isKv = false := by simpa using he
    exact accounts_of_only (only_handle hauth he') he'

end Accounts

/-- An internal request changes no counter exactly if it is not refused for the limits and is not a
KV request whose Cell is found. -/
theorem internal_unbilled_iff (q : ConcurrencyQuota) (max : Nat) (req : Request) (e : Endpoint)
    (os : Nat → Outside) (counters : List UsageBucket) (hreq : req.internal = true)
    (hcounters : OneEach counters) :
    (∀ key, usageOf ((serve q max req e).run answer os counters).2 key = usageOf counters key) ↔
      (∀ k, (⟨.tryEnter k, false⟩ : Σ c : Call, c.Res) ∉
        (serve q max req e).transcript answer os counters) ∧
      (e.isKv = true → ∀ id cell, (⟨.ext (.getDatabaseById id), .ok cell⟩ : Σ c : Call, c.Res) ∉
        (serve q max req e).transcript answer os counters) := by
  rw [← not_charged_iff]
  have haccounts : Accounts e os counters (serve q max req e) := accounts_serve hreq
  rcases haccounts with ⟨hnot, hsame⟩ | ⟨hyes, call, hdelta, hmore⟩
  · rw [hsame]
    exact ⟨fun _ => hnot, fun _ _ => rfl⟩
  · refine ⟨fun hall => ?_, fun hnot => absurd hyes hnot⟩
    have hone : Billing.record counters call = Billing.usageAdd counters call.key 1 := by
      rw [Billing.record, hdelta]
      rfl
    rw [hmore, hone] at hall
    exact absurd (hall call.key) (Billing.usageOf_usageAdd_one_ne hcounters)

def obliging (cell : Catalogue.DatabaseRecord) : (c : ExtCall) → c.Res
  | .getDatabase .. | .getDatabaseById .. | .getDatabaseByName .. | .createDatabase ..
  | .renameDatabase .. | .resetDatabase .. | .setReplicaNode .. | .promoteReplica .. => .ok cell
  | .listDatabases .. => .ok [cell]
  | .ensureDatabaseByName .. => .ok (cell, false)
  | .saveIdempotency .. | .findTransactionByReference .. => .ok none
  | .newId => cell.id
  | .pickNode => some ⟨3⟩
  | .clientFor .. | .clientForNode .. => .ok ⟨3⟩
  | .setDatabaseState .. | .deleteDatabase .. | .createApiKey .. | .listApiKeys ..
  | .revokeApiKey .. | .queryUsage .. | .getCreditAccount .. | .listCreditTransactions ..
  | .redeemVoucher .. | .createWaitlistEntry .. | .node .. => .ok ()
  | .invalidateRoute .. => ()

def notes : Catalogue.DatabaseRecord :=
  ⟨⟨26⟩, "notes", ⟨5⟩, .active, 0, some ⟨3⟩, none, 1⟩

def atSecond125 (entered : Bool) (_ : Nat) : Outside
  | .ext call => obliging notes call
  | .record .. => (125 : Int)
  | .tryEnter .. => entered
  | .bodyEnd => none

/-- The service account of tenant 5 asks for something in the Cell. -/
def internalRequest (what : String) : Request :=
  ⟨some ⟨⟨5⟩, true⟩, "/v1/databases/00000000-0000-0000-0000-00000000001a/" ++ what⟩

/-- SQL that is let in changes no counter. -/
theorem internal_unbilled_iff_sql :
    let p := serve ⟨64, 32⟩ 0 (internalRequest "sql") (.executeSql ⟨26⟩ "SELECT 1")
    let counters : List UsageBucket := [⟨⟨⟨5⟩, none, .requests, 120⟩, 7⟩]
    (p.run answer (atSecond125 true) counters).1 = .ok 200 ∧
      ∀ key, usageOf (p.run answer (atSecond125 true) counters).2 key = usageOf counters key := by
  intro p counters
  have hcounters : OneEach counters := List.nodup_singleton _
  refine ⟨rfl, (internal_unbilled_iff _ _ _ _ _ _ rfl hcounters).mpr ⟨fun k hk => ?_, nofun⟩⟩
  have hcalls : p.transcript answer (atSecond125 true) counters =
      [⟨.tryEnter (.tenant ⟨5⟩), true⟩, ⟨.tryEnter (.cell ⟨26⟩), true⟩,
        ⟨.ext (.getDatabaseById ⟨26⟩), .ok notes⟩, ⟨.ext (.clientFor ⟨26⟩), .ok ⟨3⟩⟩,
        ⟨.ext (.node ⟨3⟩ (.executeSql ⟨26⟩ "SELECT 1" 1)), .ok ()⟩] := rfl
  rw [hcalls] at hk
  nomatch hk

def served (entered : Bool) (what : String) (e : Endpoint) : Response × List UsageBucket :=
  (serve ⟨64, 32⟩ 0 (internalRequest what) e).run answer (atSecond125 entered) []

/-- A KV request is counted as a read of its Cell, and a request that is refused as a request. -/
theorem internal_billed :
    (internalRequest "kv/k").internal = true ∧ (served true "kv/k" (.kvGet ⟨26⟩ "k")).1 = .ok 200 ∧
      usageOf (served true "kv/k" (.kvGet ⟨26⟩ "k")).2 ⟨⟨5⟩, some ⟨26⟩, .kvRead, 120⟩ = 1 ∧
      (served false "sql" (.executeSql ⟨26⟩ "SELECT 1")).1 = .ok 429 ∧
      usageOf (served false "sql" (.executeSql ⟨26⟩ "SELECT 1")).2
        ⟨⟨5⟩, some ⟨26⟩, .requests, 120⟩ = 1 :=
  ⟨rfl, rfl, by decide, rfl, by decide⟩

end Combee.ApiServer
