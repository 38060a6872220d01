import Combee.Common
import Combee.Foundation.Machine
import Mathlib.Data.List.DropRight

/-!
# Routing — the clients of data nodes that the API server keeps

`RoutingProvider` keeps one client for each node, and for five seconds the node of each Cell.
Lookups run at the same time; each lock and each `await` is a step. Around them records change,
nodes come and go, and calls are made through the clients.

* A lookup that finds its node unavailable reads the record again, but keeps the client for the node
  it finds then under the first node (`cached_clients_iff`).
* A failed call forgets the route of the Cell for which the shared client was made
  (`invalidates_iff`).
-/

namespace Combee.ApiServer.Routing

open Foundation
open Function (update update_of_ne update_self)

/-! ## Calls on a data node -/

/-- An error of the transport, or a status with its reason and text, and the body, if it can be
decoded. -/
inductive Http where
  | sendError (e : String)
  | response (status : Nat) (reason text : String) (body : Except String (Result Unit))

def isSuccess (status : Nat) : Bool :=
  200 ≤ status && status < 300

/-- The result, and whether `notify_error` is called. The errors that the node itself reports are
results. -/
def call (path : String) : Http → Result Unit × Bool
  | .sendError e => (.error (.internal s!"data node rpc {path}: {e}"), true)
  | .response status reason text body =>
    if isSuccess status then
      match body with
      | .error e => (.error (.internal s!"data node rpc {path} decode: {e}"), true)
      | .ok result => (result, false)
    else
      (.error (.internal s!"data node rpc {path}: HTTP {status} {reason}: {text}"), true)

/-- A failure of the transport, of the status or of the decoding. -/
def Http.Fails : Http → Bool
  | .sendError _ => true
  | .response status _ _ body => !isSuccess status || !body.isOk

lemma call_notifies (path : String) (http : Http) : (call path http).2 = http.Fails := by
  cases http with
  | sendError e => rfl
  | response status reason text body =>
    cases hs : isSuccess status with
    | false => simp [call, Http.Fails, hs]
    | true => cases body <;> simp [call, Http.Fails, hs, Except.isOk, Except.toBool]

/-! ## The provider -/

/-- A client in the process, or one that sends to `base`, with the Cell whose route its hook
removes. -/
inductive Client where
  | localNode
  | remote (base : String) (onError : Option DatabaseId)
  deriving DecidableEq, Repr

def baseUrl (addr : String) : String :=
  String.ofList (addr.toList.rdropWhile (· = '/'))

/-- `ROUTE_CACHE_TTL`, in milliseconds. -/
def routeCacheTtl : Nat := 5000

/-- The maps of the provider, and what it reads: the records, newest first, the healthy nodes and
the clock. -/
structure Provider where
  clients : NodeId → Option Client
  routeCache : DatabaseId → Option (NodeId × Nat)
  records : DatabaseId → List (Option (Option NodeId))
  healthy : NodeId → Bool
  now : Nat

namespace Provider

variable (s : Provider)

/-- `get_database_by_id`, by its `storage_node_id`. -/
def record (d : DatabaseId) : Option (Option NodeId) :=
  (s.records d).headD none

def insertRoute (d : DatabaseId) (n : NodeId) : Provider :=
  { s with routeCache := update s.routeCache d (some (n, s.now)) }

/-- `invalidate_route`, and the hook of a client. -/
def removeRoute (d : DatabaseId) : Provider :=
  { s with routeCache := update s.routeCache d none }

@[simp] lemma removeRoute_self (d : DatabaseId) : (s.removeRoute d).routeCache d = none :=
  update_self ..

lemma removeRoute_of_ne {d d' : DatabaseId} (h : d' ≠ d) :
    (s.removeRoute d).routeCache d' = s.routeCache d' :=
  update_of_ne h ..

def insertClient (n : NodeId) (c : Client) : Provider :=
  { s with clients := update s.clients n (some c) }

def notifyError : Option DatabaseId → Provider
  | some d => s.removeRoute d
  | none => s

lemma notifyError_same (onError : Option DatabaseId) :
    (s.notifyError onError).clients = s.clients ∧
      (s.notifyError onError).records = s.records := by
  cases onError <;> exact ⟨rfl, rfl⟩

def Was (d : DatabaseId) (n : NodeId) : Prop :=
  some (some n) ∈ s.records d

end Provider

/-- Where a lookup stands; in the retry, `n` is the node that was read first and `m` the second one.
-/
inductive Lookup where
  | route (d : DatabaseId)
  | elapsed (d : DatabaseId) (n : NodeId) (inserted : Nat)
  | cachedClient (d : DatabaseId) (n : NodeId)
  | cachedAddr (d : DatabaseId) (n : NodeId)
  | forget (d : DatabaseId)
  | authority (d : DatabaseId)
  | insert (d : DatabaseId) (n : NodeId)
  | addr (d : DatabaseId) (n : NodeId)
  | remove (d : DatabaseId) (n : NodeId)
  | reread (d : DatabaseId) (n : NodeId)
  | reinsert (d : DatabaseId) (n m : NodeId)
  | readdr (d : DatabaseId) (n m : NodeId)
  /-- `make_client` for the node `n`, with the address of `m`. -/
  | make (d : DatabaseId) (n m : NodeId)
  | nodeAddr (n : NodeId)
  | keep (n : NodeId)
  /-- The client has been returned; `d` is the Cell it was looked up for, if any. -/
  | holds (d : Option DatabaseId) (c : Client)
  | failed (e : CombeeError)

/-- Nothing of note, an error of the metadata store, or, with a client, a call through it. -/
inductive Move where
  | go
  | fault (e : CombeeError)
  | rpc (path : String) (http : Http)

def unavailable (n : NodeId) : CombeeError :=
  .internal s!"data node {n} unavailable"

def unassigned : CombeeError :=
  .internal "database has no storage node assigned"

section Steps

variable (address : NodeId → String) (withLocal : Bool)

/-- What `client_for` does with the record. -/
def resolve (d : DatabaseId) : Option (Option NodeId) → Lookup
  | none => .failed (.databaseNotFound d)
  | some none => if withLocal then .holds (some d) .localNode else .failed unassigned
  | some (some n) => .insert d n

def reresolve (d : DatabaseId) (n : NodeId) : Option (Option NodeId) → Lookup
  | none => .failed (.databaseNotFound d)
  | some none => .failed unassigned
  | some (some m) => .reinsert d n m

/-- The end of `client_for_node`, under the lock of the clients: one that is there is kept. -/
def keepClient (s : Provider) (n : NodeId) : Client × Provider :=
  match s.clients n with
  | some c => (c, s)
  | none =>
    let c := .remote (baseUrl (address n)) none
    (c, s.insertClient n c)

def act (s : Provider) (_ : Nat) : Lookup → Move → Option (Provider × Lookup)
  | .route d, .go => some (s,
      match s.routeCache d with
      | some (n, inserted) => .elapsed d n inserted
      | none => .authority d)
  -- an entry that is too old stays where it is
  | .elapsed d n inserted, .go =>
    some (s, if s.now - inserted < routeCacheTtl then .cachedClient d n else .authority d)
  | .cachedClient d n, .go => some (s,
      match s.clients n with
      | some c => .holds (some d) c
      | none => .cachedAddr d n)
  | .cachedAddr d n, .go => some (s, if s.healthy n then .make d n n else .forget d)
  | .forget d, .go => some (s.removeRoute d, .authority d)
  | .authority d, .go => some (s, resolve withLocal d (s.record d))
  | .authority _, .fault e => some (s, .failed e)
  | .insert d n, .go => some (s.insertRoute d n, .addr d n)
  | .addr d n, .go => some (s, if s.healthy n then .make d n n else .remove d n)
  | .remove d n, .go => some (s.removeRoute d, .reread d n)
  | .reread d n, .go => some (s, reresolve d n (s.record d))
  | .reread _ _, .fault e => some (s, .failed e)
  | .reinsert d n m, .go => some (s.insertRoute d m, .readdr d n m)
  | .readdr d n m, .go => some (s, if s.healthy m then .make d n m else .failed (unavailable m))
  -- the first node, with the address of the second
  | .make d n m, .go =>
    let c := .remote (baseUrl (address m)) (some d)
    some (s.insertClient n c, .holds (some d) c)
  | .nodeAddr n, .go => some (s, if s.healthy n then .keep n else .failed (unavailable n))
  | .keep n, .go => some ((keepClient address s n).2, .holds none (keepClient address s n).1)
  | .holds d (.remote base onError), .rpc path http =>
    some (if (call path http).2 then s.notifyError onError else s,
      .holds d (.remote base onError))
  | _, _ => none

/-- A record changes, a node comes or goes, time passes, or a route is forgotten. -/
inductive Event where
  | record (d : DatabaseId) (r : Option (Option NodeId))
  | health (n : NodeId) (healthy : Bool)
  | tick (ms : Nat)
  | invalidateRoute (d : DatabaseId)

def happen (s : Provider) : Event → Option Provider
  | .record d r => some { s with records := update s.records d (r :: s.records d) }
  | .health n healthy => some { s with healthy := update s.healthy n healthy }
  | .tick ms => some { s with now := s.now + ms }
  | .invalidateRoute d => some (s.removeRoute d)

abbrev State := Pool Provider Nat Lookup
abbrev Label := PoolLabel Nat Move Event

def step : State → Label → Option State :=
  Pool.step (act address withLocal) happen (fun _ p => p)

inductive Target where
  | cell (d : DatabaseId)
  | node (n : NodeId)

def Target.lookup : Target → Lookup
  | .cell d => .route d
  | .node n => .nodeAddr n

/-- `RoutingProvider::new` with the records and nodes as they are then, and lookups that are about
to begin. -/
def begun (record : DatabaseId → Option (Option NodeId)) (healthy : NodeId → Bool) (now : Nat)
    (targets : Nat → Target) : State :=
  ⟨⟨fun _ => none, fun _ => none, fun d => [record d], healthy, now⟩, fun i => (targets i).lookup⟩

end Steps

/-! ## Where the clients send -/

section Clients

variable {address : NodeId → String} {withLocal : Bool}

def RightClients (address : NodeId → String) (s : Provider) : Prop :=
  ∀ n c, s.clients n = some c → ∃ onError, c = .remote (baseUrl (address n)) onError

/-- The client sends to a node that has been the storage node of the Cell, or not at all. -/
def Routed (address : NodeId → String) (s : Provider) (d : DatabaseId) : Client → Prop
  | .localNode => True
  | .remote base _ => ∃ n, s.Was d n ∧ base = baseUrl (address n)

def Follows (address : NodeId → String) (s : Provider) : Lookup → Prop
  | .elapsed d n _ => s.Was d n
  | .cachedClient d n => s.Was d n
  | .cachedAddr d n => s.Was d n
  | .insert d n => s.Was d n
  | .addr d n => s.Was d n
  | .reinsert d _ m => s.Was d m
  | .readdr d _ m => s.Was d m
  | .make d _ m => s.Was d m
  | .holds (some d) c => Routed address s d c
  | _ => True

def RoutesWere (s : Provider) : Prop :=
  ∀ d n inserted, s.routeCache d = some (n, inserted) → s.Was d n

/-- `make_client` gets the address of the node under which it keeps the client. -/
def Agrees (address : NodeId → String) : Lookup → Bool
  | .make _ n m => baseUrl (address m) = baseUrl (address n)
  | _ => true

variable {s s' : Provider} {d : DatabaseId} {n : NodeId}

lemma was_of_record (h : s.record d = some (some n)) : s.Was d n := by
  unfold Provider.record at h
  unfold Provider.Was
  cases hr : s.records d with
  | nil =>
    rw [hr] at h
    cases h
  | cons r rs =>
    rw [hr] at h
    exact h ▸ List.mem_cons_self

lemma Routed.mono {c : Client} (h : Routed address s d c)
    (hs : ∀ d n, s.Was d n → s'.Was d n) : Routed address s' d c := by
  cases c with
  | localNode => trivial
  | remote base onError =>
    rcases h with ⟨n, hn, hbase⟩
    exact ⟨n, hs d n hn, hbase⟩

lemma Follows.mono {p : Lookup} (h : Follows address s p)
    (hs : ∀ d n, s.Was d n → s'.Was d n) : Follows address s' p := by
  cases p
  case holds d c =>
    cases d with
    | none => trivial
    | some d => exact Routed.mono h hs
  all_goals first
    | trivial
    | exact hs _ _ h

lemma RoutesWere.insert (h : RoutesWere s) (hn : s.Was d n) : RoutesWere (s.insertRoute d n) := by
  intro d' n' inserted hroute
  by_cases hd : d' = d
  · subst hd
    have hentry : some (n, s.now) = some (n', inserted) := by
      simpa [Provider.insertRoute] using hroute
    cases hentry
    exact hn
  · exact h d' n' inserted (by simpa [Provider.insertRoute, hd] using hroute)

lemma RoutesWere.remove (h : RoutesWere s) (d : DatabaseId) : RoutesWere (s.removeRoute d) := by
  intro d' n' inserted hroute
  by_cases hd : d' = d
  · subst hd
    rw [s.removeRoute_self] at hroute
    cases hroute
  · rw [s.removeRoute_of_ne hd] at hroute
    exact h d' n' inserted hroute

lemma RoutesWere.notify (h : RoutesWere s) (onError : Option DatabaseId) :
    RoutesWere (s.notifyError onError) := by
  cases onError with
  | none => exact h
  | some d => exact h.remove d

lemma rightClients_insert_iff (h : RightClients address s) {base : String}
    {onError : Option DatabaseId} :
    RightClients address (s.insertClient n (.remote base onError)) ↔
      base = baseUrl (address n) := by
  constructor
  · intro hright
    rcases hright n (.remote base onError) (by simp [Provider.insertClient]) with ⟨hook, heq⟩
    cases heq
    rfl
  · rintro rfl n' c hc
    by_cases hn : n' = n
    · subst hn
      have hclient : c = .remote (baseUrl (address n')) onError := by
        simpa [Provider.insertClient] using hc.symm
      exact ⟨onError, hclient⟩
    · exact h n' c (by simpa [Provider.insertClient, hn] using hc)

structure Keeps (address : NodeId → String) (s s' : Provider) (p p' : Lookup) : Prop where
  records : s'.records = s.records
  routes : RoutesWere s'
  follows : Follows address s' p'
  clients : RightClients address s' ↔ Agrees address p = true

lemma Keeps.of {p p' : Lookup} (hclients : RightClients address s)
    (hsame : s'.clients = s.clients ∧ s'.records = s.records) (hroutes : RoutesWere s')
    (hp' : Follows address s' p') (hp : Agrees address p = true) : Keeps address s s' p p' where
  records := hsame.2
  routes := hroutes
  follows := hp'
  clients := by
    refine iff_of_true ?_ hp
    intro n c hc
    exact hclients n c (hsame.1 ▸ hc)

lemma follows_resolve : Follows address s (resolve withLocal d (s.record d)) := by
  cases hr : s.record d with
  | none => trivial
  | some storage =>
    cases storage with
    | none => cases withLocal <;> trivial
    | some n => exact was_of_record hr

lemma follows_reresolve : Follows address s (reresolve d n (s.record d)) := by
  cases hr : s.record d with
  | none => trivial
  | some storage =>
    cases storage with
    | none => trivial
    | some m => exact was_of_record hr

lemma act_keeps {i : Nat} {p p' : Lookup} {move : Move} (hroutes : RoutesWere s)
    (hp : Follows address s p) (hclients : RightClients address s)
    (h : act address withLocal s i p move = some (s', p')) : Keeps address s s' p p' := by
  -- most steps only read
  have same : ∀ {p p'}, Follows address s p' → Agrees address p = true →
      Keeps address s s p p' := fun hp' hp => Keeps.of hclients ⟨rfl, rfl⟩ hroutes hp' hp
  cases p <;> cases move <;> try cases h
  case route.go d =>
    refine same ?_ rfl
    split
    · rename_i n inserted hroute
      exact hroutes d n inserted hroute
    · trivial
  case elapsed.go d n inserted =>
    refine same ?_ rfl
    split_ifs
    · exact hp
    · trivial
  case cachedClient.go d n =>
    refine same ?_ rfl
    split
    · rename_i c hc
      rcases hclients n c hc with ⟨onError, rfl⟩
      exact ⟨n, hp, rfl⟩
    · exact hp
  case cachedAddr.go d n =>
    refine same ?_ rfl
    split_ifs
    · exact hp
    · trivial
  case forget.go d =>
    exact Keeps.of hclients ⟨rfl, rfl⟩ (hroutes.remove d) trivial rfl
  case authority.go d =>
    exact same follows_resolve rfl
  case authority.fault d e => exact same trivial rfl
  case insert.go d n => exact Keeps.of hclients ⟨rfl, rfl⟩ (hroutes.insert hp) hp rfl
  case addr.go d n =>
    refine same ?_ rfl
    split_ifs
    · exact hp
    · trivial
  case remove.go d n =>
    exact Keeps.of hclients ⟨rfl, rfl⟩ (hroutes.remove d) trivial rfl
  case reread.go d n => exact same follows_reresolve rfl
  case reread.fault d n e => exact same trivial rfl
  case reinsert.go d n m => exact Keeps.of hclients ⟨rfl, rfl⟩ (hroutes.insert hp) hp rfl
  case readdr.go d n m =>
    refine same ?_ rfl
    split_ifs
    · exact hp
    · trivial
  case make.go d n m =>
    refine ⟨rfl, hroutes, ⟨m, hp, rfl⟩, ?_⟩
    exact (rightClients_insert_iff hclients).trans decide_eq_true_iff.symm
  case nodeAddr.go n =>
    refine same ?_ rfl
    split_ifs <;> trivial
  case keep.go n =>
    unfold keepClient
    cases hc : s.clients n with
    | some c => exact same trivial rfl
    | none =>
      have hright : RightClients address
          (s.insertClient n (.remote (baseUrl (address n)) none)) :=
        (rightClients_insert_iff hclients).mpr rfl
      exact ⟨rfl, hroutes, trivial, iff_of_true hright rfl⟩
  case holds.go d c => cases c <;> cases h
  case holds.fault d c e => cases c <;> cases h
  case holds.rpc d c path http =>
    cases c with
    | localNode => cases h
    | remote base onError =>
      cases h
      have hsame := s.notifyError_same onError
      split_ifs
      · refine Keeps.of hclients hsame (hroutes.notify onError) ?_ rfl
        exact Follows.mono hp fun d n hn => by rwa [Provider.Was, hsame.2]
      · exact same hp rfl

/-- What the steps keep, whatever `make_client` gets. -/
structure Inv (address : NodeId → String) (st : State) : Prop where
  routes : RoutesWere st.shared
  follows : ∀ i, Follows address st.shared (st.procs i)

/-- No client under a node, and none that a lookup has returned for a Cell, leads astray. -/
structure Right (address : NodeId → String) (st : State) : Prop where
  clients : RightClients address st.shared
  routed : ∀ i d c, st.procs i = .holds (some d) c → Routed address st.shared d c

def RetryAgrees (address : NodeId → String) (st : State) : Label → Bool
  | .proc i _ => Agrees address (st.procs i)
  | .env _ => true

lemma Inv.right_iff {st : State} (h : Inv address st) :
    Right address st ↔ RightClients address st.shared := by
  constructor
  · exact Right.clients
  · intro hclients
    refine ⟨hclients, ?_⟩
    intro i d c hi
    have hfollows := h.follows i
    rw [hi] at hfollows
    exact hfollows

lemma happen_keeps {e : Event} (hroutes : RoutesWere s) (h : happen s e = some s') :
    RoutesWere s' ∧ s'.clients = s.clients ∧ ∀ d n, s.Was d n → s'.Was d n := by
  cases e with
  | record d r =>
    cases h
    have hmono : ∀ d' n, s.Was d' n →
        some (some n) ∈ update s.records d (r :: s.records d) d' := by
      intro d' n hn
      by_cases hd : d' = d
      · subst hd
        rw [update_self]
        exact List.mem_cons_of_mem r hn
      · rw [update_of_ne hd]
        exact hn
    exact ⟨fun d' n inserted hroute => hmono d' n (hroutes d' n inserted hroute), rfl, hmono⟩
  | health | tick =>
    cases h
    exact ⟨hroutes, rfl, fun _ _ hn => hn⟩
  | invalidateRoute d =>
    cases h
    exact ⟨hroutes.remove d, rfl, fun _ _ hn => hn⟩

lemma step_keeps {st st' : State} {l : Label} (h : Inv address st) (hright : Right address st)
    (hstep : step address withLocal st l = some st') :
    Inv address st' ∧ (Right address st' ↔ RetryAgrees address st l = true) := by
  cases hstep using Pool.step_cases with
  | env e s' he =>
    rcases happen_keeps h.routes he with ⟨hroutes, hclients, hmono⟩
    have hinv : Inv address ⟨s', fun i => st.procs i⟩ :=
      ⟨hroutes, fun i => (h.follows i).mono hmono⟩
    refine ⟨hinv, hinv.right_iff.trans (iff_of_true ?_ rfl)⟩
    intro n c hc
    exact hright.clients n c (hclients ▸ hc)
  | proc i move s' p' hact =>
    have hkeeps := act_keeps h.routes (h.follows i) hright.clients hact
    have hinv : Inv address ⟨s', update st.procs i p'⟩ := by
      refine ⟨hkeeps.routes, ?_⟩
      intro j
      by_cases hj : j = i
      · subst hj
        simpa using hkeeps.follows
      · simp only [update_of_ne hj]
        refine (h.follows j).mono fun d n hn => ?_
        rwa [Provider.Was, hkeeps.records]
    exact ⟨hinv, hinv.right_iff.trans hkeeps.clients⟩

/-- All clients lead where they should exactly if `make_client` always gets the address of the node
under which it keeps the client; only a retry can give it another one. -/
theorem cached_clients_iff (address : NodeId → String) (withLocal : Bool)
    (record : DatabaseId → Option (Option NodeId)) (healthy : NodeId → Bool) (now : Nat)
    (targets : Nat → Target) (ls : List Label) :
    (∀ pre st, pre <+: ls →
      exec (step address withLocal) (begun record healthy now targets) pre = some st →
      Right address st) ↔
      Meets (step address withLocal) (fun st l => RetryAgrees address st l)
        (begun record healthy now targets) ls := by
  have hinv : Inv address (begun record healthy now targets) := by
    refine ⟨?_, ?_⟩
    · rintro d n inserted ⟨⟩
    · intro i
      simp only [begun]
      cases targets i <;> trivial
  have hright : Right address (begun record healthy now targets) := by
    refine hinv.right_iff.mpr ?_
    rintro n c ⟨⟩
  exact always_iff_meets (fun hI hP hstep => step_keeps hI hP hstep) hinv hright

end Clients

/-! ## A failover between two reads -/

def onOne (d : DatabaseId) : Option (Option NodeId) :=
  if d.raw = 7 ∨ d.raw = 8 then some (some ⟨1⟩) else none

def twoNodes (n : NodeId) : String :=
  if n.raw = 1 then "http://10.0.0.1:7000" else "http://10.0.0.2:7000"

def lookups : Nat → Target
  | 1 => .cell ⟨7⟩
  | _ => .cell ⟨8⟩

/-- Five steps from an empty cache to a client. -/
def resolved (i : Nat) : List Label :=
  List.replicate 5 (.proc i .go)

/-- Three steps from a fresh route to a client. -/
def hit (i : Nat) : List Label :=
  List.replicate 3 (.proc i .go)

/-- The second lookup gets to its retry when the Cell 7 is moved to the node 2; the third one finds
a route and a client. -/
def failedOver : List Label :=
  resolved 0 ++ [.env (.health ⟨1⟩ false)] ++ resolved 1 ++
    [.env (.record ⟨7⟩ (some (some ⟨2⟩)))] ++ List.replicate 4 (.proc 1 .go) ++ hit 2

def Lookup.held : Lookup → Option (Option DatabaseId × Client)
  | .holds d c => some (d, c)
  | _ => none

lemma Lookup.eq_of_held {p : Lookup} {d : Option DatabaseId} {c : Client}
    (h : p.held = some (d, c)) : p = .holds d c := by
  cases p <;> cases h
  rfl

/-- The client under the node 1 sends to the node 2, and with it the Cell 8, which was never
there. -/
theorem cached_client_wrong :
    ∃ st, exec (step twoNodes false) (begun onOne (fun _ => true) 0 lookups) failedOver = some st ∧
      ¬ RightClients twoNodes st.shared ∧
      ∃ c, st.procs 2 = .holds (some ⟨8⟩) c ∧ ¬ Routed twoNodes st.shared ⟨8⟩ c := by
  have hrun : (exec (step twoNodes false) (begun onOne (fun _ => true) 0 lookups) failedOver).map
      (fun st => (st.shared.clients ⟨1⟩, (st.procs 2).held)) =
      some (some (.remote (baseUrl (twoNodes ⟨2⟩)) (some ⟨7⟩)),
        some (some ⟨8⟩, .remote (baseUrl (twoNodes ⟨2⟩)) (some ⟨7⟩))) := by decide
  have hplaced : (exec (step twoNodes false) (begun onOne (fun _ => true) 0 lookups)
      failedOver).map (fun st => st.shared.records ⟨8⟩) = some [some (some ⟨1⟩)] := by decide
  have hne : baseUrl (twoNodes ⟨2⟩) ≠ baseUrl (twoNodes ⟨1⟩) := by decide
  rcases Option.map_eq_some_iff.mp hrun with ⟨st, hst, heq⟩
  rcases Prod.mk.inj heq with ⟨hclient, hheld⟩
  have hrecords : st.shared.records ⟨8⟩ = [some (some ⟨1⟩)] := by
    rw [hst] at hplaced
    exact Option.some.inj hplaced
  refine ⟨st, hst, ?_, _, Lookup.eq_of_held hheld, ?_⟩
  · intro hright
    rcases hright ⟨1⟩ _ hclient with ⟨onError, h⟩
    exact hne (Client.remote.inj h).1
  · rintro ⟨n, hwas, hbase⟩
    rw [Provider.Was, hrecords] at hwas
    have hn : n = ⟨1⟩ := Option.some.inj (Option.some.inj (List.mem_singleton.mp hwas))
    exact hne (hn ▸ hbase)

/-! ## Which route a failed call forgets -/

section Hooks

variable {address : NodeId → String} {withLocal : Bool}

/-- A call that fails through the client for the Cell `d` removes the route of `d` and no other. -/
def Invalidates (st : State) (l : Label) (st' : State) : Prop :=
  ∀ i path http d c, l = .proc i (.rpc path http) → http.Fails = true →
    st.procs i = .holds (some d) c →
    st'.shared.routeCache d = none ∧
      ∀ d', d' ≠ d → st'.shared.routeCache d' = st.shared.routeCache d'

/-- The client was made for the Cell it is used for, or there is nothing to forget. -/
def HookOwn (st : State) (l : Label) : Prop :=
  ∀ i path http d base onError, l = .proc i (.rpc path http) → http.Fails = true →
    st.procs i = .holds (some d) (.remote base onError) →
    onError = some d ∨ (st.shared.routeCache d = none ∧
      ∀ d', onError = some d' → st.shared.routeCache d' = none)

variable {s : Provider} {d : DatabaseId} {onError : Option DatabaseId}

lemma notifyError_invalidates_iff : ((s.notifyError onError).routeCache d = none ∧
      ∀ d', d' ≠ d → (s.notifyError onError).routeCache d' = s.routeCache d') ↔
      onError = some d ∨ (s.routeCache d = none ∧
        ∀ d', onError = some d' → s.routeCache d' = none) := by
  cases onError with
  | none =>
    constructor
    · rintro ⟨hd, _⟩
      exact .inr ⟨hd, by rintro d' ⟨⟩⟩
    · rintro (⟨⟨⟩⟩ | ⟨hd, _⟩)
      exact ⟨hd, fun _ _ => rfl⟩
  | some e =>
    by_cases hde : d = e
    · subst hde
      refine iff_of_true ⟨s.removeRoute_self d, ?_⟩ (.inl rfl)
      intro d' hd'
      exact s.removeRoute_of_ne hd'
    · -- the route that is removed is the one of another Cell
      have hd : (s.notifyError (some e)).routeCache d = s.routeCache d :=
        s.removeRoute_of_ne hde
      have he : (s.notifyError (some e)).routeCache e = none := s.removeRoute_self e
      constructor
      · rintro ⟨hnone, hothers⟩
        refine .inr ⟨hd ▸ hnone, ?_⟩
        rintro _ ⟨⟩
        exact (hothers e (Ne.symm hde)).symm.trans he
      · rintro (hown | ⟨hnone, hhook⟩)
        · exact absurd (Option.some.inj hown).symm hde
        · refine ⟨hd.trans hnone, ?_⟩
          intro d' _
          by_cases hd' : d' = e
          · subst hd'
            exact he.trans (hhook d' rfl).symm
          · exact s.removeRoute_of_ne hd'

variable {st st' : State} {l : Label}

lemma step_rpc {i : Nat} {path base : String} {http : Http}
    {held : Option DatabaseId} (hi : st.procs i = .holds held (.remote base onError))
    (hfails : http.Fails = true) :
    step address withLocal st (.proc i (.rpc path http)) =
      some ⟨st.shared.notifyError onError,
        update st.procs i (.holds held (.remote base onError))⟩ := by
  have hcall : (call path http).2 = true := (call_notifies path http).trans hfails
  refine Pool.step_proc_eq_some.mpr ⟨_, _, ?_, rfl⟩
  rw [hi]
  simp only [act, hcall, if_true]

lemma invalidates_iff_hookOwn :
    (∀ st', step address withLocal st l = some st' → Invalidates st l st') ↔ HookOwn st l := by
  constructor
  · rintro h i path http d base onError rfl hfails hi
    exact notifyError_invalidates_iff.mp
      (h _ (step_rpc hi hfails) i path http d _ rfl hfails hi)
  · rintro h st' hstep i path http d c rfl hfails hi
    cases c with
    | localNode =>
      -- a client in the process makes no such call
      rcases Pool.step_proc_eq_some.mp hstep with ⟨s', p', hact, _⟩
      rw [hi] at hact
      cases hact
    | remote base onError =>
      rw [step_rpc hi hfails] at hstep
      cases hstep
      exact notifyError_invalidates_iff.mpr (h i path http d base onError rfl hfails hi)

/-- A client that was looked up for a Cell was made for it. -/
def Own : Lookup → Prop
  | .holds (some d) (.remote _ onError) => onError = some d
  | _ => True

/-- A lookup that finds a client under the node of its Cell finds one that was made for the Cell. -/
def TakesOwn (st : State) : Label → Prop
  | .proc i _ => ∀ d n c, st.procs i = .cachedClient d n → st.shared.clients n = some c →
      Own (.holds (some d) c)
  | .env _ => True

lemma act_own {s' : Provider} {i : Nat} {p p' : Lookup} {move : Move} (hp : Own p)
    (htakes : ∀ d n c, p = .cachedClient d n → s.clients n = some c → Own (.holds (some d) c))
    (h : act address withLocal s i p move = some (s', p')) : Own p' := by
  cases p <;> cases move <;> try cases h
  case cachedClient.go d n =>
    split
    · exact htakes d n _ rfl ‹_›
    · trivial
  case authority.go d =>
    cases s.record d with
    | none => trivial
    | some storage => cases storage <;> cases withLocal <;> trivial
  case reread.go d n =>
    cases s.record d with
    | none => trivial
    | some storage => cases storage <;> trivial
  case make.go d n m => rfl
  case holds.rpc d c path http =>
    cases c with
    | localNode => cases h
    | remote base onError =>
      cases h
      exact hp
  case holds.go d c => cases c <;> cases h
  case holds.fault d c e => cases c <;> cases h
  all_goals first
    | trivial
    | (split <;> trivial)

lemma step_own (h : ∀ i, Own (st.procs i)) (htakes : TakesOwn st l)
    (hstep : step address withLocal st l = some st') : ∀ i, Own (st'.procs i) := by
  cases hstep using Pool.step_cases with
  | env e s' he => exact h
  | proc i move s' p' hact =>
    intro j
    by_cases hj : j = i
    · subst hj
      simpa using act_own (h j) htakes hact
    · simpa [hj] using h j

lemma meets_hookOwn {ls : List Label} (h : ∀ i, Own (st.procs i))
    (htakes : Meets (step address withLocal) TakesOwn st ls) :
    Meets (step address withLocal) HookOwn st ls := by
  induction ls generalizing st with
  | nil => trivial
  | cons l ls ih =>
    intro st' hstep
    rcases htakes st' hstep with ⟨hl, hrest⟩
    refine ⟨?_, ih (step_own h hl hstep) hrest⟩
    intro i path http d base onError _ _ hi
    have hown := h i
    rw [hi] at hown
    exact .inl hown

/-- Every call that fails forgets the route of its Cell and no other exactly if its client was made
for this Cell, or neither its route nor the one of the hook is there. So it is if no lookup takes a
client that was made for another Cell. -/
theorem invalidates_iff (address : NodeId → String) (withLocal : Bool)
    (record : DatabaseId → Option (Option NodeId)) (healthy : NodeId → Bool) (now : Nat)
    (targets : Nat → Target) (ls : List Label) :
    ((∀ pre l st st', pre ++ [l] <+: ls →
      exec (step address withLocal) (begun record healthy now targets) pre = some st →
      step address withLocal st l = some st' → Invalidates st l st') ↔
      Meets (step address withLocal) HookOwn (begun record healthy now targets) ls) ∧
    (Meets (step address withLocal) TakesOwn (begun record healthy now targets) ls →
      Meets (step address withLocal) HookOwn (begun record healthy now targets) ls) := by
  constructor
  · refine forall_steps_iff_meets.trans ⟨?_, ?_⟩
    · exact Meets.mono invalidates_iff_hookOwn.mp
    · exact Meets.mono invalidates_iff_hookOwn.mpr
  · refine meets_hookOwn fun i => ?_
    simp only [begun]
    cases targets i <;> trivial

end Hooks

def shared : Nat → Target
  | 1 => .cell ⟨8⟩
  | _ => .cell ⟨7⟩

def sharedNode : List Label :=
  resolved 0 ++ resolved 1 ++ hit 2

/-- The second lookup of 7 gets the client that was made for 8, so the route of 8 is forgotten. -/
theorem invalidates_other :
    ∃ st st', exec (step twoNodes false) (begun onOne (fun _ => true) 0 shared) sharedNode =
        some st ∧
      step twoNodes false st (.proc 2 (.rpc "sql" (.sendError "connection refused"))) = some st' ∧
      st.procs 2 = .holds (some ⟨7⟩) (.remote (baseUrl (twoNodes ⟨1⟩)) (some ⟨8⟩)) ∧
      st'.shared.routeCache ⟨7⟩ = some (⟨1⟩, 0) ∧
      st.shared.routeCache ⟨8⟩ = some (⟨1⟩, 0) ∧ st'.shared.routeCache ⟨8⟩ = none := by
  have hrun : (exec (step twoNodes false) (begun onOne (fun _ => true) 0 shared)
      sharedNode).map (fun st => (st.procs 2).held) =
      some (some (some ⟨7⟩, .remote (baseUrl (twoNodes ⟨1⟩)) (some ⟨8⟩))) := by decide
  have hcache : (exec (step twoNodes false) (begun onOne (fun _ => true) 0 shared)
      sharedNode).map (fun st => (st.shared.routeCache ⟨7⟩, st.shared.routeCache ⟨8⟩)) =
      some (some (⟨1⟩, 0), some (⟨1⟩, 0)) := by decide
  rcases Option.map_eq_some_iff.mp hrun with ⟨st, hst, hheld⟩
  have hi := Lookup.eq_of_held hheld
  rw [hst] at hcache
  rcases Prod.mk.inj (Option.some.inj hcache) with ⟨hseven, height⟩
  refine ⟨st, _, hst, step_rpc hi rfl, hi, ?_, height, st.shared.removeRoute_self ⟨8⟩⟩
  exact (st.shared.removeRoute_of_ne (by decide)).trans hseven

end Combee.ApiServer.Routing
