import Combee.Catalogue.Ensure

/-!
# KeyIsolation — one tenant's idempotency keys and the requests of another

The idempotency keys of all tenants are in one table. Whether tenant `b` is affected by what tenant
`a` has done with the same key is a question about two runs: the requests of `b` after those of `a`,
and the requests of `b` alone.

In the in-memory store `b` is told of the id that `a` has saved, which leads `b` to no Cell. In
PostgreSQL `b` is told of nothing and its first request goes through, but the key stays with `a`, so
that a retry of `b` makes a second Cell.
-/

namespace Combee.Catalogue

open List
open Billing (TenantId)
open LawfulStore
open MetadataStore

section Generic

variable {σ : Type} [MetadataStore σ] [LawfulStore σ] {max : Nat} {s s' : σ} {r : CreateRequest}
variable {a b : TenantId} {key : String}

def serveAll (max : Nat) (s : σ) : List CreateRequest → List Reply × σ
  | [] => ([], s)
  | r :: rs =>
    let (reply, s₁) := Api.createDatabase max s r
    let (replies, s₂) := serveAll max s₁ rs
    (reply :: replies, s₂)

def FreshRequests (records : List DatabaseRecord) (rs : List CreateRequest) : Prop :=
  (rs.map (·.id)).Nodup ∧ ∀ r ∈ rs, FreshIn records r.id

/-- The requests of `b` have the same replies and end with the same Cells as without the other
tenant. -/
def Unaffected (max : Nat) (s : σ) (uses asks : List CreateRequest) (b : TenantId) : Prop :=
  let (_, s₁) := serveAll max s uses
  (serveAll max s₁ asks).1 = (serveAll max s asks).1 ∧
  listDatabases (serveAll max s₁ asks).2 b =
    listDatabases (serveAll max s asks).2 b

/-! ## One request -/

def seen (s : σ) (key : String) (t : TenantId) : Option Payload :=
  (keys s key).bind fun entry =>
    if replays σ entry.1 t then some entry.2 else none

def Reply.IsReplay (reply : Reply) : Prop :=
  (∃ id name, reply = .replayed id name) ∨ ∃ id, reply = .failed (.databaseNotFound id)

def saved (s : σ) (key : String) (r : CreateRequest) : σ :=
  (saveIdempotency s key r.tenant (.json r.id)).2

lemma createDatabase_eq (hkey : r.key = some key) :
    Api.createDatabase max s r =
      match seen s key r.tenant with
      | some existing => (Api.replay (saved s key r) r.tenant existing, saved s key r)
      | none => Api.attempt max (saved s key r) r := by
  have hseen : (saveIdempotency s key r.tenant (.json r.id)).1 =
      seen s key r.tenant := save_fst
  unfold saved
  rcases hsave : saveIdempotency s key r.tenant (.json r.id) with ⟨existing, s₁⟩
  rw [hsave] at hseen
  rw [← hseen]
  simp only [Api.createDatabase, hkey, hsave]
  cases existing with
  | none | some => rfl

lemma attempt_cases (max : Nat) (s : σ) (r : CreateRequest) :
    (∃ e, Api.attempt max s r = (.failed e, s) ∧ ∀ id, e ≠ .databaseNotFound id) ∨
    ∃ record s₁, createDatabase s r.tenant r.id r.node r.name r.now =
        (.ok record, s₁) ∧
      Api.attempt max s r = (.created r.id record.name,
        (setDatabaseState s₁ r.tenant r.id .active).2) := by
  unfold Api.attempt
  cases hquota : cellQuota max (listDatabases s r.tenant).length with
  | error e =>
    refine .inl ⟨e, rfl, fun id he => ?_⟩
    subst he
    unfold cellQuota at hquota
    split_ifs at hquota
    cases hquota
  | ok _ =>
    cases hname : validateOptional r.name with
    | error e =>
      refine .inl ⟨e, rfl, fun id he => ?_⟩
      subst he
      exact validateOptional_ne_notFound hname
    | ok _ =>
      rcases create_spec s r.tenant r.id r.node r.name r.now with
        ⟨e, herr, hne⟩ | ⟨record, s₁, hok, _⟩
      · exact .inl ⟨e, by simp [herr], hne⟩
      · exact .inr ⟨record, s₁, hok, by simp [hok]⟩

lemma attempt_not_replay : ¬ (Api.attempt max s r).1.IsReplay := by
  rcases attempt_cases max s r with ⟨e, h, hne⟩ | ⟨record, s₁, _, h⟩
  · rw [h]
    rintro (⟨id, name, heq⟩ | ⟨id, heq⟩)
    · cases heq
    · exact hne id (Reply.failed.inj heq)
  · rw [h]
    rintro (⟨id, name, heq⟩ | ⟨id, heq⟩)
    · cases heq
    · cases heq

variable {id : DatabaseId}

lemma replay_json : (Api.replay s b (.json id)).IsReplay := by
  simp only [Api.replay, Payload.cachedId, get_eq]
  cases (cells s).find? (·.IsCell b id) with
  | none => exact .inr ⟨id, rfl⟩
  | some record => exact .inl ⟨record.id, record.name, rfl⟩

lemma attempt_keys : keys (Api.attempt max s r).2 = keys s := by
  rcases attempt_cases max s r with ⟨e, h, _⟩ | ⟨record, s₁, hcreate, h⟩
  · rw [h]
  · rw [h, setState_keys]
    rcases create_spec s r.tenant r.id r.node r.name r.now with
      ⟨e, herr, _⟩ | ⟨record', s₂, hok, _, _, _, hkeys⟩
    · cases hcreate.symm.trans herr
    · cases hcreate.symm.trans hok
      exact hkeys

variable {records : List DatabaseRecord}

lemma freshIn_withState {t : TenantId} {id id' : DatabaseId}
    {state : DatabaseState} (h : FreshIn records id) :
    FreshIn (withState records t id' state) id := by
  intro x hx
  rcases mem_map.mp hx with ⟨y, hy, rfl⟩
  split_ifs
  · exact h y hy
  · exact h y hy

lemma attempt_fresh (h : FreshIn (cells s) id) (hne : id ≠ r.id) :
    FreshIn (cells (Api.attempt max s r).2) id := by
  rcases attempt_cases max s r with ⟨e, heq, _⟩ | ⟨record, s₁, hcreate, heq⟩
  · rw [heq]
    exact h
  · rw [heq, setState_cells]
    refine freshIn_withState ?_
    rcases create_spec s r.tenant r.id r.node r.name r.now with
      ⟨e, herr, _⟩ | ⟨record', s₂, hok, _, hid, hcells, _⟩
    · cases hcreate.symm.trans herr
    · cases hcreate.symm.trans hok
      rw [hcells]
      refine forall_mem_append.mpr ⟨h, forall_mem_singleton.mpr ?_⟩
      rw [hid]
      exact hne.symm

lemma attempt_frame (hb : b ≠ r.tenant) : SameFor b s (Api.attempt max s r).2 := by
  rcases attempt_cases max s r with ⟨e, h, _⟩ | ⟨record, s₁, hcreate, h⟩
  · rw [h]
    exact same_refl
  · have hframe : SameFor b s
        (createDatabase s r.tenant r.id r.node r.name r.now).2 :=
      create_frame hb
    rw [hcreate] at hframe
    rw [h]
    exact same_trans hframe (setState_frame hb)

lemma attempt_same (hs : SameFor r.tenant s s')
    (h : FreshIn (cells s) r.id) (h' : FreshIn (cells s') r.id) :
    (Api.attempt max s r).1 = (Api.attempt max s' r).1 ∧
      SameFor r.tenant (Api.attempt max s r).2 (Api.attempt max s' r).2 := by
  have hcreate : (createDatabase s r.tenant r.id r.node r.name r.now).1 =
      (createDatabase s' r.tenant r.id r.node r.name r.now).1 ∧
    SameFor r.tenant
      (createDatabase s r.tenant r.id r.node r.name r.now).2
      (createDatabase s' r.tenant r.id r.node r.name r.now).2 :=
    create_same hs h h'
  unfold Api.attempt
  rw [list_same hs]
  cases cellQuota max (listDatabases s' r.tenant).length with
  | error e => exact ⟨rfl, hs⟩
  | ok _ =>
    cases validateOptional r.name with
    | error e => exact ⟨rfl, hs⟩
    | ok _ =>
      rcases hc : createDatabase s r.tenant r.id r.node r.name r.now with
        ⟨result, s₁⟩
      rcases hc' : createDatabase s' r.tenant r.id r.node r.name r.now with
        ⟨result', s1'⟩
      rw [hc, hc'] at hcreate
      rcases hcreate with ⟨hresult, hsame⟩
      dsimp only at hresult hsame
      subst hresult
      cases result with
      | error e => exact ⟨rfl, hsame⟩
      | ok record => exact ⟨rfl, setState_same hsame⟩

/-! ### The same with the key -/

lemma saved_same : SameFor b s (saved s key r) :=
  save_same

lemma saved_fresh (h : FreshIn (cells s) id) :
    FreshIn (cells (saved s key r)) id := by
  rw [saved, save_cells]
  exact h

lemma createDatabase_keys (hkey : r.key = some key) :
    keys (Api.createDatabase max s r).2 key =
      some ((keys s key).getD (r.tenant, .json r.id)) := by
  have hsaved : keys (saved s key r) key =
      some ((keys s key).getD (r.tenant, .json r.id)) := by
    rw [saved, save_keys]
    cases h : keys s key with
    | none => simp
    | some entry => simp [h]
  rw [createDatabase_eq hkey]
  cases seen s key r.tenant with
  | some existing => exact hsaved
  | none =>
    dsimp only
    rw [attempt_keys]
    exact hsaved

lemma createDatabase_fresh (max : Nat) (hkey : r.key = some key)
    (h : FreshIn (cells s) id) (hne : id ≠ r.id) :
    FreshIn (cells (Api.createDatabase max s r).2) id := by
  rw [createDatabase_eq hkey]
  cases seen s key r.tenant with
  | some existing => exact saved_fresh h
  | none => exact attempt_fresh (saved_fresh h) hne

lemma createDatabase_frame (hkey : r.key = some key) (hb : b ≠ r.tenant) :
    SameFor b s (Api.createDatabase max s r).2 := by
  rw [createDatabase_eq hkey]
  cases seen s key r.tenant with
  | some existing => exact saved_same
  | none => exact same_trans saved_same (attempt_frame hb)

lemma createDatabase_same (max : Nat) (hkey : r.key = some key)
    (hs : SameFor r.tenant s s') (hseen : seen s key r.tenant = seen s' key r.tenant)
    (h : FreshIn (cells s) r.id) (h' : FreshIn (cells s') r.id) :
    (Api.createDatabase max s r).1 = (Api.createDatabase max s' r).1 ∧
      SameFor r.tenant (Api.createDatabase max s r).2
        (Api.createDatabase max s' r).2 := by
  have hsaved : SameFor r.tenant (saved s key r) (saved s' key r) :=
    same_trans (same_symm saved_same)
      (same_trans hs saved_same)
  rw [createDatabase_eq hkey, createDatabase_eq hkey, hseen]
  cases seen s' key r.tenant with
  | none => exact attempt_same hsaved (saved_fresh h) (saved_fresh h')
  | some existing =>
    refine ⟨?_, hsaved⟩
    simp only [Api.replay]
    cases existing.cachedId with
    | error e => rfl
    | ok id => simp only [get_same hsaved]

/-! ## Many requests -/

def AllFor (t : TenantId) (key : String) (rs : List CreateRequest) : Prop :=
  ∀ r ∈ rs, r.tenant = t ∧ r.key = some key

variable {rs : List CreateRequest}

omit [LawfulStore σ] in
lemma serveAll_cons : serveAll max s (r :: rs) =
      ((Api.createDatabase max s r).1 :: (serveAll max (Api.createDatabase max s r).2 rs).1,
        (serveAll max (Api.createDatabase max s r).2 rs).2) :=
  rfl

lemma serveAll_keys (max : Nat) (s : σ) (hrs : AllFor a key rs) :
    keys (serveAll max s rs).2 key =
      (keys s key).orElse fun _ => rs.head?.map fun r => (a, .json r.id) := by
  induction rs generalizing s with
  | nil => cases h : keys s key <;> simp [serveAll, h]
  | cons r rs ih =>
    rcases hrs r mem_cons_self with ⟨rfl, hkey⟩
    rw [serveAll_cons]
    dsimp only
    rw [ih _ (forall_mem_cons.mp hrs).2, createDatabase_keys hkey]
    cases keys s key <;> rfl

lemma serveAll_fresh (hrs : AllFor a key rs)
    (h : FreshIn (cells s) id) (hid : ∀ r ∈ rs, id ≠ r.id) :
    FreshIn (cells (serveAll max s rs).2) id := by
  induction rs generalizing s with
  | nil => exact h
  | cons r rs ih =>
    have hfirst := createDatabase_fresh max (hrs r mem_cons_self).2 h
      (hid r mem_cons_self)
    exact ih (forall_mem_cons.mp hrs).2 hfirst
      (forall_mem_cons.mp hid).2

lemma serveAll_frame (hrs : AllFor a key rs) (hab : b ≠ a) :
    SameFor b s (serveAll max s rs).2 := by
  induction rs generalizing s with
  | nil => exact same_refl
  | cons r rs ih =>
    rcases hrs r mem_cons_self with ⟨rfl, hkey⟩
    exact same_trans (createDatabase_frame hkey hab)
      (ih fun q hq => hrs q (mem_cons_of_mem _ hq))

lemma FreshRequests.tail (hkey : r.key = some key)
    (h : FreshRequests (cells s) (r :: rs)) :
    FreshRequests (cells (Api.createDatabase max s r).2) rs := by
  rcases nodup_cons.mp h.1 with ⟨hr, hrest⟩
  refine ⟨hrest, fun q hq => ?_⟩
  refine createDatabase_fresh max hkey (h.2 q (mem_cons_of_mem _ hq)) fun heq => hr ?_
  exact mem_map.mpr ⟨q, hq, heq⟩

lemma serveAll_same (max : Nat) (hrs : AllFor b key rs)
    (hs : SameFor b s s') (htaken : (keys s key).isSome = true)
    (hkeys : keys s key = keys s' key)
    (h : FreshRequests (cells s) rs) (h' : FreshRequests (cells s') rs) :
    (serveAll max s rs).1 = (serveAll max s' rs).1 ∧
      SameFor b (serveAll max s rs).2 (serveAll max s' rs).2 := by
  induction rs generalizing s s' with
  | nil => exact ⟨rfl, hs⟩
  | cons r rs ih =>
    rcases hrs r mem_cons_self with ⟨rfl, hkey⟩
    have hseen : seen s key r.tenant = seen s' key r.tenant := by rw [seen, seen, hkeys]
    rcases createDatabase_same max hkey hs hseen (h.2 r mem_cons_self)
      (h'.2 r mem_cons_self) with ⟨hreply, hsame⟩
    have hrest := ih (forall_mem_cons.mp hrs).2 hsame
      (by rw [createDatabase_keys hkey]; rfl)
      (by rw [createDatabase_keys hkey, createDatabase_keys hkey, hkeys])
      (h.tail hkey) (h'.tail hkey)
    rw [serveAll_cons, serveAll_cons, hreply, hrest.1]
    exact ⟨rfl, hrest.2⟩

lemma FreshRequests.after_uses (max : Nat) {uses asks : List CreateRequest}
    (huses : AllFor a key uses) (h : FreshRequests (cells s) (uses ++ asks)) :
    FreshRequests (cells (serveAll max s uses).2) asks := by
  have hnodup : (uses.map (·.id) ++ asks.map (·.id)).Nodup := by simpa using h.1
  rcases nodup_append.mp hnodup with ⟨_, hasks, hne⟩
  refine ⟨hasks, fun q hq => serveAll_fresh huses (h.2 q (mem_append_right _ hq)) ?_⟩
  intro r hr heq
  exact hne r.id (mem_map_of_mem hr) q.id (mem_map_of_mem hq) heq.symm

lemma FreshRequests.asks {uses asks : List CreateRequest}
    (h : FreshRequests records (uses ++ asks)) : FreshRequests records asks := by
  have hnodup : (uses.map (·.id) ++ asks.map (·.id)).Nodup := by simpa using h.1
  exact ⟨(nodup_append.mp hnodup).2.1, fun q hq => h.2 q (mem_append_right _ hq)⟩

/-! ## What decides -/

lemma isReplay_of_seen (hkey : r.key = some key)
    (hseen : seen s key r.tenant = some (.json id)) : (Api.createDatabase max s r).1.IsReplay := by
  rw [createDatabase_eq hkey, hseen]
  exact replay_json

lemma not_isReplay_of_seen (hkey : r.key = some key) (hseen : seen s key r.tenant = none) :
    ¬ (Api.createDatabase max s r).1.IsReplay := by
  rw [createDatabase_eq hkey, hseen]
  exact attempt_not_replay

lemma seen_of_keys {owner : TenantId} {p : Payload} (h : keys s key = some (owner, p))
    : seen s key b = if replays σ owner b then some p else none := by
  rw [seen, h]
  rfl

lemma unaffected_of_cases {uses asks : List CreateRequest} (hab : a ≠ b)
    (huses : AllFor a key uses) (hasks : AllFor b key asks)
    (hfresh : FreshRequests (cells s) (uses ++ asks))
    (h : uses = [] ∨ (keys s key).isSome = true ∨ asks = [] ∨
      (replays σ a b = false ∧ asks.length = 1)) : Unaffected max s uses asks b := by
  have hframe : SameFor b (serveAll max s uses).2 s :=
    same_symm (serveAll_frame huses hab.symm)
  have hkeys := serveAll_keys max s huses
  have hafter := hfresh.after_uses max huses
  rcases h with rfl | htaken | rfl | ⟨hreplays, hlength⟩
  · exact ⟨rfl, rfl⟩
  · -- the key keeps its entry, so both runs see the same
    rcases Option.isSome_iff_exists.mp htaken with ⟨entry, hentry⟩
    rw [hentry] at hkeys
    have hsame := serveAll_same max hasks hframe (by rw [hkeys]; rfl)
      (hkeys.trans hentry.symm) hafter hfresh.asks
    exact ⟨hsame.1, list_same hsame.2⟩
  · exact ⟨rfl, list_same hframe⟩
  · -- the tenant is told of nothing in either run
    rcases length_eq_one_iff.mp hlength with ⟨r, rfl⟩
    rcases hasks r mem_cons_self with ⟨rfl, hkey⟩
    have hseen : seen (serveAll max s uses).2 key r.tenant = seen s key r.tenant := by
      cases hentry : keys s key with
      | some entry =>
        rw [hentry] at hkeys
        rw [seen, seen, hkeys, hentry]
        rfl
      | none =>
        rw [hentry] at hkeys
        cases uses with
        | nil => rw [seen, seen, hkeys, hentry]; rfl
        | cons u us =>
          rw [seen_of_keys hkeys, hreplays, seen, hentry]
          rfl
    have hsame := createDatabase_same max hkey hframe hseen (hafter.2 r mem_cons_self)
      (hfresh.asks.2 r mem_cons_self)
    refine ⟨?_, list_same hsame.2⟩
    rw [serveAll_cons, serveAll_cons, hsame.1]
    rfl

lemma cases_of_unaffected {uses asks : List CreateRequest} (huses : AllFor a key uses)
    (hasks : AllFor b key asks) (h : Unaffected max s uses asks b) :
    uses = [] ∨ (keys s key).isSome = true ∨ asks = [] ∨
      (replays σ a b = false ∧ asks.length = 1) := by
  have hreplies : (serveAll max (serveAll max s uses).2 asks).1 = (serveAll max s asks).1 := h.1
  have hkeys := serveAll_keys max s huses
  cases uses with
  | nil => exact .inl rfl
  | cons u us =>
    cases hfree : keys s key with
    | some entry => exact .inr (.inl rfl)
    | none =>
      rw [hfree] at hkeys
      cases asks with
      | nil => exact .inr (.inr (.inl rfl))
      | cons r rest =>
        rcases hasks r mem_cons_self with ⟨rfl, hkey⟩
        refine .inr (.inr (.inr ?_))
        rw [serveAll_cons, serveAll_cons] at hreplies
        rcases cons.inj hreplies with ⟨hfirst, hrest⟩
        have hseen := seen_of_keys (b := r.tenant) hkeys
        -- alone, the first request is told of nothing
        have hattempt : ¬ (Api.createDatabase max s r).1.IsReplay :=
          not_isReplay_of_seen hkey (by rw [seen, hfree]; rfl)
        have hreplays : replays σ a r.tenant = false := by
          by_contra htold
          rw [if_pos (by simpa using htold)] at hseen
          exact hattempt (hfirst ▸ isReplay_of_seen hkey hseen)
        refine ⟨hreplays, ?_⟩
        cases rest with
        | nil => rfl
        | cons r2 rest =>
          rcases hasks r2 (by simp) with ⟨htenant, hkey2⟩
          rw [serveAll_cons, serveAll_cons] at hrest
          have hsecond := (cons.inj hrest).1
          -- after the other tenant the retry is an attempt again, alone it is a replay
          have htaken : keys (Api.createDatabase max
              (serveAll max s (u :: us)).2 r).2 key = some (a, .json u.id) := by
            rw [createDatabase_keys hkey, hkeys]
            rfl
          have hown : keys (Api.createDatabase max s r).2 key =
              some (r.tenant, .json r.id) := by
            rw [createDatabase_keys hkey, hfree]
            rfl
          have hagain := seen_of_keys (b := r2.tenant) htaken
          have hback := seen_of_keys (b := r2.tenant) hown
          rw [htenant, hreplays] at hagain
          rw [htenant, replays_self] at hback
          exact absurd (hsecond ▸ isReplay_of_seen hkey2 (htenant ▸ hback))
            (not_isReplay_of_seen hkey2 (htenant ▸ hagain))

/-- Exactly if there are no requests of the other tenant, or the key was taken before, or there are
none of the tenant, or the store does not tell the tenant of the key and there is one request. -/
lemma unaffected_iff {uses asks : List CreateRequest} (hab : a ≠ b) (huses : AllFor a key uses)
    (hasks : AllFor b key asks) (hfresh : FreshRequests (cells s) (uses ++ asks)) :
    Unaffected max s uses asks b ↔ uses = [] ∨ (keys s key).isSome = true ∨
      asks = [] ∨ (replays σ a b = false ∧ asks.length = 1) :=
  ⟨cases_of_unaffected huses hasks, unaffected_of_cases hab huses hasks hfresh⟩

end Generic

/-! ## Both stores -/

/-- The second tenant is unaffected exactly if the first makes no request, or the key was taken
before, or the second makes none; in PostgreSQL also if it makes one. -/
theorem key_isolation_iff (a b : TenantId) (key : String) (max : Nat)
    (uses asks : List CreateRequest) (hab : a ≠ b) (huses : AllFor a key uses)
    (hasks : AllFor b key asks) :
    (∀ s : InMemoryStore, FreshRequests s.databases (uses ++ asks) →
      (Unaffected max s uses asks b ↔
        uses = [] ∨ (s.idempotency key).isSome = true ∨ asks = [])) ∧
    (∀ s : PostgresStore, FreshRequests s.records (uses ++ asks) →
      (Unaffected max s uses asks b ↔
        uses = [] ∨ (s.idempotencyKeys key).isSome = true ∨ asks.length ≤ 1)) := by
  constructor
  · intro s hfresh
    have htold : replays InMemoryStore a b = true := rfl
    have hkeys : keys s key = s.idempotency key := rfl
    rw [unaffected_iff hab huses hasks hfresh]
    simp only [htold, hkeys, Bool.true_eq_false, false_and, or_false]
  · intro s hfresh
    have htold : replays PostgresStore a b = false := by
      simpa [replays] using hab
    have hkeys : keys s key = s.idempotencyKeys key := rfl
    have hlength : (asks = [] ∨ asks.length = 1) ↔ asks.length ≤ 1 := by
      rw [← length_eq_zero_iff]
      omega
    rw [unaffected_iff hab huses hasks hfresh]
    simp only [htold, hkeys, true_and, hlength]

/-- A request for a Cell, with the key `retry-1`. -/
def keyed (tenant id : Nat) (name : String) : CreateRequest :=
  ⟨⟨tenant⟩, some "retry-1", ⟨id⟩, some name, none, 60⟩

/-- In memory tenant 6 has used the key before; on PostgreSQL it makes one request. -/
theorem key_isolation_iff_once :
    Unaffected 0 (Api.createDatabase 0 emptyInMemory (keyed 6 1 "notes")).2
      [keyed 5 2 "notes"] [keyed 6 3 "notes"] ⟨6⟩ ∧
    Unaffected 0 emptyPostgres [keyed 5 2 "notes"] [keyed 6 3 "notes"] ⟨6⟩ := by
  have hfive : AllFor ⟨5⟩ "retry-1" [keyed 5 2 "notes"] := by simp [AllFor, keyed]
  have hsix : AllFor ⟨6⟩ "retry-1" [keyed 6 3 "notes"] := by simp [AllFor, keyed]
  have hboth := key_isolation_iff ⟨5⟩ ⟨6⟩ "retry-1" 0 _ _ (by decide) hfive hsix
  constructor
  · refine (hboth.1 _ ⟨by decide, ?_⟩).mpr (.inr (.inl rfl))
    unfold FreshIn
    decide
  · refine (hboth.2 _ ⟨by decide, ?_⟩).mpr (.inr (.inr (le_refl 1)))
    unfold FreshIn
    decide

/-- The same request without a name; the id starts with the digits of `n`. -/
def unnamed (tenant n : Nat) : CreateRequest :=
  ⟨⟨tenant⟩, some "retry-1", ⟨n * 2 ^ 96⟩, none, none, 60⟩

/-- In memory the request of tenant 6 fails with the id of a Cell that is not its own; on PostgreSQL
its retry makes a second Cell. -/
theorem key_leaks :
    ((serveAll 0 (Api.createDatabase 0 emptyInMemory (keyed 5 1 "notes")).2
        [keyed 6 2 "notes"]).1 = [.failed (.databaseNotFound ⟨1⟩)] ∧
      (serveAll 0 emptyInMemory [keyed 6 2 "notes"]).1 = [.created ⟨2⟩ "notes"]) ∧
    ((serveAll 0 (Api.createDatabase 0 emptyPostgres (unnamed 5 1)).2
        [unnamed 6 2, unnamed 6 3]).1 =
        [.created ⟨2 * 2 ^ 96⟩ "cell-00000002", .created ⟨3 * 2 ^ 96⟩ "cell-00000003"] ∧
      (serveAll 0 emptyPostgres [unnamed 6 2, unnamed 6 3]).1 =
        [.created ⟨2 * 2 ^ 96⟩ "cell-00000002", .replayed ⟨2 * 2 ^ 96⟩ "cell-00000002"]) := by
  decide

end Combee.Catalogue
