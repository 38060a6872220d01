import Combee.Catalogue.CellQuota
import Combee.Catalogue.KeyIsolation

/-!
# Idempotency — creating a Cell with an `Idempotency-Key`, again and at the same time

Any number of requests of one tenant with one key (`Batch`). All that they see of each other is the
entry of the key and which Cells there are (`View`). `Moves` is the protocol of the key in these
terms, and `act_moves` connects it to the handler.

The key is taken before anything is checked and is never given back. From then on the others are
answered "not found" until the Cell is there, which is forever if the owner of the key fails.
-/

namespace Combee.Catalogue

open List
open Billing (TenantId)
open Foundation
open LawfulStore

structure Batch (ι : Type) where
  tenant : TenantId
  key : String
  req : ι → CreateRequest
  tenant_eq : ∀ i, (req i).tenant = tenant
  key_eq : ∀ i, (req i).key = some key
  ids_injective : Function.Injective fun i => (req i).id

/-- The entry of the key, and the ids of the Cells of the tenant. -/
structure View where
  taken : Option (TenantId × Payload)
  ids : List DatabaseId

namespace Batch

variable {ι : Type} {b : Batch ι} {i j o : ι} {v v' : View} {pc pc' : Pc} {fault : Bool} {n : Nat}

/-! ## The protocol of a key -/

/-- The key is the one of the request `o`. -/
def Owns (b : Batch ι) (v : View) (o : ι) : Prop :=
  v.taken = some (b.tenant, .json (b.req o).id)

def take (b : Batch ι) (v : View) (i : ι) : View :=
  { v with taken := some (b.tenant, .json (b.req i).id) }

def make (b : Batch ι) (v : View) (i : ι) : View :=
  { v with ids := v.ids ++ [(b.req i).id] }

lemma Owns.unique (h : b.Owns v i) (h' : b.Owns v j) : i = j := by
  have heq := h.symm.trans h'
  simp only [Option.some.injEq, Prod.mk.injEq, Payload.json.injEq, true_and] at heq
  exact b.ids_injective heq

/-- The steps of the request `i`; `fault` says whether the store has failed the call. -/
inductive Moves (b : Batch ι) (i : ι) : Bool → View → Pc → View → Pc → Prop where
  | takes {v : View} (hfree : v.taken = none) :
      Moves b i false v (.save (b.req i)) (b.take v i) (.count (.create (b.req i)))
  | told {v : View} {o : ι} (howner : b.Owns v o) :
      Moves b i false v (.save (b.req i)) v (.replay (b.req i) (.json (b.req o).id))
  | found {v o name} (hcell : (b.req o).id ∈ v.ids) :
      Moves b i false v (.replay (b.req i) (.json (b.req o).id)) v
        (.answered (.replayed (b.req o).id name))
  | missing {v : View} {o : ι} (hcell : (b.req o).id ∉ v.ids) :
      Moves b i false v (.replay (b.req i) (.json (b.req o).id)) v
        (.answered (.failed (.databaseNotFound (b.req o).id)))
  | counted {fault : Bool} {v : View} :
      Moves b i fault v (.count (.create (b.req i))) v (.insert (b.req i))
  | makes {v name} :
      Moves b i false v (.insert (b.req i)) (b.make v i)
        (.activate b.tenant (b.req i).id (.created (b.req i).id name))
  | activates {fault v name} :
      Moves b i fault v (.activate b.tenant (b.req i).id (.created (b.req i).id name)) v
        (.answered (.created (b.req i).id name))
  /-- Over the limit, an invalid name or a name that is in use. -/
  | refused {fault v pc e} (hpc : pc = .count (.create (b.req i)) ∨ pc = .insert (b.req i))
      (he : ∀ id, e ≠ .databaseNotFound id) : Moves b i fault v pc v (.answered (.failed e))
  | faulted {v pc e} : Moves b i true v pc v (.answered (.failed (.internal e)))
  /-- The call has failed for the request only. -/
  | takesUnseen {v e} (hfree : v.taken = none) :
      Moves b i true v (.save (b.req i)) (b.take v i) (.answered (.failed (.internal e)))
  | makesUnseen {v e} :
      Moves b i true v (.insert (b.req i)) (b.make v i) (.answered (.failed (.internal e)))

/-- There are `n` Cells at first. Only the owner of the key has made one. -/
structure Sound (b : Batch ι) (n : Nat) (v : View) : Prop where
  owner : v.taken = none ∨ ∃ o, b.Owns v o
  cell : ∀ j, (b.req j).id ∈ v.ids → b.Owns v j
  count : v.ids.length ≤ n ∨ v.ids.length ≤ n + 1 ∧ ∃ o, b.Owns v o ∧ (b.req o).id ∈ v.ids

/-- What is so when the request `i` is where it is. -/
inductive Follows (b : Batch ι) (v : View) (i : ι) : Pc → Prop where
  | save : Follows b v i (.save (b.req i))
  | replay {o : ι} (howner : b.Owns v o) :
      Follows b v i (.replay (b.req i) (.json (b.req o).id))
  | count (howner : b.Owns v i) (hcell : (b.req i).id ∉ v.ids) :
      Follows b v i (.count (.create (b.req i)))
  | insert (howner : b.Owns v i) (hcell : (b.req i).id ∉ v.ids) :
      Follows b v i (.insert (b.req i))
  | activate {name : String} (howner : b.Owns v i) (hcell : (b.req i).id ∈ v.ids) :
      Follows b v i (.activate b.tenant (b.req i).id (.created (b.req i).id name))
  | created {name : String} (howner : b.Owns v i) (hcell : (b.req i).id ∈ v.ids) :
      Follows b v i (.answered (.created (b.req i).id name))
  | replayed {o : ι} {name : String} (howner : b.Owns v o) (hcell : (b.req o).id ∈ v.ids) :
      Follows b v i (.answered (.replayed (b.req o).id name))
  | failed {e : CombeeError} : Follows b v i (.answered (.failed e))

/-- The three things that a step can do to what the others see. -/
lemma Moves.effect (h : b.Moves i fault v pc v' pc') :
    v' = v ∨ (v.taken = none ∧ v' = b.take v i) ∨ (pc = .insert (b.req i) ∧ v' = b.make v i) := by
  cases h with
  | takes hfree | takesUnseen hfree => exact .inr (.inl ⟨hfree, rfl⟩)
  | makes | makesUnseen => exact .inr (.inr ⟨rfl, rfl⟩)
  | _ => exact .inl rfl

lemma Follows.inserting (h : b.Follows v i (.insert (b.req i))) :
    b.Owns v i ∧ (b.req i).id ∉ v.ids := by
  cases h with
  | insert howner hcell => exact ⟨howner, hcell⟩

lemma Follows.replaying (h : b.Follows v i (.replay (b.req i) (.json (b.req o).id))) :
    b.Owns v o := by
  generalize hq : Pc.replay (b.req i) (.json (b.req o).id) = q at h
  cases h with
  | @replay o' howner =>
    -- different requests have different ids
    obtain rfl : o = o' := b.ids_injective (Payload.json.inj (Pc.replay.inj hq).2)
    exact howner
  | _ => cases hq

section

variable (h : b.Moves i fault v pc v' pc')
include h

lemma Moves.owns (ho : b.Owns v o) : b.Owns v' o := by
  rcases h.effect with rfl | ⟨hfree, -⟩ | ⟨-, rfl⟩
  · exact ho
  · cases hfree.symm.trans ho
  · exact ho

lemma Moves.mem_ids {id : DatabaseId} (hid : id ∈ v.ids) : id ∈ v'.ids := by
  rcases h.effect with rfl | ⟨-, rfl⟩ | ⟨-, rfl⟩
  · exact hid
  · exact hid
  · exact mem_append_left _ hid

/-- A request makes no Cell of another request. -/
lemma Moves.not_mem_ids (hij : j ≠ i) (hid : (b.req j).id ∉ v.ids) : (b.req j).id ∉ v'.ids := by
  rcases h.effect with rfl | ⟨-, rfl⟩ | ⟨-, rfl⟩
  · exact hid
  · exact hid
  · intro hmem
    rcases mem_append.mp hmem with hold | hnew
    · exact hid hold
    · exact hij (b.ids_injective (mem_singleton.mp hnew))

lemma Moves.sound (hs : b.Sound n v) (hpc : b.Follows v i pc) : b.Sound n v' := by
  rcases h.effect with rfl | ⟨hfree, rfl⟩ | ⟨rfl, rfl⟩
  · exact hs
  · -- nobody owned the key, so there is no Cell of any of the requests
    have hnone : ∀ o, ¬ b.Owns v o := fun o ho => by cases hfree.symm.trans ho
    refine ⟨.inr ⟨i, rfl⟩, fun j hj => absurd (hs.cell j hj) (hnone j), ?_⟩
    rcases hs.count with hle | ⟨-, o, ho, -⟩
    · exact .inl hle
    · exact absurd ho (hnone o)
  · rcases hpc.inserting with ⟨howner, hcell⟩
    refine ⟨.inr ⟨i, howner⟩, fun j hj => ?_, .inr ⟨?_, i, howner, by simp [make]⟩⟩
    · rcases mem_append.mp hj with hold | hnew
      · exact hs.cell j hold
      · obtain rfl : j = i := b.ids_injective (mem_singleton.mp hnew)
        exact howner
    · -- a second Cell would need a second owner
      have hle : v.ids.length ≤ n := by
        rcases hs.count with hle | ⟨-, o, ho, hmem⟩
        · exact hle
        · exact absurd (ho.unique howner ▸ hmem) hcell
      simpa [make] using hle

lemma Moves.follows (hs : b.Sound n v) (hpc : b.Follows v i pc) : b.Follows v' i pc' := by
  cases h with
  | takes hfree =>
    refine .count rfl fun hmem => ?_
    cases hfree.symm.trans (hs.cell i hmem)
  | told howner => exact .replay howner
  | found hcell => exact .replayed hpc.replaying hcell
  | missing | refused | faulted | takesUnseen | makesUnseen => exact .failed
  | counted =>
    cases hpc with
    | count howner hcell => exact .insert howner hcell
  | makes => exact .activate hpc.inserting.1 (by simp [make])
  | activates =>
    cases hpc with
    | activate howner hcell => exact .created howner hcell

lemma Moves.follows_other (hij : j ≠ i) {q : Pc} (hq : b.Follows v j q) : b.Follows v' j q := by
  cases hq with
  | save => exact .save
  | replay howner => exact .replay (h.owns howner)
  | count howner hcell => exact .count (h.owns howner) (h.not_mem_ids hij hcell)
  | insert howner hcell => exact .insert (h.owns howner) (h.not_mem_ids hij hcell)
  | activate howner hcell => exact .activate (h.owns howner) (h.mem_ids hcell)
  | created howner hcell => exact .created (h.owns howner) (h.mem_ids hcell)
  | replayed howner hcell => exact .replayed (h.owns howner) (h.mem_ids hcell)
  | failed => exact .failed

end

lemma Moves.of_replay {r : CreateRequest} {p : Payload}
    (h : b.Moves i false v (.replay r p) v' pc') :
    ∃ o, p = .json (b.req o).id ∧
      ((∃ name, (b.req o).id ∈ v.ids ∧ pc' = .answered (.replayed (b.req o).id name)) ∨
        (b.req o).id ∉ v.ids ∧ pc' = .answered (.failed (.databaseNotFound (b.req o).id))) := by
  cases h with
  | found hcell => exact ⟨_, rfl, .inl ⟨_, hcell, rfl⟩⟩
  | missing hcell => exact ⟨_, rfl, .inr ⟨hcell, rfl⟩⟩
  | refused hpc => simp at hpc

lemma Moves.notFound_iff (h : b.Moves i fault v pc v' pc') :
    (∃ id, pc' = .answered (.failed (.databaseNotFound id))) ↔
      fault = false ∧ ∃ r id, pc = .replay r (.json id) ∧ id ∉ v.ids := by
  constructor
  · rintro ⟨id, rfl⟩
    cases h with
    | missing hcell => exact ⟨rfl, _, _, rfl, hcell⟩
    | refused _ he => exact absurd rfl (he id)
  · rintro ⟨rfl, r, id, rfl, hcell⟩
    rcases h.of_replay with ⟨o, hid, ⟨name, hmem, -⟩ | ⟨-, hpc'⟩⟩
    · cases hid
      exact absurd hmem hcell
    · exact ⟨_, hpc'⟩

/-- A request that starts when the request `o` has made its Cell. -/
def Late (b : Batch ι) (o i : ι) (v : View) (pc : Pc) : Prop :=
  b.Owns v o ∧ (b.req o).id ∈ v.ids ∧
    (pc = .save (b.req i) ∨ pc = .replay (b.req i) (.json (b.req o).id) ∨
      ∃ name, pc = .answered (.replayed (b.req o).id name))

lemma Moves.late (h : b.Moves i false v pc v' pc') (hlate : b.Late o i v pc) :
    b.Late o i v' pc' := by
  rcases hlate with ⟨howner, hcell, hpc⟩
  refine ⟨h.owns howner, h.mem_ids hcell, ?_⟩
  rcases hpc with rfl | rfl | ⟨name, rfl⟩
  · cases h with
    | takes hfree => cases hfree.symm.trans howner
    | told howner' =>
      obtain rfl := howner.unique howner'
      exact .inr (.inl rfl)
    | refused hpc => simp at hpc
  · rcases h.of_replay with ⟨o', hid, ⟨name, -, hpc'⟩ | ⟨hnone, -⟩⟩
    · obtain rfl : o = o' := b.ids_injective (Payload.json.inj hid)
      exact .inr (.inr ⟨name, hpc'⟩)
    · exact absurd (Payload.json.inj hid ▸ hcell) hnone
  · cases h with
    | refused hpc => simp at hpc

/-- Without a fault of the store, the request fails as the owner of the key or with "not found". -/
def FailsAlone (b : Batch ι) (i : ι) (v : View) (pc : Pc) : Prop :=
  ∀ e, pc = .answered (.failed e) → (∃ id, e = .databaseNotFound id) ∨ b.Owns v i

lemma Moves.failsAlone (h : b.Moves i false v pc v' pc') (hpc : b.Follows v i pc) :
    b.FailsAlone i v' pc' := by
  intro e he
  subst he
  cases h with
  | missing => exact .inl ⟨_, rfl⟩
  | refused hrefused =>
    right
    rcases hrefused with rfl | rfl
    · cases hpc with
      | count howner => exact howner
    · exact hpc.inserting.1

/-! ## What the store shows -/

section Shown

variable {σ : Type} [MetadataStore σ] [LawfulStore σ] {g g' : σ} {c : Choice} {max : Nat}
variable {id : DatabaseId} {s : Pool σ ι Pc}

def view (b : Batch ι) (g : σ) : View :=
  ⟨keys g b.key, ((cells g).filter (·.tenantId = b.tenant)).map (·.id)⟩

lemma length_ids : (b.view g).ids.length = owned g b.tenant :=
  length_map _

lemma mem_ids_view :
    id ∈ (b.view g).ids ↔ ∃ r ∈ cells g, r.IsCell b.tenant id = true := by
  simp only [view, mem_map, mem_filter, decide_eq_true_eq, DatabaseRecord.isCell_iff, and_assoc]

lemma view_save : b.view (saved g b.key (b.req i)) =
    if (b.view g).taken = none then b.take (b.view g) i else b.view g := by
  simp only [view, saved, save_cells, save_keys, b.tenant_eq]
  by_cases hkey : keys g b.key = none
  · simp [hkey, take]
  · simp [hkey]

lemma view_save_of_owns (h : b.Owns (b.view g) o) :
    b.view (saved g b.key (b.req i)) = b.view g := by
  have htaken : (b.view g).taken ≠ none := fun hfree => by cases hfree.symm.trans h
  rw [view_save, if_neg htaken]

lemma seen_of_free (h : (b.view g).taken = none) : seen g b.key b.tenant = none := by
  rw [seen, show keys g b.key = none from h]
  rfl

lemma seen_of_owns (h : b.Owns (b.view g) o) :
    seen g b.key b.tenant = some (.json (b.req o).id) := by
  rw [seen, show keys g b.key = some (b.tenant, .json (b.req o).id) from h]
  simp [replays_self]

lemma view_setState {state : DatabaseState} :
    b.view (MetadataStore.setDatabaseState g b.tenant id state).2 = b.view g := by
  simp only [view, setState_keys, setState_cells, withState_filter,
    View.mk.injEq, true_and]
  rw [withState, map_map]
  refine map_congr_left fun r _ => ?_
  simp only [Function.comp]
  split_ifs <;> rfl

/-- A call for a new Cell, which changes nothing if it fails. -/
lemma view_create :
    (∃ e, MetadataStore.createDatabase g b.tenant (b.req i).id (b.req i).node (b.req i).name
        (b.req i).now = (.error e, g) ∧ ∀ id, e ≠ .databaseNotFound id) ∨
    ∃ r g', MetadataStore.createDatabase g b.tenant (b.req i).id (b.req i).node (b.req i).name
        (b.req i).now = (.ok r, g') ∧ b.view g' = b.make (b.view g) i := by
  rcases create_spec g b.tenant (b.req i).id (b.req i).node (b.req i).name
    (b.req i).now with herr | ⟨r, g', hok, htenant, hid, hcells, hkeys⟩
  · exact .inl herr
  · exact .inr ⟨r, g', hok, by simp [view, make, hcells, hkeys, htenant, hid]⟩

lemma get_of_mem (h : id ∈ (b.view g).ids) :
    ∃ r, MetadataStore.getDatabase g b.tenant id = .ok r ∧ r.id = id := by
  rcases mem_ids_view.mp h with ⟨r, hr, hcell⟩
  cases hfind : (cells g).find? (·.IsCell b.tenant id) with
  | none => exact absurd hcell (find?_eq_none.mp hfind r hr)
  | some r' =>
    have hcell' : r'.IsCell b.tenant id = true := find?_some hfind
    exact ⟨r', by rw [get_eq, hfind]; rfl, (DatabaseRecord.isCell_iff.mp hcell').2⟩

lemma get_of_not_mem (h : id ∉ (b.view g).ids) :
    MetadataStore.getDatabase g b.tenant id = .error (.databaseNotFound id) := by
  have hnone : (cells g).find? (·.IsCell b.tenant id) = none :=
    find?_eq_none.mpr fun r hr hcell => h (mem_ids_view.mpr ⟨r, hr, hcell⟩)
  rw [get_eq, hnone]
  rfl

lemma moves_of_call {α : Type} {result : Result α × σ}
    {next : Result α → Pc}
    (h : some ((c.call g result).2, next (c.call g result).1) = some (g', pc'))
    (hnext : ∀ e, next (.error e) = .answered (.failed e))
    (hok : b.Moves i false (b.view g) pc (b.view result.2) (next result.1))
    (hunseen : ∀ e, b.Moves i true (b.view g) pc (b.view result.2)
      (.answered (.failed (.internal e)))) :
    b.Moves i c.fault.isSome (b.view g) pc (b.view g') pc' := by
  cases h
  rcases c.call_cases g result with ⟨hfault, hcall⟩ | ⟨e, hfault, hcall | hcall⟩
  · rw [hcall, hfault]
    exact hok
  · rw [hcall, hfault, hnext]
    exact .faulted
  · rw [hcall, hfault, hnext]
    exact hunseen e

lemma act_save : act max g (.save (b.req i)) c =
    some ((c.call g (.ok (seen g b.key b.tenant), saved g b.key (b.req i))).2, afterSave (b.req i)
      (c.call g (.ok (seen g b.key b.tenant), saved g b.key (b.req i))).1) := by
  simp only [act, b.key_eq, b.tenant_eq, save_fst, seen, saved]

lemma moves_save (hs : b.Sound n (b.view g)) (h : act max g (.save (b.req i)) c = some (g', pc'))
    : b.Moves i c.fault.isSome (b.view g) (.save (b.req i)) (b.view g') pc' := by
  rw [act_save] at h
  refine moves_of_call h (fun e => rfl) ?_ ?_
  · rcases hs.owner with hfree | ⟨o, howner⟩
    · rw [seen_of_free hfree, view_save, if_pos hfree]
      exact .takes hfree
    · rw [seen_of_owns howner, view_save_of_owns howner]
      exact .told howner
  · intro e
    rw [view_save]
    split_ifs with hfree
    · exact .takesUnseen hfree
    · exact .faulted

lemma moves_replay (h : act max g (.replay (b.req i) (.json (b.req o).id)) c = some (g', pc')) :
    b.Moves i c.fault.isSome (b.view g) (.replay (b.req i) (.json (b.req o).id))
      (b.view g') pc' := by
  simp only [act, Payload.cachedId, b.tenant_eq] at h
  refine moves_of_call h (fun e => rfl) ?_ fun e => .faulted
  by_cases hcell : (b.req o).id ∈ (b.view g).ids
  · rcases get_of_mem hcell with ⟨r, hget, hid⟩
    simp only [hget, afterGet, hid]
    exact .found hcell
  · simp only [get_of_not_mem hcell, afterGet]
    exact .missing hcell

lemma moves_afterCount (count : Nat) (fault : Bool) :
    b.Moves i fault v (.count (.create (b.req i))) v
      (afterCount max (.create (b.req i)) (.ok count)) := by
  simp only [afterCount, cellQuota]
  split_ifs
  · exact .refused (.inl rfl) (by simp)
  · exact .counted

lemma moves_count (h : act max g (.count (.create (b.req i))) c = some (g', pc')) :
    b.Moves i c.fault.isSome (b.view g) (.count (.create (b.req i))) (b.view g') pc' := by
  simp only [act] at h
  split_ifs at h
  · cases h
    exact moves_afterCount 0 _
  · exact moves_of_call h (fun e => rfl) (moves_afterCount _ false) fun e => .faulted

lemma moves_insert (h : act max g (.insert (b.req i)) c = some (g', pc')) :
    b.Moves i c.fault.isSome (b.view g) (.insert (b.req i)) (b.view g') pc' := by
  simp only [act, b.tenant_eq] at h
  split at h
  case h_1 e hname =>
    cases h
    refine .refused (.inr rfl) fun id he => ?_
    subst he
    exact validateOptional_ne_notFound hname
  case h_2 =>
    rcases view_create (b := b) (i := i) (g := g) with ⟨e, herr, hne⟩ | ⟨r, g1, hok, hview⟩
    · rw [herr] at h
      exact moves_of_call h (fun e => rfl) (.refused (.inr rfl) hne) fun e => .faulted
    · rw [hok] at h
      refine moves_of_call h (fun e => rfl) ?_ fun e => ?_
      · simp only [hview, afterCreate, b.tenant_eq]
        exact .makes
      · simp only [hview]
        exact .makesUnseen

lemma act_moves (hs : b.Sound n (b.view g)) (hpc : b.Follows (b.view g) i pc)
    (h : act max g pc c = some (g', pc')) :
    b.Moves i c.fault.isSome (b.view g) pc (b.view g') pc' := by
  cases hpc with
  | save => exact moves_save hs h
  | replay howner => exact moves_replay h
  | count howner hcell => exact moves_count h
  | insert howner hcell => exact moves_insert h
  | activate howner hcell =>
    have hview : b.view (c.call g
        (MetadataStore.setDatabaseState g b.tenant (b.req i).id .active)).2 = b.view g :=
      Choice.call_snd (P := fun g' => b.view g' = b.view g) rfl view_setState
    simp only [act] at h
    cases h
    rw [hview]
    exact .activates
  | created | replayed | failed => cases h

def Keeps (b : Batch ι) (n : Nat) (s : Pool σ ι Pc) : Prop :=
  Pool.Inv (fun g => b.Sound n (b.view g)) (fun g => b.Follows (b.view g)) s

/-- The requests are all at their start, their ids are new and so is the key. -/
structure Begins (b : Batch ι) (s : Pool σ ι Pc) : Prop where
  start : ∀ i, s.procs i = .save (b.req i)
  fresh : ∀ i, FreshIn (cells s.shared) (b.req i).id
  key : keys s.shared b.key = none

lemma Begins.keeps (h : b.Begins s) : b.Keeps (owned s.shared b.tenant) s := by
  refine ⟨⟨.inl h.key, fun j hj => ?_, .inl (le_of_eq length_ids)⟩, fun i => ?_⟩
  · rcases mem_ids_view.mp hj with ⟨r, hr, hcell⟩
    exact absurd (DatabaseRecord.isCell_iff.mp hcell).2 (h.fresh j r hr)
  · rw [h.start i]
    exact .save

def named : Pc → Option DatabaseId
  | .answered (.created id _) => some id
  | .answered (.replayed id _) => some id
  | _ => none

lemma Follows.named {id : DatabaseId} (h : b.Follows v i pc) (hid : Batch.named pc = some id) :
    ∃ o, b.Owns v o ∧ (b.req o).id ∈ v.ids ∧ id = (b.req o).id := by
  cases h with
  | created howner hcell => exact ⟨i, howner, hcell, (Option.some.inj hid).symm⟩
  | replayed howner hcell => exact ⟨_, howner, hcell, (Option.some.inj hid).symm⟩
  | _ => cases hid

lemma Keeps.one_cell (hs : b.Keeps n s) :
    owned s.shared b.tenant ≤ n + 1 ∧ ∀ i j id id', named (s.procs i) = some id →
      named (s.procs j) = some id' → id = id' := by
  constructor
  · rw [← length_ids]
    rcases hs.shared.count with hle | ⟨hle, -⟩
    · exact hle.trans (Nat.le_succ n)
    · exact hle
  · intro i j id id' hi hj
    rcases (hs.procs i).named hi with ⟨o, howner, -, rfl⟩
    rcases (hs.procs j).named hj with ⟨o', howner', -, rfl⟩
    rw [howner.unique howner']

lemma Late.answers {g : σ} (max : Nat) (h : b.Late o i (b.view g) pc) :
    ∃ g' name, runs max g pc (.replayed (b.req o).id name, g') := by
  rcases h with ⟨howner, hcell, hpc⟩
  have hlookup : ∀ g : σ, (b.req o).id ∈ (b.view g).ids → ∃ name,
      runs max g (.replay (b.req i) (.json (b.req o).id)) (.replayed (b.req o).id name, g) := by
    intro g hcell
    rcases get_of_mem hcell with ⟨r, hget, hid⟩
    have hact : act max g (.replay (b.req i) (.json (b.req o).id)) {} =
        some (g, .answered (.replayed (b.req o).id r.name)) := by
      simp [act, Payload.cachedId, b.tenant_eq, Choice.call, hget, afterGet, hid]
    exact ⟨r.name, runs_of_act hact runs_answered⟩
  rcases hpc with rfl | rfl | ⟨name, rfl⟩
  · have hact : act max g (.save (b.req i)) {} =
        some (saved g b.key (b.req i), .replay (b.req i) (.json (b.req o).id)) := by
      rw [act_save, seen_of_owns howner]
      rfl
    rcases hlookup (saved g b.key (b.req i)) (by rwa [view_save_of_owns howner]) with ⟨name, hrun⟩
    exact ⟨_, name, runs_of_act hact hrun⟩
  · rcases hlookup g hcell with ⟨name, hrun⟩
    exact ⟨g, name, hrun⟩
  · exact ⟨g, name, runs_answered⟩

/-- The reply to a request alone is the one of a first attempt only if the key is free. -/
lemma Keeps.retry_iff (max : Nat) (hs : b.Keeps n s) :
    (Api.createDatabase max s.shared (b.req i)).1 =
        (Api.attempt max (saved s.shared b.key (b.req i)) (b.req i)).1 ↔
      keys s.shared b.key = none := by
  rw [createDatabase_eq (b.key_eq i), b.tenant_eq]
  rcases hs.shared.owner with hfree | ⟨o, howner⟩
  · rw [seen_of_free hfree]
    exact ⟨fun _ => hfree, fun _ => rfl⟩
  · rw [seen_of_owns howner]
    refine ⟨fun heq => ?_, fun hfree => ?_⟩
    · -- a first attempt is never answered like a replay
      have hfirst : ¬ (Api.attempt max (saved s.shared b.key (b.req i)) (b.req i)).1.IsReplay :=
        attempt_not_replay
      rw [← heq] at hfirst
      exact absurd replay_json hfirst
    · cases hfree.symm.trans howner

end Shown

/-! ## Runs -/

section Runs

variable {σ : Type} [MetadataStore σ] [LawfulStore σ] [DecidableEq ι] {max : Nat} {c : Choice}
variable {s₀ s s' : Pool σ ι Pc} {ls : List (PoolLabel ι Choice Empty)}

lemma step_moves (hs : b.Keeps n s) (h : step max s (.proc i c) = some s') :
    b.Moves i c.fault.isSome (b.view s.shared) (s.procs i) (b.view s'.shared) (s'.procs i) ∧
      ∀ j, j ≠ i → s'.procs j = s.procs j := by
  rcases Pool.step_proc_eq_some.mp h with ⟨g, pc, hact, rfl⟩
  refine ⟨?_, fun j hj => Function.update_of_ne hj _ _⟩
  simpa using act_moves hs.shared (hs.procs i) hact

lemma keeps_step {l : PoolLabel ι Choice Empty} (hs : b.Keeps n s)
    (h : step max s l = some s') : b.Keeps n s' := by
  cases l with
  | env e => exact e.elim
  | proc i c =>
    rcases step_moves hs h with ⟨hmoves, hothers⟩
    refine ⟨hmoves.sound hs.shared (hs.procs i), fun j => ?_⟩
    by_cases hj : j = i
    · subst hj
      exact hmoves.follows hs.shared (hs.procs j)
    · rw [hothers j hj]
      exact hmoves.follows_other hj (hs.procs j)

lemma keeps_of_exec (hs : b.Keeps n s) (h : exec (step max) s ls = some s') : b.Keeps n s' :=
  inv_of_exec_all keeps_step hs h

lemma proc_of_exec {K : View → Pc → Prop}
    (hown : ∀ {v pc v' pc'}, b.Follows v i pc → K v pc → b.Moves i false v pc v' pc' → K v' pc')
    (hother : ∀ {v pc j fault q v' q'}, K v pc → b.Moves j fault v q v' q' → K v' pc)
    (hs : b.Keeps n s) (hK : K (b.view s.shared) (s.procs i))
    (hfault : ∀ c, .proc i c ∈ ls → c.fault = none) (h : exec (step max) s ls = some s') :
    K (b.view s'.shared) (s'.procs i) := by
  have hmeets : Meets (step max) (fun _ l => ∀ c, l = .proc i c → c.fault = none) s ls :=
    meets_of_forall fun _ l hl c heq => hfault c (heq ▸ hl)
  refine (inv_of_exec (I := fun s => b.Keeps n s ∧ K (b.view s.shared) (s.procs i)) ?_
    ⟨hs, hK⟩ hmeets h).2
  rintro u (⟨j, c⟩ | e) u' ⟨hu, hKu⟩ hc hstep
  · refine ⟨keeps_step hu hstep, ?_⟩
    rcases step_moves hu hstep with ⟨hmoves, hothers⟩
    by_cases hj : i = j
    · subst hj
      rw [hc c rfl] at hmoves
      exact hown (hu.procs i) hKu hmoves
    · rw [hothers i hj]
      exact hother hKu hmoves
  · exact e.elim

/-- After a success, a request that the store does not fail is answered with the same Cell. -/
lemma replayed_after {u : Pool σ ι Pc} {id : DatabaseId} (hu : b.Keeps n u)
    (hid : named (u.procs j) = some id) (hi : u.procs i = .save (b.req i))
    (hfault : ∀ c, .proc i c ∈ ls → c.fault = none) (h : exec (step max) u ls = some s) :
    (∀ reply, s.procs i = .answered reply → ∃ name, reply = .replayed id name) ∧
      ∃ k s' name, exec (step max) s (replicate k (.proc i {})) = some s' ∧
        s'.procs i = .answered (.replayed id name) := by
  rcases (hu.procs j).named hid with ⟨o, howner, hcell, rfl⟩
  have hlate : b.Late o i (b.view s.shared) (s.procs i) := by
    refine proc_of_exec (K := b.Late o i) (fun _ hK hmoves => hmoves.late hK) ?_ hu
      ⟨howner, hcell, .inl hi⟩ hfault h
    exact fun hK hmoves => ⟨hmoves.owns hK.1, hmoves.mem_ids hK.2.1, hK.2.2⟩
  constructor
  · intro reply hreply
    rcases hlate.2.2 with hpc | hpc | ⟨name, hpc⟩
    · cases hreply.symm.trans hpc
    · cases hreply.symm.trans hpc
    · exact ⟨name, Pc.answered.inj (hreply.symm.trans hpc)⟩
  · rcases hlate.answers max with ⟨g', name, k, hrun⟩
    have hpool : exec (step max) s ((replicate k {}).map (.proc i)) =
        some ⟨g', Function.update s.procs i (.answered (.replayed (b.req o).id name))⟩ :=
      Pool.exec_of_act hrun
    rw [map_replicate] at hpool
    exact ⟨k, _, name, hpool, by simp⟩

lemma fails_alone {e : CombeeError} (hs : b.Begins s₀)
    (hfault : ∀ c, .proc i c ∈ ls → c.fault = none) (h : exec (step max) s₀ ls = some s)
    (he : s.procs i = .answered (.failed e)) :
    (∃ id, e = .databaseNotFound id) ∨ b.Owns (b.view s.shared) i := by
  refine proc_of_exec (K := b.FailsAlone i) (fun hpc _ hmoves => hmoves.failsAlone hpc) ?_
    hs.keeps ?_ hfault h e he
  · exact fun hK hmoves e he => (hK e he).imp_right hmoves.owns
  · intro e he
    rw [hs.start i] at he
    cases he

def Finds (b : Batch ι) (s : Pool σ ι Pc) (l : PoolLabel ι Choice Empty) : Prop :=
  ∀ i c r id, l = .proc i c → c.fault = none → s.procs i = .replay r (.json id) →
    ∃ record ∈ cells s.shared, record.IsCell b.tenant id = true

lemma notFound_iff (hs : b.Begins s₀) :
    (∀ pre u, pre <+: ls → exec (step max) s₀ pre = some u →
      ∀ i id, u.procs i ≠ .answered (.failed (.databaseNotFound id))) ↔
    Meets (step max) b.Finds s₀ ls := by
  refine always_iff_meets (I := b.Keeps (owned s₀.shared b.tenant)) ?_ hs.keeps ?_
  · rintro u (⟨i, c⟩ | e) u' hu hnone hstep
    · refine ⟨keeps_step hu hstep, ?_⟩
      rcases step_moves hu hstep with ⟨hmoves, hothers⟩
      have hanswer := hmoves.notFound_iff
      constructor
      · intro hnone' j c' r id hl hc hpc
        cases hl
        by_contra hcell
        rw [← mem_ids_view] at hcell
        rcases hanswer.mpr ⟨by simp [hc], r, id, hpc, hcell⟩ with ⟨id', hid'⟩
        exact hnone' i id' hid'
      · intro hfinds j id hj
        by_cases hij : j = i
        · subst hij
          rcases hanswer.mp ⟨id, hj⟩ with ⟨hc, r, id', hpc, hcell⟩
          exact hcell (mem_ids_view.mpr (hfinds j c r id' rfl (by simpa using hc) hpc))
        · exact hnone j id (hothers j hij ▸ hj)
    · exact e.elim
  · intro i id hi
    rw [hs.start i] at hi
    cases hi

end Runs

/-- At most one Cell is made, every success names it, and a request after a success is answered with
it. No request is answered "not found" exactly if each looks for the Cell when it is there; a retry
has the reply of a first attempt exactly if the key is free. -/
theorem create_idempotent_iff {σ : Type} [MetadataStore σ] [LawfulStore σ] [DecidableEq ι]
    (b : Batch ι) (max : Nat) (s₀ s : Pool σ ι Pc) (ls : List (PoolLabel ι Choice Empty))
    (hbegins : b.Begins s₀) (hrun : exec (step max) s₀ ls = some s) :
    (owned s.shared b.tenant ≤ owned s₀.shared b.tenant + 1 ∧
      ∀ i j id id', named (s.procs i) = some id → named (s.procs j) = some id' → id = id') ∧
    (∀ pre post u i j id, ls = pre ++ post → exec (step max) s₀ pre = some u →
      named (u.procs j) = some id → u.procs i = .save (b.req i) →
      (∀ c, .proc i c ∈ post → c.fault = none) →
      (∀ reply, s.procs i = .answered reply → ∃ name, reply = .replayed id name) ∧
      ∃ k s' name, exec (step max) s (replicate k (.proc i {})) = some s' ∧
        s'.procs i = .answered (.replayed id name)) ∧
    (∀ i e, (∀ c, .proc i c ∈ ls → c.fault = none) → s.procs i = .answered (.failed e) →
      (∃ id, e = .databaseNotFound id) ∨
        keys s.shared b.key = some (b.tenant, .json (b.req i).id)) ∧
    ((∀ pre u, pre <+: ls → exec (step max) s₀ pre = some u →
      ∀ i id, u.procs i ≠ .answered (.failed (.databaseNotFound id))) ↔
      Meets (step max) b.Finds s₀ ls) ∧
    (∀ i, (Api.createDatabase max s.shared (b.req i)).1 =
        (Api.attempt max (saved s.shared b.key (b.req i)) (b.req i)).1 ↔
      keys s.shared b.key = none) := by
  have hs := keeps_of_exec hbegins.keeps hrun
  refine ⟨hs.one_cell, ?_, ?_, notFound_iff hbegins, fun i => hs.retry_iff max⟩
  · intro pre post u i j id hls hu hid hi hfault
    subst hls
    rcases exec_append_eq_some.mp hrun with ⟨u', hu', hpost⟩
    obtain rfl : u = u' := Option.some.inj (hu.symm.trans hu')
    exact replayed_after (keeps_of_exec hbegins.keeps hu) hid hi hfault hpost
  · intro i e hfault he
    exact fails_alone hbegins hfault hrun he

end Batch

def sentTwice : Batch Caller where
  tenant := ⟨5⟩
  key := "retry-1"
  req
    | .first => unnamed 5 1
    | .second => unnamed 5 2
  tenant_eq i := by cases i <;> rfl
  key_eq i := by cases i <;> rfl
  ids_injective := by decide

def sentTo {σ : Type} (g : σ) : Pool σ Caller Pc :=
  ⟨g, fun i => .save (sentTwice.req i)⟩

def retryLater : List (PoolLabel Caller Choice Empty) :=
  replicate 4 (.proc .first {}) ++ replicate 2 (.proc .second {})

/-- The retry comes while the first request is between the save and the insert. -/
def retryEarly : List (PoolLabel Caller Choice Empty) :=
  [.proc .first {}, .proc .second {}, .proc .second {}]

/-- The store fails the insert of the first request, which is answered before the retry comes. -/
def retryFailed : List (PoolLabel Caller Choice Empty) :=
  [.proc .first {}, .proc .first {}, .proc .first { fault := some "connection closed" },
    .proc .second {}, .proc .second {}]

/-- The retry comes when the first request has been answered, and takes all steps of a first one. -/
def retryMakes : List (PoolLabel Caller Choice Empty) :=
  replicate 4 (.proc .first {}) ++ replicate 4 (.proc .second {})

def usedByOther : PostgresStore :=
  (MetadataStore.saveIdempotency emptyPostgres "retry-1" ⟨6⟩ (.json ⟨9⟩)).2

lemma begins_inMemory : sentTwice.Begins (sentTo emptyInMemory) :=
  ⟨fun _ => rfl, fun _ _ => nofun, rfl⟩

lemma begins_postgres : sentTwice.Begins (sentTo emptyPostgres) :=
  ⟨fun _ => rfl, fun _ _ => nofun, rfl⟩

theorem create_idempotent_iff_later :
    (∃ s name, exec (step 0) (sentTo emptyInMemory) retryLater = some s ∧
      s.procs .second = .answered (.replayed (sentTwice.req .first).id name) ∧
      owned s.shared ⟨5⟩ ≤ 1) ∧
    (∃ s name, exec (step 0) (sentTo emptyPostgres) retryLater = some s ∧
      s.procs .second = .answered (.replayed (sentTwice.req .first).id name) ∧
      owned s.shared ⟨5⟩ ≤ 1) := by
  constructor
  · exact ⟨_, _, rfl, rfl,
      (sentTwice.create_idempotent_iff 0 _ _ retryLater begins_inMemory rfl).1.1⟩
  · exact ⟨_, _, rfl, rfl,
      (sentTwice.create_idempotent_iff 0 _ _ retryLater begins_postgres rfl).1.1⟩

/-- The retry is told that there is no such Cell while the first request is in progress, and after
it has failed; with a key of another tenant there are two Cells in PostgreSQL. -/
theorem create_not_idempotent :
    (∃ s, exec (step 0) (sentTo emptyInMemory) retryEarly = some s ∧
      s.procs .first = .count (.create (sentTwice.req .first)) ∧
      s.procs .second = .answered (.failed (.databaseNotFound (sentTwice.req .first).id))) ∧
    (∃ s, exec (step 0) (sentTo emptyPostgres) retryEarly = some s ∧
      s.procs .first = .count (.create (sentTwice.req .first)) ∧
      s.procs .second = .answered (.failed (.databaseNotFound (sentTwice.req .first).id))) ∧
    (∃ s, exec (step 0) (sentTo emptyInMemory) retryFailed = some s ∧
      owned s.shared ⟨5⟩ = 0 ∧
      s.procs .first = .answered (.failed (.internal "connection closed")) ∧
      s.procs .second = .answered (.failed (.databaseNotFound (sentTwice.req .first).id))) ∧
    (∃ s, exec (step 0) (sentTo emptyPostgres) retryFailed = some s ∧
      owned s.shared ⟨5⟩ = 0 ∧
      s.procs .first = .answered (.failed (.internal "connection closed")) ∧
      s.procs .second = .answered (.failed (.databaseNotFound (sentTwice.req .first).id))) ∧
    (∃ s, exec (step 0) (sentTo usedByOther) retryMakes = some s ∧ owned s.shared ⟨5⟩ = 2) :=
  ⟨⟨_, rfl, rfl, rfl⟩, ⟨_, rfl, rfl, rfl⟩, ⟨_, rfl, rfl, rfl, rfl⟩, ⟨_, rfl, rfl, rfl, rfl⟩,
    ⟨_, rfl, by decide⟩⟩

end Combee.Catalogue
