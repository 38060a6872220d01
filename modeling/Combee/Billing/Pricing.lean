import Combee.Billing.Usage
import Combee.Foundation.Machine

/-!
# Pricing — versions of the price list, and the manager that reloads them

`create_pricing_version` adds a version with its rules and makes it the active one. A
`PricingManager` polls for the active version and keeps a copy of its rules.

* `createPricingVersion` is the call of the in-memory store, which runs under its lock;
* `Manager.step` is a step of one of any number of calls of `refresh`, which read the version and
  the rules one after the other;
* `Consistent` is what is asked of every run, and `consistent_of_evolves` derives it for any store
  whose tables change by `createPricingVersion` alone.

Version numbers are not bounded here.
-/

namespace Combee.Billing

open Foundation List

/-! ## Tables -/

inductive PricingStatus where
  | active
  | inactive
  deriving DecidableEq, Repr

structure PricingVersion where
  version : Int
  status : PricingStatus
  effectiveAt : Int
  createdAt : Int
  deriving DecidableEq, Repr

structure PricingRule where
  metric : UsageMetric
  unitSize : Int
  priceUnits : Int
  deriving DecidableEq, Repr

structure PricingTables where
  versions : List PricingVersion
  rules : List (Int × PricingRule)
  deriving DecidableEq, Repr

def PricingVersion.deactivate (r : PricingVersion) : PricingVersion :=
  { r with status := .inactive }

namespace PricingTables

def empty : PricingTables := ⟨[], []⟩

def numbers (t : PricingTables) : List Int :=
  t.versions.map PricingVersion.version

/-- The number of the next version: `COALESCE(MAX(version), 0) + 1`. -/
def next (t : PricingTables) : Int :=
  t.numbers.max?.getD 0 + 1

def rulesOf (t : PricingTables) (version : Int) : List PricingRule :=
  (t.rules.filter (·.1 = version)).map Prod.snd

/-- The first part of `get_active_pricing`. -/
def activeVersion (t : PricingTables) : Option PricingVersion :=
  t.versions.find? (·.status = .active)

/-- `create_pricing_version` of the in-memory store. -/
def createPricingVersion (t : PricingTables) (rules : List PricingRule) (now : Int) :
    PricingVersion × PricingTables :=
  let version := t.next
  let record : PricingVersion := ⟨version, .active, now, now⟩
  (record,
    { versions := t.versions.map PricingVersion.deactivate ++ [record]
      rules := t.rules.filter (·.1 ≠ version) ++ rules.map fun r => (version, r) })

end PricingTables

/-! ## The manager -/

/-- The `PricingConfig` that a manager holds. -/
structure ActivePricing extends PricingConfig where
  effectiveAt : Int

def ActivePricing.empty : ActivePricing where
  version := 0
  rules := fun _ => none
  effectiveAt := 0

def addRule (map : UsageMetric → Option (Int × Int)) (r : PricingRule) :
    UsageMetric → Option (Int × Int) :=
  Function.update map r.metric (some (r.unitSize, r.priceUnits))

/-- The `HashMap` of `refresh`: the last rule for a metric counts. -/
def ruleMap (rules : List PricingRule) : UsageMetric → Option (Int × Int) :=
  rules.foldl addRule fun _ => none

/-- The configuration that `refresh` builds. -/
def PricingVersion.config (r : PricingVersion) (rules : List PricingRule) : ActivePricing where
  version := r.version
  rules := ruleMap rules
  effectiveAt := r.effectiveAt

/-- What `get_active_pricing` returns if no version is active. -/
def PricingVersion.none : PricingVersion := ⟨0, .active, 0, 0⟩

/-- Where a call of `refresh` is, with what it has read. -/
inductive Refresh where
  | idle
  | gotVersion (row : PricingVersion)
  | loaded (row : PricingVersion) (rules : List PricingRule)
  | replacing (config : ActivePricing)

inductive RefreshStep where
  | readVersion
  | readRules
  | check
  | replace
  | fail
  deriving DecidableEq, Repr

structure Manager where
  current : ActivePricing
  refreshes : Nat → Refresh

namespace Manager

def new : Manager := ⟨ActivePricing.empty, fun _ => .idle⟩

def set (m : Manager) (k : Nat) (r : Refresh) : Manager :=
  { m with refreshes := Function.update m.refreshes k r }

/-- One step of the call `k` of `refresh`. A call that has ended, or failed, may be made again. -/
def step (t : PricingTables) (m : Manager) (k : Nat) (l : RefreshStep) : Option Manager :=
  match m.refreshes k, l with
  | _, .fail => some (m.set k .idle)
  | .idle, .readVersion =>
    match t.activeVersion with
    | none => some (m.set k (.loaded .none []))
    | some row => some (m.set k (.gotVersion row))
  | .gotVersion row, .readRules => some (m.set k (.loaded row (t.rulesOf row.version)))
  | .loaded row rules, .check =>
    if row.status ≠ .active then some (m.set k .idle)
    else if rules.any fun r => r.unitSize ≤ 0 || r.priceUnits ≤ 0 then some (m.set k .idle)
    else if m.current.version = row.version then some (m.set k .idle)
    else some (m.set k (.replacing (row.config rules)))
  | .replacing config, .replace => some { m.set k .idle with current := config }
  | _, _ => none

end Manager

/-! ## Lawful tables -/

namespace PricingTables

/-- The numbers have no gap, only the last version may be active, and there are no rules without a
version. -/
structure Lawful (t : PricingTables) : Prop where
  distinct : t.numbers.Nodup
  dense : ∀ v, v ∈ t.numbers ↔ 1 ≤ v ∧ v < t.next
  active_last : ∀ r ∈ t.versions, r.status = .active → r.version + 1 = t.next
  ruled : ∀ x ∈ t.rules, x.1 < t.next

section

variable {t : PricingTables} {rules : List PricingRule} {now : Int}

lemma lt_next {v : Int} (h : v ∈ t.numbers) : v < t.next := by
  unfold next
  cases hmax : t.numbers.max? with
  | none => rw [max?_eq_none_iff.mp hmax] at h; cases h
  | some m =>
    have hle : v ≤ m := (max?_eq_some_iff.mp hmax).2 v h
    simpa using Int.lt_add_one_of_le hle

lemma next_eq {m : Int} (hm : m ∈ t.numbers) (hmax : ∀ v ∈ t.numbers, v ≤ m) :
    t.next = m + 1 := by
  have h : t.numbers.max? = some m := max?_eq_some_iff.mpr ⟨hm, hmax⟩
  simp only [next, h, Option.getD_some]

lemma empty_lawful : PricingTables.empty.Lawful := by
  refine ⟨nodup_nil, fun v => ?_, fun r hr => ?_, fun x hx => ?_⟩
  · simp only [empty, numbers, next, map_nil, max?_nil, Option.getD_none, not_mem_nil, false_iff]
    omega
  · cases hr
  · cases hx

/-! ### The new version -/

lemma numbers_create : (t.createPricingVersion rules now).2.numbers = t.numbers ++ [t.next] := by
  simp only [createPricingVersion, numbers, map_append, map_map]
  rfl

lemma next_create : (t.createPricingVersion rules now).2.next = t.next + 1 := by
  apply next_eq
  · simp [numbers_create]
  · intro v hv
    rw [numbers_create, mem_append, mem_singleton] at hv
    rcases hv with hv | rfl
    · exact (lt_next hv).le
    · exact le_refl _

lemma rulesOf_create {v : Int} (hv : v ≠ t.next) :
    (t.createPricingVersion rules now).2.rulesOf v = t.rulesOf v := by
  have hother : (t.rules.filter (·.1 ≠ t.next)).filter (·.1 = v) = t.rules.filter (·.1 = v) := by
    rw [filter_filter]
    apply filter_congr
    intro x _
    by_cases hx : x.1 = v
    · simp [hx, hv]
    · simp [hx]
  have hnew : (rules.map fun r => (t.next, r)).filter (·.1 = v) = [] := by
    simp [filter_eq_nil_iff, hv.symm]
  simp only [rulesOf, createPricingVersion, filter_append, hother, hnew, append_nil]

lemma Lawful.next_pos (h : t.Lawful) : 1 ≤ t.next := by
  cases hnum : t.numbers with
  | nil => simp [next, hnum]
  | cons v vs =>
    have hv := (h.dense v).mp (by simp [hnum])
    omega

lemma Lawful.create (h : t.Lawful) : (t.createPricingVersion rules now).2.Lawful := by
  have hone := h.next_pos
  refine ⟨?_, fun v => ?_, fun r hr hactive => ?_, fun x hx => ?_⟩
  · rw [numbers_create]
    refine nodup_append.mpr ⟨h.distinct, nodup_singleton _, fun v hv w hw => ?_⟩
    rw [mem_singleton.mp hw]
    exact (lt_next hv).ne
  · rw [numbers_create, next_create, mem_append, mem_singleton, h.dense v]
    omega
  · rw [next_create]
    rcases mem_append.mp hr with hr | hr
    · -- the versions from before are inactive
      rcases mem_map.mp hr with ⟨r', _, rfl⟩
      cases hactive
    · rw [mem_singleton.mp hr]
  · rw [next_create]
    rcases mem_append.mp hx with hx | hx
    · have hold := h.ruled x (mem_of_mem_filter hx)
      omega
    · rcases mem_map.mp hx with ⟨r, _, rfl⟩
      exact Int.lt_succ _

end

end PricingTables

/-! ## What is known of a version -/

def PricingTables.Has (t : PricingTables) (config : ActivePricing) : Prop :=
  ∃ row ∈ t.versions, config = row.config (t.rulesOf row.version)

def PricingTables.Known (t : PricingTables) (config : ActivePricing) : Prop :=
  config = ActivePricing.empty ∨ t.Has config

def PositiveRules (rules : UsageMetric → Option (Int × Int)) : Prop :=
  ∀ m size price, rules m = some (size, price) → 0 < size ∧ 0 < price

/-- The tables stay as they are or get a new version. -/
def PricingTables.Evolves (t t' : PricingTables) : Prop :=
  t' = t ∨ ∃ rules now, t' = (t.createPricingVersion rules now).2

section

variable {t t' : PricingTables} {config : ActivePricing}

lemma PricingTables.Lawful.evolves (h : t.Lawful) (ht : t.Evolves t') : t'.Lawful := by
  rcases ht with rfl | ⟨rules, now, rfl⟩
  · exact h
  · exact h.create

section

variable (ht : t.Evolves t')
include ht

lemma PricingTables.Evolves.row {row : PricingVersion} (hrow : row ∈ t.versions) :
    ∃ row' ∈ t'.versions, row'.version = row.version ∧ row'.effectiveAt = row.effectiveAt ∧
      t'.rulesOf row.version = t.rulesOf row.version := by
  rcases ht with rfl | ⟨rules, now, rfl⟩
  · exact ⟨row, hrow, rfl, rfl, rfl⟩
  · refine ⟨row.deactivate, mem_append_left _ (mem_map_of_mem hrow), rfl, rfl, ?_⟩
    apply PricingTables.rulesOf_create
    exact (PricingTables.lt_next (mem_map_of_mem hrow)).ne

lemma PricingTables.Evolves.has (h : t.Has config) : t'.Has config := by
  rcases h with ⟨row, hrow, rfl⟩
  rcases ht.row hrow with ⟨row', hrow', hversion, htime, hrules⟩
  refine ⟨row', hrow', ?_⟩
  simp only [PricingVersion.config, hversion, htime, hrules]

lemma PricingTables.Evolves.known (h : t.Known config) : t'.Known config :=
  h.imp_right ht.has

lemma PricingTables.Evolves.numbers_isPrefix : t.numbers <+: t'.numbers := by
  rcases ht with rfl | ⟨rules, now, rfl⟩
  · exact prefix_refl _
  · exact PricingTables.numbers_create ▸ prefix_append _ _

end

lemma ruleMap_pos {rules : List PricingRule}
    (h : ∀ r ∈ rules, 0 < r.unitSize ∧ 0 < r.priceUnits) : PositiveRules (ruleMap rules) := by
  refine foldlRecOn rules addRule nofun fun map hmap r hr m size price hm => ?_
  by_cases heq : m = r.metric
  · subst heq
    simp only [addRule, Function.update_self, Option.some.injEq, Prod.mk.injEq] at hm
    exact hm.1 ▸ hm.2 ▸ h r hr
  · rw [addRule, Function.update_of_ne heq] at hm
    exact hmap m size price hm

end

/-! ## What a refresh has read -/

/-- What a call of `refresh` has read belongs to one version. -/
def Refresh.Ok (t : PricingTables) : Refresh → Prop
  | .idle => True
  | .gotVersion row =>
    ∃ row' ∈ t.versions, row'.version = row.version ∧ row'.effectiveAt = row.effectiveAt
  | .loaded row rules => t.Known (row.config rules)
  | .replacing config => t.Known config ∧ PositiveRules config.rules

structure Manager.Ok (t : PricingTables) (m : Manager) : Prop where
  known : t.Known m.current
  positive : PositiveRules m.current.rules
  refreshes : ∀ k, (m.refreshes k).Ok t

section

variable {t t' : PricingTables} {m m' : Manager}

lemma Manager.new_ok : Manager.new.Ok t :=
  ⟨.inl rfl, nofun, fun _ => trivial⟩

lemma Refresh.Ok.evolves {r : Refresh} (h : r.Ok t) (ht : t.Evolves t') : r.Ok t' := by
  cases r with
  | idle => trivial
  | gotVersion row =>
    rcases h with ⟨row', hrow', hversion, htime⟩
    rcases ht.row hrow' with ⟨row'', hrow'', hversion', htime', _⟩
    exact ⟨row'', hrow'', hversion'.trans hversion, htime'.trans htime⟩
  | loaded row rules => exact ht.known h
  | replacing config => exact ⟨ht.known h.1, h.2⟩

lemma Manager.Ok.evolves (h : m.Ok t) (ht : t.Evolves t') : m.Ok t' :=
  ⟨ht.known h.known, h.positive, fun k => (h.refreshes k).evolves ht⟩

lemma Manager.Ok.set (h : m.Ok t) (k : Nat) {r : Refresh} (hr : r.Ok t) : (m.set k r).Ok t :=
  ⟨h.known, h.positive, (Function.forall_update_iff _ _).mpr ⟨hr, fun j _ => h.refreshes j⟩⟩

lemma Manager.Ok.step (h : m.Ok t) {k : Nat} {l : RefreshStep}
    (hstep : m.step t k l = some m') : m'.Ok t := by
  have hk := h.refreshes k
  cases l with
  | fail =>
    simp only [Manager.step, Option.some.injEq] at hstep
    exact hstep ▸ h.set k trivial
  | readVersion =>
    cases hr : m.refreshes k <;> simp only [Manager.step, hr, reduceCtorEq] at hstep
    cases hactive : t.activeVersion with
    | none =>
      simp only [hactive, Option.some.injEq] at hstep
      exact hstep ▸ h.set k (.inl rfl)
    | some row =>
      simp only [hactive, Option.some.injEq] at hstep
      exact hstep ▸ h.set k ⟨row, mem_of_find?_eq_some hactive, rfl, rfl⟩
  | readRules =>
    cases hr : m.refreshes k <;> simp only [Manager.step, hr, reduceCtorEq] at hstep
    rename_i row
    rw [hr] at hk
    rcases hk with ⟨row', hrow', hversion, htime⟩
    have hknown : t.Known (row.config (t.rulesOf row.version)) :=
      .inr ⟨row', hrow', by simp only [PricingVersion.config, hversion, htime]⟩
    exact Option.some.inj hstep ▸ h.set k hknown
  | check =>
    cases hr : m.refreshes k <;> simp only [Manager.step, hr, reduceCtorEq] at hstep
    rename_i row rules
    rw [hr] at hk
    split_ifs at hstep with hstatus hinvalid hsame
    · exact Option.some.inj hstep ▸ h.set k trivial
    · exact Option.some.inj hstep ▸ h.set k trivial
    · exact Option.some.inj hstep ▸ h.set k trivial
    · have hpos : ∀ r ∈ rules, 0 < r.unitSize ∧ 0 < r.priceUnits := by
        simpa using hinvalid
      exact Option.some.inj hstep ▸ h.set k ⟨hk, ruleMap_pos hpos⟩
  | replace =>
    cases hr : m.refreshes k <;> simp only [Manager.step, hr, reduceCtorEq] at hstep
    rw [hr] at hk
    have hidle := h.set k (r := .idle) trivial
    exact Option.some.inj hstep ▸ ⟨hk.1, hk.2, hidle.refreshes⟩

end

/-! ## Consistent runs -/

section

variable {S L : Type} {step : S → L → Option S} {tables : S → PricingTables}
  {manager : S → Manager}

/-- What is asked of a run `ls` that leads from `init` to `s`. -/
structure Consistent (step : S → L → Option S) (tables : S → PricingTables)
    (manager : S → Manager) (init : S) (ls : List L) (s : S) : Prop where
  one_active : ∀ r ∈ (tables s).versions, ∀ r' ∈ (tables s).versions,
    r.status = .active → r'.status = .active → r = r'
  active_highest : ∀ r ∈ (tables s).versions, ∀ r' ∈ (tables s).versions,
    r.status = .active → r'.version ≤ r.version
  /-- Numbers are only ever appended, and none is there twice. -/
  not_reused : (tables s).numbers.Nodup ∧ ∀ ls₁, ls₁ <+: ls → ∀ u, exec step init ls₁ = some u →
    (tables u).numbers <+: (tables s).numbers
  current_was_active : (manager s).current = ActivePricing.empty ∨
    ∃ ls₁, ls₁ <+: ls ∧ ∃ u, exec step init ls₁ = some u ∧ ∃ row ∈ (tables u).versions,
      row.status = .active ∧ (manager s).current = row.config ((tables u).rulesOf row.version)
  current_positive : PositiveRules (manager s).current.rules

structure Sound (tables : S → PricingTables) (manager : S → Manager) (s : S) : Prop where
  lawful : (tables s).Lawful
  manager_ok : (manager s).Ok (tables s)

lemma PricingTables.Lawful.active_unique {t : PricingTables} (h : t.Lawful)
    {r r' : PricingVersion} (hr : r ∈ t.versions) (hr' : r' ∈ t.versions)
    (hactive : r.status = .active) (hactive' : r'.status = .active) : r = r' := by
  have hlast := h.active_last r hr hactive
  have hlast' := h.active_last r' hr' hactive'
  exact inj_on_of_nodup_map h.distinct hr hr' (by omega)

variable {I : S → Prop} {s : S} {ls : List L}

section

variable (hstep : ∀ {s l s'}, I s → step s l = some s' → I s' ∧ (tables s).Evolves (tables s'))
include hstep

lemma numbers_of_exec {s' : S}
    (hs : I s) (h : exec step s ls = some s') : (tables s).numbers <+: (tables s').numbers := by
  refine (inv_of_exec_all
    (I := fun u => I u ∧ (tables s).numbers <+: (tables u).numbers) ?_ ⟨hs, prefix_refl _⟩ h).2
  rintro u l u' ⟨hu, hpre⟩ hl
  exact ⟨(hstep hu hl).1, hpre.trans (hstep hu hl).2.numbers_isPrefix⟩

lemma has_of_exec {s' : S} (hs : I s) {row : PricingVersion} (hrow : row ∈ (tables s).versions)
    (h : exec step s ls = some s') :
    ∃ row' ∈ (tables s').versions, row'.version = row.version ∧
      row'.effectiveAt = row.effectiveAt ∧
      (tables s').rulesOf row.version = (tables s).rulesOf row.version := by
  refine (inv_of_exec_all (I := fun u => I u ∧ ∃ row' ∈ (tables u).versions,
    row'.version = row.version ∧ row'.effectiveAt = row.effectiveAt ∧
      (tables u).rulesOf row.version = (tables s).rulesOf row.version) ?_
    ⟨hs, row, hrow, rfl, rfl, rfl⟩ h).2
  rintro u l u' ⟨hu, row', hrow', hversion, htime, hrules⟩ hl
  rcases (hstep hu hl).2.row hrow' with ⟨row'', hrow'', hversion', htime', hrules'⟩
  rw [hversion] at hversion' hrules'
  exact ⟨(hstep hu hl).1, row'', hrow'', hversion', htime'.trans htime, hrules'.trans hrules⟩

lemma was_active (hI : ∀ {s}, I s → (tables s).Lawful)
    {init : S} (hinit : I init) (hempty : tables init = PricingTables.empty)
    (h : exec step init ls = some s) {config : ActivePricing} (hhas : (tables s).Has config) :
    ∃ ls₁, ls₁ <+: ls ∧ ∃ u, exec step init ls₁ = some u ∧ ∃ row ∈ (tables u).versions,
      row.status = .active ∧ config = row.config ((tables u).rulesOf row.version) := by
  rcases hhas with ⟨row, hrow, rfl⟩
  have hnot : row.version ∉ (tables init).numbers := by
    simp [hempty, PricingTables.empty, PricingTables.numbers]
  -- the step that has brought the number about has created the version
  rcases exists_step_of_exec (P := fun u => row.version ∈ (tables u).numbers) hnot
    (mem_map_of_mem hrow) h with ⟨pre, l, post, u, u', rfl, hpre, hl, hpost, hold, hnew⟩
  have hu : I u := inv_of_exec_all (fun hs hl => (hstep hs hl).1) hinit hpre
  rcases hstep hu hl with ⟨hu', heq | ⟨rules, now, heq⟩⟩
  · exact absurd (heq ▸ hnew) hold
  · have hversion : row.version = (tables u).next := by
      rw [heq, PricingTables.numbers_create, mem_append, mem_singleton] at hnew
      exact hnew.resolve_left hold
    have hmem : (⟨(tables u).next, .active, now, now⟩ : PricingVersion) ∈ (tables u').versions := by
      rw [heq]
      exact mem_append_right _ mem_cons_self
    rcases has_of_exec hstep hu' hmem hpost with ⟨row', hrow', hversion', htime', hrules'⟩
    -- the number stands for one row at the end of the run
    have hs : I s := inv_of_exec_all (fun hs hl => (hstep hs hl).1) hu' hpost
    have hsame : row' = row := inj_on_of_nodup_map (hI hs).distinct hrow' hrow
      (hversion'.trans hversion.symm)
    subst hsame
    refine ⟨pre ++ [l], ⟨post, by simp⟩, u', ?_, _, hmem, rfl, ?_⟩
    · exact exec_append_eq_some.mpr ⟨u, hpre, exec_cons hl exec_nil⟩
    · simp only [PricingVersion.config, hversion, htime', hrules']

lemma consistent_of_evolves (hI : ∀ {s}, I s → Sound tables manager s)
    {init : S} (hinit : I init) (hempty : tables init = PricingTables.empty)
    (h : exec step init ls = some s) : Consistent step tables manager init ls s := by
  have hs : I s := inv_of_exec_all (fun hs hl => (hstep hs hl).1) hinit h
  have hlawful := (hI hs).lawful
  refine ⟨fun r hr r' hr' => hlawful.active_unique hr hr', fun r hr r' hr' hactive => ?_,
    ⟨hlawful.distinct, ?_⟩, ?_, (hI hs).manager_ok.positive⟩
  · have hlast := hlawful.active_last r hr hactive
    have hlt := PricingTables.lt_next (mem_map_of_mem (f := PricingVersion.version) hr')
    omega
  · rintro ls₁ ⟨ls2, rfl⟩ u hu
    rcases exec_append_eq_some.mp h with ⟨u', hu', hrest⟩
    obtain rfl : u' = u := Option.some.inj (hu'.symm.trans hu)
    exact numbers_of_exec hstep (inv_of_exec_all (fun hs hl => (hstep hs hl).1) hinit hu') hrest
  · exact (hI hs).manager_ok.known.imp_right
      (was_active hstep (fun hs => (hI hs).lawful) hinit hempty h)

end

end

/-! ## The in-memory store with a manager -/

structure InMemoryPricing where
  tables : PricingTables
  manager : Manager

namespace InMemoryPricing

def init : InMemoryPricing := ⟨.empty, .new⟩

inductive Label where
  | create (rules : List PricingRule) (now : Int)
  | refresh (k : Nat) (l : RefreshStep)
  deriving DecidableEq, Repr

def step (s : InMemoryPricing) : Label → Option InMemoryPricing
  | .create rules now => some { s with tables := (s.tables.createPricingVersion rules now).2 }
  | .refresh k l => (s.manager.step s.tables k l).map fun m => { s with manager := m }

lemma step_sound {s s' : InMemoryPricing} {l : Label} (hs : Sound tables manager s)
    (h : s.step l = some s') : Sound tables manager s' ∧ s.tables.Evolves s'.tables := by
  cases l with
  | create rules now =>
    obtain rfl := Option.some.inj h
    have hev : s.tables.Evolves (s.tables.createPricingVersion rules now).2 :=
      .inr ⟨rules, now, rfl⟩
    exact ⟨⟨hs.lawful.create, hs.manager_ok.evolves hev⟩, hev⟩
  | refresh k l =>
    simp only [step, Option.map_eq_some_iff] at h
    rcases h with ⟨m, hm, rfl⟩
    exact ⟨⟨hs.lawful, hs.manager_ok.step hm⟩, .inl rfl⟩

lemma consistent {ls : List Label} {s : InMemoryPricing} (h : exec step init ls = some s) :
    Consistent step tables manager init ls s :=
  consistent_of_evolves step_sound (fun hs => hs)
    ⟨PricingTables.empty_lawful, Manager.new_ok⟩ rfl h

end InMemoryPricing

end Combee.Billing
