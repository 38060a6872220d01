import Combee.Kv.Counter
import Combee.Kv.Scan

/-!
# ScanRuns — following the cursor of SCAN while the keys change

A client reads page after page and passes the cursor of one page to the next. Between the pages any
commands are served, time passes and the garbage collection runs. The filter on the keys is
arbitrary here, so nothing depends on what `LIKE` matches.

An empty cursor means the beginning, so everything rests on the empty key never being stored
(`serveWith_nameless`). With that, a scan is a walk of `Keyset` through the live keys, and the
results about walks apply.
-/

namespace Combee.Kv

open Foundation

/-! ## The empty key is never stored -/

def KvOp.named : KvOp → Prop
  | .execute (.upsert key _ _) => key ≠ ""
  | .execute (.insertIfAbsent key _ _) => key ≠ ""
  | _ => True

abbrev Named {α : Type} (p : KvM α) : Prop := p.run.Only KvOp.named

def Nameless (db : DatabaseId) (s : KvState) : Prop := (s.tables db).lookup "" = none

variable {db : DatabaseId} {s : KvState}

lemma Nameless.not_mem (h : Nameless db s) : "" ∉ (s.tables db).keys :=
  fun hmem => Finmap.lookup_eq_none.mp h (Finmap.mem_keys.mp hmem)

lemma named_prog (c : Closure) : Named c.prog := by
  refine (executes_prog c).mono fun op hop => ?_
  cases op with
  | execute st =>
    have hst := hop st rfl
    -- only SET, MSET and INCR put rows in, and they have looked at the key
    cases c with
    | set key value ttlSeconds nx xx =>
      obtain ⟨hkey, now, rfl⟩ := hst
      cases nx <;> cases xx <;> first | exact hkey | trivial
    | mset items =>
      obtain ⟨it, _, hkey, now, rfl⟩ := hst
      exact hkey
    | incr key delta ttlSeconds =>
      obtain ⟨hkey, rfl | ⟨n, e, rfl⟩⟩ := hst
      · trivial
      · exact hkey
    | mget keys out miss =>
      obtain ⟨i, _, rfl⟩ := hst
      trivial
    | expire key ttlSeconds =>
      obtain ⟨now, rfl⟩ := hst
      trivial
    | get | del =>
      cases hst
      trivial
    | «exists» | ttl => cases hst
  | _ => trivial

variable {t : KvTable}

lemma Stmt.lookup_exec_empty {st : Stmt} (hst : (KvOp.execute st).named)
    (h : t.lookup "" = none) : (st.exec t).2.lookup "" = none := by
  by_cases hkey : "" = st.key
  -- an update or a deletion of the empty key finds no row
  · cases st with
    | upsert | insertIfAbsent => exact absurd hkey.symm hst
    | updateIfPresent | delete | setExpiresAt =>
      cases hkey
      simp [Stmt.exec, h]
  · rw [Stmt.lookup_exec_of_ne st t hkey, h]

lemma Nameless.setTable {db db' : DatabaseId} (h : Nameless db s)
    (ht : db' = db → t.lookup "" = none) : Nameless db (s.setTable db' t) := by
  change (Function.update s.tables db' t db).lookup "" = none
  by_cases hdb : db' = db
  · subst hdb
    rw [Function.update_self]
    exact ht rfl
  · rw [Function.update_of_ne (Ne.symm hdb)]
    exact h

lemma nameless_answer (s : KvState) (op : KvOp) (o : Outside) (hop : op.named)
    (h : Nameless db s) : Nameless db (answer db s op o).2 := by
  have htick : Nameless db (s.tick o.elapsed) := h
  cases op with
  | now | put | invalidate => exact htick
  | readRow key =>
    unfold answer
    cases o.fault <;> exact htick
  | execute st =>
    unfold answer
    cases o.fault with
    | some e => exact htick
    | none => exact htick.setTable fun _ => Stmt.lookup_exec_empty hop h

lemma serveWith_nameless (h : Nameless db s)
    (fast os : Nat → Outside) (r : KvRequest) : Nameless db (serveWith db fast os s r).2 := by
  have hfades := fast_fades db fast s (fastPath r)
  unfold serveWith
  rcases hrun : Prog.run (answerCache db) fast s (fastPath r) with ⟨reply | c, s1⟩
  all_goals
    rw [hrun] at hfades
    have hfast : Nameless db s1 := by rwa [Nameless, hfades.tables]
  · exact hfast
  · exact (named_prog c).run_inv nameless_answer os hfast

lemma happen_nameless (h : Nameless db s) (e : Event) : Nameless db (s.happen e) := by
  cases e with
  | tick | evict => exact h
  | gc db' keys =>
    simp only [KvState.happen]
    cases hgc : gcExpired (s.tables db') s.clock keys with
    | none => exact h
    | some t =>
      refine h.setTable fun hdb => ?_
      subst hdb
      unfold gcExpired at hgc
      split at hgc
      · cases hgc
        rw [lookup_foldl_erase, h, ite_self]
      · cases hgc

/-! ## A scan and what happens around it -/

/-- SCAN for an arbitrary filter. -/
def scanWhere (p : String → Bool) (t : KvTable) (now : Int) (limit : UInt32) (cursor : String) :
    ScanPage :=
  pageOfRows limit (rowsWhere p t now cursor)

/-- A command is served, something happens on the node, or the client asks for the next page. -/
inductive ScanEvent where
  | command (r : KvRequest) (fast os : Nat → Outside)
  | event (e : Event)
  | page (o : Outside)

/-- A client that follows the cursor, and the node. -/
structure Scanning where
  kv : KvState
  cursor : String := ""
  keys : List String := []
  finished : Bool := false

section Scanning

variable (p : String → Bool) (limit : UInt32) (db : DatabaseId)

def Scanning.read (s : Scanning) : ScanEvent → Option KvState
  | .page o => if s.finished || o.fault.isSome then none else some (s.kv.tick o.elapsed)
  | _ => none

def Scanning.step (s : Scanning) (e : ScanEvent) : Scanning :=
  match e with
  | .command r fast os => { s with kv := (serveWith db fast os s.kv r).2 }
  | .event e => { s with kv := s.kv.happen e }
  | .page o =>
    match s.read (.page o) with
    -- the scan is over, or SQLite has failed and the client may ask again
    | none => { s with kv := s.kv.tick o.elapsed }
    | some kv =>
      let page := scanWhere p (kv.tables db) kv.clock limit s.cursor
      { kv
        cursor := if page.nextCursor.isEmpty then s.cursor else page.nextCursor
        keys := s.keys ++ page.keys
        finished := page.nextCursor.isEmpty }

def Scanning.run (s : Scanning) (es : List ScanEvent) : Scanning :=
  es.foldl (step p limit db) s

def Scanning.reads : Scanning → List ScanEvent → List KvState
  | _, [] => []
  | s, e :: es => (s.read e).toList ++ reads (s.step p limit db e) es

def matching (kv : KvState) : Finset String := liveWhere p (kv.tables db) kv.clock

end Scanning

/-! ## A scan is a walk -/

def Scanning.walk (s : Scanning) : Walk String := ⟨cursorOf s.cursor, s.keys, s.finished⟩

section Walk

variable {p : String → Bool} {limit : UInt32} {db : DatabaseId} {s : Scanning}

lemma walk_page {o : Outside} {kv : KvState} (hkv : Nameless db kv)
    (hread : s.read (.page o) = some kv) :
    (s.step p limit db (.page o)).walk = s.walk.turn (clampLimit limit) (matching p db kv) := by
  have hopen : s.finished = false := by
    unfold Scanning.read at hread
    cases hfin : s.finished with
    | false => rfl
    | true => simp [hfin] at hread
  have hrows : rowsWhere p (kv.tables db) kv.clock s.cursor =
      rowsAhead (matching p db kv) (cursorOf s.cursor) := rfl
  have hempty : "" ∉ rowsAhead (matching p db kv) (cursorOf s.cursor) :=
    fun hmem => hkv.not_mem (mem_liveWhere.mp (mem_rowsAhead.mp hmem).1).1
  have hnext := nextCursor_ne_iff limit hempty
  have hlast := nextCursor_pageOfRows limit (rowsAhead (matching p db kv) (cursorOf s.cursor))
  simp only [Scanning.step, hread, Scanning.walk, Walk.turn, hopen, scanWhere, hrows,
    keys_pageOfRows]
  generalize rowsAhead (matching p db kv) (cursorOf s.cursor) = rows at hempty hnext hlast ⊢
  by_cases hmore : clampLimit limit < rows.length
  · have hne := hnext.mpr hmore
    rw [if_pos hmore] at hlast
    cases hkeys : (rows.take (clampLimit limit)).getLast? with
    | none =>
      rw [hkeys] at hlast
      exact absurd hlast hne
    | some c =>
      rw [hkeys, Option.getD_some] at hlast
      rw [hlast] at hne ⊢
      simp [hmore, hne, cursorOf]
  · rw [if_neg hmore] at hlast
    rw [hlast]
    simp [hmore]

lemma walk_of_read_none {e : ScanEvent} (h : s.read e = none) :
    (s.step p limit db e).walk = s.walk := by
  cases e with
  | command | event => rfl
  | page o => simp only [Scanning.step, h, Scanning.walk]

section

variable (hs : Nameless db s.kv)
include hs

lemma nameless_read {e : ScanEvent} {kv : KvState} (h : s.read e = some kv) : Nameless db kv := by
  cases e with
  | command | event => cases h
  | page o =>
    change (if s.finished || o.fault.isSome then none else some (s.kv.tick o.elapsed)) = _ at h
    by_cases hstop : (s.finished || o.fault.isSome) = true
    · rw [if_pos hstop] at h
      cases h
    · rw [if_neg hstop] at h
      cases h
      exact hs

lemma nameless_step (e : ScanEvent) : Nameless db (s.step p limit db e).kv := by
  cases e with
  | command r fast os => exact serveWith_nameless hs fast os r
  | event e => exact happen_nameless hs e
  | page o =>
    cases hread : s.read (.page o) with
    | none =>
      simp only [Scanning.step, hread]
      exact hs
    | some kv =>
      simp only [Scanning.step, hread]
      exact nameless_read hs hread

lemma nameless_run (es : List ScanEvent) : Nameless db (s.run p limit db es).kv := by
  induction es generalizing s with
  | nil => exact hs
  | cons e es ih => exact ih (nameless_step hs e)

/-- The whole scan is the walk through the sets of live keys that its pages have met. -/
lemma walk_run (es : List ScanEvent) : (s.run p limit db es).walk =
      s.walk.turns (clampLimit limit) ((s.reads p limit db es).map (matching p db)) := by
  induction es generalizing s with
  | nil => rfl
  | cons e es ih =>
    have hrest := ih (s := s.step p limit db e) (nameless_step hs e)
    change ((s.step p limit db e).run p limit db es).walk = _
    rw [hrest, Scanning.reads, List.map_append, Walk.turns_append]
    cases hread : s.read e with
    | none => rw [walk_of_read_none hread, Option.toList_none, List.map_nil, Walk.turns_nil]
    | some kv =>
      cases e with
      | command | event => cases hread
      | page o =>
        rw [walk_page (nameless_read hs hread) hread]
        rfl

end

def ScanEvent.isPage : ScanEvent → Bool
  | .page o => o.fault.isNone
  | _ => false

lemma finished_step {e : ScanEvent} (h : s.finished = true) :
    (s.step p limit db e).finished = true := by
  cases e with
  | command | event => exact h
  | page o => simp [Scanning.step, Scanning.read, h]

lemma finished_run {es : List ScanEvent} (h : s.finished = true) :
    (s.run p limit db es).finished = true := by
  induction es generalizing s with
  | nil => exact h
  | cons e es ih => exact ih (finished_step h)

lemma length_reads {es : List ScanEvent} (h : (s.run p limit db es).finished = false) :
    (s.reads p limit db es).length = es.countP ScanEvent.isPage := by
  induction es generalizing s with
  | nil => rfl
  | cons e es ih =>
    have hopen : s.finished = false := by
      by_contra hfin
      have hend : (s.run p limit db (e :: es)).finished = true :=
        finished_run (by simpa using hfin)
      rw [hend] at h
      cases h
    have hhead : (s.read e).toList.length = if e.isPage then 1 else 0 := by
      cases e with
      | command | event => rfl
      | page o => cases hf : o.fault <;> simp [Scanning.read, ScanEvent.isPage, hopen, hf]
    rw [Scanning.reads, List.length_append, ih h, hhead, List.countP_cons, Nat.add_comm]

end Walk

/-! ## Stability -/

/-- What holds of a scan from the start that has met `es`:

* the keys come in strictly increasing order;
* each was live, and passed the filter, when its page was read;
* at the end every matching key that was live at all pages has come exactly once;
* from here on the scan ends after as many pages as the keys beyond the cursor fill, if no others
  turn up there. -/
def StableScan (p : String → Bool) (limit : UInt32) (db : DatabaseId) (kv : KvState)
    (es : List ScanEvent) : Prop :=
  let s := Scanning.run p limit db { kv } es
  let reads := Scanning.reads p limit db { kv } es
  let left := ahead (matching p db s.kv) (cursorOf s.cursor)
  s.keys.Pairwise (· < ·) ∧
  (∀ key ∈ s.keys, ∃ kv' ∈ reads, key ∈ matching p db kv') ∧
  (s.finished = true → ∀ key, (∀ kv' ∈ reads, key ∈ matching p db kv') → s.keys.count key = 1) ∧
  ∀ es' : List ScanEvent,
    (∀ kv' ∈ s.reads p limit db es', ahead (matching p db kv') (cursorOf s.cursor) ⊆ left) →
    left.card < es'.countP ScanEvent.isPage * clampLimit limit →
    (s.run p limit db es').finished = true

/-- SCAN is stable for every filter and limit, whatever happens between its pages. -/
theorem scan_stable (p : String → Bool) (limit : UInt32) (db : DatabaseId) (kv : KvState)
    (hempty : Nameless db kv) (es : List ScanEvent) : StableScan p limit db kv es := by
  unfold StableScan
  intro s reads left
  have hn := clampLimit_pos limit
  have hwalk : s.walk = ({} : Walk String).turns (clampLimit limit)
      (reads.map (matching p db)) := walk_run hempty es
  have hkeys : s.keys = (({} : Walk String).turns (clampLimit limit)
      (reads.map (matching p db))).got := congrArg Walk.got hwalk
  have hsorted : s.keys.Pairwise (· < ·) := hkeys ▸ Walk.sorted hn _
  refine ⟨hsorted, fun key hkey => ?_, fun hfin key hkey => ?_, fun es' hahead hcard => ?_⟩
  · rcases Walk.sound hn _ (hkeys ▸ hkey) with ⟨S, hS, hmem⟩
    rcases List.mem_map.mp hS with ⟨kv', hkv', rfl⟩
    exact ⟨kv', hkv', hmem⟩
  · have hdone := (congrArg Walk.finished hwalk).symm.trans hfin
    have hall : ∀ S ∈ reads.map (matching p db), key ∈ S := by
      intro S hS
      rcases List.mem_map.mp hS with ⟨kv', hkv', rfl⟩
      exact hkey kv' hkv'
    refine List.count_eq_one_of_mem (hsorted.imp fun h => ne_of_lt h) ?_
    rw [hkeys]
    exact Walk.complete hn hall hdone
  · by_contra hopen
    have hopen : (s.run p limit db es').finished = false := by simpa using hopen
    have hleft : ∀ S ∈ (s.reads p limit db es').map (matching p db),
        ahead S s.walk.cursor ⊆ left := by
      intro S hS
      rcases List.mem_map.mp hS with ⟨kv', hkv', rfl⟩
      exact hahead kv' hkv'
    have hend := Walk.ends hn hleft (by rwa [List.length_map, length_reads hopen])
    rw [← walk_run (nameless_run hempty es) es'] at hend
    exact absurd (hend.symm.trans hopen) (by simp)

/-- A node whose Cells hold `users`. -/
def usersNode : KvState := ⟨fun _ => users, fun _ => none, 0⟩

lemma nameless_usersNode : Nameless ⟨1⟩ usersNode := rfl

/-- Three keys; one of them is deleted and another one set between the pages. -/
theorem scan_stable_users :
    StableScan (fun _ => true) 1 ⟨1⟩ usersNode
      [.page {}, .command (.del "userA1") calm calm,
        .command (.set "zebra" "d" (some 60) false false) calm calm, .page {}, .page {}] :=
  scan_stable _ _ _ _ nameless_usersNode _

end Combee.Kv
