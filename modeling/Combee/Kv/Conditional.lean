import Combee.Kv.Coherence
import Combee.Kv.Liveness

/-!
# Conditional — SET NX, SET XX and DEL on rows that have expired

SET NX and SET XX ask whether the key is there, and DEL reports whether it was. The statements
behind them look for a row, not for a live one, and no function deletes an expired row first. So
their answer is the one by liveness exactly if the key has no expired row (`conditional_iff`); with
one, NX refuses to write a key that reads as absent, and XX and DEL take it for present.
-/

namespace Combee.Kv

open Foundation

inductive Conditional where
  | setNx (key value : String) (ttlSeconds : Option UInt64) (xx : Bool)
  | setXx (key value : String) (ttlSeconds : Option UInt64)
  | del (key : String)
  deriving DecidableEq, Repr

namespace Conditional

def request : Conditional → KvRequest
  | setNx key value ttlSeconds xx => .set key value ttlSeconds true xx
  | setXx key value ttlSeconds => .set key value ttlSeconds false true
  | del key => .del key

def key : Conditional → String
  | setNx key _ _ _ => key
  | setXx key _ _ => key
  | del key => key

def wanted (db : DatabaseId) (s : KvState) : Conditional → Bool
  | setNx key _ _ _ => !s.live ⟨db, key⟩
  | setXx key _ _ => s.live ⟨db, key⟩
  | del key => s.live ⟨db, key⟩

def accepted : Conditional → Bool
  | setNx key _ _ _ => !key.isEmpty
  | setXx key _ _ => !key.isEmpty
  | del _ => true

/-- The answer `true` comes with the write or the deletion, `false` with no change at all. -/
def Done (db : DatabaseId) (s s' : KvState) : Conditional → Bool → Prop
  | _, false => s'.tables = s.tables
  | setNx key value ttlSeconds _, true => ∃ version,
      s'.row ⟨db, key⟩ = some ⟨value, expiresAtFrom ttlSeconds s.clock, version⟩
  | setXx key value ttlSeconds, true => ∃ version,
      s'.row ⟨db, key⟩ = some ⟨value, expiresAtFrom ttlSeconds s.clock, version⟩
  | del key, true => s'.row ⟨db, key⟩ = none

/-- The statement behind the command. -/
def stmt (now : Int) : Conditional → Stmt
  | setNx key value ttlSeconds xx => setStmt key value (expiresAtFrom ttlSeconds now) true xx
  | setXx key value ttlSeconds => setStmt key value (expiresAtFrom ttlSeconds now) false true
  | del key => .delete key

end Conditional

section

variable {db : DatabaseId} {s : KvState} {key : String}

lemma expiredAt_cases (db : DatabaseId) (s : KvState) (key : String) :
    (∃ row, (s.tables db).lookup key = some row ∧ isExpired row.expiresAt s.clock = true ∧
      s.live ⟨db, key⟩ = false ∧ expiredAt (s.tables db) s.clock key = true) ∨
    (∃ row, (s.tables db).lookup key = some row ∧ s.live ⟨db, key⟩ = true ∧
      expiredAt (s.tables db) s.clock key = false) ∨
    ((s.tables db).lookup key = none ∧ s.live ⟨db, key⟩ = false ∧
      expiredAt (s.tables db) s.clock key = false) := by
  cases hrow : (s.tables db).lookup key with
  | none => simp [KvState.live, KvState.row, expiredAt, hrow]
  | some row =>
    cases he : isExpired row.expiresAt s.clock <;>
      simp [KvState.live, KvState.row, expiredAt, hrow, he]

lemma serve_set (db : DatabaseId) (s : KvState) (value : String) (ttlSeconds : Option UInt64)
    (nx xx : Bool) (hkey : key.isEmpty = false) :
    (serve db s (.set key value ttlSeconds nx xx)).1 = .ok (.flag (decide (0 <
      if nx || xx then ((setStmt key value (expiresAtFrom ttlSeconds s.clock) nx xx).exec
        (s.tables db)).1 else 1))) ∧
    (serve db s (.set key value ttlSeconds nx xx)).2.tables =
      (s.setTable db ((setStmt key value (expiresAtFrom ttlSeconds s.clock) nx xx).exec
        (s.tables db)).2).tables := by
  simp only [serve, fastPath, Prog.pure_eq_ret, evalFast_ret, Closure.prog, evalM_map, setAndCache,
    evalM_bind, evalM_set value ttlSeconds nx xx hkey]
  by_cases hwritten : 0 < if nx || xx then ((setStmt key value (expiresAtFrom ttlSeconds s.clock)
      nx xx).exec (s.tables db)).1 else 1
  · simp only [hwritten, decide_true, if_true, evalM_bind, evalM_unixNow, evalM_put, evalM_pure]
    exact ⟨trivial, rfl⟩
  · simp only [hwritten, decide_false, Bool.false_eq_true, if_false, evalM_pure]
    exact ⟨trivial, trivial⟩

lemma serve_del (db : DatabaseId) (s : KvState) (key : String) :
    (serve db s (.del key)).1 =
      .ok (.flag (decide (0 < ((Stmt.delete key).exec (s.tables db)).1))) ∧
    (serve db s (.del key)).2.tables =
      (s.setTable db ((Stmt.delete key).exec (s.tables db)).2).tables := by
  simp only [serve, fastPath, Prog.pure_eq_ret, evalFast_ret, Closure.prog, evalM_map,
    Closure.delAndInvalidate, del, evalM_bind, evalM_execute, evalM_pure]
  by_cases hdeleted : 0 < ((Stmt.delete key).exec (s.tables db)).1
  · simp only [hdeleted, decide_true, if_true, evalM_bind, evalM_invalidate, evalM_pure]
    exact ⟨trivial, rfl⟩
  · simp only [hdeleted, decide_false, Bool.false_eq_true, if_false, evalM_pure]
    exact ⟨trivial, trivial⟩

lemma row_of_tables {s' : KvState} {t : KvTable} (h : s'.tables = (s.setTable db t).tables) :
    s'.row = (s.setTable db t).row := by
  funext k
  simp only [KvState.row, h]

end

/-! ## The answers by liveness -/

section

variable (db : DatabaseId) (s : KvState) (c : Conditional)

lemma serve_refused (h : c.accepted = false) :
    serve db s c.request = (.error (invalid "key must not be empty"), s) := by
  cases c with
  | setNx key | setXx key =>
    have hkey : key.isEmpty = true := by simpa [Conditional.accepted] using h
    simp [Conditional.request, serve, fastPath, Closure.prog, setAndCache, set, hkey]
  | del key => cases h

lemma serve_accepted (h : c.accepted = true) :
    (serve db s c.request).1 =
      .ok (.flag (decide (0 < ((c.stmt s.clock).exec (s.tables db)).1))) ∧
    (serve db s c.request).2.tables =
      (s.setTable db ((c.stmt s.clock).exec (s.tables db)).2).tables := by
  cases c with
  | setNx key value ttlSeconds xx =>
    exact serve_set db s value ttlSeconds true xx (by simpa [Conditional.accepted] using h)
  | setXx key value ttlSeconds =>
    exact serve_set db s value ttlSeconds false true (by simpa [Conditional.accepted] using h)
  | del key => exact serve_del db s key

lemma conditional_others (k : CacheKey) (hk : k ≠ ⟨db, c.key⟩) :
    (serve db s c.request).2.row k = s.row k := by
  cases hacc : c.accepted with
  | false => rw [serve_refused db s c hacc]
  | true =>
    rw [row_of_tables (serve_accepted db s c hacc).2]
    refine row_setTable_of_ne ?_
    cases c with
    | setNx | setXx => rwa [Conditional.stmt, setStmt_key]
    | del key => exact hk

lemma accepted_iff (h : c.accepted = true) :
    (serve db s c.request).1 = .ok (.flag (c.wanted db s)) ∧
      c.Done db s (serve db s c.request).2 (c.wanted db s) ↔
    expiredAt (s.tables db) s.clock c.key = false := by
  obtain ⟨hflag, htables⟩ := serve_accepted db s c h
  rcases expiredAt_cases db s c.key with
    ⟨row, hrow, _, hlive, hexp⟩ | ⟨row, hrow, hlive, hexp⟩ | ⟨hrow, hlive, hexp⟩ <;>
    rw [hflag, hexp]
  -- an expired row keeps the insert from happening, and is updated and deleted like a live one
  · cases c <;> simp_all [Conditional.stmt, setStmt, Stmt.exec, Conditional.wanted, Conditional.key]
  all_goals
    cases c <;> simp_all [Conditional.stmt, setStmt, Stmt.exec, Conditional.wanted, Conditional.key,
      Conditional.Done, KvState.row, KvState.setTable]

end

/-- SET NX, SET XX and DEL answer by liveness, and do what the answer says, exactly if the key has
no expired row and is one that the command accepts. -/
theorem conditional_iff (db : DatabaseId) (s : KvState) (c : Conditional) :
    ((serve db s c.request).1 = .ok (.flag (c.wanted db s)) ∧
      c.Done db s (serve db s c.request).2 (c.wanted db s) ↔
        expiredAt (s.tables db) s.clock c.key = false ∧ c.accepted = true) ∧
    ∀ k, k ≠ ⟨db, c.key⟩ → (serve db s c.request).2.row k = s.row k := by
  refine ⟨?_, conditional_others db s c⟩
  cases hacc : c.accepted with
  | true => simpa using accepted_iff db s c hacc
  | false => simp [serve_refused db s c hacc]

/-- One Cell whose key `k` expired at time 50 and is still in the table at time 100. -/
def expiredKey : KvState where
  tables := fun _ => (∅ : KvTable).insert "k" ⟨"old", some 50, 1⟩
  cache := fun _ => none
  clock := 100

/-- GET says that the key is absent, NX does not write it, and XX and DEL take it for present. -/
theorem conditional_expired_row :
    expiredKey.live ⟨⟨0⟩, "k"⟩ = false ∧
    (serve ⟨0⟩ expiredKey (.set "k" "new" none true false)).1 = .ok (.flag false) ∧
    (serve ⟨0⟩ expiredKey (.set "k" "new" none true false)).2.row ⟨⟨0⟩, "k"⟩ =
      some ⟨"old", some 50, 1⟩ ∧
    (serve ⟨0⟩ expiredKey (.set "k" "new" none false true)).1 = .ok (.flag true) ∧
    (serve ⟨0⟩ expiredKey (.set "k" "new" none false true)).2.row ⟨⟨0⟩, "k"⟩ =
      some ⟨"new", none, 2⟩ ∧
    (serve ⟨0⟩ expiredKey (.del "k")).1 = .ok (.flag true) :=
  ⟨rfl, rfl, rfl, rfl, rfl, rfl⟩

end Combee.Kv
