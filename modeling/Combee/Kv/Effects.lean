import Combee.Kv.Alone

/-!
# Effects — the statements that each KV command can execute

What a command does to the table is done by its statements. `Closure.Executes` lists those that a
closure can make, whatever it reads and whatever fails (`executes_prog`). A property of the table
that each of them keeps is kept by the command. What is in the row in the end is said for each of
SET, EXPIRE and INCR (`SetLeaves`, `ExpireLeaves`, `IncrLeaves`).
-/

namespace Combee.Kv

open Foundation

def Closure.Executes : Closure → Stmt → Prop
  | .get key, st => st = .delete key
  | .set key value ttlSeconds nx xx, st =>
    key ≠ "" ∧ ∃ now, st = setStmt key value (expiresAtFrom ttlSeconds now) nx xx
  | .del key, st => st = .delete key
  | .exists _, _ => False
  | .mget keys _ miss, st => ∃ i ∈ miss, st = .delete (keys.getD i "")
  | .mset items, st => ∃ it ∈ items, it.key ≠ "" ∧
      ∃ now, st = .upsert it.key it.value (expiresAtFrom it.ttlSeconds now)
  | .ttl _, _ => False
  | .expire key ttlSeconds, st => ∃ now, st = .setExpiresAt key (expiresAtFrom ttlSeconds now)
  | .incr key _ _, st => key ≠ "" ∧
      (st = .delete key ∨ ∃ (n : Int) (e : Option Int), st = .upsert key (toString n) e)

/-- Every statement that the code can execute satisfies `P`. -/
abbrev Executes (P : Stmt → Prop) {α : Type} (p : KvM α) : Prop :=
  p.run.Only fun op => ∀ st, op = .execute st → P st

section Executes

variable {P : Stmt → Prop} {α β : Type} {key : String}

lemma executes_pure (a : α) : Executes P (pure a : KvM α) := trivial

variable {p : KvM α}

lemma executes_bind {f : α → KvM β} (hp : Executes P p)
    (hf : ∀ a, Executes P (f a)) : Executes P (p >>= f) :=
  Prog.only_exceptT_bind hp hf

lemma executes_map {f : α → β} (hp : Executes P p) : Executes P (f <$> p) :=
  executes_bind hp fun a => executes_pure (f a)

lemma executes_unixNow : Executes P KvM.unixNow := ⟨nofun, fun _ => trivial⟩

lemma executes_readRow : Executes P (KvM.readRow key) := ⟨nofun, fun _ => trivial⟩

lemma executes_execute {st : Stmt} (h : P st) : Executes P (KvM.execute st) :=
  ⟨fun _ hst => KvOp.execute.inj hst ▸ h, fun _ => trivial⟩

lemma executes_put {v : CachedValue} : Executes P (KvM.put key v) := ⟨nofun, fun _ => trivial⟩

lemma executes_invalidate : Executes P (KvM.invalidate key) := ⟨nofun, fun _ => trivial⟩

lemma executes_del (h : P (.delete key)) : Executes P (del key) :=
  executes_bind (executes_execute h) fun _ => executes_pure _

lemma executes_ignore (hp : Executes P p) : Executes P (KvM.ignore p) :=
  Prog.only_bind (Prog.only_bind hp fun _ => trivial) fun _ => trivial

lemma executes_readWithExpiry (h : P (.delete key)) : Executes P (readWithExpiry key) := by
  refine executes_bind executes_unixNow fun now => executes_bind executes_readRow fun row => ?_
  cases row with
  | none => exact executes_pure _
  | some row =>
    dsimp only
    split
    · exact executes_bind (executes_ignore (executes_del h)) fun _ => executes_pure _
    · exact executes_pure _

variable {ttlSeconds : Option UInt64}

lemma executes_set {value : String} {nx xx : Bool}
    (h : key ≠ "" → ∀ now, P (setStmt key value (expiresAtFrom ttlSeconds now) nx xx)) :
    Executes P (set key value ttlSeconds nx xx) := by
  unfold set
  by_cases hkey : key.isEmpty = true
  · rw [if_pos hkey]
    exact trivial
  · rw [if_neg hkey]
    refine executes_bind executes_unixNow fun now => ?_
    exact executes_bind (executes_execute (h (by simpa using hkey) now)) fun _ => executes_pure _

lemma executes_exists : Executes P (Kv.exists key) := by
  refine executes_bind executes_unixNow fun now => executes_bind executes_readRow fun row => ?_
  cases row <;> exact executes_pure _

lemma executes_ttl : Executes P (ttl key) := by
  refine executes_bind executes_unixNow fun now => executes_bind executes_readRow fun row => ?_
  rcases row with _ | ⟨value, _ | e, version⟩
  · exact executes_pure _
  · exact executes_pure _
  · dsimp only
    split <;> exact executes_pure _

lemma executes_expire (h : ∀ now, P (.setExpiresAt key (expiresAtFrom ttlSeconds now))) :
    Executes P (expire key ttlSeconds) := by
  refine executes_bind executes_exists fun present => ?_
  split
  · exact executes_pure _
  · refine executes_bind executes_unixNow fun now => ?_
    exact executes_bind (executes_execute (h now)) fun _ => executes_pure _

lemma executes_incr {delta : Int} (hdel : key ≠ "" → P (.delete key))
    (hset : key ≠ "" → ∀ (n : Int) e, P (.upsert key (toString n) e)) :
    Executes P (incr key delta ttlSeconds) := by
  unfold incr
  by_cases hkey : key.isEmpty = true
  · rw [if_pos hkey]
    exact trivial
  · rw [if_neg hkey]
    have hne : key ≠ "" := by simpa using hkey
    refine executes_bind executes_unixNow fun now => executes_bind executes_readRow fun row => ?_
    -- whatever the new value is, it is written under the key
    have hwrite : ∀ new : Int × Option Int, Executes P (do
        let _ ← KvM.execute (.upsert key (toString new.1) new.2)
        pure new.1) := fun new =>
      executes_bind (executes_execute (hset hne new.1 new.2)) fun _ => executes_pure _
    cases row with
    | none => exact executes_bind (executes_pure _) hwrite
    | some row =>
      dsimp only
      split
      · refine executes_bind (executes_ignore (executes_del (hdel hne))) fun _ => ?_
        exact executes_bind (executes_pure _) hwrite
      · have hrow : Executes P (ExceptT.mk (pure (incrRow row delta ttlSeconds now))) := trivial
        exact executes_bind hrow hwrite

lemma executes_setAndCache {value : String} {nx xx : Bool}
    (h : key ≠ "" → ∀ now, P (setStmt key value (expiresAtFrom ttlSeconds now) nx xx)) :
    Executes P (setAndCache key value ttlSeconds nx xx) := by
  refine executes_bind (executes_set h) fun written => ?_
  split
  · exact executes_bind executes_unixNow fun now => executes_bind executes_put fun _ =>
      executes_pure _
  · exact executes_pure _

lemma executes_mgetLoop (keys : List String) {miss : List Nat} {out : List (Option String)}
    (h : ∀ i ∈ miss, P (.delete (keys.getD i ""))) : Executes P (mgetLoop keys miss out) := by
  induction miss generalizing out with
  | nil => exact executes_pure _
  | cons i miss ih =>
    have hrest := (List.forall_mem_cons.mp h).2
    refine executes_bind (executes_readWithExpiry (h i List.mem_cons_self)) fun r => ?_
    cases r with
    | none => exact ih hrest
    | some ve => exact executes_bind executes_put fun _ => ih hrest

lemma executes_msetLoop {items : List KvSetItem}
    (h : ∀ it ∈ items, it.key ≠ "" →
      ∀ now, P (.upsert it.key it.value (expiresAtFrom it.ttlSeconds now))) :
    Executes P (msetLoop items) := by
  induction items with
  | nil => exact executes_pure _
  | cons it items ih =>
    refine executes_bind (executes_setAndCache (h it List.mem_cons_self)) fun _ => ?_
    exact ih (List.forall_mem_cons.mp h).2

end Executes

lemma executes_prog (c : Closure) : Executes c.Executes c.prog := by
  cases c with
  | get key =>
    refine executes_map (executes_bind executes_unixNow fun now => ?_)
    refine executes_bind (executes_readWithExpiry rfl) fun r => ?_
    cases r with
    | none => exact executes_pure _
    | some ve => exact executes_bind executes_put fun _ => executes_pure _
  | set key value ttlSeconds nx xx =>
    exact executes_map (executes_setAndCache fun hkey now => ⟨hkey, now, rfl⟩)
  | del key =>
    refine executes_map (executes_bind (executes_del rfl) fun deleted => ?_)
    split
    · exact executes_bind executes_invalidate fun _ => executes_pure _
    · exact executes_pure _
  | «exists» key => exact executes_map executes_exists
  | mget keys out miss =>
    exact executes_map (executes_mgetLoop keys fun i hi => ⟨i, hi, rfl⟩)
  | mset items =>
    exact executes_map (executes_msetLoop fun it hit hkey now => ⟨it, hit, hkey, now, rfl⟩)
  | ttl key => exact executes_map executes_ttl
  | expire key ttlSeconds =>
    refine executes_map (executes_bind (executes_expire fun now => ⟨now, rfl⟩) fun updated => ?_)
    split
    · exact executes_bind executes_invalidate fun _ => executes_pure _
    · exact executes_pure _
  | incr key delta ttlSeconds =>
    refine executes_map (executes_bind (executes_incr ?_ ?_) fun value => ?_)
    · exact fun hkey => ⟨hkey, .inl rfl⟩
    · exact fun hkey n e => ⟨hkey, .inr ⟨n, e, rfl⟩⟩
    · exact executes_bind executes_invalidate fun _ => executes_pure _

/-! ## What the statements do -/

def Stmt.stores : Stmt → Option (String × String)
  | .upsert key value _ => some (key, value)
  | .insertIfAbsent key value _ => some (key, value)
  | .updateIfPresent key value _ => some (key, value)
  | .delete _ => none
  | .setExpiresAt _ _ => none

lemma Stmt.value_exec {st : Stmt} {t : KvTable} {k : String} {row : KvRow}
    (h : (st.exec t).2.lookup k = some row) :
    st.stores = some (k, row.value) ∨ ∃ old, t.lookup k = some old ∧ old.value = row.value := by
  by_cases hk : k = st.key
  · subst hk
    cases st <;> simp only [exec, Stmt.key] at h ⊢ <;> split at h <;>
      grind [stores, Finmap.lookup_insert, Finmap.lookup_erase]
  · exact .inr ⟨row, (lookup_exec_of_ne st t hk).symm.trans h, rfl⟩

lemma Executes.run_inv {P : Stmt → Prop} {α : Type} {p : KvM α} {I : KvTable → Prop}
    {db : DatabaseId} (h : Executes P p) (hP : ∀ st t, P st → I t → I (st.exec t).2)
    (os : Nat → Outside) {s : KvState} (hs : I (s.tables db)) :
    I ((Prog.run (answer db) os s p.run).2.tables db) := by
  refine Prog.Only.run_inv (I := fun s : KvState => I (s.tables db)) h
    (fun s op o hop hs => ?_) os hs
  cases op with
  | now | put | invalidate => exact hs
  | readRow key =>
    unfold answer
    cases o.fault <;> exact hs
  | execute st =>
    unfold answer
    cases o.fault with
    | some e => exact hs
    | none =>
      simp only [KvState.setTable, Function.update_self]
      exact hP st _ (hop st rfl) hs

/-! ## What SET and EXPIRE leave -/

/-- A SET that writes leaves the value and the expiry of a time during the call; without a condition
it writes unless it fails. -/
def SetLeaves (F : Prop) (db : DatabaseId) (key value : String) (ttlSeconds : Option UInt64)
    (nx xx : Bool) (s : KvState) : Result KvReply → KvState → Prop
  | .ok (.flag true), s' => ∃ now version, s.clock ≤ now ∧ now ≤ s'.clock ∧
      s'.row ⟨db, key⟩ = some ⟨value, expiresAtFrom ttlSeconds now, version⟩
  | .ok (.flag false), _ => (nx || xx) = true
  | .ok _, _ => False
  | .error _, _ => key = "" ∨ F

/-- After an EXPIRE of a key that is there, the row has the expiry of the ttl at a time during the
call. -/
def ExpireLeaves (db : DatabaseId) (key : String) (ttlSeconds : Option UInt64) (s : KvState) :
    Result KvReply → KvState → Prop
  | .ok (.flag true), s' => ∃ now row, s.clock ≤ now ∧ now ≤ s'.clock ∧
      s'.row ⟨db, key⟩ = some row ∧ row.expiresAt = expiresAtFrom ttlSeconds now
  | .ok (.flag false), _ => True
  | .ok _, _ => False
  | .error _, _ => True

section Leaves

variable {F : Prop} {db : DatabaseId} {key value : String} {ttlSeconds : Option UInt64}
  {nx xx : Bool} {s : KvState}

lemma lookup_setStmt {expiresAt : Option Int} {t : KvTable}
    (h : 0 < if (nx || xx) = true then ((setStmt key value expiresAt nx xx).exec t).1 else 1) :
    ∃ version, ((setStmt key value expiresAt nx xx).exec t).2.lookup key =
      some ⟨value, expiresAt, version⟩ := by
  cases nx with
  | true => exact lookup_exec_set (.inr (.inl rfl)) h
  | false =>
    cases xx with
    | true => exact lookup_exec_set (.inr (.inr rfl)) h
    | false => exact lookup_exec_set (.inl rfl) (upsert_exec_pos _ _ _ _)

lemma alone_set_leaves :
    Alone F db (SetLeaves F db key value ttlSeconds nx xx s)
      (Closure.set key value ttlSeconds nx xx).prog s := by
  refine alone_map (alone_bind ?_)
  unfold set
  by_cases hkey : key.isEmpty = true
  · simp only [hkey, if_true]
    exact .inl (String.isEmpty_iff.mp hkey)
  simp only [hkey]
  refine alone_bind (alone_unixNow fun d => ?_)
  -- the cache update, which only depends on whether the row was written
  have hcache : ∀ (written : Bool) (s2 : KvState), s.clock + d ≤ s2.clock →
      (written = true → ∃ version, s2.row ⟨db, key⟩ =
        some ⟨value, expiresAtFrom ttlSeconds (s.clock + d), version⟩) →
      (written = false → (nx || xx) = true) →
      Alone F db (fun r s' => SetLeaves F db key value ttlSeconds nx xx s (r.map .flag) s')
        (if written = true then do
          let now ← KvM.unixNow
          KvM.put key ⟨value, expiresAtFrom ttlSeconds now⟩
          pure written
        else pure written) s2 := by
    intro written s2 hclock htrue hfalse
    cases written with
    | false => exact hfalse rfl
    | true =>
      obtain ⟨version, hrow⟩ := htrue rfl
      refine alone_bind (alone_unixNow fun d2 => alone_bind (alone_put fun d3 => ?_))
      refine ⟨s.clock + d, version, by omega, ?_, hrow⟩
      change s.clock + d ≤ s2.clock + d2 + d3
      omega
  refine alone_bind (alone_execute (fun d' => ?_) fun _ _ hF => .inr hF)
  refine hcache _ _ ?_ (fun hwritten => ?_) fun hnot => ?_
  · change s.clock + d ≤ s.clock + d + d'
    omega
  · obtain ⟨version, hrow⟩ := lookup_setStmt (of_decide_eq_true hwritten)
    exact ⟨version, (KvState.row_setTable (s := (s.tick d).tick d') _ db key).trans hrow⟩
  · by_contra hplain
    rw [if_neg hplain] at hnot
    exact absurd hnot (by decide)

lemma alone_expire_leaves :
    Alone F db (ExpireLeaves db key ttlSeconds s) (Closure.expire key ttlSeconds).prog s := by
  refine alone_map (alone_bind (alone_bind ?_))
  refine alone_bind (alone_unixNow fun d => ?_)
  refine alone_bind (alone_readRow (fun d' => ?_) fun _ _ _ => trivial)
  cases hrow : (s.tick d).row ⟨db, key⟩ with
  | none => exact trivial
  | some row =>
    by_cases hexp : isExpired row.expiresAt (s.clock + d) = true
    · simp only [Then, hexp]
      exact trivial
    · simp only [Then, hexp]
      refine alone_bind (alone_unixNow fun d2 => ?_)
      refine alone_bind (alone_execute (fun d3 => ?_) fun _ _ _ => trivial)
      refine alone_bind (alone_invalidate fun d4 => ?_)
      have hold : (s.tables db).lookup key = some row := hrow
      refine ⟨s.clock + d + d' + d2, { row with
        expiresAt := expiresAtFrom ttlSeconds (s.clock + d + d' + d2)
        version := row.version + 1 }, by omega, ?_, ?_, rfl⟩
      · change s.clock + d + d' + d2 ≤ s.clock + d + d' + d2 + d3 + d4
        omega
      · refine (KvState.row_setTable _ db key).trans ?_
        simp [Stmt.exec, KvState.tick, hold]

end Leaves

/-! ## What INCR leaves -/

def Among (t' t : KvTable) : Prop := ∀ k row, t'.lookup k = some row → t.lookup k = some row

lemma among_delete (key : String) (t : KvTable) : Among ((Stmt.delete key).exec t).2 t := by
  intro k row h
  simp only [Stmt.exec] at h
  split at h
  · by_cases hk : k = key
    · subst hk
      simp at h
    · rwa [Finmap.lookup_erase_ne hk] at h
  · exact h

/-- INCR leaves the sum of `delta` and what is live when it reads the clock, `d` after the start; a
failed one makes no row. -/
def IncrLeaves (db : DatabaseId) (key : String) (delta : Int) (ttlSeconds : Option UInt64) (d : Nat)
    (s : KvState) : Result KvReply → KvState → Prop
  | .ok (.int n), s' => key ≠ "" ∧ ∃ e t,
      incrLive ((s.tick d).liveValue ⟨db, key⟩) delta ttlSeconds (s.clock + d) = .ok (n, e) ∧
      Among t (s.tables db) ∧ s'.tables db = ((Stmt.upsert key (toString n) e).exec t).2 ∧
      s.clock + d ≤ s'.clock
  | .ok _, _ => False
  | .error _, s' => Among (s'.tables db) (s.tables db)

/-- INCR from the moment at which it has read the clock. -/
def incrAt (key : String) (delta : Int) (ttlSeconds : Option UInt64) (now : Int) : KvM Int := do
  let (newValue, expiresAt) ← match ← KvM.readRow key with
    | some row =>
      if isExpired row.expiresAt now then do
        KvM.ignore (del key)
        pure (delta, expiresAtFrom ttlSeconds now)
      else
        ExceptT.mk (pure (incrRow row delta ttlSeconds now))
    | none => pure (delta, expiresAtFrom ttlSeconds now)
  let _ ← KvM.execute (.upsert key (toString newValue) expiresAt)
  pure newValue

section Incr

variable {F : Prop} {db : DatabaseId} {key : String} {delta : Int} {ttlSeconds : Option UInt64}
  {s : KvState}

lemma incr_eq (h : key.isEmpty = false) :
    incr key delta ttlSeconds = KvM.unixNow >>= incrAt key delta ttlSeconds := by
  unfold incr
  simp only [h]
  rfl

variable {Q : Result Int → KvState → Prop}

/-- INCR computes what it writes at the time `s.clock + d`, and until it writes, nothing but an
expired row has gone. -/
lemma alone_incrAt (d : Nat)
    (hfault : ∀ s2 e, F → Held ⟨db, key⟩ s s2 → Among (s2.tables db) (s.tables db) →
      Q (.error (.sql e)) s2)
    (herror : ∀ (d' : Nat) e,
      incrLive ((s.tick d).liveValue ⟨db, key⟩) delta ttlSeconds (s.clock + d) = .error e →
      Q (.error e) ((s.tick d).tick d'))
    (hok : ∀ n e t s',
      incrLive ((s.tick d).liveValue ⟨db, key⟩) delta ttlSeconds (s.clock + d) = .ok (n, e) →
      Among t (s.tables db) → s'.tables db = ((Stmt.upsert key (toString n) e).exec t).2 →
      s'.cache ⟨db, key⟩ = none → s.clock + d ≤ s'.clock → Q (.ok n) s') :
    Alone F db (Then F db Q fun a => do KvM.invalidate key; pure a)
      (incrAt key delta ttlSeconds (s.clock + d)) (s.tick d) := by
  have hrefl : Among (s.tables db) (s.tables db) := fun _ _ h => h
  have hwrite : ∀ n e s2,
      incrLive ((s.tick d).liveValue ⟨db, key⟩) delta ttlSeconds (s.clock + d) = .ok (n, e) →
      Held ⟨db, key⟩ (s.tick d) s2 → Among (s2.tables db) (s.tables db) →
      Alone F db (Then F db Q fun a => do KvM.invalidate key; pure a)
        (do let _ ← KvM.execute (.upsert key (toString n) e); pure n) s2 := by
    intro n e s2 hn hheld hamong
    refine alone_bind (alone_execute (fun d' => ?_) fun d' _ hF => ?_)
    · refine alone_bind (alone_invalidate fun d'' => ?_)
      have hclock : s.clock + d ≤ s2.clock := hheld.clock
      refine hok n e (s2.tables db) _ hn hamong (Function.update_self ..)
        (by simp [KvState.setEntry]) ?_
      change s.clock + d ≤ s2.clock + d' + d''
      omega
    · exact hfault _ _ hF (((Held.tick s d).trans hheld).trans (Held.tick s2 d')) hamong
  refine alone_bind (alone_readRow (fun d' => ?_) fun d' _ hF => ?_)
  · have htick := Held.tick (k := ⟨db, key⟩) (s.tick d) d'
    cases hrow : (s.tick d).row ⟨db, key⟩ with
    | none =>
      have hlive : (s.tick d).liveValue ⟨db, key⟩ = none := by simp [KvState.liveValue, hrow]
      exact hwrite _ _ _ (by rw [hlive]; rfl) htick hrefl
    | some row =>
      by_cases hexp : isExpired row.expiresAt (s.tick d).clock = true
      · have hlive : (s.tick d).liveValue ⟨db, key⟩ = none := by
          simp [KvState.liveValue, hrow, hexp]
        rw [hlive] at hwrite
        have hexp' := isExpired_mono htick.clock hexp
        simp only [Then, show isExpired row.expiresAt (s.clock + d) = true from hexp, if_true]
        -- the lazy deletion may fail, and its row is then overwritten
        refine alone_bind (alone_ignore (alone_bind (alone_execute (fun d'' => ?_)
          fun d'' _ _ => ?_)))
        · refine hwrite _ _ _ rfl (htick.trans (Held.erase d'' hrow hexp')) ?_
          simpa [KvState.setTable, KvState.tick] using among_delete key (s.tables db)
        · exact hwrite _ _ _ rfl (htick.trans (Held.tick _ d'')) hrefl
      · have hlive : (s.tick d).liveValue ⟨db, key⟩ = some ⟨row.value, row.expiresAt⟩ := by
          simp [KvState.liveValue, hrow, hexp]
        rw [hlive] at hwrite
        simp only [Then, show ¬ isExpired row.expiresAt (s.clock + d) = true from hexp]
        refine alone_bind ?_
        cases hnew : incrRow row delta ttlSeconds (s.clock + d) with
        | error e => exact herror d' e (by rw [hlive]; exact hnew)
        | ok new => exact hwrite new.1 new.2 _ hnew htick hrefl
  · exact hfault _ _ hF ((Held.tick s d).trans (Held.tick _ d')) hrefl

lemma alone_incrAndInvalidate
    (hempty : key = "" → ∀ message, Q (.error (.invalidRequest message)) s)
    (hfault : ∀ s2 e, F → Held ⟨db, key⟩ s s2 → Among (s2.tables db) (s.tables db) →
      Q (.error (.sql e)) s2)
    (herror : ∀ (d d' : Nat) e,
      incrLive ((s.tick d).liveValue ⟨db, key⟩) delta ttlSeconds (s.clock + d) = .error e →
      Q (.error e) ((s.tick d).tick d'))
    (hok : ∀ (d : Nat) n e t s', key ≠ "" →
      incrLive ((s.tick d).liveValue ⟨db, key⟩) delta ttlSeconds (s.clock + d) = .ok (n, e) →
      Among t (s.tables db) → s'.tables db = ((Stmt.upsert key (toString n) e).exec t).2 →
      s'.cache ⟨db, key⟩ = none → s.clock + d ≤ s'.clock → Q (.ok n) s') :
    Alone F db Q (Closure.incrAndInvalidate key delta ttlSeconds) s := by
  refine alone_bind ?_
  by_cases hkey : key = ""
  · subst hkey
    exact hempty rfl _
  · rw [incr_eq (by simpa using hkey)]
    exact alone_bind (alone_unixNow fun d =>
      alone_incrAt d hfault (herror d) fun n e t s' => hok d n e t s' hkey)

lemma expiresAt_of_incrLive {live : Option CachedValue} {now n : Int} {e : Option Int}
    (h : incrLive live delta ttlSeconds now = .ok (n, e)) (httl : ttlSeconds ≠ none) :
    e = expiresAtFrom ttlSeconds now := by
  obtain ⟨ttl, rfl⟩ := Option.ne_none_iff_exists'.mp httl
  unfold incrLive incrRow at h
  split at h
  · cases h
    rfl
  · split at h
    · cases h
    · split at h <;> cases h
      rfl

variable (db key delta ttlSeconds s) in
lemma run_incr_leaves (os : Nat → Outside) :
    IncrLeaves db key delta ttlSeconds (os 0).elapsed s
      (Prog.run (answer db) os s (Closure.incr key delta ttlSeconds).prog.run).1
      (Prog.run (answer db) os s (Closure.incr key delta ttlSeconds).prog.run).2 := by
  have hrefl : Among (s.tables db) (s.tables db) := fun _ _ h => h
  rw [show (Closure.incr key delta ttlSeconds).prog =
    KvReply.int <$> (incr key delta ttlSeconds >>= fun a => do KvM.invalidate key; pure a) from rfl]
  by_cases hkey : key = ""
  · subst hkey
    exact hrefl
  · rw [incr_eq (by simpa using hkey)]
    have halone : Alone (∃ n, (os (n + 1)).fault ≠ none) db (IncrLeaves db key delta ttlSeconds
        (os 0).elapsed s) (KvReply.int <$> (incrAt key delta ttlSeconds (s.clock + (os 0).elapsed)
        >>= fun a => do KvM.invalidate key; pure a)) (s.tick (os 0).elapsed) :=
      alone_map (alone_bind (alone_incrAt _ (fun _ _ _ _ h => h) (fun _ _ _ => hrefl)
        fun n e t s' hn hamong htables _ hclock => ⟨hkey, e, t, hn, hamong, htables, hclock⟩))
    exact halone.run

end Incr

end Combee.Kv
