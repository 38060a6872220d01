import Combee.Kv.Collection

/-!
# Alone — KV code run call by call with no one else at work

`with_conn` holds the mutex of the connection table, so a closure meets nobody while it runs. The
clock still advances between any two of its calls, and SQLite may fail at any of them.

* `Alone` — what holds at the end of such a run, with one rule for each call;
* `Held` — a change that leaves the row of a key alone, unless the row has expired, and that keeps
  the cache coherent at the key;
* `Gentle` — code that leaves every key held: all reads are.
-/

namespace Combee.Kv

open Foundation

/-! ## One command alone, call by call -/

/-- Code on the connection of `db` that nothing interferes with; SQLite fails only if `F` holds. -/
abbrev Alone (F : Prop) (db : DatabaseId) {α : Type} (Q : Result α → KvState → Prop)
    (p : KvM α) (s : KvState) : Prop :=
  Prog.Secure (answer db) Eq (fun _ _ o => o.fault ≠ none → F) (fun _ => True) Q p.run s

/-- The postcondition of the first part of a sequence: the rest meets `Q`, and an error does. -/
def Then (F : Prop) (db : DatabaseId) {α β : Type} (Q : Result β → KvState → Prop)
    (f : α → KvM β) : Result α → KvState → Prop
  | .ok a, s => Alone F db Q (f a) s
  | .error e, s => Q (.error e) s

section Alone

variable {F : Prop} {db : DatabaseId} {key : String} {s : KvState} {α β : Type}
  {p : KvM α} {Q : Result β → KvState → Prop}

lemma alone_bind {f : α → KvM β}
    (h : Alone F db (Then F db Q f) p s) : Alone F db Q (p >>= f) s := by
  refine Prog.secure_exceptT_bind (h.mono fun {r s} hr => ?_)
  cases r with
  | ok | error => exact hr

lemma alone_map {f : α → β}
    (h : Alone F db (fun r s => Q (r.map f) s) p s) : Alone F db Q (f <$> p) s := by
  refine alone_bind (h.mono fun {r s} hr => ?_)
  cases r with
  | ok | error => exact hr

lemma alone_unixNow {Q : Result Int → KvState → Prop}
    (h : ∀ d : Nat, Q (.ok (s.clock + d)) (s.tick d)) : Alone F db Q KvM.unixNow s := by
  rintro s' rfl o _
  exact ⟨trivial, h o.elapsed⟩

lemma alone_readRow {Q : Result (Option KvRow) → KvState → Prop}
    (hok : ∀ d : Nat, Q (.ok (s.row ⟨db, key⟩)) (s.tick d))
    (hfault : ∀ (d : Nat) e, F → Q (.error (.sql e)) (s.tick d)) :
    Alone F db Q (KvM.readRow key) s := by
  rintro s' rfl o ho
  refine ⟨trivial, ?_⟩
  cases hf : o.fault with
  | none =>
    simp only [answer, hf]
    exact hok o.elapsed
  | some e =>
    simp only [answer, hf]
    exact hfault o.elapsed e (ho (by simp [hf]))

lemma alone_execute {st : Stmt} {Q : Result Nat → KvState → Prop}
    (hok : ∀ d : Nat, Q (.ok (st.exec (s.tables db)).1)
      ((s.tick d).setTable db (st.exec (s.tables db)).2))
    (hfault : ∀ (d : Nat) e, F → Q (.error (.sql e)) (s.tick d)) :
    Alone F db Q (KvM.execute st) s := by
  rintro s' rfl o ho
  refine ⟨trivial, ?_⟩
  cases hf : o.fault with
  | none =>
    simp only [answer, hf]
    exact hok o.elapsed
  | some e =>
    simp only [answer, hf]
    exact hfault o.elapsed e (ho (by simp [hf]))

variable {Q : Result Unit → KvState → Prop}

lemma alone_put {v : CachedValue}
    (h : ∀ d : Nat, Q (.ok ()) ((s.tick d).setEntry ⟨db, key⟩ (some v))) :
    Alone F db Q (KvM.put key v) s := by
  rintro s' rfl o _
  exact ⟨trivial, h o.elapsed⟩

lemma alone_invalidate (h : ∀ d : Nat, Q (.ok ()) ((s.tick d).setEntry ⟨db, key⟩ none)) :
    Alone F db Q (KvM.invalidate key) s := by
  rintro s' rfl o _
  exact ⟨trivial, h o.elapsed⟩

lemma alone_ignore
    (h : Alone F db (fun _ s => Q (.ok ()) s) p s) : Alone F db Q (KvM.ignore p) s :=
  Prog.secure_bind (Prog.secure_bind (h.mono fun hr => hr))

variable {Q : Result α → KvState → Prop} {os : Nat → Outside}

variable (h : Alone (∃ n, (os n).fault ≠ none) db Q p s)
include h

lemma Alone.run :
    Q (Prog.run (answer db) os s p.run).1 (Prog.run (answer db) os s p.run).2 := by
  refine Prog.Secure.run (fun _ => rfl) (Prog.permits_of_forall ?_ s p.run) h
  exact fun n _ _ hn => ⟨n, hn⟩

lemma Alone.run_ok {a : α}
    (hok : (Prog.run (answer db) os s p.run).1 = .ok a) :
    Q (.ok a) (Prog.run (answer db) os s p.run).2 :=
  hok ▸ h.run

end Alone

/-! ## What leaves a key alone -/

lemma not_isExpired_mono {expiresAt : Option Int} {now later : Int} (hle : now ≤ later)
    (h : isExpired expiresAt later = false) : isExpired expiresAt now = false := by
  cases hexp : isExpired expiresAt now with
  | false => rfl
  | true => cases h.symm.trans (isExpired_mono hle hexp)

/-- The cache has nothing unexpired for `k` that its row does not have. -/
def CoherentAt (k : CacheKey) (s : KvState) : Prop :=
  ∀ v, s.cache k = some v → isExpired v.expiresAt s.clock = false → Agrees (s.row k) v

/-- The row of `k` is as it was, or expired and gone; and the cache stays coherent at `k`. -/
structure Held (k : CacheKey) (s s' : KvState) : Prop where
  clock : s.clock ≤ s'.clock
  row : s'.row k = s.row k ∨
    s'.row k = none ∧ ∃ row, s.row k = some row ∧ isExpired row.expiresAt s'.clock = true
  coherent : CoherentAt k s → CoherentAt k s'

namespace Held

variable {k : CacheKey} {s s' s'' : KvState}

lemma trans (h : Held k s s') (h' : Held k s' s'') : Held k s s'' := by
  refine ⟨h.clock.trans h'.clock, ?_, fun hc => h'.coherent (h.coherent hc)⟩
  rcases h.row with hrow | ⟨hnone, row, hrow, he⟩
  · rcases h'.row with hrow' | ⟨hnone', row, hrow', he⟩
    · exact .inl (hrow'.trans hrow)
    · exact .inr ⟨hnone', row, hrow ▸ hrow', he⟩
  · rcases h'.row with hrow' | ⟨_, row', hrow', _⟩
    · exact .inr ⟨hrow'.trans hnone, row, hrow, isExpired_mono h'.clock he⟩
    · rw [hnone] at hrow'
      cases hrow'

lemma of_fades (h : Fades s s') : Held k s s' := by
  refine ⟨h.clock, .inl (h.row k), fun hc v hv he => ?_⟩
  rw [h.row k]
  refine hc v (h.cache k v hv) ?_
  -- an entry that is unexpired now was so before
  exact not_isExpired_mono h.clock he

lemma tick (s : KvState) (d : Nat) : Held k s (s.tick d) :=
  of_fades (Fades.tick s d)

lemma fill {k' : CacheKey} {v : CachedValue} (d : Nat) (hv : Agrees (s.row k') v) :
    Held k s ((s.tick d).setEntry k' (some v)) := by
  have htick := Held.tick (k := k) s d
  refine ⟨htick.clock, .inl rfl, fun hc v' hv' he => ?_⟩
  by_cases hk : k = k'
  · subst hk
    have hsame : some v = some v' := by simpa [KvState.setEntry] using hv'
    cases hsame
    exact hv
  · have hold : (s.tick d).cache k = some v' := by simpa [KvState.setEntry, hk] using hv'
    exact htick.coherent hc v' hold he

lemma erase {db : DatabaseId} {key : String} {row : KvRow} (d : Nat)
    (hrow : s.row ⟨db, key⟩ = some row) (he : isExpired row.expiresAt s.clock = true) :
    Held k s ((s.tick d).setTable db ((Stmt.delete key).exec (s.tables db)).2) := by
  have htick := Held.tick (k := k) s d
  by_cases hk : k = ⟨db, key⟩
  · subst hk
    have hlookup : (s.tables db).lookup key = some row := hrow
    refine ⟨htick.clock, .inr ⟨?_, row, hrow, isExpired_mono htick.clock he⟩, ?_⟩
    · rw [KvState.row_setTable]
      simp [Stmt.exec, hlookup]
    · -- an unexpired entry would have agreed with the expired row
      intro hc v hv hlive
      rcases htick.coherent hc v hv hlive with ⟨row', hrow', _, hexp⟩
      have hsame : row' = row := Option.some.inj (hrow'.symm.trans hrow)
      have hdead : isExpired v.expiresAt (s.tick d).clock = true := by
        rw [← hexp, hsame]
        exact isExpired_mono htick.clock he
      cases hlive.symm.trans hdead
  · have hrow' : ((s.tick d).setTable db ((Stmt.delete key).exec (s.tables db)).2).row k =
        s.row k := row_setTable_of_ne (s := s.tick d) hk
    refine ⟨htick.clock, .inl hrow', fun hc v hv hlive => ?_⟩
    rw [hrow']
    exact htick.coherent hc v hv hlive

lemma liveValue (h : Held k s s')
    (hlive : ∀ v, s.liveValue k = some v → isExpired v.expiresAt s'.clock = false) :
    s'.liveValue k = s.liveValue k := by
  cases hv : s.liveValue k with
  | some v =>
    rcases KvState.liveValue_eq_some.mp hv with ⟨row, hrow, _, rfl⟩
    have he := hlive _ hv
    rcases h.row with hrow' | ⟨_, row', hrow', he'⟩
    · exact KvState.liveValue_eq_some.mpr ⟨row, hrow'.trans hrow, he, rfl⟩
    · cases hrow.symm.trans hrow'
      cases he.symm.trans he'
  | none =>
    have hdead := KvState.liveValue_eq_none.mp hv
    refine KvState.liveValue_eq_none.mpr fun row hrow => ?_
    rcases h.row with hrow' | ⟨hnone, _⟩
    · exact isExpired_mono h.clock (hdead row (hrow'.symm.trans hrow))
    · cases hnone.symm.trans hrow

end Held

def Gentle (F : Prop) (db : DatabaseId) {α : Type} (p : KvM α) : Prop :=
  ∀ (k : CacheKey) (s₀ s : KvState), Held k s₀ s → Alone F db (fun _ s' => Held k s₀ s') p s

section Gentle

variable {F : Prop} {db : DatabaseId} {key : String} {α β : Type}

lemma gentle_pure (a : α) : Gentle F db (pure a : KvM α) :=
  fun _ _ _ h => h

lemma gentle_bind {p : KvM α} {f : α → KvM β} (hp : Gentle F db p)
    (hf : ∀ a, Gentle F db (f a)) : Gentle F db (p >>= f) := by
  intro k s₀ s h
  refine alone_bind ((hp k s₀ s h).mono fun {r s'} hs' => ?_)
  cases r with
  | ok a => exact hf a k s₀ s' hs'
  | error e => exact hs'

lemma gentle_map {f : α → β} {p : KvM α} (hp : Gentle F db p) : Gentle F db (f <$> p) :=
  fun k s₀ s h => alone_map (hp k s₀ s h)

lemma gentle_unixNow : Gentle F db KvM.unixNow :=
  fun _ _ s h => alone_unixNow fun d => h.trans (Held.tick s d)

lemma gentle_readRow : Gentle F db (KvM.readRow key) :=
  fun _ _ s h => alone_readRow (fun d => h.trans (Held.tick s d))
    fun d _ _ => h.trans (Held.tick s d)

/-- What a read with its lazy deletion finds is in the row, and a row that stays unexpired is found.
-/
structure Found (F : Prop) (k k' : CacheKey) (s₀ s : KvState)
    (r : Result (Option (String × Option Int))) (s' : KvState) : Prop where
  held : Held k s₀ s'
  clock : s.clock ≤ s'.clock
  agrees : ∀ ve, r = .ok (some ve) → Agrees (s'.row k') ⟨ve.1, ve.2⟩
  live : ∀ row, s.row k' = some row → isExpired row.expiresAt s'.clock = false →
    r = .ok (some (row.value, row.expiresAt)) ∨ F ∧ ∃ e, r = .error e

/-- The lazy deletion takes a row only if the clock reading before has shown it to be expired. -/
lemma alone_readWithExpiry {k : CacheKey} {s₀ s : KvState} (h : Held k s₀ s) :
    Alone F db (Found F k ⟨db, key⟩ s₀ s) (readWithExpiry key) s := by
  refine alone_bind (alone_unixNow fun d => ?_)
  have h1 := h.trans (Held.tick s d)
  have hclock1 : s.clock ≤ (s.tick d).clock := (Held.tick (k := k) s d).clock
  refine alone_bind (alone_readRow (fun d' => ?_) fun d' e hF => ?_)
  · have htick := Held.tick (k := k) (s.tick d) d'
    have h2 := h1.trans htick
    have hclock2 := hclock1.trans htick.clock
    cases hrow : (s.tick d).row ⟨db, key⟩ with
    | none =>
      refine ⟨h2, hclock2, fun ve hve => ?_, fun row hrow' _ => ?_⟩
      · cases hve
      · cases hrow.symm.trans hrow'
    | some row =>
      dsimp only [Then]
      split
      · rename_i he
        have he' : isExpired row.expiresAt ((s.tick d).tick d').clock = true :=
          isExpired_mono htick.clock he
        -- nothing is found, and the row has expired for good
        have hnone : ∀ {s' : KvState}, Held k ((s.tick d).tick d') s' →
            Found F k ⟨db, key⟩ s₀ s (.ok none) s' := by
          intro s' h3
          refine ⟨h2.trans h3, hclock2.trans h3.clock, fun ve hve => ?_,
            fun row' hrow' hlive => ?_⟩
          · cases hve
          · cases hrow.symm.trans hrow'
            cases hlive.symm.trans (isExpired_mono h3.clock he')
        have hrow2 : ((s.tick d).tick d').row ⟨db, key⟩ = some row := hrow
        refine alone_bind (alone_ignore (alone_bind (alone_execute (fun d'' => ?_)
          fun d'' _ _ => ?_)))
        · exact hnone (Held.erase d'' hrow2 he')
        · exact hnone (Held.tick _ d'')
      · refine ⟨h2, hclock2, fun ve hve => ?_, fun row' hrow' _ => .inl ?_⟩
        · cases hve
          exact ⟨row, hrow, rfl, rfl⟩
        · cases hrow.symm.trans hrow'
          rfl
  · have htick := Held.tick (k := k) (s.tick d) d'
    refine ⟨h1.trans htick, hclock1.trans htick.clock, fun ve hve => ?_,
      fun _ _ _ => .inr ⟨hF, _, rfl⟩⟩
    cases hve

lemma alone_getEntry {k : CacheKey} {s₀ s : KvState} (h : Held k s₀ s) :
    Alone F db (fun r s' => Held k s₀ s' ∧ ∀ row, s.row ⟨db, key⟩ = some row →
        isExpired row.expiresAt s'.clock = false →
          (∃ ttlSeconds, r = .ok (some ⟨row.value, ttlSeconds⟩)) ∨ F ∧ ∃ e, r = .error e)
      (Closure.getEntry key) s := by
  refine alone_bind (alone_unixNow fun d => ?_)
  refine alone_bind ((alone_readWithExpiry (h.trans (Held.tick s d))).mono fun {r s'} hr => ?_)
  rcases r with e | _ | ve
  · refine ⟨hr.held, fun row hrow he => ?_⟩
    rcases hr.live row hrow he with hok | ⟨hF, _⟩
    · cases hok
    · exact .inr ⟨hF, e, rfl⟩
  · refine ⟨hr.held, fun row hrow he => ?_⟩
    rcases hr.live row hrow he with hok | ⟨_, _, herr⟩
    · cases hok
    · cases herr
  · refine alone_bind (alone_put fun d' => ?_)
    have hfill := Held.fill (k := k) d' (hr.agrees ve rfl)
    refine ⟨hr.held.trans hfill, fun row hrow he => ?_⟩
    rcases hr.live row hrow (not_isExpired_mono hfill.clock he) with hok | ⟨_, _, herr⟩
    · cases hok
      exact .inl ⟨_, rfl⟩
    · cases herr

lemma gentle_exists : Gentle F db (Kv.exists key) := by
  refine gentle_bind gentle_unixNow fun now => gentle_bind gentle_readRow fun row => ?_
  cases row with
  | none | some => exact gentle_pure _

lemma gentle_ttl : Gentle F db (ttl key) := by
  refine gentle_bind gentle_unixNow fun now => gentle_bind gentle_readRow fun row => ?_
  rcases row with _ | ⟨value, _ | e, version⟩
  · exact gentle_pure _
  · exact gentle_pure _
  · dsimp only
    split
    · exact gentle_pure _
    · exact gentle_pure _

lemma gentle_mgetLoop (keys : List String) (miss : List Nat) (out : List (Option String)) :
    Gentle F db (mgetLoop keys miss out) := by
  induction miss generalizing out with
  | nil => exact gentle_pure _
  | cons i miss ih =>
    intro k s₀ s h
    refine alone_bind ((alone_readWithExpiry h).mono fun {r s'} hr => ?_)
    rcases r with e | _ | ve
    · exact hr.held
    · exact ih out k s₀ s' hr.held
    · refine alone_bind (alone_put fun d => ?_)
      exact ih _ k s₀ _ (hr.held.trans (Held.fill d (hr.agrees ve rfl)))

def Closure.reads : Closure → Bool
  | .get _ => true
  | .exists _ => true
  | .mget _ _ _ => true
  | .ttl _ => true
  | _ => false

lemma gentle_prog {c : Closure} (hc : c.reads = true) : Gentle F db c.prog := by
  cases c with
  | get key =>
    exact gentle_map fun k s₀ s h => (alone_getEntry h).mono fun hr => hr.1
  | «exists» key => exact gentle_map gentle_exists
  | mget keys out miss => exact gentle_map (gentle_mgetLoop keys miss out)
  | ttl key => exact gentle_map gentle_ttl
  | set | del | mset | expire | incr => cases hc

end Gentle

/-! ## The lock-free parts -/

section Fast

variable {db : DatabaseId} {key : String} {s : KvState}

/-- A lock-free part leaves tables alone and only drops entries. -/
lemma fast_fades {α : Type} (db : DatabaseId) (fast : Nat → Outside) (s : KvState) (p : FastM α) :
    Fades s (Prog.run (answerCache db) fast s p).2 := by
  refine Prog.run_rel Fades.refl Fades.trans (fun s op o => ?_) fast s p
  have htick := Fades.tick s o.elapsed
  cases op with
  | now | get => exact htick
  | invalidate key => exact htick.trans (Fades.drop _ _)

/-- Code of a fast path that nothing else interferes with. -/
abbrev AloneFast (db : DatabaseId) {α : Type} (Q : α → KvState → Prop) (p : FastM α)
    (s : KvState) : Prop :=
  Prog.Secure (answerCache db) Eq (fun _ _ _ => True) (fun _ => True) Q p s

lemma aloneFast_unixNow {Q : Int → KvState → Prop} (h : ∀ d : Nat, Q (s.clock + d) (s.tick d)) :
    AloneFast db Q FastM.unixNow s := by
  rintro s' rfl o _
  exact ⟨trivial, h o.elapsed⟩

lemma aloneFast_lookup {Q : Option CachedValue → KvState → Prop}
    (h : ∀ d : Nat, Q (s.cache ⟨db, key⟩) (s.tick d)) : AloneFast db Q (FastM.lookup key) s := by
  rintro s' rfl o _
  exact ⟨trivial, h o.elapsed⟩

lemma aloneFast_invalidate {Q : Unit → KvState → Prop}
    (h : ∀ d : Nat, Q () ((s.tick d).setEntry ⟨db, key⟩ none)) :
    AloneFast db Q (FastM.invalidate key) s := by
  rintro s' rfl o _
  exact ⟨trivial, h o.elapsed⟩

end Fast

/-! ## The garbage collection -/

lemma gc_held {s : KvState} (k : CacheKey) {db' : DatabaseId} {keys : List String} {t : KvTable}
    (ht : gcExpired (s.tables db') s.clock keys = some t) : Held k s (s.setTable db' t) := by
  unfold gcExpired at ht
  split at ht
  · rename_i hkeys
    cases ht
    rcases k with ⟨db, key⟩
    by_cases hcollected : db = db' ∧ key ∈ keys
    · rcases hcollected with ⟨rfl, hkey⟩
      have hexpired := List.all_eq_true.mp hkeys.2 key hkey
      rcases exists_of_expiredAt hexpired with ⟨row, hrow, he⟩
      refine ⟨le_rfl, .inr ⟨?_, row, hrow, he⟩, fun hc v hv hlive => ?_⟩
      · simp [KvState.row, KvState.setTable, lookup_foldl_erase, hkey]
      · rcases hc v hv hlive with ⟨row', hrow', _, hexp⟩
        cases hrow'.symm.trans hrow
        cases hlive.symm.trans (hexp ▸ he)
    · have hrow : (s.setTable db' (keys.foldl (fun t key => t.erase key) (s.tables db'))).row
          ⟨db, key⟩ = s.row ⟨db, key⟩ := by
        by_cases hdb : db = db'
        · subst hdb
          have hkey : key ∉ keys := fun hkey => hcollected ⟨rfl, hkey⟩
          simp [KvState.row, KvState.setTable, lookup_foldl_erase, hkey]
        · exact KvState.row_setTable_of_db_ne _ _ hdb
      refine ⟨le_rfl, .inl hrow, fun hc v hv hlive => ?_⟩
      rw [hrow]
      exact hc v hv hlive
  · cases ht

end Combee.Kv
