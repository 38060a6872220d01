import Combee.Foundation.Lockstep
import Combee.Kv.Effects

/-!
# Counter — INCR along a whole history of a key

INCR reads a row, parses its text, adds, prints the sum and writes it back. A key that is used as a
counter sees any number of INCR calls with any `i64` deltas and ttls, reads of any keys, cache
evictions, garbage collections and the clock, which may also advance between any two calls that one
command makes.

* `parseI64_toString` — what INCR prints is what it parses;
* `Exact` — what an INCR call is meant to do.
-/

namespace Combee.Kv

open Foundation

/-! ## Printing and parsing -/

section Text

lemma notMem_toDigits {c : Char} {n : Nat} (hc : c.isDigit = false) : c ∉ Nat.toDigits 10 n := by
  intro h
  cases hc.symm.trans (Nat.isDigit_of_mem_toDigits (by decide) (Nat.le_refl 10) h)

lemma parseDigits_toDigits (n : Nat) : parseDigits (Nat.toDigits 10 n) = some n := by
  have hdigits : (Nat.toDigits 10 n).all Char.isDigit = true :=
    List.all_eq_true.mpr fun _ hc =>
      Nat.isDigit_of_mem_toDigits (by decide) (Nat.le_refl 10) hc
  have hvalue : (Nat.toDigits 10 n).foldl (fun n c => n * 10 + (c.toNat - 48)) 0 = n := by
    have h := Nat.ofDigitChars_ten_toDigits (n := n)
    rw [Nat.ofDigitChars_eq_foldl] at h
    simpa [Nat.mul_comm] using h
  cases hcs : Nat.toDigits 10 n with
  | nil => exact absurd hcs Nat.toDigits_ne_nil
  | cons c cs =>
    rw [hcs] at hdigits hvalue
    simp only [parseDigits, hdigits, if_true, hvalue]

lemma checkI64_eq_some {n m : Int} :
    checkI64 n = some m ↔ n = m ∧ -(2 ^ 63) ≤ n ∧ n < 2 ^ 63 := by
  unfold checkI64
  split
  · rename_i h
    exact ⟨fun hm => ⟨Option.some.inj hm, h⟩, fun hm => congrArg some hm.1⟩
  · rename_i h
    simp only [reduceCtorEq, false_iff]
    exact fun hm => h hm.2

lemma parseI64_toString {n : Int} (hn : checkI64 n = some n) :
    parseI64 (toString n) = some n := by
  rw [Int.toString_eq_repr, Int.repr_eq_if]
  by_cases hpos : 0 ≤ n
  · rw [if_pos hpos]
    have hlist : n.toNat.repr.toList = Nat.toDigits 10 n.toNat := Nat.toList_repr
    have hparse : (parseDigits (Nat.toDigits 10 n.toNat)).bind (fun m => checkI64 m) = some n := by
      rw [parseDigits_toDigits, Option.bind_some, Int.toNat_of_nonneg hpos, hn]
    unfold parseI64
    rw [hlist]
    -- the first character is a digit, hence no sign
    split
    · rename_i heq
      have hminus : '-' ∉ Nat.toDigits 10 n.toNat := notMem_toDigits rfl
      exact absurd (heq ▸ List.mem_cons_self) hminus
    · rename_i heq
      have hplus : '+' ∉ Nat.toDigits 10 n.toNat := notMem_toDigits rfl
      exact absurd (heq ▸ List.mem_cons_self) hplus
    · exact hparse
  · rw [if_neg hpos]
    have hneg : -((-n).toNat : Int) = n := by omega
    unfold parseI64
    rw [String.toList_append, Nat.toList_repr]
    change (parseDigits (Nat.toDigits 10 (-n).toNat)).bind (fun m => checkI64 (-m)) = some n
    rw [parseDigits_toDigits, Option.bind_some, hneg, hn]

end Text

/-! ## What INCR is meant to do -/

/-- The number that a counter stands at: zero if nothing is live, none if the text is not an
integer. -/
def counterOf : Option CachedValue → Option Int
  | none => some 0
  | some v => parseI64 v.value

/-- What one INCR call is meant to do; `live` is what is live under the key at `now`. -/
def IncrExact (F : Prop) (k : CacheKey) (delta : Int) (ttlSeconds : Option UInt64) (now : Int)
    (live : Option CachedValue) (s : KvState) : Result Int → KvState → Prop
  | .ok n, s' =>
    -- the old number plus the delta is returned and stored, and without a ttl the expiry stays
    ∃ old version, counterOf live = some old ∧ n = old + delta ∧ checkI64 n = some n ∧
      s'.row k = some ⟨toString n, (expiresAtFrom ttlSeconds now).or
        (live.bind (·.expiresAt)), version⟩ ∧ s'.cache k = none
  | .error (.sql _), s' => F ∧ Held k s s'
  | .error _, s' =>
    -- no integer, or a sum out of range: nothing has changed
    (k.key = "" ∨ ∀ old, counterOf live = some old → checkI64 (old + delta) = none) ∧
      s'.tables = s.tables ∧ s'.cache = s.cache

/-- What one INCR call is meant to do, at the time that it reads from the clock. -/
def Exact (F : Prop) (k : CacheKey) (delta : Int) (ttlSeconds : Option UInt64) (s : KvState)
    (r : Result Int) (s' : KvState) : Prop :=
  ∃ d : Nat, s.clock + d ≤ s'.clock ∧
    IncrExact F k delta ttlSeconds (s.clock + d) ((s.tick d).liveValue k) s r s'

section Incr

variable {F : Prop} {db : DatabaseId} {key : String} {s : KvState}

/-- INCR fails if the row holds no integer or the sum is out of range. -/
lemma incrLive_cases (live : Option CachedValue) (delta : Int64) (ttlSeconds : Option UInt64)
    (now : Int) :
    ((∀ old, counterOf live = some old → checkI64 (old + delta.toInt) = none) ∧
      ∃ message, incrLive live delta.toInt ttlSeconds now = .error (.invalidRequest message)) ∨
    ∃ old, counterOf live = some old ∧
      checkI64 (old + delta.toInt) = some (old + delta.toInt) ∧
      incrLive live delta.toInt ttlSeconds now =
        .ok (old + delta.toInt, (expiresAtFrom ttlSeconds now).or (live.bind (·.expiresAt))) := by
  cases live with
  | none =>
    refine .inr ⟨0, rfl, checkI64_eq_some.mpr ⟨rfl, ?_⟩, by simp [incrLive]⟩
    exact ⟨by simpa using delta.le_toInt, by simpa using delta.toInt_lt⟩
  | some v =>
    simp only [incrLive, incrRow, counterOf]
    cases hparse : parseI64 v.value with
    | none => exact .inl ⟨by simp, _, rfl⟩
    | some old =>
      cases hadd : checkedAdd old delta.toInt with
      | none =>
        refine .inl ⟨fun old' hold => ?_, _, by simp only [hadd]; rfl⟩
        cases hold
        exact hadd
      | some new =>
        obtain rfl : old + delta.toInt = new := (checkI64_eq_some.mp hadd).1
        exact .inr ⟨old, rfl, hadd, by simp [hadd]⟩

/-- INCR does what it is meant to do, whatever the outside decides at its calls. -/
lemma alone_incr (delta : Int64) (ttlSeconds : Option UInt64) :
    Alone F db (Exact F ⟨db, key⟩ delta.toInt ttlSeconds s)
      (Closure.incrAndInvalidate key delta.toInt ttlSeconds) s := by
  refine alone_incrAndInvalidate ?_ ?_ ?_ ?_
  · exact fun hkey _ => ⟨0, by simp, .inl hkey, rfl, rfl⟩
  · exact fun s2 e hF hheld _ => ⟨0, by simpa using hheld.clock, hF, hheld⟩
  · intro d d' e he
    rcases incrLive_cases ((s.tick d).liveValue ⟨db, key⟩) delta ttlSeconds (s.clock + d) with
      ⟨hnone, message, hincr⟩ | ⟨old, _, _, hincr⟩ <;> cases hincr.symm.trans he
    exact ⟨d, (Held.tick (k := ⟨db, key⟩) (s.tick d) d').clock, .inr hnone, rfl, rfl⟩
  · intro d n e t s' _ hn _ htables hcache hclock
    rcases incrLive_cases ((s.tick d).liveValue ⟨db, key⟩) delta ttlSeconds (s.clock + d) with
      ⟨_, message, hincr⟩ | ⟨old, hold, hcheck, hincr⟩ <;> cases hincr.symm.trans hn
    obtain ⟨version, hrow⟩ := lookup_exec_set (t := t) (.inl rfl)
      (upsert_exec_pos key (toString (old + delta.toInt)) _ t)
    exact ⟨d, hclock, old, version, hold, rfl, hcheck,
      (congrArg (·.lookup key) htables).trans hrow, hcache⟩

end Incr

/-! ## A history of the key -/

/-- A whole command, with what the outside decides at its lock-free part and at its closure. -/
def serveWith (db : DatabaseId) (fast os : Nat → Outside) (s : KvState) (r : KvRequest) :
    Result KvReply × KvState :=
  match Prog.run (answerCache db) fast s (fastPath r) with
  | (.inl reply, s) => (.ok reply, s)
  | (.inr c, s) => Prog.run (answer db) os s c.prog.run

inductive Reading where
  | get (key : String)
  | exists (key : String)
  | mget (keys : List String)
  | ttl (key : String)
  deriving DecidableEq, Repr

def Reading.request : Reading → KvRequest
  | .get key => .get key
  | .exists key => .exists key
  | .mget keys => .mget keys
  | .ttl key => .ttl key

/-- What can happen to a key that is used as a counter. -/
inductive CounterEvent where
  | incr (delta : Int64) (ttlSeconds : Option UInt64) (os : Nat → Outside)
  | read (r : Reading) (fast os : Nat → Outside)
  | event (e : Event)

def KvState.happen (s : KvState) : Event → KvState
  | .tick elapsed => s.tick elapsed
  | .evict k => s.setEntry k none
  | .gc db keys =>
    match gcExpired (s.tables db) s.clock keys with
    | some t => s.setTable db t
    | none => s

/-- One event of the history of `key`: the answer, if it is a command, and the state after it. -/
def perform (db : DatabaseId) (key : String) (s : KvState) :
    CounterEvent → Option (Result KvReply) × KvState
  | .incr delta ttlSeconds os =>
    let (r, s') := serveWith db calm os s (.incr key delta.toInt ttlSeconds)
    (some r, s')
  | .read r fast os =>
    let (r, s') := serveWith db fast os s r.request
    (some r, s')
  | .event e => (none, s.happen e)

def after (db : DatabaseId) (key : String) (s : KvState) (es : List CounterEvent) : KvState :=
  es.foldl (fun s e => (perform db key s e).2) s

def gain (db : DatabaseId) (key : String) (s : KvState) (e : CounterEvent) : Option Int :=
  match e, (perform db key s e).1 with
  | .incr delta _ _, some (.ok _) => some delta.toInt
  | _, _ => none

/-- The deltas that were added along a history. -/
def gains (db : DatabaseId) (key : String) : KvState → List CounterEvent → List Int
  | _, [] => []
  | s, e :: es => (gain db key s e).toList ++ gains db key (perform db key s e).2 es

/-- What was live has not expired by the end of the event, nor what it has added. -/
structure Unexpired (db : DatabaseId) (key : String) (s : KvState) (e : CounterEvent) : Prop where
  live : ∀ v, s.liveValue ⟨db, key⟩ = some v →
    isExpired v.expiresAt (perform db key s e).2.clock = false
  added : gain db key s e ≠ none → (perform db key s e).2.liveValue ⟨db, key⟩ ≠ none

/-- An INCR call of a history does what it is meant to do. -/
def CounterEvent.IsExact (db : DatabaseId) (key : String) (s : KvState) (e : CounterEvent) : Prop :=
  match e with
  | .incr delta ttlSeconds os => ∃ r, (perform db key s e).1 = some (r.map .int) ∧
      Exact (∃ n, (os n).fault ≠ none) ⟨db, key⟩ delta.toInt ttlSeconds s r (perform db key s e).2
  | _ => True

section History

variable {db : DatabaseId} {key : String} {s : KvState}

lemma perform_incr_exact (db : DatabaseId) (key : String) (s : KvState) (delta : Int64)
    (ttlSeconds : Option UInt64) (os : Nat → Outside) :
    (CounterEvent.incr delta ttlSeconds os).IsExact db key s := by
  have hrun : Alone (∃ n, (os n).fault ≠ none) db (fun r s' => ∃ r', r = r'.map KvReply.int ∧
      Exact (∃ n, (os n).fault ≠ none) ⟨db, key⟩ delta.toInt ttlSeconds s r' s')
      (Closure.incr key delta.toInt ttlSeconds).prog s :=
    alone_map ((alone_incr delta ttlSeconds).mono fun {r s'} hr => ⟨r, rfl, hr⟩)
  rcases hrun.run with ⟨r, hr, hexact⟩
  exact ⟨r, congrArg some hr, hexact⟩

lemma fastPath_reads (r : Reading) :
    (fastPath r.request).Returns fun out => ∀ c, out = .inr c → c.reads = true := by
  cases r with
  | get | «exists» | ttl =>
    refine Prog.returns_bind (Prog.returns_true _) fun now _ =>
      Prog.returns_bind (Prog.returns_true _) fun found _ => ?_
    cases found with
    | none =>
      rintro _ ⟨⟩
      rfl
    | some entry => rintro _ ⟨⟩
  | mget keys =>
    refine Prog.returns_bind (Prog.returns_true _) fun now _ =>
      Prog.returns_bind (Prog.returns_true _) fun found _ => ?_
    dsimp only
    split
    · rintro _ ⟨⟩
    · rintro _ ⟨⟩
      rfl

lemma read_held (k : CacheKey) (r : Reading) (fast os : Nat → Outside) :
    Held k s (serveWith db fast os s r.request).2 := by
  have hfast := fast_fades db fast s (fastPath r.request)
  have hreads : ∀ c, (Prog.run (answerCache db) fast s (fastPath r.request)).1 = .inr c →
      c.reads = true := (fastPath_reads r).run fast s
  unfold serveWith
  rcases hrun : Prog.run (answerCache db) fast s (fastPath r.request) with ⟨reply | c, s1⟩
  · rw [hrun] at hfast
    exact Held.of_fades hfast
  · rw [hrun] at hfast hreads
    exact (gentle_prog (hreads c rfl) k s s1 (Held.of_fades hfast)).run

lemma happen_held (k : CacheKey) (e : Event) : Held k s (s.happen e) := by
  cases e with
  | tick elapsed => exact Held.tick s elapsed
  | evict k' => exact Held.of_fades (Fades.drop s k')
  | gc db' keys =>
    cases ht : gcExpired (s.tables db') s.clock keys with
    | some t =>
      simp only [KvState.happen, ht]
      exact gc_held k ht
    | none =>
      simp only [KvState.happen, ht]
      exact Held.of_fades (Fades.refl s)

lemma IncrExact.held {F : Prop} {k : CacheKey} {delta now : Int} {ttlSeconds : Option UInt64}
    {live : Option CachedValue} {e : CombeeError} {s' : KvState} (hle : s.clock ≤ s'.clock)
    (h : IncrExact F k delta ttlSeconds now live s (.error e) s') : Held k s s' := by
  cases e with
  | sql message => exact h.2
  | _ =>
    rcases h with ⟨_, htables, hcache⟩
    exact Held.of_fades ⟨htables, hle, fun k' v hv => by rw [← hcache]; exact hv⟩

variable {e : CounterEvent}

/-- An event that adds nothing leaves the key held, a failed INCR call included. -/
lemma perform_held (hgain : gain db key s e = none) :
    Held ⟨db, key⟩ s (perform db key s e).2 := by
  cases e with
  | read r fast os => exact read_held ⟨db, key⟩ r fast os
  | event e => exact happen_held ⟨db, key⟩ e
  | incr delta ttlSeconds os =>
    rcases perform_incr_exact db key s delta ttlSeconds os with
      ⟨r, hr, d, hclock, hexact⟩
    have hle : s.clock ≤ (perform db key s (.incr delta ttlSeconds os)).2.clock := by omega
    cases r with
    | ok n =>
      unfold gain at hgain
      rw [hr] at hgain
      cases hgain
    | error e => exact hexact.held hle

/-- What is live at the end of an event that is no expiry is live at every time within it. -/
lemma liveValue_tick_of_unexpired {k : CacheKey} {d : Nat} {later : Int}
    (hd : s.clock + d ≤ later)
    (hlive : ∀ v, s.liveValue k = some v → isExpired v.expiresAt later = false) :
    (s.tick d).liveValue k = s.liveValue k :=
  (Held.tick s d).liveValue fun v hv => not_isExpired_mono hd (hlive v hv)

variable {n : Int}

lemma perform_added {delta : Int} (hgain : gain db key s e = some delta)
    (hun : Unexpired db key s e) (hn : counterOf (s.liveValue ⟨db, key⟩) = some n) :
    ∃ v, (perform db key s e).2.liveValue ⟨db, key⟩ = some v ∧ v.value = toString (n + delta) ∧
      checkI64 (n + delta) = some (n + delta) ∧ (perform db key s e).2.cache ⟨db, key⟩ = none := by
  cases e with
  | read | event => cases hgain
  | incr delta' ttlSeconds os =>
    rcases perform_incr_exact db key s delta' ttlSeconds os with
      ⟨r, hr, d, hclock, hexact⟩
    have hadd := hun.added (by simp [hgain])
    unfold gain at hgain
    rw [hr] at hgain
    cases r with
    | error e => cases hgain
    | ok m =>
      cases hgain
      rcases hexact with ⟨old, version, hold, rfl, hcheck, hrow, hcache⟩
      -- the call has read the number that was live before
      rw [liveValue_tick_of_unexpired hclock hun.live, hn] at hold
      cases hold
      cases hv : (perform db key s (.incr delta' ttlSeconds os)).2.liveValue ⟨db, key⟩ with
      | none => exact absurd hv hadd
      | some v =>
        rcases KvState.liveValue_eq_some.mp hv with ⟨row, hrow', _, rfl⟩
        cases hrow.symm.trans hrow'
        exact ⟨_, rfl, rfl, hcheck, hcache⟩

/-- The counter stands at `n`; once `written`, its text is the decimal one, and the cache agrees. -/
structure Stands (k : CacheKey) (n : Int) (written : Prop) (s : KvState) : Prop where
  number : counterOf (s.liveValue k) = some n
  text : written → ∃ v, s.liveValue k = some v ∧ v.value = toString n
  coherent : written → CoherentAt k s

lemma Stands.perform {written : Prop}
    (h : Stands ⟨db, key⟩ n written s) (hun : Unexpired db key s e) :
    Stands ⟨db, key⟩ (n + (gain db key s e).toList.sum)
      (written ∨ gain db key s e ≠ none) (perform db key s e).2 := by
  cases hgain : gain db key s e with
  | none =>
    have hheld := perform_held hgain
    have hsame := hheld.liveValue hun.live
    have hzero : n + (none : Option Int).toList.sum = n := by simp
    rw [hzero]
    refine ⟨hsame ▸ h.number, fun hw => ?_, fun hw => ?_⟩
    · rw [hsame]
      exact h.text (hw.resolve_right fun hne => hne rfl)
    · exact hheld.coherent (h.coherent (hw.resolve_right fun hne => hne rfl))
  | some delta =>
    rcases perform_added hgain hun h.number with ⟨v, hv, htext, hcheck, hcache⟩
    have hsum : n + (some delta).toList.sum = n + delta := by simp
    rw [hsum]
    refine ⟨?_, fun _ => ⟨v, hv, htext⟩, fun _ v' hv' => ?_⟩
    · rw [hv, counterOf, htext]
      exact parseI64_toString hcheck
    · cases hcache.symm.trans hv'

lemma Stands.run {written : Prop} {es : List CounterEvent} (h : Stands ⟨db, key⟩ n written s)
    (hun : Always (Kv.perform db key) (Unexpired db key) s es) :
    Stands ⟨db, key⟩ (n + (gains db key s es).sum) (written ∨ gains db key s es ≠ [])
      (after db key s es) := by
  induction es generalizing s n written with
  | nil => simpa [gains, after] using h
  | cons e es ih =>
    have hrest := ih (h.perform hun.1) hun.2
    have hsum : n + (gains db key s (e :: es)).sum = n + (gain db key s e).toList.sum +
        (gains db key (Kv.perform db key s e).2 es).sum := by
      rw [gains, List.sum_append, Int.add_assoc]
    rw [hsum]
    refine ⟨hrest.number, fun hw => hrest.text ?_, fun hw => hrest.coherent ?_⟩
    all_goals
      rcases hw with hw | hw
      · exact .inl (.inl hw)
      · by_cases hgain : gain db key s e = none
        · refine .inr fun hnil => hw ?_
          simp [gains, hgain, hnil]
        · exact .inl (.inr hgain)

/-- The lock-free part of GET answers with an unexpired entry, or hands over to the connection. -/
lemma aloneFast_get (db : DatabaseId) (key : String) (s : KvState) :
    AloneFast db (fun out _ => out = .inr (.get key) ∨ ∃ v ttlSeconds,
        s.cache ⟨db, key⟩ = some v ∧ isExpired v.expiresAt s.clock = false ∧
          out = .inl (.entry (some ⟨v.value, ttlSeconds⟩)))
      (fastPath (.get key)) s := by
  refine Prog.secure_bind (aloneFast_unixNow fun d => ?_)
  refine Prog.secure_bind (Prog.secure_bind (aloneFast_lookup fun d' => ?_))
  cases hcache : (s.tick d).cache ⟨db, key⟩ with
  | none => exact .inl rfl
  | some v =>
    dsimp only
    split
    · exact Prog.secure_bind (aloneFast_invalidate fun d'' => .inl rfl)
    · rename_i he
      refine .inr ⟨v, _, hcache, ?_, rfl⟩
      have he' : isExpired v.expiresAt (s.clock + d) = false := by simpa using he
      exact not_isExpired_mono (Held.tick (k := ⟨db, key⟩) s d).clock he'

lemma get_text {v : CachedValue} (hc : CoherentAt ⟨db, key⟩ s)
    (hv : s.liveValue ⟨db, key⟩ = some v) (fast os : Nat → Outside)
    (he : isExpired v.expiresAt (serveWith db fast os s (.get key)).2.clock = false) :
    (∃ ttlSeconds, (serveWith db fast os s (.get key)).1 =
        .ok (.entry (some ⟨v.value, ttlSeconds⟩))) ∨ ∃ n, (os n).fault ≠ none := by
  rcases KvState.liveValue_eq_some.mp hv with ⟨row, hrow, _, rfl⟩
  have hpermits : Prog.Permits (answerCache db) (fun _ _ _ => True) fast s
      (fastPath (.get key)) := Prog.permits_of_forall (fun _ _ _ => trivial) s _
  have hget := Prog.Secure.run (fun _ => rfl) hpermits (aloneFast_get db key s)
  have hfades := fast_fades db fast s (fastPath (.get key))
  unfold serveWith at he ⊢
  rcases hrun : Prog.run (answerCache db) fast s (fastPath (.get key)) with ⟨out, s1⟩
  rw [hrun] at hget hfades he
  rcases hget with rfl | ⟨v', ttlSeconds, hcache, hlive, rfl⟩
  · -- past the cache the row itself is read
    have hclosure : Alone (∃ n, (os n).fault ≠ none) db (fun r s' =>
        isExpired row.expiresAt s'.clock = false →
          (∃ ttlSeconds, r = .ok (.entry (some ⟨row.value, ttlSeconds⟩))) ∨
            ∃ n, (os n).fault ≠ none) (Closure.get key).prog s1 := by
      have h1 : Held ⟨db, key⟩ s1 s1 := Held.of_fades (Fades.refl s1)
      refine alone_map ((alone_getEntry h1).mono fun {r s'} hr he' => ?_)
      rcases hr.2 row ((hfades.row _).trans hrow) he' with ⟨ttlSeconds, rfl⟩ | ⟨hF, _⟩
      · exact .inl ⟨ttlSeconds, rfl⟩
      · exact .inr hF
    exact hclosure.run he
  · rcases hc v' hcache hlive with ⟨row', hrow', hvalue, _⟩
    cases hrow.symm.trans hrow'
    exact .inl ⟨ttlSeconds, by rw [hvalue]⟩

end History

/-- Every INCR does what it is meant to do; and as long as the key does not expire, the counter
moves by the sum of the deltas, and GET answers with the decimal text. -/
theorem incr_exact_counter (db : DatabaseId) (key : String) (s : KvState) (es : List CounterEvent) :
    Always (perform db key) (CounterEvent.IsExact db key) s es ∧
    ∀ n, counterOf (s.liveValue ⟨db, key⟩) = some n →
      Always (perform db key) (Unexpired db key) s es →
      counterOf ((after db key s es).liveValue ⟨db, key⟩) = some (n + (gains db key s es).sum) ∧
      (gains db key s es ≠ [] → ∀ fast os,
        Unexpired db key (after db key s es) (.read (.get key) fast os) →
        (∃ ttlSeconds, (perform db key (after db key s es) (.read (.get key) fast os)).1 =
          some (.ok (.entry (some ⟨toString (n + (gains db key s es).sum), ttlSeconds⟩)))) ∨
        ∃ i, (os i).fault ≠ none) := by
  constructor
  · induction es generalizing s with
    | nil => trivial
    | cons e es ih =>
      refine ⟨?_, ih _⟩
      cases e with
      | incr delta ttlSeconds os => exact perform_incr_exact db key s delta ttlSeconds os
      | read | event => trivial
  · intro n hn hun
    have hstart : Stands ⟨db, key⟩ n False s := ⟨hn, False.elim, False.elim⟩
    have hend := hstart.run hun
    refine ⟨hend.number, fun hadded fast os hget => ?_⟩
    rcases hend.text (.inr hadded) with ⟨v, hv, htext⟩
    have hreply := get_text (hend.coherent (.inr hadded)) hv fast os (hget.live v hv)
    rw [htext] at hreply
    rcases hreply with ⟨ttlSeconds, hreply⟩ | hfault
    · exact .inl ⟨ttlSeconds, congrArg some hreply⟩
    · exact .inr hfault

def noKeys : KvState where
  tables := fun _ => ∅
  cache := fun _ => none
  clock := 0

/-- A counter that is started with a ttl and read five seconds later. -/
def startedCounter : List CounterEvent :=
  [.incr 3 (some 60) calm, .event (.tick 5)]

theorem incr_exact_counter_started :
    gains ⟨1⟩ "visits" noKeys startedCounter = [3] ∧
    ∃ ttlSeconds, (perform ⟨1⟩ "visits" (after ⟨1⟩ "visits" noKeys startedCounter)
        (.read (.get "visits") calm calm)).1 =
      some (.ok (.entry (some ⟨toString (0 + [3].sum : Int), ttlSeconds⟩))) := by
  have hgains : gains ⟨1⟩ "visits" noKeys startedCounter = [3] := rfl
  have hstart : Unexpired ⟨1⟩ "visits" noKeys (.incr 3 (some 60) calm) :=
    ⟨fun v hv => (by cases hv), fun _ => (by decide)⟩
  have hwait : Unexpired ⟨1⟩ "visits" (after ⟨1⟩ "visits" noKeys [.incr 3 (some 60) calm])
      (.event (.tick 5)) := ⟨fun v hv => (by cases hv; rfl), fun h => absurd rfl h⟩
  have hread : Unexpired ⟨1⟩ "visits" (after ⟨1⟩ "visits" noKeys startedCounter)
      (.read (.get "visits") calm calm) := ⟨fun v hv => (by cases hv; rfl), fun h => absurd rfl h⟩
  have hget := ((incr_exact_counter ⟨1⟩ "visits" noKeys startedCounter).2 0 rfl
    ⟨hstart, hwait, trivial⟩).2 (by rw [hgains]; decide) calm calm hread
  rw [hgains] at hget
  -- SQLite does not fail in this history
  exact ⟨hgains, hget.resolve_right fun hfault => hfault.elim fun _ h => h rfl⟩

end Combee.Kv
