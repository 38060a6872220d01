import Combee.Sql.Sandbox

/-!
# Results — what comes back from a statement
-/

namespace Combee.Sql

open Foundation SandboxM List
open Thread

/-! ## Truncation -/

/-- The rows are within the quotas; `0` switches a limit off. -/
def Fits (maxRows maxBytes : Nat) (rows : List String) : Prop :=
  (0 < maxRows → rows.length ≤ maxRows) ∧
    (0 < maxBytes → (rows.map String.utf8ByteSize).sum ≤ maxBytes)

structure LongestFit (maxRows maxBytes : Nat) (rows kept : List String) : Prop where
  first : kept <+: rows
  fits : Fits maxRows maxBytes kept
  longest : ∀ other, other <+: rows → Fits maxRows maxBytes other → other <+: kept

section Truncation

variable {maxRows maxBytes : Nat} {rows kept : List String} {row : String}

lemma Fits.of_prefix (h : Fits maxRows maxBytes rows) (hkept : kept <+: rows) :
    Fits maxRows maxBytes kept := by
  obtain ⟨rest, rfl⟩ := hkept
  refine ⟨fun hpos => ?_, fun hpos => ?_⟩
  · have := h.1 hpos
    rw [length_append] at this
    omega
  · have := h.2 hpos
    rw [map_append, sum_append] at this
    omega

lemma LongestFit.of_stop (hfits : Fits maxRows maxBytes kept)
    (hstop : ¬ Fits maxRows maxBytes (kept ++ [row])) :
    LongestFit maxRows maxBytes (kept ++ row :: rows) kept := by
  refine ⟨prefix_append _ _, hfits, fun other hother hfit => ?_⟩
  have hnext : kept ++ [row] <+: kept ++ row :: rows := ⟨rows, by simp⟩
  rcases prefix_or_prefix_of_prefix hnext hother with hlong | hshort
  · exact absurd (hfit.of_prefix hlong) hstop
  · rcases prefix_concat_iff.mp hshort with rfl | hkept
    · exact absurd hfit hstop
    · exact hkept

variable {os : Nat → Sqlite} {t : Thread}

section

variable (hok : (os 0).fault = none)
include hok

variable {sql : String} {α : Type}

lemma run_next {f : String → SandboxM α} : Prog.run answer os t (next sql >>= f).run =
      Prog.run answer (fun n => os (n + 1)) (t.note (.run sql) []) (f (os 0).row).run := by
  change Prog.run answer _ _ (ExceptT.bindCont f (t.outcome [] (os 0) (os 0).row)) = _
  simp only [outcome, denies, any_nil, hok]
  rfl

lemma run_prepare {f : List String → SandboxM α} (hallowed : t.denies (os 0).actions = false) :
    Prog.run answer os t (prepare sql >>= f).run =
      Prog.run answer (fun n => os (n + 1)) (t.note (.prepare sql) (os 0).actions)
        (f (os 0).columns).run := by
  change Prog.run answer _ _
    (ExceptT.bindCont f (t.outcome (os 0).actions (os 0) (os 0).columns)) = _
  simp only [outcome, hallowed, hok]
  rfl

lemma run_query {values : List SqlValue} {f : Nat → SandboxM α} :
    Prog.run answer os t (query sql values >>= f).run =
      Prog.run answer (fun n => os (n + 1)) t (f (os 0).rows).run := by
  change Prog.run answer _ _ (ExceptT.bindCont f (t.outcome [] (os 0) (os 0).rows)) = _
  simp only [outcome, denies, any_nil, hok]
  rfl

end

/-- The loop over the rows, from the rows that have been kept so far. -/
lemma run_collectRows (sql : String) (maxRows maxBytes left : Nat) (kept : List String)
    (t : Thread) (hok : ∀ n, (os n).fault = none) (hfits : Fits maxRows maxBytes kept) :
    ∃ result truncated, (Prog.run answer os t (collectRows sql maxRows maxBytes left kept
        (kept.map String.utf8ByteSize).sum).run).1 = .ok (result, truncated) ∧
      LongestFit maxRows maxBytes (kept ++ (range left).map fun i => (os i).row) result ∧
      (truncated = false ↔ result = kept ++ (range left).map fun i => (os i).row) := by
  induction left generalizing t os kept with
  | zero =>
    refine ⟨kept, false, ?_, ?_, by simp⟩
    · rw [collectRows, run_next (hok 0)]
      rfl
    · exact ⟨by simp, hfits, fun other hother _ => by simpa using hother⟩
  | succ left ih =>
    have hrows : (range (left + 1)).map (fun i => (os i).row) =
        (os 0).row :: (range left).map fun i => (os (i + 1)).row := by
      rw [range_succ_eq_map, map_cons, map_map]
      rfl
    rw [collectRows, run_next (hok 0), hrows]
    -- both stops are the same: the next row does not fit
    have hstop : ¬ Fits maxRows maxBytes (kept ++ [(os 0).row]) →
        ∃ result truncated, (Except.ok (kept, true) : Result _) =
          .ok (result, truncated) ∧ LongestFit maxRows maxBytes (kept ++ (os 0).row ::
            (range left).map fun i => (os (i + 1)).row) result ∧
          (truncated = false ↔ result = kept ++ (os 0).row ::
            (range left).map fun i => (os (i + 1)).row) :=
      fun hnot => ⟨kept, true, rfl, .of_stop hfits hnot, by simp⟩
    split
    · rename_i hmany
      refine hstop fun hfit => ?_
      have := hfit.1 hmany.1
      rw [length_append, length_singleton] at this
      omega
    · split
      · rename_i hlarge
        refine hstop fun hfit => ?_
        have := hfit.2 hlarge.1
        rw [map_append, sum_append] at this
        simp only [map_cons, map_nil, sum_singleton] at this
        omega
      · rename_i hfew hsmall
        have hnext : Fits maxRows maxBytes (kept ++ [(os 0).row]) := by
          constructor
          · intro hpos
            rw [length_append, length_singleton]
            omega
          · intro hpos
            rw [map_append, sum_append]
            simp only [map_cons, map_nil, sum_singleton]
            omega
        simpa using ih _ (t.note (.run sql) []) (fun n => hok (n + 1)) hnext

lemma run_withFlag {α : Type} (active : Bool) (body : SandboxM α) :
    (Prog.run answer os t (withFlag active body).run).1 =
      (Prog.run answer (fun n => os (n + 1)) { t with active } body.run).1 :=
  Prog.run_bind_fst (g := fun r => r) (fun _ _ _ => rfl) _ _ _

/-- A query without an error returns the longest fit of its rows, truncated unless these are all
rows. -/
theorem result_longest (t : Thread) (os : Nat → Sqlite) (req : SqlRequest)
    (quota : Option SqlQuota) (values : List SqlValue)
    (hcheck : checkStatement (utf8 req.sql) = .ok ())
    (hvalues : toSqlValues req.params = .ok values)
    (hok : ∀ n, (os n).fault = none) (hcolumns : (os 1).columns ≠ [])
    (hallowed : ({ t with active := true } : Thread).denies (os 1).actions = false) :
    ∃ result, (Prog.run answer os t (executeSqlQuota req quota).run).1 = .ok result ∧
      result.columns = (os 1).columns ∧ result.rowsAffected = 0 ∧
      LongestFit ((quota.map (·.maxSqlRows)).getD 0) ((quota.map (·.maxSqlResultBytes)).getD 0)
        ((range (os 2).rows).map fun i => (os (i + 3)).row) result.rows ∧
      (result.truncated = false ↔
        result.rows = (range (os 2).rows).map fun i => (os (i + 3)).row) := by
  obtain ⟨rows, truncated, hrun, hlongest, hflag⟩ := run_collectRows req.sql
    ((quota.map (·.maxSqlRows)).getD 0) ((quota.map (·.maxSqlResultBytes)).getD 0) (os 2).rows []
    (({ t with active := true } : Thread).note (.prepare req.sql) (os 1).actions)
    (fun n => hok (n + 3)) (by simp [Fits])
  refine ⟨⟨(os 1).columns, rows, 0, truncated⟩, ?_, rfl, rfl, hlongest, hflag⟩
  have hnonempty : (os 1).columns.isEmpty = false := by simpa using hcolumns
  unfold executeSqlQuota
  rw [run_withFlag, hcheck, hvalues]
  change (Prog.run answer (fun n => os (n + 1)) { t with active := true }
    (prepare req.sql >>= _).run).1 = _
  rw [run_prepare (hok 1) hallowed, hnonempty]
  change (Prog.run answer (fun n => os (n + 2)) _ (query req.sql values >>= _).run).1 = _
  rw [run_query (hok 2)]
  refine (Prog.run_bind_fst (g := Except.map fun r => ⟨(os 1).columns, r.1, 0, r.2⟩) ?_ _ _
    _).trans (congrArg _ hrun)
  rintro (e | r) _ _ <;> rfl

/-- A query with two rows of the same text. -/
def twoRows : Sqlite := { columns := ["a"], rows := 2, row := "[1]" }

theorem result_longest_one : ∃ result, (Prog.run answer (fun _ => twoRows) .started
      (executeSqlQuota ⟨"SELECT 1", []⟩ (some ⟨1, 0⟩)).run).1 = .ok result ∧
    LongestFit 1 0 ["[1]", "[1]"] result.rows ∧ result.truncated = true := by
  obtain ⟨result, hrun, _, _, hlongest, hflag⟩ := result_longest .started (fun _ => twoRows)
    ⟨"SELECT 1", []⟩ (some ⟨1, 0⟩) [] (by decide +kernel) rfl (fun _ => rfl) nofun rfl
  refine ⟨result, hrun, hlongest, ?_⟩
  rw [← Bool.not_eq_false, hflag]
  intro hall
  have hone := hlongest.fits.1 Nat.one_pos
  rw [hall] at hone
  exact absurd hone (by decide)

end Truncation

/-! ## Parameters -/

/-- The parameters whose values are to come back: null, texts and the integers of `serde_json`. -/
def Json.IsParam : Json → Prop
  | .null => True
  | .string _ => True
  | .integer n => -(2 ^ 63) ≤ n ∧ n < 2 ^ 64
  | _ => False

/-- Each of these is accepted, and comes back as it was exactly if it is no integer beyond
`i64::MAX`. -/
theorem param_round_trip_iff (p : Json) (hp : p.IsParam) :
    ∃ v, toSqlValue p = .ok v ∧ (v.toJson = p ↔ ∀ n, p = .integer n → n ≤ i64Max) := by
  cases p with
  | null | string s => exact ⟨_, rfl, iff_of_true rfl nofun⟩
  | integer n =>
    refine ⟨_, rfl, ?_⟩
    by_cases hn : n ≤ i64Max
    · rw [if_pos hn]
      exact iff_of_true rfl fun m hm => Json.integer.inj hm ▸ hn
    · rw [if_neg hn]
      exact iff_of_false nofun fun h => hn (h n rfl)
  | _ => exact hp.elim

theorem param_round_trip_iff_max : ∃ v, toSqlValue (.integer i64Max) = .ok v ∧
    v.toJson = .integer i64Max := by
  obtain ⟨v, hv, hiff⟩ := param_round_trip_iff (.integer i64Max) ⟨by decide, by decide⟩
  exact ⟨v, hv, hiff.mpr fun n hn => Int.le_of_eq (Json.integer.inj hn).symm⟩

/-- The largest `u64` is accepted, and comes back as a double that is one more. -/
theorem param_changed : ∃ v, toSqlValue (.integer 18446744073709551615) = .ok v ∧
    v.toJson = .real "18446744073709551616.0" :=
  ⟨_, rfl, by decide⟩

end Combee.Sql
