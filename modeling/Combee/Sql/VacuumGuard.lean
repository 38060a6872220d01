import Combee.Sql.Statements

/-!
# VacuumGuard — `VACUUM` at the beginning of a text

`VACUUM INTO` writes a file anywhere, and no authorizer action covers it: the prefix check of
`check_statement` is the only guard. It sees the keyword exactly if blanks and comments come first
and then only white space without a byte order mark (`isPrefixOf_trimStart_afterTrivia`). A text
with something else in front is rejected only if one of the other two checks happens to refuse it
(`vacuum_rejected_iff`); otherwise the statement goes through (`vacuum_accepted`).
-/

namespace Combee.Sql

open List

def lead (ts : List Token) : List Token :=
  ts.takeWhile fun t => t.isTrivia || t == .semicolon

/-- White space that `trim_start` removes. -/
def Token.isTrimmed (t : Token) : Bool :=
  t == .blank || t == .feed

/-- Blanks and comments come first, and then white space only: no comment behind a form feed, no
byte order mark and no empty statement. -/
def exposed (ts : List Token) : Bool :=
  ((lead ts).dropWhile Token.isSkipped).all Token.isTrimmed

/-! ## The text from the keyword on -/

lemma eq_lead_append_word {ts : List Token} {name : List UInt8}
    (h : firstKeyword ts = some name) :
    ∃ raw post, ts = lead ts ++ .word raw :: post ∧ toAsciiLowercase raw = name := by
  have hsplit : lead ts ++ ts.dropWhile (fun t => t.isTrivia || t == .semicolon) = ts :=
    takeWhile_append_dropWhile
  unfold firstKeyword at h
  split at h
  · rename_i raw post hdrop
    rw [hdrop] at hsplit
    exact ⟨raw, post, hsplit.symm, by simpa using h⟩
  · cases h

lemma mem_lead {ts : List Token} {t : Token} (h : t ∈ lead ts) :
    t.isTrivia = true ∨ t = .semicolon := by
  simpa using mem_takeWhile_imp h

/-! ## White space at the beginning -/

section Trim

variable {c : UInt8} {b cs l rest : List UInt8} {t : Token}

lemma trimStart_cons_of_space (hc : ((9 ≤ c && c ≤ 13) || c == 0x20) = true) :
    trimStart (c :: l) = trimStart l := by
  have hascii := forall_byte (p := fun c => !((9 ≤ c && c ≤ 13) || c == 0x20) || c < 0x80)
    (by decide +kernel) c
  have hwidth : spaceWidth (c :: l) = 1 := by
    rw [spaceWidth_cons_of_ascii l (by simpa [hc] using hascii), if_pos hc]
  rw [trimStart]
  simp [hwidth]

lemma trimStart_cons_of_isBlank (hc : isBlank c = true) :
    trimStart (c :: l) = trimStart l := by
  have hall := forall_byte (p := fun c => !isBlank c || ((9 ≤ c && c ≤ 13) || c == 0x20))
    (by decide +kernel) c
  exact trimStart_cons_of_space (by simpa [hc] using hall)

lemma trimStart_dropWhile (l : List UInt8) :
    trimStart (l.dropWhile (· == 0x0b) ++ b) = trimStart (l ++ b) := by
  induction l with
  | nil => rfl
  | cons c l ih =>
    by_cases hc : c = 0x0b
    · subst hc
      rw [cons_append, trimStart_cons_of_space rfl, ← ih, dropWhile_cons_of_pos rfl]
    · rw [dropWhile_cons_of_neg (by simpa using hc)]

lemma Lexes.trimStart_append (h : Lexes c cs t rest) (ht : t.isTrimmed = true) :
    trimStart (c :: cs ++ b) = trimStart (rest ++ b) := by
  cases h with
  | blank hc => exact trimStart_cons_of_isBlank hc
  | feed hc =>
    rw [trimStart_dropWhile]
    rcases hc with ⟨hc, -⟩ | rfl
    · exact trimStart_cons_of_isBlank hc
    · exact trimStart_cons_of_space rfl
  | _ => cases ht

lemma isPrefixOf_trimStart_cons (h : spaceWidth (c :: l) = 0) :
    (utf8 "vacuum").isPrefixOf (toAsciiLowercase (trimStart (c :: l))) =
      (utf8 "vacuum").isPrefixOf (toAsciiLowercase (c :: l)) := by
  rw [trimStart, if_pos h]

lemma utf8_vacuum : utf8 "vacuum" = [0x76, 0x61, 0x63, 0x75, 0x75, 0x6d] := by
  decide +kernel

lemma not_isPrefixOf_of_ne (h : asciiLower c ≠ 0x76) :
    (utf8 "vacuum").isPrefixOf (toAsciiLowercase (c :: l)) = false := by
  rw [utf8_vacuum, toAsciiLowercase, map_cons, isPrefixOf_cons_cons, beq_eq_false_iff_ne.mpr h.symm]
  rfl

/-- A comment, a byte order mark or a semicolon hides the keyword. -/
lemma Lexes.not_isPrefixOf (h : Lexes c cs t rest) (hlead : t.isTrivia = true ∨ t = .semicolon)
    (ht : t.isTrimmed = false) :
    (utf8 "vacuum").isPrefixOf (toAsciiLowercase (trimStart (c :: cs ++ b))) = false := by
  have hascii : ∀ d : UInt8, d = '-'.toUInt8 ∨ d = '/'.toUInt8 ∨ d = ';'.toUInt8 → c = d →
      (utf8 "vacuum").isPrefixOf (toAsciiLowercase (trimStart (c :: cs ++ b))) = false := by
    rintro d hd rfl
    rcases hd with rfl | rfl | rfl <;>
      exact (isPrefixOf_trimStart_cons (spaceWidth_cons_of_ascii _ (by decide))).trans
        (not_isPrefixOf_of_ne (by decide))
  cases h with
  | lineComment hline => exact hascii '-'.toUInt8 (.inl rfl) (by simp_all [isLine])
  | blockComment hblock => exact hascii '/'.toUInt8 (.inr (.inl rfl)) (by simp_all [isBlock])
  | semicolon hc => exact hascii ';'.toUInt8 (.inr (.inr rfl)) hc
  | byteOrderMark hc =>
    subst hc
    exact (isPrefixOf_trimStart_cons rfl).trans (not_isPrefixOf_of_ne (by decide))
  | blank | feed => cases ht
  | _ => simp [Token.isTrivia, Token.isSpace, Token.isComment] at hlead

lemma Lexes.isPrefixOf_word {raw : List UInt8} (h : Lexes c cs (.word raw) rest)
    (hraw : toAsciiLowercase raw = utf8 "vacuum") :
    (utf8 "vacuum").isPrefixOf (toAsciiLowercase (trimStart (c :: cs ++ b))) = true := by
  cases h with
  | word hc =>
    have hhead : asciiLower c = 0x76 := by
      rw [utf8_vacuum] at hraw
      injection hraw
    have hwidth := forall_byte
      (p := fun c => asciiLower c != 0x76 || c < 0x80 && !((9 ≤ c && c ≤ 13) || c == 0x20))
      (by decide +kernel) c
    simp only [hhead, bne_self_eq_false, Bool.false_or, Bool.and_eq_true, decide_eq_true_eq,
      Bool.not_eq_true'] at hwidth
    have hzero : spaceWidth (c :: (cs ++ b)) = 0 := by
      rw [spaceWidth_cons_of_ascii _ hwidth.1, hwidth.2]
      rfl
    have hsplit : c :: cs ++ b = (c :: cs.takeWhile isIdChar) ++ (cs.dropWhile isIdChar ++ b) := by
      simp [← append_assoc]
    rw [cons_append, isPrefixOf_trimStart_cons hzero, isPrefixOf_iff_prefix,
      ← cons_append, hsplit, ← hraw]
    exact ⟨_, (map_append ..).symm⟩

variable {raw : List UInt8} {p post : List Token}

variable (hraw : toAsciiLowercase raw = utf8 "vacuum")
include hraw

lemma isPrefixOf_trimStart
    (hp : ∀ t ∈ p, t.isTrivia = true ∨ t = .semicolon) (hts : tokens l = p ++ .word raw :: post) :
    (utf8 "vacuum").isPrefixOf (toAsciiLowercase (trimStart (l ++ b))) = p.all Token.isTrimmed := by
  induction p generalizing l with
  | nil =>
    obtain ⟨c, cs, rest, rfl, hlex, -⟩ := exists_of_tokens_eq_cons hts
    exact hlex.isPrefixOf_word hraw
  | cons t p ih =>
    obtain ⟨c, cs, rest, rfl, hlex, hrest⟩ := exists_of_tokens_eq_cons hts
    rw [forall_mem_cons] at hp
    cases ht : t.isTrimmed with
    | true => rw [hlex.trimStart_append ht, ih hp.2 hrest, all_cons, ht, Bool.true_and]
    | false => rw [hlex.not_isPrefixOf hp.1 ht, all_cons, ht, Bool.false_and]

lemma isPrefixOf_trimStart_afterTrivia
    (hline : b.head? ≠ some '-'.toUInt8) (hblock : b.head? ≠ some '*'.toUInt8)
    (hp : ∀ t ∈ p, t.isTrivia = true ∨ t = .semicolon) (hts : tokens l = p ++ .word raw :: post) :
    (utf8 "vacuum").isPrefixOf (toAsciiLowercase (trimStart (afterTrivia (l ++ b)))) =
      (p.dropWhile Token.isSkipped).all Token.isTrimmed := by
  -- where the scanner stops, `trim_start` goes on
  have hstop : ∀ {c cs rest t}, Lexes c cs t rest → t.isSkipped = false →
      trimStart (afterTrivia (c :: cs ++ b)) = trimStart (c :: cs ++ b) := by
    intro c cs rest t hlex ht
    rcases hlex.afterTrivia_stop ht hline hblock with h | ⟨hc, -, h⟩
    · rw [h]
    · rw [h, cons_append, trimStart_cons_of_isBlank hc]
  induction p generalizing l with
  | nil =>
    obtain ⟨c, cs, rest, rfl, hlex, -⟩ := exists_of_tokens_eq_cons hts
    rw [hstop hlex rfl]
    exact hlex.isPrefixOf_word hraw
  | cons t p ih =>
    obtain ⟨c, cs, rest, rfl, hlex, hrest⟩ := exists_of_tokens_eq_cons hts
    cases ht : t.isSkipped with
    | true =>
      have hne : rest ≠ [] := by
        rintro rfl
        simp at hrest
      rw [hlex.afterTrivia_append ht (.inl hne), dropWhile_cons_of_pos ht]
      exact ih (forall_mem_cons.mp hp).2 hrest
    | false =>
      rw [hstop hlex ht, dropWhile_cons_of_neg (by simp [ht])]
      exact isPrefixOf_trimStart hraw hp hts

end Trim

/-! ## The guard -/

lemma checkStatement_error_iff (sql : List UInt8) : (∃ e, checkStatement sql = .error e) ↔
    utf8 "__sys" <:+: toAsciiLowercase (trimStart sql) ∨
      (utf8 "vacuum").isPrefixOf (toAsciiLowercase (trimStart (afterTrivia sql))) = true ∨
      hasMultipleStatements sql = true := by
  have hleading : sql.drop (skipLeadingTrivia sql) = afterTrivia sql := drop_skipTriviaFrom sql 0
  unfold checkStatement
  rw [hleading]
  simp only [forbiddenPrefixes, find?_cons, find?_nil]
  by_cases hsys : utf8 "__sys" <:+: toAsciiLowercase (trimStart sql)
  · simp [hsys]
  rw [if_neg hsys]
  cases (utf8 "vacuum").isPrefixOf (toAsciiLowercase (trimStart (afterTrivia sql))) with
  | true => simp
  | false => cases hasMultipleStatements sql <;> simp [hsys]

/-- A text whose first keyword is `VACUUM`, however it is spelled, is rejected exactly if nothing
hides the keyword from the prefix check, or one of the other two checks refuses the text. -/
theorem vacuum_rejected_iff (sql : List UInt8)
    (hkeyword : firstKeyword (tokens (upToNul sql)) = some (utf8 "vacuum")) :
    (∃ e, checkStatement sql = .error e) ↔
      utf8 "__sys" <:+: toAsciiLowercase (trimStart sql) ∨
        exposed (tokens (upToNul sql)) = true ∨ hasMultipleStatements sql = true := by
  obtain ⟨raw, post, hts, hraw⟩ := eq_lead_append_word hkeyword
  have hnul : ∀ c, c ≠ 0 → (sql.dropWhile (· != 0)).head? ≠ some c := by
    intro c hc hhead
    have hzero := head?_dropWhile_not (· != 0) sql
    rw [hhead] at hzero
    exact hc (by simpa using hzero)
  have hsplit : upToNul sql ++ sql.dropWhile (· != 0) = sql := takeWhile_append_dropWhile
  have hguard := isPrefixOf_trimStart_afterTrivia hraw (hnul _ (by decide)) (hnul _ (by decide))
    (fun t => mem_lead) hts
  rw [hsplit] at hguard
  rw [checkStatement_error_iff, hguard, exposed]

/-- Mixed case, blanks, comments and a form feed before the keyword; and an empty statement. -/
theorem vacuum_rejected_iff_spellings :
    (∃ e, checkStatement (utf8 "/* x */ -- y\n\t" ++ [0x0c] ++ utf8 " VaCuUm INTO 'f'") =
      .error e) ∧
    ∃ e, checkStatement (utf8 "/* x */ ; VACUUM") = .error e :=
  ⟨(vacuum_rejected_iff _ (by decide +kernel)).mpr (.inr (.inl (by decide +kernel))),
    (vacuum_rejected_iff _ (by decide +kernel)).mpr (.inr (.inr (by decide +kernel)))⟩

/-- `VACUUM` behind a comment and an empty statement, a byte order mark, or a form feed and a
comment: the check lets it through. -/
theorem vacuum_accepted :
    (firstKeyword (tokens (upToNul (utf8 "/**/;VACUUM INTO '/tmp/escape'"))) =
        some (utf8 "vacuum") ∧
      checkStatement (utf8 "/**/;VACUUM INTO '/tmp/escape'") = .ok ()) ∧
    (firstKeyword (tokens (upToNul ([0xef, 0xbb, 0xbf] ++ utf8 "VACUUM"))) =
        some (utf8 "vacuum") ∧
      checkStatement ([0xef, 0xbb, 0xbf] ++ utf8 "VACUUM") = .ok ()) ∧
    (firstKeyword (tokens (upToNul ([0x0c] ++ utf8 "-- x\nVACUUM"))) = some (utf8 "vacuum") ∧
      checkStatement ([0x0c] ++ utf8 "-- x\nVACUUM") = .ok ()) := by
  decide +kernel

end Combee.Sql
