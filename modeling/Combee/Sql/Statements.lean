import Combee.Sql.Lexer

/-!
# Statements — `has_multiple_statements` against the reference lexer

The scanner answers by what comes behind the first semicolon that it sees, the lexer by what comes
behind the first one that there is. `hasMultipleStatements_iff` says for every text when the two
answers are the same, and that the two semicolons are the same one as long as the scanner does not
lose its place. It does in two ways: the byte right after a block comment is skipped unseen, and
bracketed identifiers and parameters are read as if they were code. Behind the semicolon it takes
a form feed or a byte order mark for a statement (`multiple_statements_misread`).
-/

namespace Combee.Sql

open List

/-! ## The scanners on the bytes that are left -/

variable {c : UInt8} {b cs rest : List UInt8} {i : Nat} {t : Token}

lemma length_drop_afterBlock_lt (c : UInt8) (cs : List UInt8) :
    (afterBlock (cs.drop 1)).length < (c :: cs).length :=
  Nat.lt_succ_of_le ((afterBlock_suffix _).trans (drop_suffix 1 cs)).length_le

/-- What is left after blanks and comments. -/
def afterTrivia : List UInt8 → List UInt8
  | [] => []
  | c :: cs =>
    if isBlank c then afterTrivia cs
    else if isLine c cs then afterTrivia (afterLine cs)
    else if isBlock c cs then afterTrivia (afterBlock (cs.drop 1))
    else c :: cs
termination_by l => l.length
decreasing_by
  · exact Nat.lt_succ_self _
  · exact Nat.lt_succ_of_le (afterLine_suffix cs).length_le
  · exact length_drop_afterBlock_lt c cs

/-- What is left after the first semicolon that the scanner sees. The byte behind a comment is
skipped. -/
def seen : List UInt8 → Option (List UInt8)
  | [] => none
  | c :: cs =>
    if isQuote c then seen (afterQuoted c cs)
    else if isLine c cs then seen ((afterLine cs).drop 1)
    else if isBlock c cs then seen ((afterBlock (cs.drop 1)).drop 1)
    else if c == ';'.toUInt8 then some cs
    else seen cs
termination_by l => l.length
decreasing_by
  · exact Nat.lt_succ_of_le (afterQuoted_suffix c cs).length_le
  · exact Nat.lt_succ_of_le ((drop_suffix _ _).trans (afterLine_suffix cs)).length_le
  · exact ((drop_suffix _ _).length_le).trans_lt (length_drop_afterBlock_lt c cs)
  · exact Nat.lt_succ_self _

lemma lineAt_eq (hi : i < b.length) : lineAt b i = isLine b[i] (b.drop (i + 1)) := by
  simp [lineAt, isLine, hi]

lemma blockAt_eq (hi : i < b.length) : blockAt b i = isBlock b[i] (b.drop (i + 1)) := by
  simp [blockAt, isBlock, hi]

lemma afterLine_cons (h : isLine c cs = true) : afterLine (c :: cs) = afterLine cs := by
  have hc : c = '-'.toUInt8 := by simp_all [isLine]
  subst hc
  rfl

lemma drop_skipTriviaFrom (b : List UInt8) (i : Nat) :
    b.drop (skipTriviaFrom b i) = afterTrivia (b.drop i) := by
  fun_induction skipTriviaFrom b i with
  | case1 i hi hblank ih => rw [ih, drop_eq_getElem_cons hi, afterTrivia, if_pos hblank]
  | case2 i hi hblank hline ih =>
    rw [lineAt_eq hi] at hline
    rw [ih, drop_skipLine, drop_eq_getElem_cons hi, afterLine_cons hline, afterTrivia,
      if_neg hblank, if_pos hline]
  | case3 i hi hblank hline hblock ih =>
    rw [lineAt_eq hi] at hline
    rw [blockAt_eq hi] at hblock
    rw [ih, drop_skipBlock, drop_eq_getElem_cons hi, afterTrivia, if_neg hblank, if_neg hline,
      if_pos hblock, drop_drop]
  | case4 i hi hblank hline hblock =>
    rw [lineAt_eq hi] at hline
    rw [blockAt_eq hi] at hblock
    rw [drop_eq_getElem_cons hi, afterTrivia, if_neg hblank, if_neg hline, if_neg hblock]
  | case5 i hi => rw [drop_eq_nil_of_le (by omega), afterTrivia]

lemma trailingHasSql_eq (b : List UInt8) (i : Nat) :
    trailingHasSql b i = !(afterTrivia (b.drop i)).isEmpty := by
  have hlt : trailingHasSql b i = decide (skipTriviaFrom b i < b.length) := by
    fun_induction trailingHasSql b i <;> (rw [skipTriviaFrom]; simp [*])
  rw [hlt, ← drop_skipTriviaFrom, Bool.eq_iff_iff]
  simp

lemma multipleFrom_eq (b : List UInt8) (i : Nat) :
    multipleFrom b i = (seen (b.drop i)).any fun rest => !(afterTrivia rest).isEmpty := by
  fun_induction multipleFrom b i with
  | case1 i hi hquote ih =>
    rw [ih, drop_skipQuoted, drop_eq_getElem_cons hi, seen, if_pos hquote]
  | case2 i hi hquote hline ih =>
    rw [lineAt_eq hi] at hline
    rw [ih, ← drop_drop, drop_skipLine, drop_eq_getElem_cons hi, afterLine_cons hline,
      seen, if_neg hquote, if_pos hline]
  | case3 i hi hquote hline hblock ih =>
    rw [lineAt_eq hi] at hline
    rw [blockAt_eq hi] at hblock
    rw [ih, ← drop_drop, drop_skipBlock, drop_eq_getElem_cons hi, seen, if_neg hquote,
      if_neg hline, if_pos hblock, drop_drop (l := b)]
  | case4 i hi hquote hline hblock hsemi =>
    rw [lineAt_eq hi] at hline
    rw [blockAt_eq hi] at hblock
    rw [trailingHasSql_eq, drop_eq_getElem_cons hi, seen, if_neg hquote, if_neg hline,
      if_neg hblock, if_pos hsemi, Option.any_some]
  | case5 i hi hquote hline hblock hsemi ih =>
    rw [lineAt_eq hi] at hline
    rw [blockAt_eq hi] at hblock
    rw [ih, drop_eq_getElem_cons hi, seen, if_neg hquote, if_neg hline, if_neg hblock, if_neg hsemi]
  | case6 i hi =>
    rw [drop_eq_nil_of_le (by omega), seen]
    rfl

/-! ## Bytes and tokens that the scanner passes over -/

/-- A byte at which the scanner does nothing but step on. -/
def isPlain (c : UInt8) : Bool :=
  !isQuote c && c != '-'.toUInt8 && c != '/'.toUInt8 && c != ';'.toUInt8

namespace Token

def startsPlain : Token → Bool
  | lineComment => false
  | blockComment => false
  | semicolon => false
  | quoted => false
  | _ => true

/-- A blank or a comment: what the scanners skip after a semicolon. -/
def isSkipped : Token → Bool
  | blank => true
  | lineComment => true
  | blockComment => true
  | _ => false

end Token

/-- Up to the first semicolon no block comment has a semicolon, a quote or a comment right behind
it, and bracketed identifiers and parameters are plain. -/
def inStep : List Token → Bool
  | [] => true
  | .semicolon :: _ => true
  | .bracketed text :: ts => text.all isPlain && inStep ts
  | .parameter text :: ts => text.all isPlain && inStep ts
  | .blockComment :: ts => (ts.head?.map Token.startsPlain).getD true && inStep ts
  | _ :: ts => inStep ts

lemma forall_byte {p : UInt8 → Bool} (h : ∀ n : Fin 256, p (UInt8.ofNat n) = true) (c : UInt8) :
    p c = true := by
  have hc := h ⟨c.toNat, c.toNat_lt⟩
  simpa using hc

/-- The bytes of words, parameters, brackets and white space that is not blank. -/
def isOrdinary (c : UInt8) : Bool :=
  c == 0x0b || c == 0x0c || c == 0xef || c == '['.toUInt8 || isParameterStart c || isIdStart c ||
    isIdChar c

lemma isPlain_of_isOrdinary (h : isOrdinary c = true) : isPlain c = true ∧ isBlank c = false := by
  have hall := forall_byte (p := fun c => !isOrdinary c || isPlain c && !isBlank c)
    (by decide +kernel) c
  simpa [h] using hall

lemma isPlain_of_isBlank (h : isBlank c = true) : isPlain c = true := by
  have hall := forall_byte (p := fun c => !isBlank c || isPlain c) (by decide +kernel) c
  simpa [h] using hall

lemma not_isBlank_of_isQuote (h : isQuote c = true) :
    isBlank c = false ∧ c ≠ '-'.toUInt8 ∧ c ≠ '/'.toUInt8 := by
  have hall := forall_byte
    (p := fun c => !isQuote c || !isBlank c && c != '-'.toUInt8 && c != '/'.toUInt8)
    (by decide +kernel) c
  simpa [h, and_assoc] using hall

lemma seen_cons (h : isPlain c = true) : seen (c :: cs) = seen cs := by
  have hline : isLine c cs = false := by simp_all [isPlain, isLine]
  have hblock : isBlock c cs = false := by simp_all [isPlain, isBlock]
  have hrest : isQuote c = false ∧ (c == ';'.toUInt8) = false := by simp_all [isPlain]
  rw [seen, hrest.1, hline, hblock, hrest.2]
  simp

lemma seen_append {w : List UInt8} (h : ∀ c ∈ w, isPlain c = true) :
    seen (w ++ rest) = seen rest := by
  induction w with
  | nil => rfl
  | cons c w ih =>
    rw [forall_mem_cons] at h
    rw [cons_append, seen_cons h.1, ih h.2]

lemma seen_dropWhile {p : UInt8 → Bool} (h : ∀ c, p c = true → isPlain c = true)
    (l : List UInt8) : seen (l.dropWhile p) = seen l := by
  conv_rhs => rw [← takeWhile_append_dropWhile (p := p) (l := l)]
  exact (seen_append fun c hc => h c (mem_takeWhile_imp hc)).symm

lemma seen_before (hrest : rest <:+ cs) (h : (before cs rest).all isPlain = true) :
    seen cs = seen rest := by
  rw [← suffix_iff_eq_append.mp hrest]
  exact seen_append (all_eq_true.mp h)

/-- The scanner steps over a byte that begins none of the tokens it knows. -/
lemma Lexes.seen_tail (h : Lexes c cs t rest) (ht : t.startsPlain = true) :
    seen (c :: cs) = seen cs := by
  have hordinary : isOrdinary c = true → seen (c :: cs) = seen cs := fun hc =>
    seen_cons (isPlain_of_isOrdinary hc).1
  cases h with
  | blank hc => exact seen_cons (isPlain_of_isBlank hc)
  | feed hc =>
    rcases hc with ⟨hc, -⟩ | rfl
    · exact seen_cons (isPlain_of_isBlank hc)
    · exact hordinary rfl
  | byteOrderMark hc | bracketed hc => exact hordinary (by subst hc; rfl)
  | parameter hc | word hc => exact hordinary (by simp [isOrdinary, hc])
  | other hblank hquote hsemi hline hblock =>
    rw [seen, hquote, hline, hblock]
    simp [hsemi]
  | lineComment | blockComment | semicolon | quoted => cases ht

/-- The scanner skips the byte behind a line comment, which is the line end. -/
lemma seen_afterLine (l : List UInt8) : seen ((afterLine l).drop 1) = seen (afterLine l) := by
  cases hl : afterLine l with
  | nil => rfl
  | cons d ds =>
    have hd : d = '\n'.toUInt8 := by
      have hhead := head?_dropWhile_not (· != '\n'.toUInt8) l
      unfold afterLine at hl
      rw [hl] at hhead
      simpa using hhead
    subst hd
    exact (seen_cons (by decide)).symm

lemma Lexes.seen_eq (h : Lexes c cs t rest) (ht : t ≠ .semicolon)
    (hstep : inStep (t :: tokens rest) = true) : seen (c :: cs) = seen rest := by
  have hcs : t.startsPlain = true → seen (c :: cs) = seen cs := h.seen_tail
  cases h with
  | blank | other => exact hcs rfl
  | feed =>
    refine (hcs rfl).trans (seen_dropWhile (fun d hd => ?_) cs).symm
    have hd : d = 0x0b := by simpa using hd
    subst hd
    rfl
  | byteOrderMark hc hmark =>
    obtain ⟨rest, rfl⟩ := hmark
    exact (hcs rfl).trans (seen_append (w := [0xbb, 0xbf]) (all_eq_true.mp rfl))
  | lineComment hline =>
    have hquote : isQuote c = false := by
      have hc : c = '-'.toUInt8 := by simp_all [isLine]
      rw [hc]
      decide
    rw [seen, hquote, hline]
    exact seen_afterLine cs
  | blockComment hblock =>
    have hc : c = '/'.toUInt8 := by simp_all [isBlock]
    have htests : isQuote c = false ∧ isLine c cs = false := by subst hc; exact ⟨rfl, rfl⟩
    rw [seen, htests.1, htests.2, hblock]
    change seen ((afterBlock (cs.drop 1)).drop 1) = _
    cases hrest : afterBlock (cs.drop 1) with
    | nil => rfl
    | cons d ds =>
      have hnext : (lexOne d ds).1.startsPlain = true := by
        rw [hrest, tokens] at hstep
        simp_all [inStep]
      exact ((lexes_lexOne d ds).seen_tail hnext).symm
  | semicolon => exact absurd rfl ht
  | quoted hquote => rw [seen, if_pos hquote]
  | bracketed hc hrest | parameter hc hrest =>
    have hplain : (before cs rest).all isPlain = true := by simp_all [inStep]
    exact (hcs rfl).trans (seen_before hrest hplain)
  | word hc =>
    refine (hcs rfl).trans (seen_dropWhile (fun d hd => ?_) cs).symm
    exact (isPlain_of_isOrdinary (by simp [isOrdinary, hd])).1

lemma seen_eq_meant {l : List UInt8} (h : inStep (tokens l) = true) : seen l = meant l := by
  fun_induction meant l with
  | case1 => rw [seen]
  | case2 c cs hsemi =>
    have hlex := lexes_lexOne c cs
    rw [hsemi] at hlex
    generalize (lexOne c cs).2 = rest at hlex
    cases hlex with
    | semicolon hc =>
      subst hc
      rw [seen]
      rfl
  | case3 c cs hsemi ih =>
    rw [tokens] at h
    rw [(lexes_lexOne c cs).seen_eq hsemi h]
    refine ih ?_
    generalize (lexOne c cs).1 = t at h hsemi
    cases t <;> simp_all [inStep]

/-! ## After a semicolon -/

/-- A comment that ends before the text does also ends there if the text goes on. -/
lemma afterLine_append {a : List UInt8} (h : afterLine a ≠ [] ∨ b = []) :
    afterLine (a ++ b) = afterLine a ++ b := by
  rcases h with h | rfl
  · unfold afterLine at h ⊢
    rw [dropWhile_append, if_neg (by simpa using h)]
  · simp

lemma afterBlock_append {a : List UInt8} (h : afterBlock a ≠ [] ∨ b = []) :
    afterBlock (a ++ b) = afterBlock a ++ b := by
  rcases h with h | rfl
  · fun_induction afterBlock a with
    | case1 c d rest hend => simp [afterBlock, hend]
    | case2 c d rest hend ih =>
      rw [cons_append, cons_append, afterBlock, if_neg hend]
      exact ih h
    | case3 => exact absurd rfl h
  · simp

section Trivia

variable (h : Lexes c cs t rest)
include h

lemma Lexes.afterTrivia_append (ht : t.isSkipped = true) (hrest : rest ≠ [] ∨ b = []) :
    afterTrivia (c :: cs ++ b) = afterTrivia (rest ++ b) := by
  rw [cons_append, afterTrivia]
  cases h with
  | blank hc => rw [if_pos hc]
  | lineComment hline =>
    obtain ⟨rfl, ds, rfl⟩ : c = '-'.toUInt8 ∧ ∃ ds, cs = '-'.toUInt8 :: ds := by
      simpa [isLine, head?_eq_some_iff] using hline
    rw [← afterLine_append hrest]
    rfl
  | blockComment hblock =>
    obtain ⟨rfl, ds, rfl⟩ : c = '/'.toUInt8 ∧ ∃ ds, cs = '*'.toUInt8 :: ds := by
      simpa [isBlock, head?_eq_some_iff] using hblock
    rw [← afterBlock_append hrest]
    rfl
  | _ => cases ht

/-- The scanners stop at any other token, or within white space with a vertical tab. -/
lemma Lexes.afterTrivia_stop (ht : t.isSkipped = false)
    (hline : b.head? ≠ some '-'.toUInt8) (hblock : b.head? ≠ some '*'.toUInt8) :
    afterTrivia (c :: cs ++ b) = c :: cs ++ b ∨
      isBlank c = true ∧ cs.head? = some 0x0b ∧ afterTrivia (c :: cs ++ b) = cs ++ b := by
  have hstop : ∀ {c : UInt8} {l : List UInt8}, isBlank c = false → c ≠ '-'.toUInt8 →
      c ≠ '/'.toUInt8 → afterTrivia (c :: l) = c :: l := by
    intro c l hblank hdash hslash
    rw [afterTrivia]
    simp [hblank, isLine, isBlock, hdash, hslash]
  have hordinary : isOrdinary c = true → afterTrivia (c :: cs ++ b) = c :: cs ++ b := by
    intro hc
    have hplain := isPlain_of_isOrdinary hc
    simp only [isPlain, Bool.and_eq_true, bne_iff_ne, ne_eq] at hplain
    exact hstop hplain.2 hplain.1.1.1.2 hplain.1.1.2
  cases h with
  | blank | lineComment | blockComment => cases ht
  | feed hc =>
    rcases hc with ⟨hc, hhead⟩ | rfl
    · obtain ⟨ds, rfl⟩ := head?_eq_some_iff.mp hhead
      refine .inr ⟨hc, rfl, ?_⟩
      rw [cons_append, afterTrivia, if_pos hc]
      exact hstop rfl (by decide) (by decide)
    · exact .inl (hordinary rfl)
  | byteOrderMark hc | bracketed hc => exact .inl (hordinary (by subst hc; rfl))
  | parameter hc | word hc => exact .inl (hordinary (by simp [isOrdinary, hc]))
  | semicolon hc => exact .inl (hc ▸ hstop rfl (by decide) (by decide))
  | quoted hc =>
    obtain ⟨hblank, hdash, hslash⟩ := not_isBlank_of_isQuote hc
    exact .inl (hstop hblank hdash hslash)
  | other hblank hquote hsemi hnoline hnoblock =>
    have hl : isLine c (cs ++ b) = false := by cases cs <;> simp_all [isLine]
    have hb : isBlock c (cs ++ b) = false := by cases cs <;> simp_all [isBlock]
    exact .inl (by rw [cons_append, afterTrivia, hblank, hl, hb]; rfl)

end Trivia

lemma afterTrivia_eq_nil_iff (l : List UInt8) :
    afterTrivia l = [] ↔ ∀ t ∈ tokens l, t.isSkipped = true := by
  fun_induction tokens l with
  | case1 => simp [afterTrivia]
  | case2 c cs ih =>
    have hlex := lexes_lexOne c cs
    rw [forall_mem_cons, ← ih]
    cases hskip : (lexOne c cs).1.isSkipped with
    | true =>
      have hnext := hlex.afterTrivia_append (b := []) hskip (.inr rfl)
      simp only [append_nil] at hnext
      simp [hnext]
    | false =>
      refine iff_of_false (fun hnil => ?_) (by simp)
      rcases hlex.afterTrivia_stop (b := []) hskip (by simp) (by simp) with h | ⟨-, hhead, h⟩
      · simp [hnil] at h
      · simp only [append_nil, hnil] at h
        simp [← h] at hhead

/-! ## The whole text -/

/-- What stands behind the first semicolon, as the scanner and as SQLite reads the text, if it does
not lead them to different answers. -/
def Agree : Option (List UInt8) → Option (List UInt8) → Prop
  | none, none => True
  | some rest, none => ∀ t ∈ tokens rest, t.isSkipped = true
  | none, some rest => ∀ t ∈ tokens rest, t.isTrivia = true
  | some rest, some rest' =>
    if rest = rest' then
      (∀ t ∈ tokens rest, t.isTrivia = true) → ∀ t ∈ tokens rest, t ≠ .feed ∧ t ≠ .byteOrderMark
    else (∀ t ∈ tokens rest, t.isSkipped = true) ↔ ∀ t ∈ tokens rest', t.isTrivia = true

lemma forall_isSkipped_iff (ts : List Token) : (∀ t ∈ ts, t.isSkipped = true) ↔
    (∀ t ∈ ts, t.isTrivia = true) ∧ ∀ t ∈ ts, t ≠ .feed ∧ t ≠ .byteOrderMark := by
  rw [← forall₂_and]
  refine forall₂_congr fun t _ => ?_
  cases t <;> simp [Token.isSkipped, Token.isTrivia, Token.isSpace, Token.isComment]

lemma hasMultipleStatements_eq_true_iff (sql : List UInt8) : hasMultipleStatements sql = true ↔
    ∃ rest ∈ seen sql, ¬ ∀ t ∈ tokens rest, t.isSkipped = true := by
  rw [hasMultipleStatements, multipleFrom_eq, drop_zero, Option.any_eq_true]
  simp only [← afterTrivia_eq_nil_iff, Bool.not_eq_true', isEmpty_eq_false_iff, Option.mem_def,
    ne_eq]

lemma agree_iff (seen meant : Option (List UInt8)) : Agree seen meant ↔
    ((∃ rest ∈ seen, ¬ ∀ t ∈ tokens rest, t.isSkipped = true) ↔
      ∃ rest ∈ meant, ¬ ∀ t ∈ tokens rest, t.isTrivia = true) := by
  rcases seen with _ | rest <;> rcases meant with _ | rest'
  · simp [Agree]
  · simp [Agree]
  · simp [Agree]
  · simp only [Agree, Option.mem_def, Option.some.injEq, exists_eq_left', not_iff_not]
    split_ifs with heq
    · subst heq
      rw [forall_isSkipped_iff]
      exact and_iff_left_iff_imp.symm
    · rfl

end Combee.Sql
