import Combee.Sql.Scanner
import Mathlib.Data.List.TakeWhile

/-!
# Lexer — the tokens of a SQL text by SQLite's rules

The reference that the scanners of `sql.rs` are measured against. A token is white space, a
comment, a semicolon, quoted text, a bracketed identifier, a parameter, a word, or a single byte of
anything else; an unterminated comment, quoted text or bracket runs to the end. SQLite makes one
token of a run of white space and has finer kinds of words, numbers and operators, which makes no
difference to what is asked here: where semicolons are, and which word comes first.
-/

namespace Combee.Sql

open List

inductive Token where
  /-- A space, tab, line feed or carriage return. -/
  | blank
  /-- Other white space: a form feed, or vertical tabs behind white space. -/
  | feed
  | byteOrderMark
  | lineComment
  | blockComment
  | semicolon
  | quoted
  | bracketed (text : List UInt8)
  | parameter (text : List UInt8)
  | word (name : List UInt8)
  | other (c : UInt8)
  deriving DecidableEq, Repr

namespace Token

def isSpace : Token → Bool
  | blank => true
  | feed => true
  | byteOrderMark => true
  | _ => false

def isComment : Token → Bool
  | lineComment => true
  | blockComment => true
  | _ => false

def isTrivia (t : Token) : Bool :=
  t.isSpace || t.isComment

end Token

/-! ## One token -/

/-- SQLite reads a text up to its first NUL. -/
def upToNul (sql : List UInt8) : List UInt8 :=
  sql.takeWhile (· != 0)

/-- The bytes of identifiers and keywords: letters, digits, `_`, `$` and all of non-ASCII. -/
def isIdChar (c : UInt8) : Bool :=
  (0x61 ≤ c && c ≤ 0x7a) || (0x41 ≤ c && c ≤ 0x5a) || (0x30 ≤ c && c ≤ 0x39) ||
    c == '_'.toUInt8 || c == '$'.toUInt8 || 0x80 ≤ c

def isIdStart (c : UInt8) : Bool :=
  (0x61 ≤ c && c ≤ 0x7a) || (0x41 ≤ c && c ≤ 0x5a) || c == '_'.toUInt8 || 0x80 ≤ c

def isParameterStart (c : UInt8) : Bool :=
  c == '$'.toUInt8 || c == '@'.toUInt8 || c == '#'.toUInt8 || c == ':'.toUInt8

/-- What is left after the parenthesis of a parameter: it ends at white space, too. -/
def afterParenthesis (l : List UInt8) : List UInt8 :=
  match l.dropWhile fun c => !((9 ≤ c && c ≤ 13) || c == 0x20) && c != ')'.toUInt8 with
  | [] => []
  | c :: rest => if c == ')'.toUInt8 then rest else c :: rest

/-- What is left after a parameter, which may have `::` in its name and ends with a parenthesis if
one comes behind the name. -/
def afterParameter (named : Bool) : List UInt8 → List UInt8
  | [] => []
  | [c] => if isIdChar c then [] else if c == '('.toUInt8 && named then [] else [c]
  | c :: d :: rest =>
    if isIdChar c then afterParameter true (d :: rest)
    else if c == '('.toUInt8 && named then afterParenthesis (d :: rest)
    else if c == ':'.toUInt8 && d == ':'.toUInt8 then afterParameter named rest
    else c :: d :: rest

/-- A line comment begins. -/
def isLine (c : UInt8) (cs : List UInt8) : Bool :=
  c == '-'.toUInt8 && cs.head? == some '-'.toUInt8

/-- A block comment begins. -/
def isBlock (c : UInt8) (cs : List UInt8) : Bool :=
  c == '/'.toUInt8 && cs.head? == some '*'.toUInt8

/-- The part of a text in front of a suffix. -/
def before (l rest : List UInt8) : List UInt8 :=
  l.take (l.length - rest.length)

/-- The token that begins with the byte `c`, and what is left after it. -/
def lexOne (c : UInt8) (cs : List UInt8) : Token × List UInt8 :=
  if isBlank c && cs.head? != some 0x0b then (.blank, cs)
  else if isBlank c || c == 0x0c then (.feed, cs.dropWhile (· == 0x0b))
  else if c == 0xef && [0xbb, 0xbf].isPrefixOf cs then (.byteOrderMark, cs.drop 2)
  else if isLine c cs then (.lineComment, afterLine cs)
  else if isBlock c cs then (.blockComment, afterBlock (cs.drop 1))
  else if c == ';'.toUInt8 then (.semicolon, cs)
  else if isQuote c then (.quoted, afterQuoted c cs)
  else if c == '['.toUInt8 then
    let rest := (cs.dropWhile (· != ']'.toUInt8)).drop 1
    (.bracketed (before cs rest), rest)
  else if isParameterStart c then
    let rest := afterParameter false cs
    (.parameter (before cs rest), rest)
  else if isIdStart c then (.word (c :: cs.takeWhile isIdChar), cs.dropWhile isIdChar)
  else (.other c, cs)

inductive Lexes (c : UInt8) (cs : List UInt8) : Token → List UInt8 → Prop where
  | blank (hc : isBlank c = true) : Lexes c cs .blank cs
  | feed (hc : isBlank c = true ∧ cs.head? = some 0x0b ∨ c = 0x0c) :
      Lexes c cs .feed (cs.dropWhile (· == 0x0b))
  | byteOrderMark (hc : c = 0xef) (hcs : [0xbb, 0xbf] <+: cs) :
      Lexes c cs .byteOrderMark (cs.drop 2)
  | lineComment (h : isLine c cs = true) : Lexes c cs .lineComment (afterLine cs)
  | blockComment (h : isBlock c cs = true) : Lexes c cs .blockComment (afterBlock (cs.drop 1))
  | semicolon (hc : c = ';'.toUInt8) : Lexes c cs .semicolon cs
  | quoted (hc : isQuote c = true) : Lexes c cs .quoted (afterQuoted c cs)
  | bracketed {rest : List UInt8} (hc : c = '['.toUInt8) (hrest : rest <:+ cs) :
      Lexes c cs (.bracketed (before cs rest)) rest
  | parameter {rest : List UInt8} (hc : isParameterStart c = true) (hrest : rest <:+ cs) :
      Lexes c cs (.parameter (before cs rest)) rest
  | word (hc : isIdStart c = true) :
      Lexes c cs (.word (c :: cs.takeWhile isIdChar)) (cs.dropWhile isIdChar)
  | other (hblank : isBlank c = false) (hquote : isQuote c = false) (hsemi : c ≠ ';'.toUInt8)
      (hline : isLine c cs = false) (hblock : isBlock c cs = false) : Lexes c cs (.other c) cs

lemma afterLine_suffix (l : List UInt8) : afterLine l <:+ l :=
  dropWhile_suffix _

lemma afterBlock_suffix (l : List UInt8) : afterBlock l <:+ l := by
  fun_induction afterBlock l with
  | case1 c d rest hend => exact (suffix_cons d rest).trans (suffix_cons c _)
  | case2 c d rest hend ih => exact ih.trans (suffix_cons c _)
  | case3 l hl => exact nil_suffix

lemma afterQuoted_suffix (quote : UInt8) (l : List UInt8) : afterQuoted quote l <:+ l := by
  fun_induction afterQuoted quote l with
  | case1 | case2 => exact nil_suffix
  | case3 c hq d rest hesc ih =>
    exact ih.trans ((suffix_cons d rest).trans (suffix_cons c _))
  | case4 c hq d rest hesc => exact suffix_cons c _
  | case5 c rest hq ih => exact ih.trans (suffix_cons c _)

lemma afterParenthesis_suffix (l : List UInt8) : afterParenthesis l <:+ l := by
  have hdrop := dropWhile_suffix (l := l)
    fun c : UInt8 => !((9 ≤ c && c ≤ 13) || c == 0x20) && c != ')'.toUInt8
  unfold afterParenthesis
  split
  · exact nil_suffix
  · rename_i c rest heq
    rw [heq] at hdrop
    split
    · exact (suffix_cons c rest).trans hdrop
    · exact hdrop

lemma afterParameter_suffix (named : Bool) (l : List UInt8) : afterParameter named l <:+ l := by
  fun_induction afterParameter named l with
  | case1 | case2 | case3 => exact nil_suffix
  | case4 | case8 => exact suffix_rfl
  | case5 named c d rest hid ih => exact ih.trans (suffix_cons c _)
  | case6 => exact (afterParenthesis_suffix _).trans (suffix_cons _ _)
  | case7 named c d rest hid hparen hcolon ih =>
    exact ih.trans ((suffix_cons d rest).trans (suffix_cons c _))

lemma lexes_ite {c : UInt8} {cs : List UInt8} {p : Prop} [Decidable p]
    {x y : Token × List UInt8} (hpos : p → Lexes c cs x.1 x.2) (hneg : ¬ p → Lexes c cs y.1 y.2) :
    Lexes c cs (if p then x else y).1 (if p then x else y).2 := by
  by_cases h : p
  · rw [if_pos h]
    exact hpos h
  · rw [if_neg h]
    exact hneg h

lemma lexes_lexOne (c : UInt8) (cs : List UInt8) :
    Lexes c cs (lexOne c cs).1 (lexOne c cs).2 := by
  refine lexes_ite (fun h => .blank (Bool.and_eq_true_iff.mp h).1) fun hblank => ?_
  refine lexes_ite (fun h => .feed ?_) fun hfeed => ?_
  · simp only [Bool.and_eq_true, bne_iff_ne, ne_eq, not_and, not_not] at hblank
    simp only [Bool.or_eq_true, beq_iff_eq] at h
    exact h.imp_left fun hc => ⟨hc, hblank hc⟩
  refine lexes_ite (fun h => ?_) fun _ => ?_
  · simp only [Bool.and_eq_true, beq_iff_eq, isPrefixOf_iff_prefix] at h
    exact .byteOrderMark h.1 h.2
  refine lexes_ite .lineComment fun hline => lexes_ite .blockComment fun hblock => ?_
  refine lexes_ite (fun h => .semicolon (beq_iff_eq.mp h)) fun hsemi => ?_
  refine lexes_ite .quoted fun hquote => lexes_ite (fun h => ?_) fun _ => ?_
  · exact .bracketed (beq_iff_eq.mp h) ((drop_suffix _ _).trans (dropWhile_suffix _))
  refine lexes_ite (fun h => .parameter h (afterParameter_suffix _ _)) fun _ => ?_
  refine lexes_ite .word fun _ => ?_
  simp only [Bool.or_eq_true, not_or, Bool.not_eq_true] at hfeed
  exact .other hfeed.1 (by simpa using hquote) (by simpa using hsemi) (by simpa using hline)
    (by simpa using hblock)

variable {t : Token}

lemma Lexes.suffix {c : UInt8} {cs rest : List UInt8} (h : Lexes c cs t rest) : rest <:+ cs := by
  cases h with
  | blank | semicolon | other => exact suffix_rfl
  | feed | word => exact dropWhile_suffix _
  | byteOrderMark => exact drop_suffix _ _
  | lineComment => exact afterLine_suffix cs
  | blockComment => exact (afterBlock_suffix _).trans (drop_suffix 1 cs)
  | quoted => exact afterQuoted_suffix c cs
  | bracketed hc hrest | parameter hc hrest => exact hrest

lemma length_lexOne_lt (c : UInt8) (cs : List UInt8) :
    (lexOne c cs).2.length < (c :: cs).length :=
  Nat.lt_succ_of_le (lexes_lexOne c cs).suffix.length_le

/-! ## All tokens -/

def tokens : List UInt8 → List Token
  | [] => []
  | c :: cs => (lexOne c cs).1 :: tokens (lexOne c cs).2
termination_by l => l.length
decreasing_by exact length_lexOne_lt c cs

@[simp] lemma tokens_nil : tokens [] = [] := by
  rw [tokens]

variable {ts : List Token}

lemma exists_of_tokens_eq_cons {l : List UInt8}
    (h : tokens l = t :: ts) : ∃ c cs rest, l = c :: cs ∧ Lexes c cs t rest ∧ tokens rest = ts := by
  cases l with
  | nil => simp at h
  | cons c cs =>
    rw [tokens] at h
    injection h with hhead htail
    exact ⟨c, cs, (lexOne c cs).2, rfl, hhead ▸ lexes_lexOne c cs, htail⟩

/-- The text has a semicolon that is followed by something else than white space and comments. -/
def MultiStatement (ts : List Token) : Prop :=
  ∃ pre post, ts = pre ++ .semicolon :: post ∧ ∃ t ∈ post, t.isTrivia = false

/-- What comes first but for white space, comments and empty statements, if it is a word, in lower
case. -/
def firstKeyword (ts : List Token) : Option (List UInt8) :=
  match ts.dropWhile fun t => t.isTrivia || t == .semicolon with
  | .word name :: _ => some (toAsciiLowercase name)
  | _ => none

/-! ## The first semicolon decides -/

/-- The text behind the first semicolon. -/
def meant : List UInt8 → Option (List UInt8)
  | [] => none
  | c :: cs => if (lexOne c cs).1 = .semicolon then some (lexOne c cs).2 else meant (lexOne c cs).2
termination_by l => l.length
decreasing_by exact length_lexOne_lt c cs

lemma multiStatement_cons_of_ne (ht : t ≠ .semicolon) :
    MultiStatement (t :: ts) ↔ MultiStatement ts := by
  constructor
  · rintro ⟨pre, post, heq, hpost⟩
    cases pre with
    | nil =>
      injection heq with hhead _
      exact absurd hhead ht
    | cons p pre =>
      injection heq with _ htail
      exact ⟨pre, post, htail, hpost⟩
  · rintro ⟨pre, post, rfl, hpost⟩
    exact ⟨t :: pre, post, rfl, hpost⟩

lemma multiStatement_semicolon_cons :
    MultiStatement (.semicolon :: ts) ↔ ∃ t ∈ ts, t.isTrivia = false := by
  constructor
  · rintro ⟨pre, post, heq, t, ht, htrivia⟩
    cases pre with
    | nil =>
      injection heq with _ htail
      exact ⟨t, htail ▸ ht, htrivia⟩
    | cons p pre =>
      -- the later semicolon is itself such a token
      injection heq with _ htail
      exact ⟨.semicolon, by simp [htail], rfl⟩
  · intro h
    exact ⟨[], ts, rfl, h⟩

lemma multiStatement_iff (l : List UInt8) :
    MultiStatement (tokens l) ↔ ∃ rest ∈ meant l, ∃ t ∈ tokens rest, t.isTrivia = false := by
  fun_induction meant l with
  | case1 =>
    refine iff_of_false ?_ (by simp)
    rintro ⟨pre, post, heq, _⟩
    simp at heq
  | case2 c cs hsemi =>
    rw [tokens, hsemi, multiStatement_semicolon_cons]
    simp
  | case3 c cs hsemi ih => rw [tokens, multiStatement_cons_of_ne hsemi, ih]

instance decidableMultiStatement (l : List UInt8) : Decidable (MultiStatement (tokens l)) :=
  decidable_of_iff _ (multiStatement_iff l).symm

end Combee.Sql
