import Combee.Common
import Mathlib.Data.List.Infix

/-!
# Scanner — the checks of `sql.rs` on the text of a statement

`check_statement` is the string layer in front of the engine: it looks for the names of internal
tables, for `VACUUM` at the beginning, and for a second statement. The scanners step through the
bytes of the text by index, with one loop for each kind of comment and for quoted text. The text is
its UTF-8 bytes; every byte that is compared is ASCII, so no scanner stops inside a character.

`drop_skipLine`, `drop_skipBlock` and `drop_skipQuoted` say where each of the inner loops leaves the
index, in terms of the bytes that are left.
-/

namespace Combee.Sql

open List

def utf8 (s : String) : List UInt8 :=
  s.toUTF8.toList

/-! ## Comments and quoted text -/

/-- `while i < b.len() && b[i] != b'\n' { i += 1 }` -/
def skipLine (b : List UInt8) (i : Nat) : Nat :=
  if h : i < b.length then
    if b[i] != '\n'.toUInt8 then skipLine b (i + 1) else i
  else i
termination_by b.length - i

/-- `while i + 1 < b.len() && !(b[i] == b'*' && b[i + 1] == b'/') { i += 1 }` -/
def skipBlockBody (b : List UInt8) (i : Nat) : Nat :=
  if h : i + 1 < b.length then
    if b[i] == '*'.toUInt8 && b[i + 1] == '/'.toUInt8 then i else skipBlockBody b (i + 1)
  else i
termination_by b.length - i

/-- A block comment that begins at `i`. -/
def skipBlock (b : List UInt8) (i : Nat) : Nat :=
  min (skipBlockBody b (i + 2) + 2) b.length

/-- The loop of `skip_quoted`: a doubled quote is an escape. -/
def skipQuotedFrom (b : List UInt8) (quote : UInt8) (i : Nat) : Nat :=
  if h : i < b.length then
    if b[i] == quote then
      if b[i + 1]? == some quote then skipQuotedFrom b quote (i + 2) else i
    else skipQuotedFrom b quote (i + 1)
  else i
termination_by b.length - i

def skipQuoted (b : List UInt8) (start : Nat) (quote : UInt8) : Nat :=
  skipQuotedFrom b quote (start + 1)

/-! ## Where the inner loops stop -/

/-- What is left after a line comment: the line end is not part of it. -/
def afterLine (l : List UInt8) : List UInt8 :=
  l.dropWhile (· != '\n'.toUInt8)

def afterBlock : List UInt8 → List UInt8
  | c :: d :: rest =>
    if c == '*'.toUInt8 && d == '/'.toUInt8 then rest else afterBlock (d :: rest)
  | _ => []

def afterQuoted (quote : UInt8) : List UInt8 → List UInt8
  | [] => []
  | c :: rest =>
    if c == quote then
      match rest with
      | [] => []
      | d :: rest' => if d == quote then afterQuoted quote rest' else d :: rest'
    else afterQuoted quote rest

variable (b : List UInt8) (i : Nat)

lemma drop_skipLine : b.drop (skipLine b i) = afterLine (b.drop i) := by
  fun_induction skipLine b i with
  | case1 i h hne ih =>
    simp only [ih, afterLine, drop_eq_getElem_cons h, dropWhile_cons, hne, if_true]
  | case2 i h hne =>
    simp only [afterLine, drop_eq_getElem_cons h, dropWhile_cons, hne]
    simp
  | case3 i h =>
    have hnil : b.drop i = [] := drop_eq_nil_of_le (by omega)
    simp [afterLine, hnil]

lemma drop_skipBlockBody :
    b.drop (min (skipBlockBody b i + 2) b.length) = afterBlock (b.drop i) := by
  fun_induction skipBlockBody b i with
  | case1 i h hend =>
    have hsplit : b.drop i = b[i] :: b[i + 1] :: b.drop (i + 2) := by
      rw [drop_eq_getElem_cons (by omega), drop_eq_getElem_cons h]
    have hmin : min (i + 2) b.length = i + 2 := by omega
    simp only [hsplit, afterBlock, hend, if_true, hmin]
  | case2 i h hend ih =>
    have hsplit : b.drop i = b[i] :: b[i + 1] :: b.drop (i + 2) := by
      rw [drop_eq_getElem_cons (by omega), drop_eq_getElem_cons h]
    have hnext : b.drop (i + 1) = b[i + 1] :: b.drop (i + 2) := drop_eq_getElem_cons h
    rw [ih, hsplit, hnext]
    simp only [afterBlock, hend]
    rfl
  | case3 i h =>
    -- at most one byte is left, and the comment is not closed
    have hmin : b.drop (min (i + 2) b.length) = [] := drop_eq_nil_of_le (by omega)
    have hlen : (b.drop i).length ≤ 1 := by simp; omega
    rw [hmin]
    match b.drop i, hlen with
    | [], _ => rfl
    | [c], _ => rfl

lemma drop_skipBlock : b.drop (skipBlock b i) = afterBlock (b.drop (i + 2)) :=
  drop_skipBlockBody b (i + 2)

lemma afterQuoted_cons_of_ne {quote c : UInt8} {rest : List UInt8} (hc : c ≠ quote) :
    afterQuoted quote (c :: rest) = afterQuoted quote rest := by
  cases rest <;> simp [afterQuoted, hc]

variable (quote : UInt8)

lemma drop_skipQuotedFrom (i : Nat) :
    b.drop (skipQuotedFrom b quote i + 1) = afterQuoted quote (b.drop i) := by
  fun_induction skipQuotedFrom b quote i with
  | case1 i h hq hesc ih =>
    have hnext : i + 1 < b.length := by
      by_contra hlen
      simp [getElem?_eq_none (by omega : b.length ≤ i + 1)] at hesc
    have hd : (b[i + 1] == quote) = true := by
      simpa [getElem?_eq_getElem hnext] using hesc
    have hsplit : b.drop i = b[i] :: b[i + 1] :: b.drop (i + 2) := by
      rw [drop_eq_getElem_cons h, drop_eq_getElem_cons hnext]
    simp only [hsplit, afterQuoted, hq, hd, if_true, ih]
  | case2 i h hq hesc =>
    have hsplit : b.drop i = b[i] :: b.drop (i + 1) := drop_eq_getElem_cons h
    by_cases hnext : i + 1 < b.length
    · have hd : (b[i + 1] == quote) = false := by
        simpa [getElem?_eq_getElem hnext] using hesc
      have htail : b.drop (i + 1) = b[i + 1] :: b.drop (i + 2) :=
        drop_eq_getElem_cons hnext
      rw [hsplit, htail]
      simp only [afterQuoted, hq, hd]
      rfl
    · have htail : b.drop (i + 1) = [] := drop_eq_nil_of_le (by omega)
      rw [hsplit, htail]
      simp only [afterQuoted, hq]
      rfl
  | case3 i h hq ih =>
    have hsplit : b.drop i = b[i] :: b.drop (i + 1) := drop_eq_getElem_cons h
    rw [ih, hsplit, afterQuoted_cons_of_ne (by simpa using hq)]
  | case4 i h =>
    have hnil : b.drop i = [] := drop_eq_nil_of_le (by omega)
    have hnil' : b.drop (i + 1) = [] := drop_eq_nil_of_le (by omega)
    simp [hnil, hnil', afterQuoted]

lemma drop_skipQuoted : b.drop (skipQuoted b i quote + 1) = afterQuoted quote (b.drop (i + 1)) :=
  drop_skipQuotedFrom b quote (i + 1)

lemma le_skipLine : i ≤ skipLine b i := by
  fun_induction skipLine b i <;> omega

lemma le_skipBlockBody : i ≤ skipBlockBody b i := by
  fun_induction skipBlockBody b i <;> omega

lemma le_skipQuotedFrom (i : Nat) : i ≤ skipQuotedFrom b quote i := by
  fun_induction skipQuotedFrom b quote i <;> omega

lemma lt_skipLine {b : List UInt8} {i : Nat} (h : i < b.length) (hc : b[i] = '-'.toUInt8) :
    i < skipLine b i := by
  have hstep : skipLine b i = skipLine b (i + 1) := by
    have hne : ('-'.toUInt8 != '\n'.toUInt8) = true := by decide
    rw [skipLine]
    simp [h, hc, hne]
  have := le_skipLine b (i + 1)
  omega

lemma lt_skipBlock {b : List UInt8} {i : Nat} {d : UInt8} (hd : b[i + 1]? = some d) :
    i < skipBlock b i := by
  have hlen : i + 1 < b.length := (List.getElem?_eq_some_iff.mp hd).1
  have := le_skipBlockBody b (i + 2)
  unfold skipBlock
  omega

lemma lt_skipQuoted : i < skipQuoted b i quote :=
  le_skipQuotedFrom b quote (i + 1)

/-! ## The three scanners -/

def isBlank (c : UInt8) : Bool :=
  c == ' '.toUInt8 || c == '\t'.toUInt8 || c == '\r'.toUInt8 || c == '\n'.toUInt8

def isQuote (c : UInt8) : Bool :=
  c == '\''.toUInt8 || c == '"'.toUInt8 || c == 0x60

/-- `b[i]` begins a line comment. -/
def lineAt (b : List UInt8) (i : Nat) : Bool :=
  b[i]? == some '-'.toUInt8 && b[i + 1]? == some '-'.toUInt8

/-- `b[i]` begins a block comment. -/
def blockAt (b : List UInt8) (i : Nat) : Bool :=
  b[i]? == some '/'.toUInt8 && b[i + 1]? == some '*'.toUInt8

lemma lt_of_lineAt {b : List UInt8} {i : Nat} (h : lineAt b i = true) : i < skipLine b i := by
  have hc : b[i]? = some '-'.toUInt8 := by simp_all [lineAt]
  rcases List.getElem?_eq_some_iff.mp hc with ⟨hlen, hget⟩
  exact lt_skipLine hlen hget

lemma lt_of_blockAt {b : List UInt8} {i : Nat} (h : blockAt b i = true) : i < skipBlock b i := by
  have hd : b[i + 1]? = some '*'.toUInt8 := by simp_all [blockAt]
  exact lt_skipBlock hd

/-- Whether anything but blanks and comments comes at `i` or later. -/
def trailingHasSql (b : List UInt8) (i : Nat) : Bool :=
  if hi : i < b.length then
    if isBlank b[i] then trailingHasSql b (i + 1)
    else if hl : lineAt b i then trailingHasSql b (skipLine b i)
    else if hb : blockAt b i then trailingHasSql b (skipBlock b i)
    else true
  else false
termination_by b.length - i
decreasing_by
  · omega
  · have := lt_of_lineAt hl
    omega
  · have := lt_of_blockAt hb
    omega

/-- Every round ends with `i += 1`, also after a block comment, where `i` is already behind it. -/
def multipleFrom (b : List UInt8) (i : Nat) : Bool :=
  if hi : i < b.length then
    if isQuote b[i] then multipleFrom b (skipQuoted b i b[i] + 1)
    else if hl : lineAt b i then multipleFrom b (skipLine b i + 1)
    else if hb : blockAt b i then multipleFrom b (skipBlock b i + 1)
    else if b[i] == ';'.toUInt8 then trailingHasSql b (i + 1)
    else multipleFrom b (i + 1)
  else false
termination_by b.length - i
decreasing_by
  · have := lt_skipQuoted b i b[i]
    omega
  · have := lt_of_lineAt hl
    omega
  · have := lt_of_blockAt hb
    omega
  · omega

def hasMultipleStatements (sql : List UInt8) : Bool :=
  multipleFrom sql 0

def skipTriviaFrom (b : List UInt8) (i : Nat) : Nat :=
  if hi : i < b.length then
    if isBlank b[i] then skipTriviaFrom b (i + 1)
    else if hl : lineAt b i then skipTriviaFrom b (skipLine b i)
    else if hb : blockAt b i then skipTriviaFrom b (skipBlock b i)
    else i
  else i
termination_by b.length - i
decreasing_by
  · omega
  · have := lt_of_lineAt hl
    omega
  · have := lt_of_blockAt hb
    omega

def skipLeadingTrivia (b : List UInt8) : Nat :=
  skipTriviaFrom b 0

/-! ## `check_statement` -/

/-- The length of the white space character that the bytes begin with, `0` if there is none. -/
def spaceWidth : List UInt8 → Nat
  | 0xc2 :: d :: _ => if d == 0x85 || d == 0xa0 then 2 else 0
  | 0xe1 :: 0x9a :: 0x80 :: _ => 3
  | 0xe2 :: 0x80 :: d :: _ =>
    if (0x80 ≤ d && d ≤ 0x8a) || d == 0xa8 || d == 0xa9 || d == 0xaf then 3 else 0
  | 0xe2 :: 0x81 :: 0x9f :: _ => 3
  | 0xe3 :: 0x80 :: 0x80 :: _ => 3
  | c :: _ => if (9 ≤ c && c ≤ 13) || c == 0x20 then 1 else 0
  | [] => 0

lemma spaceWidth_cons_of_ascii {c : UInt8} (cs : List UInt8) (hc : c < 0x80) :
    spaceWidth (c :: cs) = if (9 ≤ c && c ≤ 13) || c == 0x20 then 1 else 0 := by
  unfold spaceWidth
  -- the other white space has a first byte that is not ASCII
  split <;> rename_i heq <;> cases heq <;> first | rfl | exact absurd hc (by decide)

lemma length_drop_spaceWidth_lt {l : List UInt8} (h : spaceWidth l ≠ 0) :
    (l.drop (spaceWidth l)).length < l.length := by
  cases l with
  | nil => exact absurd rfl h
  | cons c cs =>
    simp only [length_drop, length_cons]
    omega

def trimStart (l : List UInt8) : List UInt8 :=
  if spaceWidth l = 0 then l else trimStart (l.drop (spaceWidth l))
termination_by l.length
decreasing_by exact length_drop_spaceWidth_lt ‹_›

def asciiLower (c : UInt8) : UInt8 :=
  if 0x41 ≤ c && c ≤ 0x5a then c + 0x20 else c

def toAsciiLowercase (l : List UInt8) : List UInt8 :=
  l.map asciiLower

def forbiddenPrefixes : List String :=
  ["vacuum"]

def checkStatement (sql : List UInt8) : Result Unit :=
  if utf8 "__sys" <:+: toAsciiLowercase (trimStart sql) then
    .error (.forbidden "access to __sys_* internal tables is not allowed")
  else
    let leading := toAsciiLowercase (trimStart (sql.drop (skipLeadingTrivia sql)))
    match forbiddenPrefixes.find? fun p => (utf8 p).isPrefixOf leading with
    | some p =>
      .error (.invalidRequest (s!"statement starting with '{p}' is not allowed; " ++
        "use the /transaction endpoint for transactions"))
    | none =>
      if hasMultipleStatements sql then
        .error (.invalidRequest "multiple statements in one request are not allowed")
      else .ok ()

end Combee.Sql
