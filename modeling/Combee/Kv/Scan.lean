import Mathlib
import Combee.Foundation.Keyset
import Combee.Kv.Collection

/-!
# Scan — one page of SCAN against the keys that start with the text asked for

SCAN filters with `LIKE pre || '%'`, which is not a test for a literal beginning: `%` and `_` in the
text stand for anything, ASCII letters match in either case, a NUL ends the pattern, U+FFFE and
U+FFFF are read as U+FFFD, and a pattern that is too long is an error. It never misses a key
(`likePrefix_of_startsWith`), so a page is wrong exactly where `LIKE` lets another live key through:

* `correct_iff_exact` — for one table, every page is right iff `LIKE` matches no other live key;
* `literal_iff_exact` — for one text, this holds of every table iff the text is `Literal`.
-/

namespace Combee.Kv

open Foundation List

/-! ## The rows of a page -/

def clampLimit (limit : UInt32) : Nat := max 1 (min limit.toNat 1000)

variable (limit : UInt32)

lemma clampLimit_pos : 0 < clampLimit limit :=
  Nat.lt_of_lt_of_le Nat.zero_lt_one (Nat.le_max_left _ _)

def liveWhere (p : String → Bool) (t : KvTable) (now : Int) : Finset String :=
  t.keys.filter fun key => !expiredAt t now key && p key

@[simp] lemma mem_liveWhere {p : String → Bool} {t : KvTable} {now : Int} {key : String} :
    key ∈ liveWhere p t now ↔ key ∈ t.keys ∧ expiredAt t now key = false ∧ p key = true := by
  simp [liveWhere]

def cursorOf (cursor : String) : Option String :=
  if cursor.isEmpty then none else some cursor

/-- SCAN's rows for an arbitrary filter in the place of `LIKE`. -/
def rowsWhere (p : String → Bool) (t : KvTable) (now : Int) (cursor : String) : List String :=
  rowsAhead (liveWhere p t now) (cursorOf cursor)

lemma scanRows_eq_rowsWhere (t : KvTable) (now : Int) (pre cursor : String) :
    scanRows t now pre cursor = rowsWhere (likePrefix pre) t now cursor := by
  unfold scanRows rowsWhere rowsAhead ahead liveWhere
  rw [Finset.filter_filter]
  congr 1
  refine Finset.filter_congr fun key _ => ?_
  unfold cursorOf
  by_cases h : cursor.isEmpty = true <;> simp [h]

@[simp] lemma keys_pageOfRows (rows : List String) :
    (pageOfRows limit rows).keys = rows.take (clampLimit limit) := by
  change (rows.take (clampLimit limit + 1)).take (clampLimit limit) = _
  rw [take_take, Nat.min_eq_left (Nat.le_succ _)]

@[simp] lemma nextCursor_pageOfRows (rows : List String) : (pageOfRows limit rows).nextCursor =
      if clampLimit limit < rows.length then (rows.take (clampLimit limit)).getLast?.getD ""
      else "" := by
  have hlen : clampLimit limit < (rows.take (clampLimit limit + 1)).length ↔
      clampLimit limit < rows.length := by
    rw [length_take]
    omega
  change (if clampLimit limit < (rows.take (clampLimit limit + 1)).length then
    ((pageOfRows limit rows).keys).getLast?.getD "" else "") = _
  simp only [hlen, keys_pageOfRows]

lemma empty_lt_iff {key : String} : "" < key ↔ key ≠ "" := by
  constructor
  · rintro h rfl
    exact lt_irrefl _ h
  · intro h
    rw [String.lt_iff_toList_lt]
    cases hkey : key.toList with
    | nil => exact absurd (String.toList_eq_nil_iff.mp hkey) h
    | cons c cs => exact nil_lt_cons c cs

lemma cursorOf_lt_iff {cursor key : String} (h : key ≠ "") :
    (∀ c ∈ cursorOf cursor, c < key) ↔ cursor < key := by
  unfold cursorOf
  by_cases hc : cursor.isEmpty = true
  · rw [String.isEmpty_iff] at hc
    subst hc
    simpa using empty_lt_iff.mpr h
  · simp [hc]

lemma nextCursor_ne_iff {rows : List String} (h : "" ∉ rows) :
    (pageOfRows limit rows).nextCursor ≠ "" ↔ clampLimit limit < rows.length := by
  rw [nextCursor_pageOfRows]
  by_cases hmore : clampLimit limit < rows.length
  · have hne : rows.take (clampLimit limit) ≠ [] := by
      have := clampLimit_pos limit
      intro hnil
      rcases take_eq_nil_iff.mp hnil with hzero | rfl
      · omega
      · simp at hmore
    rw [if_pos hmore, getLast?_eq_some_getLast hne]
    refine iff_of_true (fun hlast => h ?_) hmore
    have hmem := mem_of_mem_take (getLast_mem hne)
    simp only [Option.getD_some] at hlast
    rwa [hlast] at hmem
  · simp [hmore]

/-! ## The two cases of an ASCII letter -/

variable {c : Char}

/-- Only letters change their case, and they change into letters. -/
lemma eq_of_toLower_eq {c d : Char} (hc : c.isAlpha = false) (h : c.toLower = d.toLower) :
    c = d := by
  have hd : d.isAlpha = false := by
    rw [← Char.isAlpha_toLower_eq_isAlpha, ← h, Char.isAlpha_toLower_eq_isAlpha, hc]
  have hsame : ∀ {e : Char}, e.isAlpha = false → e.toLower = e := fun he =>
    Char.toLower_eq_of_not_isUpper fun hup => by simp [Char.isAlpha, hup] at he
  rwa [hsame hc, hsame hd] at h

lemma exists_other_case (hc : c.isAlpha = true) :
    ∃ d, d ≠ c ∧ d.isAlpha = true ∧ c.toLower = d.toLower := by
  cases hup : c.isUpper with
  | true =>
    refine ⟨c.toLower, fun he => ?_, by simpa using hc, by simp⟩
    exact absurd (he ▸ c.isUpper_toLower_eq_false) (by simp [hup])
  | false =>
    have hlow : c.isLower = true := by simpa [Char.isAlpha, hup] using hc
    refine ⟨c.toUpper, fun he => ?_, by simpa using hc, by simp⟩
    exact absurd (he ▸ c.isLower_toUpper_eq_false) (by simp [hlow])

/-! ## What `LIKE` matches -/

/-- The characters that SQLite reads as U+FFFD. -/
def isReplaced (c : Char) : Bool :=
  c == '\uFFFD' || c == '\uFFFE' || c == '\uFFFF'

lemma utf8Read_of_isReplaced (h : isReplaced c = true) : utf8Read c = '\uFFFD' := by
  rcases (by simpa [isReplaced, or_assoc] using h :
    c = '\uFFFD' ∨ c = '\uFFFE' ∨ c = '\uFFFF') with rfl | rfl | rfl <;> rfl

lemma utf8Read_of_not_isReplaced (h : isReplaced c = false) : utf8Read c = c :=
  if_neg fun hc => by rcases hc with rfl | rfl <;> exact absurd h (by decide)

lemma isReplaced_of_isAlpha (h : c.isAlpha = true) : isReplaced c = false := by
  refine Bool.eq_false_iff.mpr fun hc => ?_
  rcases (by simpa [isReplaced, or_assoc] using hc :
    c = '\uFFFD' ∨ c = '\uFFFE' ∨ c = '\uFFFF') with rfl | rfl | rfl <;> exact absurd h (by decide)

/-- A character of the pattern can stand for a character of the text. -/
def Fits (c d : Char) : Prop :=
  c = '%' ∨ c = '_' ∨ c.toLower = d.toLower

lemma Fits.refl (c : Char) : Fits c c := .inr (.inr rfl)

lemma like_percent (text : List Char) : like ['%'] text = true := by
  have hnil : ([] : List Char) ∈ text.tails := (mem_tails _ _).mpr nil_suffix
  exact any_eq_true.mpr ⟨[], hnil, rfl⟩

lemma like_cons_of_fits {c d : Char} {pattern text : List Char} (h : Fits c d)
    (hrest : like pattern text = true) : like (c :: pattern) (d :: text) = true := by
  by_cases hall : c = '%'
  -- the wildcard takes this one character
  · subst hall
    have hmem : text ∈ (d :: text).tails := (mem_tails _ _).mpr (suffix_cons d text)
    exact any_eq_true.mpr ⟨text, hmem, hrest⟩
  by_cases hone : c = '_'
  · subst hone
    exact hrest
  · have hcase : c.toLower = d.toLower := (h.resolve_left hall).resolve_left hone
    simp [like, hcase, hrest]

lemma like_append {a pattern text : List Char} (hrest : like pattern text = true) :
    like (a ++ pattern) (a ++ text) = true := by
  induction a with
  | nil => exact hrest
  | cons c a ih => exact like_cons_of_fits (Fits.refl c) ih

lemma upToNul_append {a : List Char} (h : ∀ c ∈ a, c ≠ '\x00') (b : List Char) :
    upToNul (a ++ b) = a ++ upToNul b :=
  takeWhile_append_of_pos fun c hc => by simpa using h c hc

lemma upToNul_nul (b : List Char) : upToNul ('\x00' :: b) = [] := rfl

lemma nul_cases (l : List Char) :
    (∀ c ∈ l, c ≠ '\x00') ∨ ∃ a b, l = a ++ '\x00' :: b ∧ ∀ c ∈ a, c ≠ '\x00' := by
  by_cases hl : '\x00' ∈ l
  · obtain ⟨a, b, rfl, ha⟩ := eq_append_cons_of_mem hl
    exact .inr ⟨a, b, rfl, fun c hc => ne_of_mem_of_not_mem hc ha⟩
  · exact .inl fun c hc => ne_of_mem_of_not_mem hc hl

lemma like_upToNul_append (l rest : List Char) :
    like ((upToNul (l ++ ['%'])).map utf8Read) ((upToNul (l ++ rest)).map utf8Read) = true := by
  rcases nul_cases l with h | ⟨a, b, rfl, h⟩
  · rw [upToNul_append h, upToNul_append h, map_append, map_append]
    exact like_append (like_percent _)
  -- both texts end at the same NUL, and a text matches itself
  · rw [append_assoc, append_assoc, upToNul_append h, upToNul_append h, map_append, map_append]
    exact like_append rfl

lemma likePrefix_of_startsWith {pre key : String} (h : pre.toList <+: key.toList) :
    likePrefix pre key = true := by
  rcases h with ⟨rest, hrest⟩
  unfold likePrefix
  rw [← hrest]
  exact like_upToNul_append _ _

/-- A character that `LIKE` takes as it stands. -/
def isPlain (c : Char) : Bool :=
  c != '%' && c != '_' && !c.isAlpha && !isReplaced c && c != '\x00'

lemma isPlain_iff : isPlain c = true ↔
    c ≠ '%' ∧ c ≠ '_' ∧ c.isAlpha = false ∧ isReplaced c = false ∧ c ≠ '\x00' := by
  simp [isPlain, and_assoc]

/-- A plain character is read from itself only. -/
lemma eq_of_utf8Read {d : Char} (hc : isPlain c = true)
    (h : (utf8Read c).toLower = (utf8Read d).toLower) : d = c := by
  obtain ⟨-, -, halpha, hread, -⟩ := isPlain_iff.mp hc
  rw [utf8Read_of_not_isReplaced hread] at h
  have hcd := eq_of_toLower_eq halpha h
  cases hd : isReplaced d with
  | false => rwa [utf8Read_of_not_isReplaced hd, eq_comm] at hcd
  | true =>
    rw [hcd, utf8Read_of_isReplaced hd] at hread
    exact absurd hread (by decide)

lemma startsWith_of_like {l text : List Char} (hl : ∀ c ∈ l, isPlain c = true)
    (h : like ((l ++ ['%']).map utf8Read) (text.map utf8Read) = true) : l <+: text := by
  induction l generalizing text with
  | nil => exact nil_prefix
  | cons c l ih =>
    have hc := hl c mem_cons_self
    obtain ⟨hall, hone, -, hread, -⟩ := isPlain_iff.mp hc
    have hself := utf8Read_of_not_isReplaced hread
    cases text with
    | nil => simp [like, hself] at h
    | cons d text =>
      have hboth : (utf8Read c).toLower = (utf8Read d).toLower ∧
          like ((l ++ ['%']).map utf8Read) (text.map utf8Read) = true := by
        simpa [like, hself, hall, hone] using h
      rcases ih (forall_mem_cons.mp hl).2 hboth.2 with ⟨rest, hrest⟩
      exact ⟨rest, by simp [eq_of_utf8Read hc hboth.1, hrest]⟩

/-- What is not plain in a text lets another key through. -/
lemma exists_other_fit (h : isPlain c = false) (hnul : c ≠ '\x00') :
    ∃ d, d ≠ c ∧ d ≠ '\x00' ∧ Fits (utf8Read c) (utf8Read d) := by
  by_cases hall : c = '%'
  · exact ⟨'x', by simp [hall], by decide, .inl (by rw [hall]; rfl)⟩
  by_cases hone : c = '_'
  · exact ⟨'x', by simp [hone], by decide, .inr (.inl (by rw [hone]; rfl))⟩
  cases hread : isReplaced c with
  | true =>
    have hfit : ∀ d, isReplaced d = true → Fits (utf8Read c) (utf8Read d) := fun d hd => by
      rw [utf8Read_of_isReplaced hread, utf8Read_of_isReplaced hd]
      exact Fits.refl _
    by_cases hc : c = '\uFFFD'
    · exact ⟨'\uFFFE', by rw [hc]; decide, by decide, hfit _ rfl⟩
    · exact ⟨'\uFFFD', Ne.symm hc, by decide, hfit _ rfl⟩
  | false =>
    have halpha : c.isAlpha = true := by simpa [isPlain, hall, hone, hread, hnul] using h
    rcases exists_other_case halpha with ⟨d, hne, hd, hcase⟩
    refine ⟨d, hne, ?_, .inr (.inr ?_)⟩
    · rintro rfl
      exact absurd hd (by decide)
    · rwa [utf8Read_of_not_isReplaced hread,
        utf8Read_of_not_isReplaced (isReplaced_of_isAlpha hd)]

/-- The texts that `LIKE` takes literally; the NUL alone makes the pattern empty. -/
def Literal (pre : String) : Prop :=
  pre = "\x00" ∨ ∀ c ∈ pre.toList, isPlain c = true

lemma startsWith_of_literal {pre key : String} (hpre : Literal pre) (hkey : key ≠ "")
    (h : likePrefix pre key = true) : pre.toList <+: key.toList := by
  unfold likePrefix at h
  rcases hpre with rfl | hplain
  · have hempty : upToNul key.toList = [] := by simpa [like, upToNul] using h
    cases htext : key.toList with
    | nil => exact absurd (String.toList_eq_nil_iff.mp htext) hkey
    | cons c cs =>
      have hc : c = '\x00' := by
        simpa [upToNul, htext, takeWhile_cons] using hempty
      exact ⟨cs, by simp [hc]⟩
  · have hnul : ∀ c ∈ pre.toList, c ≠ '\x00' := fun c hc => (isPlain_iff.mp (hplain c hc)).2.2.2.2
    rw [upToNul_append hnul] at h
    exact (startsWith_of_like hplain h).trans (List.takeWhile_prefix _)

lemma exists_first_not_plain {l : List Char} (h : ¬ ∀ c ∈ l, isPlain c = true) :
    ∃ a c b, l = a ++ c :: b ∧ (∀ c ∈ a, isPlain c = true) ∧ isPlain c = false := by
  have hsome : (l.find? (!isPlain ·)).isSome = true := by simpa using h
  obtain ⟨c, hfind⟩ := Option.isSome_iff_exists.mp hsome
  obtain ⟨hc, a, b, rfl, ha⟩ := find?_eq_some_iff_append.mp hfind
  exact ⟨a, c, b, rfl, by simpa using ha, by simpa using hc⟩

section Matches

variable {pre : String} {a b : List Char} {c : Char} (ha : ∀ c ∈ a, c ≠ '\x00')
include ha

lemma exists_likePrefix_of_nul (hpre : pre.toList = a ++ '\x00' :: b) (h : pre ≠ "\x00") :
    ∃ key, key ≠ "" ∧ likePrefix pre key = true ∧ ¬ pre.toList <+: key.toList := by
  have hpattern : upToNul (pre.toList ++ ['%']) = a := by
    rw [hpre, append_assoc, upToNul_append ha, cons_append, upToNul_nul, append_nil]
  cases a with
  | cons e a =>
    -- the text before the NUL is matched as a whole, and is too short
    refine ⟨String.ofList (e :: a), by simp, ?_, ?_⟩
    · unfold likePrefix
      have hself : upToNul (e :: a) = e :: a := by
        simpa [upToNul] using upToNul_append ha []
      rw [hpattern, String.toList_ofList, hself]
      have hmatch : like ((e :: a).map utf8Read ++ []) ((e :: a).map utf8Read ++ []) = true :=
        like_append rfl
      rwa [append_nil] at hmatch
    · intro hle
      have := hle.length_le
      simp [hpre] at this
  | nil =>
    cases b with
    | nil => exact absurd (String.toList_inj.mp (by simpa using hpre)) h
    | cons e b =>
      -- every key with a NUL in front is matched, whatever comes next
      have hchars : Nontrivial Char := ⟨'x', 'y', by decide⟩
      obtain ⟨d, hd⟩ := exists_ne e
      refine ⟨String.ofList ['\x00', d], by simp, ?_, ?_⟩
      · unfold likePrefix
        rw [hpattern, String.toList_ofList, upToNul_nul]
        rfl
      · rw [hpre, String.toList_ofList]
        intro hle
        have := cons_prefix_cons.mp (cons_prefix_cons.mp hle).2
        exact hd this.1.symm

lemma exists_likePrefix_of_fits (hpre : pre.toList = a ++ c :: b) (hc : isPlain c = false)
    (hnul : c ≠ '\x00') :
    ∃ key, key ≠ "" ∧ likePrefix pre key = true ∧ ¬ pre.toList <+: key.toList := by
  rcases exists_other_fit hc hnul with ⟨d, hne, hdnul, hfit⟩
  refine ⟨String.ofList (a ++ d :: b), by simp, ?_, ?_⟩
  · unfold likePrefix
    have hone : ∀ {e : Char} (l : List Char), e ≠ '\x00' → upToNul (e :: l) = e :: upToNul l :=
      fun l he => upToNul_append (a := [_]) (by simpa using he) l
    rw [hpre, String.toList_ofList, append_assoc, upToNul_append ha, upToNul_append ha,
      cons_append, hone _ hnul, hone _ hdnul, map_append, map_append]
    have hrest := like_upToNul_append b []
    rw [append_nil] at hrest
    exact like_append (like_cons_of_fits hfit hrest)
  · rw [hpre, String.toList_ofList]
    intro hle
    rw [prefix_append_right_inj] at hle
    exact hne (cons_prefix_cons.mp hle).1.symm

end Matches

/-- For a text that is not literal, `LIKE` also matches a key that does not start with it. -/
lemma exists_likePrefix_of_not_literal {pre : String} (h : ¬ Literal pre) :
    ∃ key, key ≠ "" ∧ likePrefix pre key = true ∧ ¬ pre.toList <+: key.toList := by
  rcases exists_first_not_plain fun hall => h (.inr hall) with ⟨a, c, b, hpre, ha, hc⟩
  have hanul : ∀ c ∈ a, c ≠ '\x00' := fun c hc => (isPlain_iff.mp (ha c hc)).2.2.2.2
  by_cases hnul : c = '\x00'
  · subst hnul
    exact exists_likePrefix_of_nul hanul hpre fun heq => h (.inl heq)
  · exact exists_likePrefix_of_fits hanul hpre hc hnul

/-! ## Pages -/

/-- The first live keys with `pre` after the cursor, in order, and a cursor exactly if there are
more. -/
def CorrectPage (t : KvTable) (now : Int) (pre : String) (limit : UInt32) (cursor : String)
    (page : Result ScanPage) : Prop :=
  ∃ keys nextCursor, page = .ok ⟨keys, nextCursor⟩ ∧ ∃ rows : List String,
    rows.Pairwise (· < ·) ∧
    (∀ key, key ∈ rows ↔ key ∈ t.keys ∧ expiredAt t now key = false ∧
      pre.toList <+: key.toList ∧ cursor < key) ∧
    keys = rows.take (clampLimit limit) ∧ (nextCursor ≠ "" ↔ clampLimit limit < rows.length)

/-- `LIKE` matches no live key but those that start with the text; a text that is too long meets
none. -/
def LikeExact (t : KvTable) (now : Int) (pre : String) : Prop :=
  ∀ key ∈ t.keys, expiredAt t now key = false →
    pre.utf8ByteSize < maxPatternBytes ∧ (likePrefix pre key = true → pre.toList <+: key.toList)

section Table

variable {t : KvTable} {now : Int} {pre : String}

lemma mem_scanRows (hempty : "" ∉ t.keys) {cursor key : String} :
    key ∈ scanRows t now pre cursor ↔
      key ∈ t.keys ∧ expiredAt t now key = false ∧ likePrefix pre key = true ∧ cursor < key := by
  rw [scanRows_eq_rowsWhere, rowsWhere, mem_rowsAhead, mem_liveWhere, and_assoc,
    and_assoc]
  refine and_congr_right fun hkey => ?_
  have hne : key ≠ "" := fun he => hempty (he ▸ hkey)
  rw [cursorOf_lt_iff hne]

lemma scan_of_exact (h : LikeExact t now pre) (limit : UInt32) (cursor : String) :
    scan t now pre limit cursor = .ok (pageOfRows limit (scanRows t now pre cursor)) := by
  refine if_neg ?_
  rintro ⟨hlong, key, hkey, hlive⟩
  have := (h key hkey hlive).1
  omega

section

variable (hempty : "" ∉ t.keys)
include hempty

lemma correctPage_of_exact (h : LikeExact t now pre) (limit : UInt32)
    (cursor : String) : CorrectPage t now pre limit cursor (scan t now pre limit cursor) := by
  have hrows : "" ∉ scanRows t now pre cursor :=
    fun hmem => hempty ((mem_scanRows hempty).mp hmem).1
  refine ⟨_, _, scan_of_exact h limit cursor, scanRows t now pre cursor, ?_, fun key => ?_,
    keys_pageOfRows limit _, nextCursor_ne_iff limit hrows⟩
  · rw [scanRows_eq_rowsWhere, rowsWhere]
    exact rowsAhead_pairwise _ _
  · rw [mem_scanRows hempty]
    refine and_congr_right fun hkey => and_congr_right fun hlive => and_congr_left fun _ => ?_
    exact ⟨(h key hkey hlive).2, likePrefix_of_startsWith⟩

/-- Each live key that `LIKE` matches is the first of some page. -/
lemma exists_cursor_before {key : String} (hkey : key ∈ liveWhere (likePrefix pre) t now) :
    ∃ cursor rest, scanRows t now pre cursor = key :: rest := by
  rcases exists_rowsAhead_eq_cons hkey with ⟨cursor, rest, hmem, hrows⟩
  have hcursor : cursorOf (cursor.getD "") = cursor := by
    cases cursor with
    | none => rfl
    | some c =>
      have hc : c ≠ "" := fun he => hempty (he ▸ (mem_liveWhere.mp (hmem c rfl)).1)
      simp [cursorOf, hc]
  refine ⟨cursor.getD "", rest, ?_⟩
  rw [scanRows_eq_rowsWhere, rowsWhere, hcursor, hrows]

lemma exact_of_correctPage
    (h : ∀ limit cursor, CorrectPage t now pre limit cursor (scan t now pre limit cursor)) :
    LikeExact t now pre := by
  intro key hkey hlive
  have hshort : pre.utf8ByteSize < maxPatternBytes := by
    by_contra hlong
    -- the first page of all is an error
    rcases h 1 "" with ⟨keys, nextCursor, hok, _⟩
    rw [scan, if_pos ⟨by omega, key, hkey, hlive⟩] at hok
    cases hok
  refine ⟨hshort, fun hlike => ?_⟩
  rcases exists_cursor_before hempty (mem_liveWhere.mpr ⟨hkey, hlive, hlike⟩) with
    ⟨cursor, rest, hrows⟩
  rcases h 1 cursor with ⟨keys, nextCursor, hok, rows, _, hmem, hkeys, _⟩
  rw [scan, if_neg (by omega), hrows] at hok
  have hpage : [key] = rows.take (clampLimit 1) := by
    have := congrArg ScanPage.keys (Except.ok.inj hok)
    rw [keys_pageOfRows] at this
    exact this.trans hkeys
  have hrow : key ∈ rows := mem_of_mem_take (hpage ▸ mem_singleton.mpr rfl)
  exact ((hmem key).mp hrow).2.2.1

lemma correct_iff_exact :
    (∀ limit cursor, CorrectPage t now pre limit cursor (scan t now pre limit cursor)) ↔
      LikeExact t now pre :=
  ⟨exact_of_correctPage hempty, correctPage_of_exact hempty⟩

end

end Table

lemma literal_iff_exact {pre : String} :
    (pre.utf8ByteSize < maxPatternBytes ∧ Literal pre) ↔
      ∀ t now, "" ∉ t.keys → LikeExact t now pre := by
  constructor
  · rintro ⟨hshort, hliteral⟩ t now hempty key hkey _
    exact ⟨hshort, startsWith_of_literal hliteral fun he => hempty (he ▸ hkey)⟩
  · intro h
    -- a table with a single key, which never expires
    have hsingle : ∀ key, key ≠ "" → pre.utf8ByteSize < maxPatternBytes ∧
        (likePrefix pre key = true → pre.toList <+: key.toList) := by
      intro key hkey
      refine h (Finmap.singleton key ⟨"", none, 1⟩) 0 (fun hmem => hkey ?_) key ?_ ?_
      · simpa using (Finmap.mem_keys.mp hmem : "" ∈ Finmap.singleton key _)
      · simp
      · simp [expiredAt]
    refine ⟨(hsingle "x" (by decide)).1, ?_⟩
    by_contra hliteral
    rcases exists_likePrefix_of_not_literal hliteral with ⟨key, hkey, hlike, hnot⟩
    exact hnot ((hsingle key hkey).2 hlike)

/-- Pages of SCAN are right for every table exactly if the text is literal and short enough; for one
table exactly if `LIKE` matches none of its live keys but those that start with the text. -/
theorem scan_correct_iff (pre : String) :
    ((∀ t now, "" ∉ t.keys → ∀ limit cursor,
        CorrectPage t now pre limit cursor (scan t now pre limit cursor)) ↔
      pre.utf8ByteSize < maxPatternBytes ∧ Literal pre) ∧
    ∀ t now, "" ∉ t.keys →
      ((∀ limit cursor, CorrectPage t now pre limit cursor (scan t now pre limit cursor)) ↔
        LikeExact t now pre) := by
  refine ⟨?_, fun t now hempty => correct_iff_exact hempty⟩
  rw [literal_iff_exact]
  exact forall_congr' fun t => forall_congr' fun now => forall_congr' fun hempty =>
    correct_iff_exact hempty

/-- The keys `user_1`, `userA1` and `USER_2`, none of them expiring. -/
def users : KvTable :=
  ((Finmap.singleton "user_1" ⟨"a", none, 1⟩).insert "userA1" ⟨"b", none, 1⟩).insert "USER_2"
    ⟨"c", none, 1⟩

/-- A text of digits and colons gives right pages. -/
theorem scan_correct_digits : CorrectPage users 0 "10:" 5 "" (scan users 0 "10:" 5 "") := by
  have hplain : ∀ c ∈ "10:".toList, isPlain c = true := by simp [isPlain, isReplaced]
  exact (scan_correct_iff "10:").1.mpr ⟨by decide, .inr hplain⟩ users 0 (by decide) 5 ""

/-- Asked for the keys that start with `user_`, SCAN also returns `userA1` and `USER_2`. -/
theorem scan_incorrect :
    scan users 0 "user_" 10 "" = .ok ⟨["USER_2", "userA1", "user_1"], ""⟩ ∧
      ¬ CorrectPage users 0 "user_" 10 "" (scan users 0 "user_" 10 "") := by
  have hpage : scan users 0 "user_" 10 "" = .ok ⟨["USER_2", "userA1", "user_1"], ""⟩ := by
    have hrows : scanRows users 0 "user_" "" = ["USER_2", "userA1", "user_1"] := by
      have hset : (users.keys.filter fun key => !expiredAt users 0 key && likePrefix "user_" key &&
          ("".isEmpty || decide ("" < key))) = ["USER_2", "userA1", "user_1"].toFinset := by decide
      rw [scanRows, hset]
      exact (toFinset_sort (· ≤ ·) (by decide)).mpr (by decide)
    rw [scan, hrows]
    decide
  refine ⟨hpage, ?_⟩
  rw [hpage]
  rintro ⟨keys, nextCursor, hok, rows, _, hmem, hkeys, _⟩
  cases hok
  have hrow : "USER_2" ∈ rows := mem_of_mem_take (hkeys ▸ mem_cons_self)
  exact absurd ((hmem "USER_2").mp hrow).2.2.1 (by decide)

end Combee.Kv
