import Mathlib.Data.List.DropRight

/-!
# UrlPath — the path of a URL as the URL standard parses it

A client that is given a text for a URL parses it before it sends it. For the schemes that the
standard calls special, such as `http`, this becomes of the part after the origin:

* controls and spaces at the end are dropped, and so are all tabs and line breaks (`clean`);
* the path ends at the first `?` or `#` (`beforeQuery`);
* a backslash separates segments as a slash does;
* the segments `.` and `..`, also if their dots are written `%2e`, are carried out (`addSegment`);
* some characters are percent-encoded (`encode`).
-/

namespace Combee.Foundation.UrlPath

open List

abbrev Segment := List Char

/-! ## The parser -/

def isTabOrNewline (c : Char) : Bool :=
  c == '\t' || c == '\n' || c == '\r'

def isControlOrSpace (c : Char) : Bool :=
  c.toNat ≤ 0x20

def clean (cs : List Char) : List Char :=
  (cs.rdropWhile isControlOrSpace).filter fun c => !isTabOrNewline c

def beforeQuery (cs : List Char) : List Char :=
  cs.takeWhile fun c => !(c == '?' || c == '#')

def isSeparator (c : Char) : Bool :=
  c == '/' || c == '\\'

def isSingleDot (s : Segment) : Bool :=
  s ∈ [".".toList, "%2e".toList, "%2E".toList]

def isDoubleDot (s : Segment) : Bool :=
  s ∈ ["..".toList, ".%2e".toList, ".%2E".toList, "%2e.".toList, "%2E.".toList, "%2e%2e".toList,
    "%2e%2E".toList, "%2E%2e".toList, "%2E%2E".toList]

def inPathSet (c : Char) : Bool :=
  c.toNat < 0x20 || 0x7e < c.toNat || c ∈ " \"#<>?^\x60\x7b\x7d".toList

def hexDigit (n : Nat) : Char :=
  if n < 10 then Char.ofNat (0x30 + n) else Char.ofNat (0x37 + n)

def encodeByte (b : UInt8) : List Char :=
  ['%', hexDigit (b.toNat / 16), hexDigit (b.toNat % 16)]

def encodeChar (c : Char) : List Char :=
  if inPathSet c then (String.utf8EncodeChar c).flatMap encodeByte else [c]

def encode (s : Segment) : Segment :=
  s.flatMap encodeChar

/-- The path with one more segment; after a dot segment at the end of the path comes an empty
one. -/
def addSegment (path : List Segment) (s : Segment) (last : Bool) : List Segment :=
  if isDoubleDot s then if last then path.dropLast ++ [[]] else path.dropLast
  else if isSingleDot s then if last then path ++ [[]] else path
  else path ++ [encode s]

def resolve : List Segment → List Segment → List Segment
  | path, [] => path
  | path, [s] => addSegment path s true
  | path, s :: s' :: rest => resolve (addSegment path s false) (s' :: rest)

/-- The path of a URL whose text is an origin and then `cs`, which begins with a slash. -/
def pathOf (cs : List Char) : List Segment :=
  resolve [] ((beforeQuery (clean cs)).splitOnP isSeparator).tail

def join (path : List Segment) : List Char :=
  ['/'].intercalate path

/-! ## Encoding -/

lemma encodeChar_of_not_mem {c : Char} (h : '%' ∉ encodeChar c) : encodeChar c = [c] := by
  by_cases hset : inPathSet c
  · -- the first byte is written with a percent sign
    have hpos : 0 < (String.utf8EncodeChar c).length := by
      rw [String.length_utf8EncodeChar]
      exact c.utf8Size_pos
    cases hbytes : String.utf8EncodeChar c with
    | nil => simp [hbytes] at hpos
    | cons b bs => simp [encodeChar, hset, hbytes, encodeByte] at h
  · simp [encodeChar, hset]

/-- A text without percent signs is the encoding of itself alone. -/
lemma eq_of_encode {s t : Segment} (h : encode s = t) (ht : '%' ∉ t) : s = t := by
  subst h
  induction s with
  | nil => rfl
  | cons c s ih =>
    simp only [encode, flatMap_cons, mem_append, not_or] at ht
    have hrest : s = encode s := ih ht.2
    simp only [encode, flatMap_cons, encodeChar_of_not_mem ht.1]
    exact congrArg (c :: ·) hrest

/-! ## Segments that stay as they are -/

/-- A segment that the parser leaves alone but for its encoding. -/
structure Plain (s : Segment) : Prop where
  chars : ∀ c ∈ s, 0x20 ≤ c.toNat ∧ isSeparator c = false ∧ c ≠ '?' ∧ c ≠ '#'
  not_space_last : s.getLast? ≠ some ' '
  not_singleDot : isSingleDot s = false
  not_doubleDot : isDoubleDot s = false

def isPlainChar (c : Char) : Bool :=
  Nat.ble 0x20 c.toNat && !isSeparator c && c != '?' && c != '#'

lemma isPlainChar_iff {c : Char} : isPlainChar c = true ↔
    0x20 ≤ c.toNat ∧ isSeparator c = false ∧ c ≠ '?' ∧ c ≠ '#' := by
  simp only [isPlainChar, Bool.and_eq_true, Nat.ble_eq, Bool.not_eq_true', bne_iff_ne, and_assoc]

instance (s : Segment) : Decidable (Plain s) :=
  decidable_of_iff (s.all isPlainChar = true ∧ s.getLast? ≠ some ' ' ∧ isSingleDot s = false ∧
      isDoubleDot s = false)
    ⟨fun ⟨h₁, h₂, h₃, h₄⟩ =>
      ⟨fun c hc => isPlainChar_iff.mp (all_eq_true.mp h₁ c hc), h₂, h₃, h₄⟩,
    fun ⟨h₁, h₂, h₃, h₄⟩ =>
      ⟨all_eq_true.mpr fun c hc => isPlainChar_iff.mpr (h₁ c hc), h₂, h₃, h₄⟩⟩

lemma addSegment_plain {s : Segment} (h : Plain s) (path : List Segment) (last : Bool) :
    addSegment path s last = path ++ [encode s] := by
  simp [addSegment, h.not_doubleDot, h.not_singleDot]

lemma resolve_plain : ∀ (segs path : List Segment), (∀ s ∈ segs, Plain s) →
    resolve path segs = path ++ segs.map encode
  | [], path, _ => by simp [resolve]
  | [s], path, h => by
      rw [resolve, addSegment_plain (h s mem_cons_self)]
      rfl
  | s :: s' :: rest, path, h => by
      rw [resolve, addSegment_plain (h s mem_cons_self),
        resolve_plain (s' :: rest) _ (forall_mem_cons.mp h).2]
      simp

lemma join_cons_cons (s s' : Segment) (rest : List Segment) :
    join (s :: s' :: rest) = s ++ '/' :: join (s' :: rest) := by
  simp [join, intercalate, intersperse]

lemma splitOnP_join : ∀ segs : List Segment, segs ≠ [] → (∀ s ∈ segs, Plain s) →
    (join segs).splitOnP isSeparator = segs
  | [], hne, _ => absurd rfl hne
  | [s], _, h => by
      have hs : ∀ c ∈ s, isSeparator c = false :=
        fun c hc => ((h s mem_cons_self).chars c hc).2.1
      simpa [join, intercalate] using splitOnP_eq_singleton hs
  | s :: s' :: rest, _, h => by
      have hs : ∀ c ∈ s, isSeparator c = false :=
        fun c hc => ((h s mem_cons_self).chars c hc).2.1
      rw [join_cons_cons, splitOnP_append_cons_of_forall_mem hs '/' rfl,
        splitOnP_join (s' :: rest) (by simp) (forall_mem_cons.mp h).2]

lemma forall_mem_join {P : Char → Prop} (hslash : P '/') :
    ∀ {segs : List Segment}, (∀ s ∈ segs, ∀ c ∈ s, P c) → ∀ c ∈ join segs, P c
  | [], _ => by simp [join]
  | [s], h => by simpa [join] using h
  | s :: s' :: rest, h => by
      rw [join_cons_cons, forall_mem_append, forall_mem_cons]
      exact ⟨h s mem_cons_self, hslash, forall_mem_join hslash (forall_mem_cons.mp h).2⟩

lemma rdropWhile_append_cons {α : Type} {p : α → Bool} {x : α} (hx : p x = false)
    (as bs : List α) : (as ++ x :: bs).rdropWhile p = as ++ x :: bs.rdropWhile p := by
  have hdrop : (bs.reverse ++ x :: as.reverse).dropWhile p =
      bs.reverse.dropWhile p ++ x :: as.reverse := by
    rw [dropWhile_append]
    split_ifs with hempty
    · rw [isEmpty_iff.mp hempty, dropWhile_cons_of_neg (by simp [hx]), nil_append]
    · rfl
  simp [rdropWhile, hdrop]

lemma Plain.rdropWhile {s : Segment} (h : Plain s) : s.rdropWhile isControlOrSpace = s := by
  refine rdropWhile_eq_self_iff.mpr fun hne hlast => h.not_space_last ?_
  have hle : (s.getLast hne).toNat ≤ 0x20 := by simpa [isControlOrSpace] using hlast
  have hspace : s.getLast hne = ' ' :=
    Char.toNat_inj.mp (le_antisymm hle (h.chars _ (getLast_mem hne)).1)
  rw [getLast?_eq_some_getLast hne, hspace]

lemma rdropWhile_join : ∀ {segs : List Segment}, (∀ s ∈ segs, Plain s) →
    (join segs).rdropWhile isControlOrSpace = join segs
  | [], _ => rfl
  | [s], h => by simpa [join] using (h s mem_cons_self).rdropWhile
  | s :: s' :: rest, h => by
      rw [join_cons_cons, rdropWhile_append_cons (by decide),
        rdropWhile_join (forall_mem_cons.mp h).2]

section

variable {segs : List Segment}

lemma char_join (h : ∀ s ∈ segs, Plain s) :
    ∀ c ∈ '/' :: join segs, 0x20 ≤ c.toNat ∧ c ≠ '?' ∧ c ≠ '#' := by
  refine forall_mem_cons.mpr ⟨by decide, forall_mem_join (by decide) fun s hs c hc => ?_⟩
  obtain ⟨hprint, _, hquery, hhash⟩ := (h s hs).chars c hc
  exact ⟨hprint, hquery, hhash⟩

lemma beforeQuery_clean (h : ∀ s ∈ segs, Plain s) {query : List Char}
    (hquery : query = [] ∨ query.head? = some '?') :
    beforeQuery (clean ('/' :: join segs ++ query)) = '/' :: join segs := by
  have hfilter : ('/' :: join segs).filter (fun c => !isTabOrNewline c) = '/' :: join segs := by
    refine filter_eq_self.mpr fun c hc => ?_
    have hprint := (char_join h c hc).1
    have hne : c ≠ '\t' ∧ c ≠ '\n' ∧ c ≠ '\r' := by
      refine ⟨?_, ?_, ?_⟩ <;> rintro rfl <;> exact absurd hprint (by decide)
    simp [isTabOrNewline, hne]
  have htake : ∀ c ∈ '/' :: join segs, (!(c == '?' || c == '#')) = true := by
    intro c hc
    rcases char_join h c hc with ⟨_, hq, hh⟩
    simp [hq, hh]
  cases query with
  | nil =>
    rw [append_nil, clean, ← nil_append ('/' :: join segs),
      rdropWhile_append_cons (by decide), rdropWhile_join h, nil_append, hfilter, beforeQuery]
    exact takeWhile_eq_self_iff.mpr htake
  | cons c cs =>
    obtain rfl : c = '?' := by simpa using hquery
    rw [clean, rdropWhile_append_cons (by decide), filter_append, hfilter, beforeQuery,
      takeWhile_append_of_pos htake]
    simp [isTabOrNewline]

lemma pathOf_join (hne : segs ≠ []) (h : ∀ s ∈ segs, Plain s) {query : List Char}
    (hquery : query = [] ∨ query.head? = some '?') :
    pathOf ('/' :: join segs ++ query) = segs.map encode := by
  have hsplit : ('/' :: join segs).splitOnP isSeparator = [] :: segs := by
    rw [splitOnP_cons_eq_if_modifyHead, if_pos (by decide), splitOnP_join segs hne h]
  rw [pathOf, beforeQuery_clean h hquery, hsplit, tail_cons, resolve_plain segs [] h, nil_append]

end

example : pathOf "/v1/a/../b\\%2E%2e/c?d/..".toList = ["v1".toList, "c".toList] := by decide

end Combee.Foundation.UrlPath
