import Combee.Sql.Scanner

/-!
# ScannerSafety — the scanners of `sql.rs` stay within the text and are linear in its length

`check_statement` cuts the text where `skip_leading_trivia` has stopped, which panics inside a
character. The bytes at which the scanners stop and go on are ASCII, and the byte after one of
those begins a character.

For the loops, `run` takes them round by round: a round that reads past the end, like one more round
than there is fuel for, gives nothing.
-/

namespace Combee.Sql

/-! ## Character boundaries -/

section Boundaries

lemma toList_loop (bytes : ByteArray) (i : Nat) (r : List UInt8) :
    ByteArray.toList.loop bytes i r = r.reverse ++ bytes.data.toList.drop i := by
  fun_induction ByteArray.toList.loop bytes i r with
  | case1 i r hi ih =>
    have hlen : i < bytes.data.toList.length := hi
    rw [ih, List.drop_eq_getElem_cons hlen]
    simp [ByteArray.get!, hi]
  | case2 i r hi =>
    rw [List.drop_eq_nil_of_le (by simpa using hi), List.append_nil]

variable {s : String} {i : Nat} {c : UInt8}

lemma utf8_eq : utf8 s = s.toByteArray.data.toList := by
  simp [utf8, ByteArray.toList, toList_loop]

lemma isValid_end : String.Pos.Raw.IsValid s ⟨(utf8 s).length⟩ := by
  rw [utf8_eq]
  exact String.Pos.Raw.isValid_rawEndPos

/-- An ASCII byte is a character of its own. -/
lemma isValid_of_ascii (h : (utf8 s)[i]? = some c) (hc : c &&& 0x80 = 0) :
    String.Pos.Raw.IsValid s ⟨i⟩ ∧ String.Pos.Raw.IsValid s ⟨i + 1⟩ := by
  rw [utf8_eq] at h
  obtain ⟨hlen, hget⟩ := List.getElem?_eq_some_iff.mp h
  have hlt : (⟨i⟩ : String.Pos.Raw) < s.rawEndPos := hlen
  have hbyte : s.getUTF8Byte ⟨i⟩ hlt = c := hget
  have hvalid : String.Pos.Raw.IsValid s ⟨i⟩ :=
    String.Pos.Raw.isValid_iff_isUTF8FirstByte.mpr (.inr ⟨hlt, .inl (hbyte ▸ hc)⟩)
  have hne : s.pos ⟨i⟩ hvalid ≠ s.endPos := by
    intro heq
    have hi : i = s.utf8ByteSize := congrArg (·.offset.byteIdx) heq
    exact (Nat.ne_of_lt hlen) hi
  have hsize : ((s.pos ⟨i⟩ hvalid).get hne).utf8Size = 1 := by
    rw [← String.Pos.utf8ByteSize_byte]
    have hc' : (s.pos ⟨i⟩ hvalid).byte hne = c := by
      simpa [String.Pos.byte, String.Slice.Pos.byte, String.Slice.getUTF8Byte] using hbyte
    simp [UInt8.utf8ByteSize, hc', hc]
  have hnext := ((s.pos ⟨i⟩ hvalid).next hne).isValid
  rw [String.Pos.offset_next] at hnext
  refine ⟨hvalid, ?_⟩
  convert hnext using 1
  rw [← hsize]
  rfl

lemma ascii_of_isBlank (h : isBlank c = true) : c &&& 0x80 = 0 := by
  simp only [isBlank, Bool.or_eq_true, beq_iff_eq] at h
  rcases h with ((rfl | rfl) | rfl) | rfl <;> decide

lemma isValid_skipLine (hi : i ≤ (utf8 s).length) :
    String.Pos.Raw.IsValid s ⟨skipLine (utf8 s) i⟩ := by
  fun_induction skipLine (utf8 s) i with
  | case1 i hlt hne ih => exact ih hlt
  | case2 i hlt hne =>
    have hend : (utf8 s)[i] = '\n'.toUInt8 := by simpa using hne
    exact (isValid_of_ascii (List.getElem?_eq_some_iff.mpr ⟨hlt, hend⟩) (by decide)).1
  | case3 i hlt =>
    obtain rfl : i = (utf8 s).length := by omega
    exact isValid_end

lemma isValid_skipBlockBody :
    String.Pos.Raw.IsValid s ⟨min (skipBlockBody (utf8 s) i + 2) (utf8 s).length⟩ := by
  fun_induction skipBlockBody (utf8 s) i with
  | case1 i hlt hend =>
    have hslash : (utf8 s)[i + 1] = '/'.toUInt8 := by simp_all
    rw [min_eq_left hlt]
    exact (isValid_of_ascii (List.getElem?_eq_some_iff.mpr ⟨hlt, hslash⟩) (by decide)).2
  | case2 i hlt hend ih => exact ih
  | case3 i hlt =>
    rw [min_eq_right (by omega)]
    exact isValid_end

lemma isValid_skipTriviaFrom (hi : String.Pos.Raw.IsValid s ⟨i⟩) :
    String.Pos.Raw.IsValid s ⟨skipTriviaFrom (utf8 s) i⟩ := by
  fun_induction skipTriviaFrom (utf8 s) i with
  | case1 i hlt hblank ih =>
    exact ih (isValid_of_ascii (List.getElem?_eq_getElem hlt) (ascii_of_isBlank hblank)).2
  | case2 i hlt hblank hline ih => exact ih (isValid_skipLine hlt.le)
  | case3 i hlt hblank hline hblock ih => exact ih isValid_skipBlockBody
  | case4 | case5 => exact hi

end Boundaries

/-! ## Rounds -/

section Lengths

variable (b : List UInt8) (i : Nat)

lemma skipLine_le : skipLine b i ≤ max i b.length := by
  fun_induction skipLine b i <;> omega

lemma skipBlockBody_le : skipBlockBody b i ≤ max i (b.length - 1) := by
  fun_induction skipBlockBody b i <;> omega

lemma skipQuotedFrom_le (quote : UInt8) : skipQuotedFrom b quote i ≤ max i b.length := by
  fun_induction skipQuotedFrom b quote i with
  | case1 i hi hq hesc ih =>
    have hnext : i + 1 < b.length := (List.getElem?_eq_some_iff.mp (eq_of_beq hesc)).1
    omega
  | case2 | case3 | case4 => omega

end Lengths

/-- The functions whose loop goes over comments. -/
inductive Scan where
  | multiple | trailing | leading
  deriving DecidableEq

inductive Loop where
  | scan (f : Scan)
  | quoted (quote : UInt8)
  | line (f : Scan)
  | block (f : Scan)

inductive Turn where
  | next (loop : Loop) (i : Nat)
  | returns (answer : Nat ⊕ Bool)

/-- Where the function goes on after a comment: `has_multiple_statements` ends every round with
`i += 1`. -/
def Scan.resume (f : Scan) (i : Nat) : Nat :=
  if f = .multiple then i + 1 else i

def Scan.answer : Scan → Nat → Bool → Nat ⊕ Bool
  | .leading, i, _ => .inl i
  | _, _, more => .inr more

/-- One round of a loop; `none` is a read past the end, at which the source panics. -/
def turn (b : List UInt8) : Loop → Nat → Option Turn
  | .scan f, i =>
    if i < b.length then b[i]?.map fun c =>
      if f = .multiple ∧ isQuote c then .next (.quoted c) (i + 1)
      else if f ≠ .multiple ∧ isBlank c then .next (.scan f) (i + 1)
      else if lineAt b i then .next (.line f) i
      else if blockAt b i then .next (.block f) (i + 2)
      else if f ≠ .multiple then .returns (f.answer i true)
      else .next (.scan (if c == ';'.toUInt8 then .trailing else .multiple)) (i + 1)
    else some (.returns (f.answer i false))
  | .quoted quote, i =>
    if i < b.length then b[i]?.map fun c =>
      if c == quote then
        if b[i + 1]? == some quote then .next (.quoted quote) (i + 2)
        else .next (.scan .multiple) (i + 1)
      else .next (.quoted quote) (i + 1)
    else some (.next (.scan .multiple) (i + 1))
  | .line f, i =>
    if i < b.length then b[i]?.map fun c =>
      if c != '\n'.toUInt8 then .next (.line f) (i + 1) else .next (.scan f) (f.resume i)
    else some (.next (.scan f) (f.resume i))
  | .block f, i =>
    if i + 1 < b.length then b[i]?.bind fun c => b[i + 1]?.map fun d =>
      if c == '*'.toUInt8 && d == '/'.toUInt8 then
        .next (.scan f) (f.resume (min (i + 2) b.length))
      else .next (.block f) (i + 1)
    else some (.next (.scan f) (f.resume (min (i + 2) b.length)))

def run (b : List UInt8) : Nat → Loop → Nat → Option (Nat ⊕ Bool)
  | 0, _, _ => none
  | n + 1, loop, i => (turn b loop i).bind fun
    | .next loop' j => run b n loop' j
    | .returns answer => some answer

/-- From here `k` rounds are enough for the answer. -/
def Answers (b : List UInt8) (k : Nat) (loop : Loop) (i : Nat) (answer : Nat ⊕ Bool) : Prop :=
  ∀ n, k ≤ n → run b n loop i = some answer

namespace Answers

variable {b : List UInt8} {i j k k' : Nat} {loop loop' : Loop} {answer : Nat ⊕ Bool} {f : Scan}

lemma of_returns (h : turn b loop i = some (.returns answer)) (hk : 0 < k) :
    Answers b k loop i answer := by
  intro n hn
  obtain ⟨n, rfl⟩ := Nat.exists_eq_add_of_le' (hk.trans_le hn)
  simp [run, h]

lemma of_next (h : turn b loop i = some (.next loop' j)) (ha : Answers b k loop' j answer)
    (hk : k < k') : Answers b k' loop i answer := by
  intro n hn
  obtain ⟨n, rfl⟩ := Nat.exists_eq_add_of_le' (Nat.zero_lt_of_lt (hk.trans_le hn))
  simpa [run, h] using ha n (by omega)

lemma line (h : Answers b k (.scan f) j answer) (hj : f.resume (skipLine b i) = j) :
    Answers b (k + (skipLine b i - i) + 1) (.line f) i answer := by
  fun_induction skipLine b i with
  | case1 i hi hne ih =>
    have hle := le_skipLine b (i + 1)
    exact of_next (by simp_all [turn]) (ih hj) (by omega)
  | case2 | case3 => exact of_next (by simp_all [turn]) h (by omega)

lemma block (h : Answers b k (.scan f) j answer)
    (hj : f.resume (min (skipBlockBody b i + 2) b.length) = j) :
    Answers b (k + (skipBlockBody b i - i) + 1) (.block f) i answer := by
  fun_induction skipBlockBody b i with
  | case2 i hi hne ih =>
    have hle := le_skipBlockBody b (i + 1)
    exact of_next (by simp_all [turn, Nat.lt_of_succ_lt hi]) (ih hj) (by omega)
  | case1 | case3 => exact of_next (by simp_all [turn, Nat.lt_of_succ_lt]) h (by omega)

lemma quoted {quote : UInt8}
    (h : Answers b k (.scan .multiple) (skipQuotedFrom b quote i + 1) answer) :
    Answers b (k + (skipQuotedFrom b quote i - i) + 1) (.quoted quote) i answer := by
  fun_induction skipQuotedFrom b quote i with
  | case1 i hi hq hesc ih =>
    have hle := le_skipQuotedFrom b quote (i + 2)
    exact of_next (by simp_all [turn]) (ih h) (by omega)
  | case3 i hi hq ih =>
    have hle := le_skipQuotedFrom b quote (i + 1)
    exact of_next (by simp_all [turn]) (ih h) (by omega)
  | case2 | case4 => exact of_next (by simp_all [turn]) h (by omega)

variable (b i)

/-- A round that enters a comment and the rounds of the comment are at most three for each byte. -/
lemma trivia (hf : f ≠ .multiple) : Answers b (3 * (b.length - i) + 1) (.scan f) i
    (f.answer (skipTriviaFrom b i) (trailingHasSql b i)) := by
  fun_induction skipTriviaFrom b i with
  | case1 i hi hblank ih =>
    rw [trailingHasSql, dif_pos hi, if_pos hblank]
    exact of_next (by simp [turn, hi, hf, hblank]) ih (by omega)
  | case2 i hi hblank hline ih =>
    rw [trailingHasSql, dif_pos hi, if_neg hblank, dif_pos hline]
    have hlt := lt_of_lineAt hline
    have hle := skipLine_le b i
    exact of_next (by simp [turn, hi, hf, hblank, hline]) (line ih (if_neg hf)) (by omega)
  | case3 i hi hblank hline hblock ih =>
    rw [trailingHasSql, dif_pos hi, if_neg hblank, dif_neg hline, dif_pos hblock]
    have hlt := lt_of_blockAt hblock
    have hle := skipBlockBody_le b (i + 2)
    exact of_next (by simp [turn, hi, hf, hblank, hline, hblock]) (block ih (if_neg hf))
      (by unfold skipBlock at *; omega)
  | case4 i hi hblank hline hblock =>
    rw [trailingHasSql, dif_pos hi, if_neg hblank, dif_neg hline, dif_neg hblock]
    exact of_returns (by simp [turn, hi, hf, hblank, hline, hblock]) (by omega)
  | case5 i hi =>
    rw [trailingHasSql, dif_neg hi]
    exact of_returns (by simp [turn, hi]) (by omega)

lemma multiple :
    Answers b (3 * (b.length - i) + 1) (.scan .multiple) i (.inr (multipleFrom b i)) := by
  fun_induction multipleFrom b i with
  | case1 i hi hquote ih =>
    have hlt := lt_skipQuoted b i b[i]
    have hle := skipQuotedFrom_le b (i + 1) b[i]
    exact of_next (by simp [turn, hi, hquote]) (quoted ih) (by unfold skipQuoted at *; omega)
  | case2 i hi hquote hline ih =>
    have hlt := lt_of_lineAt hline
    have hle := skipLine_le b i
    exact of_next (by simp [turn, hi, hquote, hline]) (line ih rfl) (by omega)
  | case3 i hi hquote hline hblock ih =>
    have hlt := lt_of_blockAt hblock
    have hle := skipBlockBody_le b (i + 2)
    exact of_next (by simp [turn, hi, hquote, hline, hblock]) (block ih rfl)
      (by unfold skipBlock at *; omega)
  | case4 i hi hquote hline hblock hsemi =>
    exact of_next (by simp_all [turn]) (trivia b (i + 1) (f := .trailing) nofun)
      (by omega)
  | case5 i hi hquote hline hblock hsemi ih =>
    exact of_next (by simp_all [turn]) ih (by omega)
  | case6 i hi => exact of_returns (by simp [turn, hi, Scan.answer]) (by omega)

end Answers

/-- For every text the place of the cut is a character boundary, and so within the text; and on
all bytes, valid or not, the loops read no byte that is not there and end after a number of rounds
that is linear in the length. -/
theorem scanners_safe :
    (∀ s, String.Pos.Raw.IsValid s ⟨skipLeadingTrivia (utf8 s)⟩) ∧
    ∀ b : List UInt8,
      run b (3 * b.length + 1) (.scan .leading) 0 = some (.inl (skipLeadingTrivia b)) ∧
      run b (3 * b.length + 1) (.scan .multiple) 0 = some (.inr (hasMultipleStatements b)) ∧
      ∀ start, run b (3 * b.length + 1) (.scan .trailing) start =
          some (.inr (trailingHasSql b start)) ∧
        ∀ quote, run b (4 * b.length + 2) (.quoted quote) (start + 1) =
          some (.inr (multipleFrom b (skipQuoted b start quote + 1))) := by
  refine ⟨fun s => isValid_skipTriviaFrom String.Pos.Raw.isValid_zero, fun b => ?_⟩
  refine ⟨?_, ?_, fun start => ⟨?_, fun quote => ?_⟩⟩
  · exact Answers.trivia b 0 (f := .leading) (by decide) _ le_rfl
  · exact Answers.multiple b 0 _ le_rfl
  · exact Answers.trivia b start (f := .trailing) (by decide) _ (by omega)
  · have hle := skipQuotedFrom_le b (start + 1) quote
    exact Answers.quoted (Answers.multiple b _) _ (by omega)

end Combee.Sql
