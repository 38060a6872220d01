import Combee.ApiServer.Request
import Mathlib.Data.Set.Finite.List

/-!
# Operations — the operation that the metrics of a request are labelled with

`operation_name` writes a placeholder for a segment of the path that is a UUID, for what comes after
`kv` and for what comes after `by-name`. Every other segment is taken over as the client wrote it,
also where the path has no route, or has one whose parameter is no UUID.

So the names are as many as the segments that are taken over: `operation_names_finite_iff` says for
which requests they are finitely many.
-/

namespace Combee.ApiServer

open List

/-! ## The names -/

def segmentName (prev p : List Char) : List Char :=
  if (parseUuid p).isSome then "\x7bid\x7d".toList
  -- the routes under `/kv/ops/` are not keys
  else if prev = "kv".toList ∧ p ≠ "ops".toList then "\x7bkey\x7d".toList
  else if prev = "by-name".toList then "\x7bname\x7d".toList
  else p

/-- The loop of `operation_name`, which looks at the previous segment as it is in the path. -/
def segmentNames (prev : List Char) : List (List Char) → List (List Char)
  | [] => []
  | p :: rest => segmentName prev p :: segmentNames p rest

def operationName (path : String) : String :=
  .ofList (['.'].intercalate (segmentNames [] (segments path)))

/-- The segments that stay as the client wrote them. -/
def takenOver (prev : List Char) : List (List Char) → List (List Char)
  | [] => []
  | p :: rest => if segmentName prev p = p then p :: takenOver p rest else takenOver p rest

def placeholders : Finset (List Char) :=
  {"\x7bid\x7d".toList, "\x7bkey\x7d".toList, "\x7bname\x7d".toList}

section Segments

variable {prev p w : List Char} {segs : List (List Char)}

lemma segmentName_cases : segmentName prev p ∈ placeholders ∨ segmentName prev p = p := by
  unfold segmentName
  split_ifs <;> simp [placeholders]

lemma length_segmentNames : (segmentNames prev segs).length = segs.length := by
  induction segs generalizing prev with
  | nil => rfl
  | cons p segs ih => simp [segmentNames, ih]

lemma mem_placeholders_or_takenOver (h : w ∈ segmentNames prev segs) :
    w ∈ placeholders ∨ w ∈ takenOver prev segs := by
  induction segs generalizing prev with
  | nil => cases h
  | cons p segs ih =>
    rcases mem_cons.mp h with rfl | h
    · apply segmentName_cases.imp_right
      intro hp
      simp [takenOver, hp]
    · apply (ih h).imp_right
      intro hw
      unfold takenOver
      split_ifs
      · exact mem_cons_of_mem p hw
      · exact hw

lemma takenOver_subset : takenOver prev segs ⊆ segmentNames prev segs := by
  induction segs generalizing prev with
  | nil => exact List.Subset.refl _
  | cons p segs ih =>
    unfold takenOver segmentNames
    split_ifs with hp
    · rw [hp]
      exact cons_subset_cons p ih
    · exact subset_cons_of_subset _ ih

end Segments

/-! ## Names and their segments -/

variable {sep w : List Char} {ws : List (List Char)}

lemma sublist_intercalate (h : w ∈ ws) : w.Sublist (sep.intercalate ws) := by
  induction ws with
  | nil => cases h
  | cons w' ws ih =>
    cases ws with
    | nil =>
      obtain rfl := mem_singleton.mp h
      simp
    | cons w'' ws =>
      rw [intercalate_cons_cons, append_assoc]
      rcases mem_cons.mp h with rfl | h
      · exact sublist_append_left _ _
      · exact (ih h).trans ((sublist_append_right _ _).trans (sublist_append_right _ _))

lemma length_le_intercalate (c : Char) (ws : List (List Char)) :
    ws.length ≤ ([c].intercalate ws).length + 1 := by
  induction ws with
  | nil => simp
  | cons w ws ih =>
    cases ws with
    | nil => simp
    | cons w' ws =>
      rw [intercalate_cons_cons]
      simp only [length_cons, length_append, length_nil] at ih ⊢
      omega

/-- The requests of a set have finitely many operation names exactly if the number of their segments
is bounded and the segments that are taken over are from a finite vocabulary. -/
theorem operation_names_finite_iff (P : Set String) :
    (operationName '' P).Finite ↔ ∃ (words : Finset (List Char)) (n : Nat), ∀ path ∈ P,
      (segments path).length ≤ n ∧ ∀ w ∈ takenOver [] (segments path), w ∈ words := by
  constructor
  · intro hfin
    -- what is taken over stands in the name, and there is a dot between two segments
    refine ⟨hfin.toFinset.biUnion fun name => name.toList.sublists.toFinset,
      hfin.toFinset.sup String.length + 1, ?_⟩
    intro path hpath
    have hmem : operationName path ∈ hfin.toFinset := by
      simpa using ⟨path, hpath, rfl⟩
    constructor
    · calc (segments path).length
          = (segmentNames [] (segments path)).length := length_segmentNames.symm
        _ ≤ (['.'].intercalate (segmentNames [] (segments path))).length + 1 :=
            length_le_intercalate '.' _
        _ = (operationName path).length + 1 := by rw [operationName, String.length_ofList]
        _ ≤ hfin.toFinset.sup String.length + 1 := Nat.succ_le_succ (Finset.le_sup hmem)
    · intro w hw
      refine Finset.mem_biUnion.mpr ⟨_, hmem, ?_⟩
      rw [mem_toFinset, mem_sublists, operationName, String.toList_ofList]
      exact sublist_intercalate (takenOver_subset hw)
  · rintro ⟨words, n, h⟩
    -- every name is made of at most `n` of these words
    let vocabulary := placeholders ∪ words
    have hnames := (finite_length_le vocabulary n).image
      fun ws => String.ofList (['.'].intercalate (ws.map Subtype.val))
    apply hnames.subset
    rintro _ ⟨path, hpath, rfl⟩
    obtain ⟨hlength, hwords⟩ := h path hpath
    have hvocabulary : ∀ w ∈ segmentNames [] (segments path), w ∈ vocabulary := by
      intro w hw
      exact Finset.mem_union.mpr ((mem_placeholders_or_takenOver hw).imp_right (hwords w))
    refine ⟨(segmentNames [] (segments path)).attachWith _ hvocabulary, ?_, ?_⟩
    · simpa [length_segmentNames] using hlength
    · simp [operationName]

/-- A tenant that puts any word that is no UUID in the place of the id of a Cell has a name for each
of them. -/
theorem operation_names_unbounded :
    ¬ ∃ names : Finset String, ∀ path, operationName path ∈ names := by
  rintro ⟨names, h⟩
  -- longer than a UUID in any of its forms, and than every name of the set
  let word := replicate (names.sup String.length + 46) 'x'
  let path := "/v1/databases/" ++ String.ofList word
  have hsegments : segments path = ["v1".toList, "databases".toList, word] := by
    have hsplit : word.splitOnP (· == '/') = [word] :=
      splitOnP_eq_singleton fun c hc => by simp [eq_of_mem_replicate hc]
    simp [segments, path, hsplit, splitOnP_cons_eq_if_modifyHead, word]
  have hword : word ∈ segmentNames [] (segments path) := by
    have huuid : parseUuid word = none := by simp [parseUuid, word]
    simp [hsegments, segmentNames, segmentName, huuid]
  have hlong : word.length ≤ (['.'].intercalate _).length := (sublist_intercalate hword).length_le
  have hshort := Finset.le_sup (f := String.length) (h path)
  rw [operationName, String.length_ofList] at hshort
  have hlength : word.length = names.sup String.length + 46 := length_replicate
  omega

end Combee.ApiServer
