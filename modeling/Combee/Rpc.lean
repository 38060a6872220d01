import Combee.ApiServer.Request
import Combee.Catalogue.Store

/-!
# Rpc — errors on their way from a data node to a client

A data node answers with the kind and the displayed text of an error, and the client makes an error
of the two again. An id is read back from the end of the text. Any other text becomes the message
of the new error, which is displayed with the words of its kind once more.
-/

namespace Combee

open List
open ApiServer (hexDigit parseHex parseHyphenated parseUuid)

namespace CombeeError

def kind : CombeeError → String
  | databaseNotFound _ => "database_not_found"
  | databaseAlreadyExists _ => "database_already_exists"
  | cellAlreadyExists _ => "cell_already_exists"
  | invalidCellName _ => "invalid_cell_name"
  | cellNameConflict _ => "cell_name_conflict"
  | cellResetFailed _ => "cell_reset_failed"
  | unauthorized => "unauthorized"
  | apiKeyNotFound => "api_key_not_found"
  | invalidRequest _ => "invalid_request"
  | forbidden _ => "forbidden"
  | quotaExceeded _ => "quota_exceeded"
  | sql _ => "sql"
  | internal _ => "internal"

def splitWhitespace (cs : List Char) : List (List Char) :=
  (cs.splitOnP isWhitespace).filter (!·.isEmpty)

def tailId (message : String) : Option DatabaseId :=
  (splitWhitespace message.toList).getLast?.bind fun s => (parseUuid s).map DatabaseId.mk

/-- `fresh` is the id that is drawn if the message does not end with one. -/
def fromKind (fresh : DatabaseId) (kind message : String) : CombeeError :=
  if kind = "database_not_found" then databaseNotFound ((tailId message).getD fresh)
  else if kind = "database_already_exists" then
    databaseAlreadyExists ((tailId message).getD fresh)
  else if kind = "unauthorized" then unauthorized
  else if kind = "api_key_not_found" then apiKeyNotFound
  else if kind = "invalid_request" then invalidRequest message
  else if kind = "forbidden" then forbidden message
  else if kind = "quota_exceeded" then quotaExceeded message
  else if kind = "sql" then sql message
  else internal message

end CombeeError

inductive RpcResponse (α : Type) where
  | ok (data : α)
  | err (kind message : String)

namespace RpcResponse

variable {α : Type}

def fromResult : Result α → RpcResponse α
  | .ok data => .ok data
  | .error e => .err e.kind e.display

def intoResult (fresh : DatabaseId) : RpcResponse α → Result α
  | .ok data => .ok data
  | .err kind message => .error (.fromKind fresh kind message)

/-- What the client gets if the node has the result `r`. -/
def hop (fresh : DatabaseId) (r : Result α) : Result α :=
  (fromResult r).intoResult fresh

end RpcResponse

/-! ## UUIDs -/

lemma hexDigit_digitChar : ∀ d < 16, hexDigit (Nat.digitChar d) = some d := by
  decide

lemma parseHex_snoc (cs : List Char) (c : Char) :
    parseHex (cs ++ [c]) = (parseHex cs).bind fun n => (hexDigit c).map (16 * n + ·) := by
  simp [parseHex, foldlM_append]

/-- By induction on the number of digits, the last of which is the least. -/
lemma parseHex_digits (n raw : Nat) :
    parseHex ((range n).map fun i => Nat.digitChar (raw / 16 ^ (n - 1 - i) % 16)) =
      some (raw % 16 ^ n) := by
  induction n generalizing raw with
  | zero => simp [parseHex, Nat.mod_one]
  | succ n ih =>
    have hdigits : ∀ i ∈ range n, Nat.digitChar (raw / 16 ^ (n + 1 - 1 - i) % 16) =
        Nat.digitChar (raw / 16 / 16 ^ (n - 1 - i) % 16) := by
      intro i hi
      have hi : i < n := mem_range.mp hi
      rw [Nat.div_div_eq_div_mul, ← Nat.pow_succ']
      congr 5
      omega
    rw [range_succ, map_append, map_congr_left hdigits, map_singleton,
      parseHex_snoc, ih (raw / 16), hexDigit_digitChar _ (Nat.mod_lt _ (by decide))]
    simp only [Nat.add_sub_cancel, Nat.sub_self, Nat.pow_zero, Nat.div_one, Option.bind_some,
      Option.map_some]
    rw [Nat.pow_succ', Nat.mod_mul, Nat.add_comm]

lemma parseUuid_groups {a b c d e : List Char} (ha : a.length = 8) (hb : b.length = 4)
    (hc : c.length = 4) (hd : d.length = 4) (he : e.length = 12) :
    parseUuid (a ++ '-' :: (b ++ '-' :: (c ++ '-' :: (d ++ '-' :: e)))) =
      parseHex (a ++ b ++ c ++ d ++ e) := by
  simp [parseUuid, parseHyphenated, getElem?_append, getElem?_cons, drop_append,
    drop_of_length_le, ha, hb, hc, hd, he]

lemma parseUuid_uuidText {raw : Nat} (h : raw < 2 ^ 128) :
    parseUuid (uuidText raw) = some raw := by
  have hlen : (uuidHex raw).length = 32 := by simp [uuidHex]
  have hparse : parseHex (uuidHex raw) = some raw := by
    rw [uuidHex, parseHex_digits 32 raw, Nat.mod_eq_of_lt (by omega)]
  rw [uuidText, parseUuid_groups (by simp [hlen]) (by simp [hlen]) (by simp [hlen])
    (by simp [hlen]) (by simp [hlen])]
  have hgroups : ∀ i j, (uuidHex raw).take i ++ ((uuidHex raw).drop i).take j =
      (uuidHex raw).take (i + j) := fun i j => take_add.symm
  rw [hgroups, hgroups, hgroups, take_append_drop, hparse]

/-! ## One hop and two -/

namespace CombeeError

lemma tailId_of_uuid {id : DatabaseId} (hid : id.raw < 2 ^ 128) {text : String}
    (words : List Char) (htext : text.toList = words ++ [' ']) :
    tailId (text ++ toString id) = some id := by
  have hne : (uuidText id.raw).isEmpty = false := by simp [uuidText]
  have hlist : (text ++ toString id).toList = words ++ ' ' :: uuidText id.raw := by
    rw [String.toList_append, htext]
    simp [toString]
  rw [tailId, splitWhitespace, hlist, splitOnP_append_cons _ _ (by decide),
    splitOnP_eq_singleton (forall_mem_uuidText rfl (by decide)), filter_append]
  simp [hne, parseUuid_uuidText hid]

/-- The ids of an error are UUIDs. -/
def IdFits : CombeeError → Prop
  | databaseNotFound id | databaseAlreadyExists id => id.raw < 2 ^ 128
  | _ => True

/-- The errors that have no text of their own. -/
def Bare : CombeeError → Prop
  | databaseNotFound _ | databaseAlreadyExists _ | apiKeyNotFound | unauthorized => True
  | _ => False

/-- The kinds that `from_kind` does not know. -/
def unknownKinds : List String :=
  ["cell_already_exists", "invalid_cell_name", "cell_name_conflict", "cell_reset_failed"]

variable {e e' : CombeeError} (fresh : DatabaseId)

lemma fromKind_of_bare (he : e.IdFits) (h : e.Bare) : fromKind fresh e.kind e.display = e := by
  cases e with
  | databaseNotFound id =>
    have htail : tailId (databaseNotFound id).display = some id :=
      tailId_of_uuid he "database not found:".toList rfl
    simp [fromKind, kind, htail]
  | databaseAlreadyExists id =>
    have htail : tailId (databaseAlreadyExists id).display = some id :=
      tailId_of_uuid he "database already exists:".toList rfl
    simp [fromKind, kind, htail]
  | apiKeyNotFound | unauthorized => simp [fromKind, kind]
  | _ => exact h.elim

lemma fromKind_of_not_bare (h : ¬ e.Bare) (m : String) : fromKind fresh e.kind m ∈
    [invalidRequest m, forbidden m, quotaExceeded m, sql m, internal m] := by
  cases e with
  | databaseNotFound | databaseAlreadyExists | apiKeyNotFound | unauthorized =>
    exact absurd trivial h
  | _ => simp [fromKind, kind]

/-- The words of its kind stand before the message of an error. -/
lemma length_lt_display {m : String}
    (h : e ∈ [invalidRequest m, forbidden m, quotaExceeded m, sql m, internal m]) :
    ¬ e.Bare ∧ m.length < e.display.length := by
  have hlt : ∀ words : String, 0 < words.length → m.length < (words ++ m).length := by
    intro words hpos
    rw [String.length_append]
    omega
  simp only [mem_cons, not_mem_nil, or_false] at h
  rcases h with rfl | rfl | rfl | rfl | rfl
  all_goals exact ⟨id, hlt _ (by decide)⟩

lemma kind_fromKind_not_mem (e : CombeeError) (m : String) :
    (fromKind fresh e.kind m).kind ∉ unknownKinds := by
  cases e <;> simp [fromKind, kind, unknownKinds]

lemma kind_fromKind_eq_iff (e : CombeeError) (m : String) :
    (fromKind fresh e.kind m).kind = e.kind ↔ e.kind ∉ unknownKinds := by
  cases e <;> simp [fromKind, kind, unknownKinds]

def ReportedAs (e' e : CombeeError) : Prop :=
  e'.kind = e.kind ∧ e'.display = e.display

end CombeeError

open CombeeError RpcResponse

/-- After one hop and after two, an error is reported as it was exactly if it has no text of its
own, and under its kind exactly if the kind is known. -/
theorem rpc_same_error_iff (α : Type) (e : CombeeError) (he : e.IdFits)
    (fresh fresh' : DatabaseId) :
    ∃ e₁ e₂, hop fresh (.error e : Except CombeeError α) = .error e₁ ∧
      hop fresh' (hop fresh (.error e : Except CombeeError α)) = .error e₂ ∧
      (e₁.ReportedAs e ↔ e.Bare) ∧ (e₂.ReportedAs e ↔ e.Bare) ∧
      (e₁.kind = e.kind ↔ e.kind ∉ unknownKinds) ∧
      (e₂.kind = e.kind ↔ e.kind ∉ unknownKinds) := by
  refine ⟨fromKind fresh e.kind e.display, _, rfl, rfl, ?_⟩
  have hkind := kind_fromKind_eq_iff fresh e e.display
  have hknown := kind_fromKind_not_mem fresh e e.display
  by_cases h : e.Bare
  · rw [fromKind_of_bare fresh he h, fromKind_of_bare fresh' he h]
    rw [fromKind_of_bare fresh he h] at hkind
    exact ⟨iff_of_true ⟨rfl, rfl⟩ h, iff_of_true ⟨rfl, rfl⟩ h, hkind, hkind⟩
  · obtain ⟨h₁, hlt₁⟩ := length_lt_display (fromKind_of_not_bare fresh h e.display)
    -- with each hop the text gets longer
    generalize fromKind fresh e.kind e.display = e₁ at *
    obtain ⟨-, hlt₂⟩ := length_lt_display (fromKind_of_not_bare fresh' h₁ e₁.display)
    refine ⟨iff_of_false (fun hsame => ?_) h, iff_of_false (fun hsame => ?_) h, hkind, ?_⟩
    · exact absurd (congrArg String.length hsame.2) (by omega)
    · exact absurd (congrArg String.length hsame.2) (by omega)
    · rw [(kind_fromKind_eq_iff fresh' e₁ e₁.display).mpr hknown, hkind]

theorem rpc_same_error_iff_id :
    ∃ e, hop ⟨0⟩ (.error (.databaseNotFound ⟨7⟩) : Except CombeeError Unit) = .error e ∧
      e.ReportedAs (.databaseNotFound ⟨7⟩) := by
  obtain ⟨e₁, _, hone, _, hsame, _⟩ :=
    rpc_same_error_iff Unit (.databaseNotFound ⟨7⟩) (by decide : 7 < 2 ^ 128) ⟨0⟩ ⟨0⟩
  exact ⟨e₁, hone, hsame.mpr trivial⟩

/-- A SQL error comes with its words twice, and a conflict of names as an internal error. -/
theorem rpc_error_changed :
    (∃ e, hop ⟨0⟩ (.error (.sql "no such table: t") : Except CombeeError Unit) = .error e ∧
      e.display = "sql error: sql error: no such table: t") ∧
    ∃ e, hop ⟨0⟩ (.error (.cellNameConflict "a") : Except CombeeError Unit) = .error e ∧
      e.kind = "internal" ∧ e.display = "internal error: cell name conflict: a" :=
  ⟨⟨_, rfl, by decide⟩, _, rfl, by decide, by decide⟩

end Combee
