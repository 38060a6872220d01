import Mathlib.Algebra.Ring.Int.Defs
import Mathlib.Algebra.Ring.Nat
import Mathlib.Tactic.Common

/-!
# Common — identifiers, errors, quotas, 64-bit integers and white space

The types every crate shares. A UUID is a number here, which is printed in groups of hexadecimal
digits.
-/

namespace Combee

/-! ## Identifiers -/

structure DatabaseId where
  raw : Nat
  deriving DecidableEq, Repr

structure NodeId where
  raw : Nat
  deriving DecidableEq, Repr

def uuidHex (raw : Nat) : List Char :=
  (List.range 32).map fun i => Nat.digitChar (raw / 16 ^ (31 - i) % 16)

lemma forall_mem_uuidHex {P : Char → Prop} {raw : Nat} (h : ∀ d < 16, P (Nat.digitChar d)) :
    ∀ c ∈ uuidHex raw, P c := by
  intro c hc
  obtain ⟨i, -, rfl⟩ := List.mem_map.mp hc
  exact h _ (Nat.mod_lt _ (by decide))

/-- Groups of 8, 4, 4, 4 and 12 digits. -/
def uuidText (raw : Nat) : List Char :=
  let h := uuidHex raw
  h.take 8 ++ '-' :: ((h.drop 8).take 4 ++ '-' :: ((h.drop 12).take 4 ++ '-' ::
    ((h.drop 16).take 4 ++ '-' :: h.drop 20)))

lemma forall_mem_uuidText {P : Char → Prop} {raw : Nat} (hdash : P '-')
    (h : ∀ d < 16, P (Nat.digitChar d)) : ∀ c ∈ uuidText raw, P c := by
  intro c hc
  have hdigits : ∀ c ∈ uuidHex raw, P c := forall_mem_uuidHex h
  simp only [uuidText, List.mem_append, List.mem_cons] at hc
  rcases hc with hc | rfl | hc | rfl | hc | rfl | hc | rfl | hc
  all_goals first
    | exact hdash
    | exact hdigits c (List.mem_of_mem_take hc)
    | exact hdigits c (List.mem_of_mem_drop (List.mem_of_mem_take hc))
    | exact hdigits c (List.mem_of_mem_drop hc)

instance : ToString DatabaseId where
  toString id := String.ofList (uuidText id.raw)

instance : ToString NodeId where
  toString id := String.ofList (uuidText id.raw)

/-! ## Errors -/

/-- `CombeeError` of the common crate. -/
inductive CombeeError where
  | databaseNotFound (id : DatabaseId)
  | databaseAlreadyExists (id : DatabaseId)
  | cellAlreadyExists (name : String)
  | invalidCellName (name : String)
  | cellNameConflict (name : String)
  | cellResetFailed (message : String)
  | apiKeyNotFound
  | unauthorized
  | invalidRequest (message : String)
  | forbidden (message : String)
  | quotaExceeded (message : String)
  | sql (message : String)
  | internal (message : String)
  deriving DecidableEq, Repr

namespace CombeeError

def display : CombeeError → String
  | databaseNotFound id => s!"database not found: {id}"
  | databaseAlreadyExists id => s!"database already exists: {id}"
  | cellAlreadyExists name => s!"cell name already exists: {name}"
  | invalidCellName name => s!"invalid cell name: {name}"
  | cellNameConflict name => s!"cell name conflict: {name}"
  | cellResetFailed message => s!"cell reset failed: {message}"
  | apiKeyNotFound => "api key not found or already revoked"
  | unauthorized => "unauthorized"
  | invalidRequest message => s!"invalid request: {message}"
  | forbidden message => s!"forbidden: {message}"
  | quotaExceeded message => s!"quota exceeded: {message}"
  | sql message => s!"sql error: {message}"
  | internal message => s!"internal error: {message}"

end CombeeError

/-- `Result<T>` of the common crate. -/
abbrev Result : Type → Type :=
  Except CombeeError

/-! ## Quotas -/

/-- The quotas a data node checks on a write; `0` switches a limit off. -/
structure QuotaConfig where
  maxKvKeyBytes : Nat := 1024
  maxKvValueBytes : Nat := 256 * 1024
  storageSoftBytes : Nat := 0
  storageHardBytes : Nat := 0
  maxTtlSeconds : Nat := 30 * 24 * 60 * 60
  deriving DecidableEq, Repr

/-! ## Signed 64-bit arithmetic -/

/-- The `i64` that an integer wraps to. -/
def wrapI64 (n : Int) : Int :=
  n.bmod (2 ^ 64)

def i64Max : Int := 2 ^ 63 - 1

lemma wrapI64_of_bounds {n : Int} (hlo : -(2 ^ 63) ≤ n) (hhi : n < 2 ^ 63) : wrapI64 n = n := by
  unfold wrapI64
  exact Int.bmod_eq_of_le (by omega) (by omega)

/-- Adding one always changes the value, also where it wraps around. -/
lemma wrapI64_succ_ne {n : Int} (hlo : -(2 ^ 63) ≤ n) (hhi : n < 2 ^ 63) :
    wrapI64 (n + 1) ≠ n := by
  by_cases h : n + 1 < 2 ^ 63
  · rw [wrapI64_of_bounds (by omega) h]
    omega
  · obtain rfl : n = 2 ^ 63 - 1 := by omega
    decide

lemma wrapI64_bounds (n : Int) : -(2 ^ 63) ≤ wrapI64 n ∧ wrapI64 n < 2 ^ 63 := by
  unfold wrapI64
  exact ⟨by have := Int.le_bmod (x := n) (m := 2 ^ 64) (by decide); omega,
    by have := Int.bmod_lt (x := n) (m := 2 ^ 64) (by decide); omega⟩

/-! ## White space -/

/-- The characters with the Unicode property `White_Space`. -/
def isWhitespace (c : Char) : Bool :=
  c.toNat ∈ [0x09, 0x0a, 0x0b, 0x0c, 0x0d, 0x20, 0x85, 0xa0, 0x1680, 0x2028, 0x2029, 0x202f, 0x205f,
    0x3000] || (0x2000 ≤ c.toNat && c.toNat ≤ 0x200a)

/-- `str::trim` -/
def trim (cs : List Char) : List Char :=
  ((cs.dropWhile isWhitespace).reverse.dropWhile isWhitespace).reverse

end Combee
