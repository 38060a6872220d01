import Combee.Billing.Ledger

/-!
# Request — what the middlewares of the API server read in a request

The tenant of a request comes from the authentication, and the Cell from its path. The three
middlewares that look for a Cell each have a copy of the same function for it.
-/

namespace Combee.ApiServer

open Billing (TenantId)

structure AuthContext where
  tenantId : TenantId
  internal : Bool
  deriving DecidableEq, Repr

def defaultTenant : TenantId := ⟨1⟩

/-! ## UUIDs -/

def hexDigit (c : Char) : Option Nat :=
  if '0' ≤ c ∧ c ≤ '9' then some (c.toNat - '0'.toNat)
  else if 'a' ≤ c ∧ c ≤ 'f' then some (c.toNat - 'a'.toNat + 10)
  else if 'A' ≤ c ∧ c ≤ 'F' then some (c.toNat - 'A'.toNat + 10)
  else none

def parseHex (cs : List Char) : Option Nat :=
  cs.foldlM (fun n c => (hexDigit c).map (16 * n + ·)) 0

/-- Groups of 8, 4, 4, 4 and 12 digits with hyphens between them. -/
def parseHyphenated (cs : List Char) : Option Nat :=
  if cs.length = 36 ∧ [8, 13, 18, 23].all fun i => cs[i]? == some '-' then
    parseHex (cs.take 8 ++ (cs.drop 9).take 4 ++ (cs.drop 14).take 4 ++ (cs.drop 19).take 4 ++
      cs.drop 24)
  else none

/-- `Uuid::from_str`: 32 digits, or the groups, which may be in braces or have the prefix of a
URN. -/
def parseUuid (cs : List Char) : Option Nat :=
  if cs.length = 32 then parseHex cs
  else if cs.length = 36 then parseHyphenated cs
  else if cs.length = 38 ∧ cs.head? = some '{' ∧ cs.getLast? = some '}' then
    parseHyphenated (cs.drop 1).dropLast
  else if cs.length = 45 ∧ cs.take 9 = "urn:uuid:".toList then parseHyphenated (cs.drop 9)
  else none

/-! ## Requests -/

/-- What the middlewares read: what the authentication has put into the request, and its path. -/
structure Request where
  auth : Option AuthContext
  path : String

/-- The parts of a path between the slashes, without the empty ones. -/
def segments (path : String) : List (List Char) :=
  (path.toList.splitOnP (· == '/')).filter (!·.isEmpty)

def parseCellFromPath (path : String) : Option DatabaseId :=
  match segments path with
  | v1 :: databases :: id :: _ =>
    if v1 = "v1".toList ∧ databases = "databases".toList then (parseUuid id).map DatabaseId.mk
    else none
  | _ => none

namespace Request

def tenant (r : Request) : TenantId :=
  (r.auth.map AuthContext.tenantId).getD defaultTenant

def cell (r : Request) : Option DatabaseId :=
  parseCellFromPath r.path

def internal (r : Request) : Bool :=
  (r.auth.map AuthContext.internal).getD false

end Request

example : parseCellFromPath "/v1/databases/00000000-0000-0000-0000-00000000001a/kv/k" =
    some ⟨26⟩ := by decide

example : parseCellFromPath "/v1/databases/not-a-uuid/sql" = none := by decide

end Combee.ApiServer
