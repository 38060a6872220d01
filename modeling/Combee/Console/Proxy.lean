import Combee.ApiServer.Request
import Combee.Foundation.UrlPath

/-!
# Proxy — the console's requests to the API server on behalf of its users

The web server passes requests for `/v1/…` on to the API server, with the key of the platform's own
service, which finds a Cell whichever tenant it belongs to. So `proxy` asks for the owner of the
Cell first (`cellBelongsTo`), by the id in the decoded segments of the path. What is sent is the
URL that `fetch` makes of that text, in which dot segments have been carried out.

`proxy_confines_iff` says for which segments a session is confined to its own Cells; segments
without separators, dots and the like are such (`guarded_of_plain`).
-/

namespace Combee.Console

open Billing (TenantId)
open Foundation.UrlPath
open ApiServer (parseUuid)

/-! ## Addresses -/

def escapedByte : List Char → Option Nat
  | '%' :: a :: b :: _ => do
      let x ← ApiServer.hexDigit a
      let y ← ApiServer.hexDigit b
      return 16 * x + y
  | _ => none

/-- The text after the next `skip` characters, decoded. -/
def percentDecodeFrom : Nat → List Char → Option (List Char)
  | _, [] => some []
  | skip + 1, _ :: cs => percentDecodeFrom skip cs
  | 0, c :: cs =>
    match escapedByte (c :: cs) with
    | some b =>
      if b < 128 then (percentDecodeFrom 2 cs).map (Char.ofNat b :: ·) else none
    | none => (percentDecodeFrom 0 cs).map (c :: ·)

/-- The percent-decoding of a path parameter; bytes beyond ASCII are in no UUID. -/
def percentDecode (cs : List Char) : Option (List Char) :=
  percentDecodeFrom 0 cs

def idOf (s : Segment) : Option DatabaseId :=
  ((percentDecode s).bind parseUuid).map DatabaseId.mk

/-- The Cell that a path of the form `/v1/databases/{id}` or anything below it addresses. -/
def addressed : List Segment → Option DatabaseId
  | v1 :: databases :: id :: _ =>
    if v1 = "v1".toList ∧ databases = "databases".toList then idOf id else none
  | _ => none

/-- The Cell of a path of the form `/v1/databases/{id}`. -/
def exactCell : List Segment → Option DatabaseId
  | [v1, databases, id] => addressed [v1, databases, id]
  | _ => none

/-! ## The proxy -/

structure BffSession where
  tenantId : Option TenantId

structure Upstream where
  method : String
  path : List Segment
  onBehalf : TenantId
  deriving DecidableEq, Repr

inductive Outcome where
  | refused (status : Nat) (code error : String)
  | sent (request : Upstream)
  deriving DecidableEq, Repr

def databasesPath : List Char := "v1/databases/".toList

def byName : Segment := "by-name".toList

/-- `target.match(/^v1\/databases\/([^/]+)/)`: the captured text. -/
def matchedCell (target : List Char) : Option Segment :=
  if databasesPath.isPrefixOf target then
    let cellId := (target.drop databasesPath.length).takeWhile (· ≠ '/')
    if cellId.isEmpty then none else some cellId
  else none

def checkPath (cellId : Segment) : List Segment :=
  pathOf ('/' :: databasesPath ++ cellId)

def upstreamPath (path : List Segment) (query : List Char) : List Segment :=
  pathOf ('/' :: join path ++ query)

section

variable (answer : List Segment → Option TenantId)

/-- `answer` is the `tenant_id` that the API server answers with, if there is one. -/
def cellBelongsTo (tenant : TenantId) (cellId : Segment) : Bool :=
  answer (checkPath cellId) = some tenant

/-- `proxy`, for the decoded segments of a path. -/
def proxy (session : Option BffSession) (method : String) (path : List Segment)
    (query : List Char) : Outcome :=
  match session with
  | none => .refused 401 "unauthorized" "not authenticated"
  | some session =>
    match session.tenantId with
    | none => .refused 401 "unauthorized" "session missing tenant; please re-login"
    | some tenant =>
      let request : Upstream := ⟨method, upstreamPath path query, tenant⟩
      match matchedCell (join path) with
      | some cellId =>
        if cellId ≠ byName && !cellBelongsTo answer tenant cellId then
          .refused 404 "database_not_found" "database not found"
        else .sent request
      | none => .sent request

end

/-! ## Confinement -/

/-- The API server answers the request for a Cell with its owner. -/
def Truthful (owner : DatabaseId → Option TenantId) (answer : List Segment → Option TenantId) :
    Prop :=
  ∀ path id, exactCell path = some id → answer path = owner id

/-- Whoever asks, what is sent addresses no Cell but those of the session's tenant. -/
def Confines (path : List Segment) (query : List Char) : Prop :=
  ∀ owner answer, Truthful owner answer → ∀ session method request,
    proxy answer session method path query = .sent request →
    ∀ id, addressed request.path = some id → owner id = some request.onBehalf

/-- If what is sent addresses a Cell, the owner of this Cell is asked for. -/
def Guarded (path : List Segment) (query : List Char) : Prop :=
  ∀ id, addressed (upstreamPath path query) = some id →
    ∃ cellId, matchedCell (join path) = some cellId ∧ cellId ≠ byName ∧
      exactCell (checkPath cellId) = some id

section

variable {answer : List Segment → Option TenantId} {session : Option BffSession}
  {method : String} {path : List Segment} {query : List Char} {request : Upstream}

lemma proxy_eq_sent (h : proxy answer session method path query = .sent request) :
    request.path = upstreamPath path query ∧
      ∀ cellId, matchedCell (join path) = some cellId → cellId ≠ byName →
        answer (checkPath cellId) = some request.onBehalf := by
  unfold proxy at h
  rcases session with _ | ⟨_ | tenant⟩
  · cases h
  · cases h
  · cases hmatch : matchedCell (join path) with
    | none =>
      simp only [hmatch] at h
      cases h
      exact ⟨rfl, fun cellId hcell => by cases hcell⟩
    | some cellId =>
      simp only [hmatch] at h
      split_ifs at h with hcheck
      cases h
      refine ⟨rfl, fun cellId' hcell hname => ?_⟩
      obtain rfl := Option.some.inj hcell
      simpa [hname, cellBelongsTo] using hcheck

/-- A session of the tenant gets its request through unless the check fails. -/
lemma proxy_sends (answer : List Segment → Option TenantId) (method : String)
    (path : List Segment) (query : List Char) (tenant : TenantId)
    (h : ∀ cellId, matchedCell (join path) = some cellId → cellId ≠ byName →
      answer (checkPath cellId) = some tenant) :
    proxy answer (some ⟨some tenant⟩) method path query =
      .sent ⟨method, upstreamPath path query, tenant⟩ := by
  unfold proxy
  cases hmatch : matchedCell (join path) with
  | none => rfl
  | some cellId =>
    by_cases hname : cellId = byName
    · simp [hname]
    · simp [hname, cellBelongsTo, h cellId hmatch hname]

end

/-- An owner for every Cell: one tenant has all Cells but `other`. -/
def allBut (other id : DatabaseId) : Option TenantId :=
  if id = other then some ⟨2⟩ else some ⟨1⟩

def allButAnswer (other : DatabaseId) (path : List Segment) : Option TenantId :=
  match exactCell path with
  | some id => allBut other id
  | none => some ⟨1⟩

lemma confines_iff_guarded {path : List Segment} {query : List Char} :
    Confines path query ↔ Guarded path query := by
  constructor
  · intro h id hid
    by_contra hnot
    -- somebody else has the Cell that is addressed, and the check is passed
    have htruthful : Truthful (allBut id) (allButAnswer id) := by
      intro p id' hp
      simp only [allButAnswer, hp]
    have hcheck : ∀ cellId, matchedCell (join path) = some cellId → cellId ≠ byName →
        allButAnswer id (checkPath cellId) = some ⟨1⟩ := by
      intro cellId hmatch hname
      unfold allButAnswer
      cases hexact : exactCell (checkPath cellId) with
      | none => rfl
      | some id' =>
        have hne : id' ≠ id := by
          rintro rfl
          exact hnot ⟨cellId, hmatch, hname, hexact⟩
        simp [allBut, hne]
    have hsent := proxy_sends (allButAnswer id) "GET" path query ⟨1⟩ hcheck
    have howner := h _ _ htruthful _ _ _ hsent id hid
    simp [allBut] at howner
  · intro h owner answer htruthful session method request hsent id hid
    rcases proxy_eq_sent hsent with ⟨hpath, hcheck⟩
    rcases h id (hpath ▸ hid) with ⟨cellId, hmatch, hname, hexact⟩
    rw [← htruthful _ _ hexact]
    exact hcheck cellId hmatch hname

/-! ## Plain segments -/

section

variable {path rest : List Segment} {query : List Char} {s : Segment} {id : DatabaseId}

lemma takeWhile_join (hs : Plain s) : (join (s :: rest)).takeWhile (· ≠ '/') = s := by
  have hslash : ∀ c ∈ s, decide (c ≠ '/') = true := by
    intro c hc
    have hsep := (hs.chars c hc).2.1
    simp only [isSeparator, Bool.or_eq_false_iff, beq_eq_false_iff_ne] at hsep
    simpa using hsep.1
  cases rest with
  | nil => simpa [join, List.intercalate, List.takeWhile_eq_self_iff] using hslash
  | cons s' rest =>
    rw [join_cons_cons, List.takeWhile_append_of_pos hslash]
    simp

lemma join_databases : join ("v1".toList :: "databases".toList :: s :: rest) =
    databasesPath ++ join (s :: rest) := by
  rw [join_cons_cons, join_cons_cons]
  rfl

lemma matchedCell_join (hs : Plain s) (hne : s ≠ []) :
    matchedCell (join ("v1".toList :: "databases".toList :: s :: rest)) = some s := by
  have hpre : databasesPath.isPrefixOf (databasesPath ++ join (s :: rest)) = true :=
    List.isPrefixOf_iff_prefix.mpr (List.prefix_append _ _)
  simp only [matchedCell, join_databases, hpre, if_true, List.drop_left, takeWhile_join hs,
    List.isEmpty_iff, hne, if_false]

lemma checkPath_plain (hs : Plain s) :
    checkPath s = ["v1".toList, "databases".toList, encode s] := by
  have htext : '/' :: databasesPath ++ s =
      '/' :: join ["v1".toList, "databases".toList, s] ++ [] := by
    rw [join_databases]
    simp [join, List.intercalate]
  have hplain : ∀ t ∈ ["v1".toList, "databases".toList, s], Plain t := by
    intro t ht
    simp only [List.mem_cons, List.not_mem_nil, or_false] at ht
    rcases ht with rfl | rfl | rfl
    · decide
    · decide
    · exact hs
  rw [checkPath, htext, pathOf_join (by simp) hplain (.inl rfl)]
  rfl

/-- Encoded segments address a Cell only if the segments themselves do. -/
lemma path_of_addressed (h : addressed (path.map encode) = some id) :
    ∃ s rest, path = "v1".toList :: "databases".toList :: s :: rest ∧
      idOf (encode s) = some id := by
  rcases path with _ | ⟨v1, _ | ⟨databases, _ | ⟨s, rest⟩⟩⟩
  · cases h
  · cases h
  · cases h
  · simp only [List.map_cons, addressed] at h
    split_ifs at h with hnames
    have hv1 := eq_of_encode hnames.1 (by decide)
    have hdatabases := eq_of_encode hnames.2 (by decide)
    exact ⟨s, rest, by rw [hv1, hdatabases], h⟩

lemma guarded_of_plain (hne : path ≠ []) (hplain : ∀ s ∈ path, Plain s)
    (hquery : query = [] ∨ query.head? = some '?') : Guarded path query := by
  intro id hid
  rw [upstreamPath, pathOf_join hne hplain hquery] at hid
  rcases path_of_addressed hid with ⟨s, rest, rfl, hs⟩
  have hsplain : Plain s := hplain s (by simp)
  have hempty : s ≠ [] := by
    rintro rfl
    cases hs
  have hname : s ≠ byName := by
    rintro rfl
    have hnone : idOf (encode byName) = none := by decide
    rw [hnone] at hs
    cases hs
  refine ⟨s, matchedCell_join hsplain hempty, hname, ?_⟩
  rw [checkPath_plain hsplain]
  exact hs

end

/-- A session is confined to its own Cells exactly if the owner of the addressed Cell has been asked
for, as it is if no segment has separators, dots and the like. -/
theorem proxy_confines_iff (path : List Segment) (query : List Char) :
    (Confines path query ↔ Guarded path query) ∧
    (path ≠ [] → (∀ s ∈ path, Plain s) → (query = [] ∨ query.head? = some '?') →
      Confines path query) :=
  ⟨confines_iff_guarded, fun hne hplain hquery =>
    confines_iff_guarded.mpr (guarded_of_plain hne hplain hquery)⟩

def ownCell : Segment := "00000000-0000-0000-0000-000000000001".toList

def otherCell : Segment := "00000000-0000-0000-0000-000000000002".toList

theorem proxy_confines_sql :
    Confines ["v1".toList, "databases".toList, ownCell, "sql".toList] "?pretty=1".toList :=
  (proxy_confines_iff _ _).2 (by simp) (by decide) (.inr rfl)

/-- The check asks for the owner of the first Cell, and the request goes to the second one. -/
theorem proxy_escapes :
    proxy (allButAnswer ⟨2⟩) (some ⟨some ⟨1⟩⟩) "POST"
        ["v1".toList, "databases".toList, ownCell, "../".toList ++ otherCell, "sql".toList] [] =
      .sent ⟨"POST", ["v1".toList, "databases".toList, otherCell, "sql".toList], ⟨1⟩⟩ ∧
    proxy (allButAnswer ⟨2⟩) (some ⟨some ⟨1⟩⟩) "POST"
        ["v1".toList, ".".toList, "databases".toList, otherCell, "sql".toList] [] =
      .sent ⟨"POST", ["v1".toList, "databases".toList, otherCell, "sql".toList], ⟨1⟩⟩ ∧
    addressed ["v1".toList, "databases".toList, otherCell, "sql".toList] = some ⟨2⟩ ∧
    allBut ⟨2⟩ ⟨2⟩ = some ⟨2⟩ := by
  decide

end Combee.Console
