import Mathlib.Logic.Function.Iterate
import Mathlib.Tactic.Common

/-!
# BodyMeter — the bytes of a body that is read frame by frame

`CountingBody` wraps a body, adds up the bytes of its data frames, and reports the total when a poll
returns `Ready(None)`. `is_end_stream` is passed on from the wrapped body. A consumer that stops
when it is true after a frame, as HTTP servers do, never makes the poll that reports.
-/

namespace Combee.ApiServer

inductive Frame where
  | data (len : Nat)
  | trailers
  deriving DecidableEq, Repr

def Frame.bytes : Frame → Nat
  | .data len => len
  | .trailers => 0

/-- What `poll_frame` returns; `done` is `Ready(None)`. -/
inductive Poll where
  | pending
  | frame (f : Frame)
  | error (message : String)
  | done
  deriving DecidableEq, Repr

/-- Any body, by what its methods do. -/
structure HttpBody (B : Type) where
  pollFrame : B → Poll × B
  isEndStream : B → Bool

/-- `onDone` is whether the callback is still there, and `reported` has the calls of it. -/
structure CountingBody (B : Type) where
  inner : B
  bytes : UInt64 := 0
  done : Bool := false
  onDone : Bool := true
  reported : List UInt64 := []

section Consumers

variable {B : Type} (body : HttpBody B)

namespace CountingBody

def takeCallback (s : CountingBody B) : CountingBody B :=
  if s.onDone then { s with onDone := false, reported := s.reported ++ [s.bytes] } else s

/-- What `poll_frame` does with the poll of the wrapped body. -/
def observe (s : CountingBody B) : Poll → CountingBody B
  | .frame (.data len) => { s with bytes := s.bytes + UInt64.ofNat len }
  | .done => if s.done then s else { s with done := true }.takeCallback
  | _ => s

def pollFrame (s : CountingBody B) : Poll × CountingBody B :=
  let (poll, inner) := body.pollFrame s.inner
  (poll, { s with inner }.observe poll)

def isEndStream (s : CountingBody B) : Bool := body.isEndStream s.inner

end CountingBody

inductive Ending where
  | readyNone
  | endStream
  deriving DecidableEq, Repr

/-- Polls until the end is seen; `n` bytes have been delivered. For each poll the list says whether
the consumer looks at `is_end_stream` after a frame; with too short a list there is no result. -/
def consume : List Bool → Nat → CountingBody B → Option (Ending × Nat × CountingBody B)
  | [], _, _ => none
  | looks :: rest, n, s =>
    match s.pollFrame body with
    | (.done, s') => some (.readyNone, n, s')
    | (.frame f, s') =>
      if looks && s'.isEndStream body then some (.endStream, n + f.bytes, s')
      else consume rest (n + f.bytes) s'
    | (_, s') => consume rest n s'

/-- No end has been polled yet, and `n` bytes have been delivered. -/
structure Counting (n : Nat) (s : CountingBody B) : Prop where
  bytes : s.bytes = UInt64.ofNat n
  done : s.done = false
  onDone : s.onDone = true
  reported : s.reported = []

variable {n : Nat} {s : CountingBody B}

lemma pollFrame_eq : s.pollFrame body = ((body.pollFrame s.inner).1,
    { s with inner := (body.pollFrame s.inner).2 }.observe (body.pollFrame s.inner).1) := rfl

lemma Counting.inner (h : Counting n s) (inner : B) : Counting n { s with inner } :=
  ⟨h.bytes, h.done, h.onDone, h.reported⟩

lemma Counting.frame (h : Counting n s) (f : Frame) :
    Counting (n + f.bytes) (s.observe (.frame f)) := by
  cases f with
  | data len =>
    exact ⟨by simp [CountingBody.observe, Frame.bytes, h.bytes], h.done, h.onDone, h.reported⟩
  | trailers => exact h

lemma Counting.observe_done (h : Counting n s) :
    (s.observe .done).reported = [UInt64.ofNat n] ∧ (s.observe .done).done = true := by
  simp [CountingBody.observe, CountingBody.takeCallback, h.done, h.onDone, h.reported, h.bytes]

def Ending.Reports (n : Nat) (s : CountingBody B) : Ending → Prop
  | .readyNone => s.reported = [UInt64.ofNat n] ∧ s.done = true
  | .endStream => s.reported = []

lemma consume_reports (looks : List Bool) (h : Counting n s) {ending : Ending} {n' : Nat}
    {s' : CountingBody B} (hend : consume body looks n s = some (ending, n', s')) :
    ending.Reports n' s' := by
  induction looks generalizing n s with
  | nil => cases hend
  | cons look rest ih =>
    have hin := h.inner (body.pollFrame s.inner).2
    rw [consume, pollFrame_eq] at hend
    cases hpoll : (body.pollFrame s.inner).1 with
    | pending | error =>
      rw [hpoll] at hend
      exact ih hin hend
    | done =>
      rw [hpoll] at hend
      cases hend
      exact hin.observe_done
    | frame f =>
      simp only [hpoll] at hend
      split at hend
      · cases hend
        exact (hin.frame f).reported
      · exact ih (hin.frame f) hend

/-- Once the end has been polled nothing is reported any more. -/
lemma reported_of_done (h : s.done = true) (k : Nat) :
    ((fun s => (s.pollFrame body).2)^[k] s).reported = s.reported := by
  induction k generalizing s with
  | zero => rfl
  | succ k ih =>
    have hpoll : (s.pollFrame body).2.done = true ∧ (s.pollFrame body).2.reported = s.reported := by
      rw [pollFrame_eq]
      cases (body.pollFrame s.inner).1 with
      | frame f => cases f <;> exact ⟨h, rfl⟩
      | _ => simp [CountingBody.observe, h]
    rw [Function.iterate_succ_apply, ih hpoll.1, hpoll.2]

/-- For every body and consumer: the callback fires exactly once, with the bytes delivered, if the
consumer sees the end as `Ready(None)`, and not at all if it sees it by `is_end_stream`. -/
theorem body_reported_iff (inner : B) (looks : List Bool) (ending : Ending) (n : Nat)
    (s : CountingBody B) (hend : consume body looks 0 { inner } = some (ending, n, s)) :
    (s.reported = [UInt64.ofNat n] ↔ ending = .readyNone) ∧
    (s.reported = [] ↔ ending = .endStream) ∧
    (ending = .readyNone →
      ∀ k, ((fun s => (s.pollFrame body).2)^[k] s).reported = [UInt64.ofNat n]) := by
  have hreports := consume_reports body looks ⟨rfl, rfl, rfl, rfl⟩ hend
  cases ending with
  | readyNone =>
    obtain ⟨hreported, hdone⟩ := hreports
    refine ⟨iff_of_true hreported rfl, iff_of_false (by simp [hreported]) nofun, fun _ k => ?_⟩
    rw [reported_of_done body hdone, hreported]
  | endStream =>
    have hreported : s.reported = [] := hreports
    exact ⟨iff_of_false (by simp [hreported]) nofun, iff_of_true hreported rfl, nofun⟩

end Consumers

/-- A body of one data frame, which knows when it has been read. -/
def fullBody : HttpBody (Option Nat) where
  pollFrame
    | some len => (.frame (.data len), none)
    | none => (.done, none)
  isEndStream := Option.isNone

theorem body_reported_iff_full :
    ∃ s, consume fullBody [false, false] 0 { inner := some 5 } = some (.readyNone, 5, s) ∧
      s.reported = [5] :=
  ⟨_, rfl, (body_reported_iff fullBody (some 5) [false, false] .readyNone 5 _ rfl).1.mpr rfl⟩

/-- A server that looks at `is_end_stream` has sent the five bytes, and nothing is reported. -/
theorem body_not_reported :
    ∃ s, consume fullBody [true] 0 { inner := some 5 } = some (.endStream, 5, s) ∧
      s.reported = [] :=
  ⟨_, rfl, rfl⟩

end Combee.ApiServer
